import Mathlib.Data.List.Basic

/-!
# Keyrings

A cipher seals a plain text under a key.  A keyring is a list of keys, the
newest first: it seals with the first one and opens with any of them, so that a
key may be put in front, the tokens sealed again under it, and the older keys
then withdrawn, without a token ever becoming unreadable.
-/

namespace Foundation.Keyring

/-- Authenticated encryption: a token opens under its own key and no other. -/
structure Cipher (Key Nonce Plain Token : Type*) where
  encrypt : Key → Nonce → Plain → Token
  decrypt : Key → Token → Option Plain
  decrypt_encrypt : ∀ key nonce plain, decrypt key (encrypt key nonce plain) = some plain
  decrypt_foreign : ∀ key other nonce plain, other ≠ key →
    decrypt other (encrypt key nonce plain) = none

namespace Cipher

variable {Key Nonce Plain Token : Type*} (cipher : Cipher Key Nonce Plain Token)

/-- Seal under the first key; `none` without a key. -/
def sealFirst (keys : List Key) (nonce : Nonce) (plain : Plain) : Option Token :=
  keys.head?.map fun key => cipher.encrypt key nonce plain

/-- What the first key that opens the token reads. -/
def openAny (keys : List Key) (token : Token) : Option Plain :=
  keys.findSome? fun key => cipher.decrypt key token

/-- Open with any key and seal again under the first one. -/
def rotate (keys : List Key) (nonce : Nonce) (token : Token) : Option Token :=
  (cipher.openAny keys token).bind (cipher.sealFirst keys nonce)

/-- The token holds a plain text under one of the keys. -/
def Sealed (keys : List Key) (plain : Plain) (token : Token) : Prop :=
  ∃ key ∈ keys, ∃ nonce, token = cipher.encrypt key nonce plain

variable {cipher} {keys wider : List Key} {nonce : Nonce} {plain : Plain} {token : Token}

theorem sealed_of_sealFirst (sealing : cipher.sealFirst keys nonce plain = some token) :
    cipher.Sealed (keys.take 1) plain token := by
  cases keys with
  | nil => cases sealing
  | cons key rest => exact ⟨key, List.mem_singleton_self key, nonce, (Option.some.inj sealing).symm⟩

/-- More keys open the same tokens. -/
theorem Sealed.mono (held : cipher.Sealed keys plain token) (subset : keys ⊆ wider) :
    cipher.Sealed wider plain token := by
  obtain ⟨key, member, nonce, same⟩ := held
  exact ⟨key, subset member, nonce, same⟩

/-- A sealed token reads as its plain text, whichever keys stand before its own. -/
theorem Sealed.openAny_eq (held : cipher.Sealed keys plain token) :
    cipher.openAny keys token = some plain := by
  obtain ⟨key, member, nonce, rfl⟩ := held
  rw [openAny]
  induction keys with
  | nil => cases member
  | cons first rest ih =>
      rw [List.findSome?_cons]
      by_cases same : first = key
      · rw [same, cipher.decrypt_encrypt]
      · rw [cipher.decrypt_foreign key first nonce plain same]
        exact ih ((List.mem_cons.mp member).resolve_left fun isFirst => same isFirst.symm)

/-- A keyring that opens a token can rotate it. -/
theorem Sealed.exists_rotate (held : cipher.Sealed keys plain token) (nonce : Nonce) :
    ∃ rotated, cipher.rotate keys nonce token = some rotated := by
  rw [rotate, held.openAny_eq, Option.bind_some]
  obtain ⟨key, member, _⟩ := held
  cases keys with
  | nil => cases member
  | cons first rest => exact ⟨cipher.encrypt first nonce plain, rfl⟩

/-- A rotated token holds the same plain text under the first key alone. -/
theorem Sealed.rotate (held : cipher.Sealed keys plain token) {rotated : Token}
    (rotation : cipher.rotate keys nonce token = some rotated) :
    cipher.Sealed (keys.take 1) plain rotated := by
  rw [Cipher.rotate, held.openAny_eq, Option.bind_some] at rotation
  exact sealed_of_sealFirst rotation

end Cipher

end Foundation.Keyring
