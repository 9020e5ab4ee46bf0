import RssiService.Foundation.Run
import RssiService.Python.Json
import RssiService.ThreatIntelligence.MonitoredPool

/-!
# Proofs of ownership

A client proves that a domain is its own by a DNS record, by a file at the root
of the site, or by a code sent to an address of the domain.  An opening is
refused once the asset is proven; a verification looks neither at the other
proofs of the asset nor at the status of its own.
-/

namespace RssiService.Monitoring

open Foundation Foundation.Run Python
open ThreatIntelligence (assetDomain ownershipRequired)

inductive ProofMethod where
  | dnsTxt
  | httpFile
  | email
  deriving DecidableEq, Repr

/-- The method of a value of the choices. -/
def ProofMethod.ofValue? (value : String) : Option ProofMethod :=
  if value = "dns_txt" then some .dnsTxt
  else if value = "http_file" then some .httpFile
  else if value = "email" then some .email
  else none

inductive ProofStatus where
  | pending
  | verified
  | failed
  deriving DecidableEq, Repr

structure AssetOwnershipProof where
  id : Nat
  tenant : Nat
  asset : Nat
  method : ProofMethod
  status : ProofStatus
  token : String
  emailRecipient : String
  createdBy : Option Nat
  createdAt : Nat
  verifiedAt : Option Nat
  lastAttemptAt : Option Nat
  lastError : String
  deriving DecidableEq, Repr

instance : Identified AssetOwnershipProof := ⟨AssetOwnershipProof.id⟩

@[simp] theorem ident_ownershipProof (proof : AssetOwnershipProof) : ident proof = proof.id := rfl

inductive OwnershipFailure where
  | ownership (message : String)
  | notFound (message : String)
  | malformedValue
  | nonAscii
  | integrity
  deriving DecidableEq, Repr

/-! ## Texts -/

def emailSendFailed : String :=
  "L'email de vérification n'a pas pu être envoyé. Réessayez, ou choisissez une autre méthode."

def emailCodeMismatch : String := "Le code saisi ne correspond pas à celui envoyé par email."

def ownershipEmailLocalParts : List String :=
  ["admin", "administrator", "hostmaster", "postmaster", "webmaster"]

def emailChoicesMessage (domain : String) : String :=
  "Choisissez l'une des adresses d'administration du domaine : " ++
    String.intercalate ", " (ownershipEmailLocalParts.map fun part => part ++ "@" ++ domain) ++
    ". Ces adresses ne sont pas modifiables — c'est ce qui fait la valeur de la preuve."

/-! ## Checks -/

def dnsTxtPrefix : String := "rssi-verification="

def httpFilePath : String := "/.well-known/rssi-verification.txt"

/-- A response of a site: its status and the text of its first bytes. -/
structure SiteAnswer where
  statusCode : Nat
  content : String

/-- Why a file could not be fetched. -/
inductive FetchFault where
  | ssrf (text : String)
  | network (text : String)

/-- What the resolver and the site of a domain answer.  A domain without records
answers with none of them. -/
structure Answers where
  txtRecords : String → Except String (List String)
  fetch : String → Except FetchFault SiteAnswer

def expectedDnsRecord (token : String) : String := dnsTxtPrefix ++ token

/-- Whether the record is there, and what to correct; an error is a check that
could not conclude. -/
def verifyDnsTxt (unicode : Unicode) (answers : Answers) (domain token : String) :
    Except String (Bool × String) :=
  match answers.txtRecords domain with
  | .error text =>
      .error ("Requête DNS TXT impossible pour " ++ Json.reprText unicode domain ++ " : " ++ text)
  | .ok records =>
      if (records.map strip).contains (expectedDnsRecord token) then
        .ok (true, "Enregistrement TXT trouvé.")
      else if records.any fun record => dnsTxtPrefix.toList.isPrefixOf record.toList then
        .ok (false,
          "Un enregistrement de vérification est présent, mais il ne porte pas " ++
            "le jeton attendu. Remplacez-le par celui indiqué ci-dessus — un " ++
            "jeton d'une tentative précédente ne vaut plus.")
      else if records.isEmpty then
        .ok (false,
          "Aucun enregistrement TXT n'a été trouvé sur ce domaine. La " ++
            "publication DNS peut demander quelques minutes à quelques heures " ++
            "avant d'être visible.")
      else
        .ok (false,
          "Le domaine a des enregistrements TXT, mais aucun ne correspond. " ++
            "Vérifiez que la valeur a été copiée en entier.")

def verifyHttpFile (answers : Answers) (domain token : String) :
    Except String (Bool × String) :=
  let url := "https://" ++ domain ++ httpFilePath
  match answers.fetch url with
  | .error (.ssrf text) => .error ("Domaine non joignable en toute sécurité : " ++ text)
  | .error (.network text) =>
      .error ("Le fichier n'a pas pu être récupéré sur " ++ domain ++ " : " ++ text)
  | .ok answer =>
      if answer.statusCode = 404 then
        .ok (false, "Aucun fichier à l'adresse " ++ url ++
          ". Vérifiez qu'il est bien accessible publiquement.")
      else if answer.statusCode ≠ 200 then
        .ok (false, "Le serveur a répondu " ++ toString answer.statusCode ++ " pour " ++ url ++ ".")
      else
        let content := strip answer.content
        if content = token then .ok (true, "Fichier trouvé et jeton correct.")
        else if contains content token then .ok (true, "Fichier trouvé, jeton reconnu.")
        else
          .ok (false,
            "Le fichier existe mais ne contient pas le jeton attendu. Il doit " ++
              "contenir le jeton seul, sans autre texte.")

def isAscii (text : String) : Bool := text.toList.all fun symbol => symbol.toNat < 128

/-- `secrets.compare_digest`: texts outside of ASCII raise a `TypeError`. -/
def compareDigest (first second : String) : Except OwnershipFailure Bool :=
  if isAscii first && isAscii second then .ok (first = second) else .error .nonAscii

/-- What the check of a proof concludes: the verdict and its detail, where a check
that could not conclude is one that failed. -/
def checkProof (unicode : Unicode) (answers : Answers) (domain code : String)
    (proof : AssetOwnershipProof) : Except OwnershipFailure (Bool × String) :=
  let concluded (checked : Except String (Bool × String)) : Bool × String :=
    match checked with
    | .ok verdict => verdict
    | .error text => (false, text)
  match proof.method with
  | .dnsTxt => .ok (concluded (verifyDnsTxt unicode answers domain proof.token))
  | .httpFile => .ok (concluded (verifyHttpFile answers domain proof.token))
  | .email =>
      (compareDigest (strip code) proof.token).map fun same =>
        (same, if same then "Code accepte." else emailCodeMismatch)

/-! ## Operations -/

def isOwnershipProven (proofs : Table AssetOwnershipProof) (asset : Nat) : Bool :=
  proofs.rows.any fun row => row.asset = asset && row.status = .verified

/-- Change a row; the constraint admits one verified proof of an asset. -/
def saveProof (proofs : Table AssetOwnershipProof) (proof : AssetOwnershipProof)
    (change : AssetOwnershipProof → AssetOwnershipProof)
    (keeps : ∀ row, ident (change row) = ident row) :
    Except OwnershipFailure (Table AssetOwnershipProof × AssetOwnershipProof) :=
  if (change proof).status = .verified ∧
      proofs.rows.any fun row =>
        row.asset = proof.asset && row.status = .verified && row.id ≠ proof.id then
    .error .integrity
  else .ok (proofs.modify proof.id change keeps, change proof)

/-- The proof after an attempt that failed. -/
def AssetOwnershipProof.asFailed (now : Nat) (error : String) (proof : AssetOwnershipProof) :
    AssetOwnershipProof :=
  { proof with status := .failed, lastAttemptAt := some now, lastError := error }

/-- The proof after an attempt that succeeded. -/
def AssetOwnershipProof.asVerified (now : Nat) (proof : AssetOwnershipProof) :
    AssetOwnershipProof :=
  { proof with status := .verified, verifiedAt := some now, lastAttemptAt := some now,
               lastError := "" }

theorem AssetOwnershipProof.ident_asFailed (now : Nat) (error : String)
    (proof : AssetOwnershipProof) : ident (proof.asFailed now error) = ident proof := rfl

/-- The address a proof is sent to; only the email method has one. -/
def emailRecipientFor (unicode : Unicode) (domain : String) (method : ProofMethod)
    (emailRecipient : String) : Except OwnershipFailure String :=
  match method with
  | .email =>
      let localPart := emailRecipient.toList.takeWhile fun symbol => symbol ≠ '@'
      let part := unicode.lower (strip (String.ofList localPart))
      if ownershipEmailLocalParts.contains part then .ok (part ++ "@" ++ domain)
      else .error (.ownership (emailChoicesMessage domain))
  | .dnsTxt | .httpFile => .ok ""

/-- The proof after a check that concludes. -/
def AssetOwnershipProof.concluded (now : Nat) (verdict : Bool × String)
    (proof : AssetOwnershipProof) : AssetOwnershipProof :=
  if verdict.1 then proof.asVerified now else proof.asFailed now verdict.2

theorem AssetOwnershipProof.ident_concluded (now : Nat) (verdict : Bool × String)
    (proof : AssetOwnershipProof) : ident (proof.concluded now verdict) = ident proof := by
  unfold concluded
  split <;> rfl

/-- A request to open a proof, with the token drawn for it and whether the mail
can be sent. -/
structure Opening where
  method : String
  user : Option Nat
  emailRecipient : String
  token : String
  mailSent : Bool
  now : Nat

/-- The row of a new proof. -/
def Opening.row (opening : Opening) (asset : Asset) (method : ProofMethod)
    (emailRecipient : String) (key : Nat) : AssetOwnershipProof :=
  { id := key, tenant := asset.tenant, asset := asset.id, method, status := .pending
    token := opening.token, emailRecipient, createdBy := opening.user, createdAt := opening.now
    verifiedAt := none, lastAttemptAt := none, lastError := "" }

theorem Opening.ident_row (opening : Opening) (asset : Asset) (method : ProofMethod)
    (emailRecipient : String) (key : Nat) :
    ident (opening.row asset method emailRecipient key) = key := rfl

/-- The proofs that an opening replaces. -/
def replacedBy (asset : Asset) (method : ProofMethod) (row : AssetOwnershipProof) : Bool :=
  row.asset = asset.id && row.method = method && (row.status = .pending || row.status = .failed)

def startOwnershipProof (unicode : Unicode) (proofs : Table AssetOwnershipProof) (asset : Asset)
    (opening : Opening) :
    Except OwnershipFailure (Table AssetOwnershipProof × AssetOwnershipProof) := do
  match ProofMethod.ofValue? opening.method with
  | none => .error (.ownership "Methode de verification inconnue.")
  | some method =>
      if isOwnershipProven proofs asset.id then
        .error (.ownership "La possession de cet actif est deja prouvee.")
      else
        match assetDomain unicode asset with
        | none => .error .malformedValue
        | some domain =>
            let recipient ← emailRecipientFor unicode domain method opening.emailRecipient
            let cleared := proofs.deleteWhere (replacedBy asset method)
            let created := cleared.create (opening.row asset method recipient)
              (opening.ident_row asset method recipient)
            let proof := opening.row asset method recipient cleared.next
            if method = .email ∧ opening.mailSent = false then
              saveProof created proof (.asFailed opening.now emailSendFailed)
                (AssetOwnershipProof.ident_asFailed opening.now emailSendFailed)
            else .ok (created, proof)

def getOwnershipProof (proofs : Table AssetOwnershipProof) (asset : Asset) (key : Nat) :
    Option AssetOwnershipProof :=
  proofs.rows.find? fun row => row.asset = asset.id && row.id = key

def verifyOwnershipProof (unicode : Unicode) (proofs : Table AssetOwnershipProof) (asset : Asset)
    (proof : AssetOwnershipProof) (code : String) (answers : Answers) (now : Nat) :
    Except OwnershipFailure (Table AssetOwnershipProof × AssetOwnershipProof) :=
  match assetDomain unicode asset with
  | none => .error .malformedValue
  | some domain =>
      match checkProof unicode answers domain code proof with
      | .error failure => .error failure
      | .ok verdict =>
          saveProof proofs proof (.concluded now verdict)
            (AssetOwnershipProof.ident_concluded now verdict)

/-- The view of a verification: the proof is looked up among those of the asset. -/
def verifyView (unicode : Unicode) (proofs : Table AssetOwnershipProof) (asset : Asset)
    (key : Nat) (code : String) (answers : Answers) (now : Nat) :
    Except OwnershipFailure (Table AssetOwnershipProof × AssetOwnershipProof) :=
  match getOwnershipProof proofs asset key with
  | none => .error (.notFound "Vérification introuvable.")
  | some proof => verifyOwnershipProof unicode proofs asset proof code answers now

/-- The guard of continuous monitoring. -/
def ensureOwnershipProven (proofs : Table AssetOwnershipProof) (asset : Asset) :
    Except OwnershipFailure Unit :=
  if isOwnershipProven proofs asset.id then .ok () else .error (.ownership ownershipRequired)

/-! ## Runs -/

inductive OwnershipEvent where
  | start (asset : Asset) (opening : Opening)
  | verify (asset : Asset) (key : Nat) (code : String) (answers : Answers) (now : Nat)

def OwnershipEvent.outcome (unicode : Unicode) (proofs : Table AssetOwnershipProof) :
    OwnershipEvent → Except OwnershipFailure (Table AssetOwnershipProof × AssetOwnershipProof)
  | .start asset opening => startOwnershipProof unicode proofs asset opening
  | .verify asset key code answers now => verifyView unicode proofs asset key code answers now

/-- An operation that fails writes nothing. -/
def ownershipStep (unicode : Unicode) (proofs : Table AssetOwnershipProof)
    (event : OwnershipEvent) : Table AssetOwnershipProof :=
  match event.outcome unicode proofs with
  | .ok (written, _) => written
  | .error _ => proofs

/-- An asset has at most one verified proof. -/
def OneVerified (proofs : Table AssetOwnershipProof) : Prop :=
  ∀ first ∈ proofs, ∀ second ∈ proofs, first.asset = second.asset →
    first.status = .verified → second.status = .verified → first = second

/-- The operation does not fail on the constraint, and every proven asset stays
proven. -/
def KeepsProven (unicode : Unicode) (proofs : Table AssetOwnershipProof)
    (event : OwnershipEvent) : Prop :=
  event.outcome unicode proofs ≠ .error .integrity ∧
    ∀ asset, isOwnershipProven proofs asset = true →
      isOwnershipProven (ownershipStep unicode proofs event) asset = true

/-- A verification of an asset that is proven already succeeds exactly on the
proof that proved it. -/
def AgreesWithProven (unicode : Unicode) (proofs : Table AssetOwnershipProof) :
    OwnershipEvent → Prop
  | .start _ _ => True
  | .verify asset key code answers _ =>
      isOwnershipProven proofs asset.id = true →
        ∀ proof domain verdict, getOwnershipProof proofs asset key = some proof →
          assetDomain unicode asset = some domain →
          checkProof unicode answers domain code proof = .ok verdict →
          (verdict.1 = true ↔ proof.status = .verified)

section Rows

variable {unicode : Unicode} {proofs : Table AssetOwnershipProof} {asset : Asset}

theorem isOwnershipProven_iff {key : Nat} :
    isOwnershipProven proofs key = true ↔
      ∃ row ∈ proofs, row.asset = key ∧ row.status = .verified := by
  simp [isOwnershipProven, Table.mem_def]

theorem getOwnershipProof_eq_some {key : Nat} {proof : AssetOwnershipProof}
    (found : getOwnershipProof proofs asset key = some proof) :
    proof ∈ proofs ∧ proof.asset = asset.id := by
  have matching := List.find?_some found
  simp only [Bool.and_eq_true, decide_eq_true_eq] at matching
  exact ⟨List.mem_of_find?_eq_some found, matching.1⟩

section Saving

variable {proof : AssetOwnershipProof} {change : AssetOwnershipProof → AssetOwnershipProof}
  {keeps : ∀ row, ident (change row) = ident row}

/-- Another proof of the asset is verified. -/
def ClashesWith (proofs : Table AssetOwnershipProof) (proof : AssetOwnershipProof) : Prop :=
  ∃ row ∈ proofs, row.asset = proof.asset ∧ row.status = .verified ∧ row.id ≠ proof.id

theorem saveProof_of_clash (verified : (change proof).status = .verified)
    (clash : ClashesWith proofs proof) :
    saveProof proofs proof change keeps = .error .integrity := by
  obtain ⟨row, inside, same, standing, other⟩ := clash
  refine if_pos ⟨verified, List.any_eq_true.mpr ⟨row, inside, ?_⟩⟩
  simp [same, standing, other]

theorem saveProof_of_free (free : (change proof).status = .verified → ¬ ClashesWith proofs proof) :
    saveProof proofs proof change keeps =
      .ok (proofs.modify proof.id change keeps, change proof) := by
  refine if_neg ?_
  rintro ⟨verified, clash⟩
  obtain ⟨row, inside, matching⟩ := List.any_eq_true.mp clash
  simp only [Bool.and_eq_true, decide_eq_true_eq, and_assoc] at matching
  exact free verified ⟨row, inside, matching⟩

/-- A save fails on the constraint, or writes the row where nothing clashes. -/
theorem saveProof_cases (proofs : Table AssetOwnershipProof) (proof : AssetOwnershipProof)
    (change : AssetOwnershipProof → AssetOwnershipProof)
    (keeps : ∀ row, ident (change row) = ident row) :
    saveProof proofs proof change keeps = .error .integrity ∧
        (change proof).status = .verified ∧ ClashesWith proofs proof ∨
      saveProof proofs proof change keeps =
          .ok (proofs.modify proof.id change keeps, change proof) ∧
        ((change proof).status = .verified → ¬ ClashesWith proofs proof) := by
  by_cases clash : (change proof).status = .verified ∧ ClashesWith proofs proof
  · exact Or.inl ⟨saveProof_of_clash clash.1 clash.2, clash⟩
  · have free := not_and.mp clash
    exact Or.inr ⟨saveProof_of_free free, free⟩

end Saving

/-! ## What an operation writes -/

/-- The verified proofs are the same before and after. -/
def SameVerified (before after : Table AssetOwnershipProof) : Prop :=
  ∀ row : AssetOwnershipProof, row.status = .verified → (row ∈ after ↔ row ∈ before)

theorem SameVerified.oneVerified {before after : Table AssetOwnershipProof}
    (same : SameVerified before after) (one : OneVerified before) : OneVerified after := by
  intro first inFirst second inSecond sameAsset firstVerified secondVerified
  exact one first ((same first firstVerified).mp inFirst) second
    ((same second secondVerified).mp inSecond) sameAsset firstVerified secondVerified

theorem SameVerified.proven {before after : Table AssetOwnershipProof}
    (same : SameVerified before after) {key : Nat} (proven : isOwnershipProven before key = true) :
    isOwnershipProven after key = true := by
  obtain ⟨row, inside, sameAsset, verified⟩ := isOwnershipProven_iff.mp proven
  exact isOwnershipProven_iff.mpr ⟨row, (same row verified).mpr inside, sameAsset, verified⟩

/-- Changing a row that is not verified, to one that is not, keeps the verified ones. -/
theorem sameVerified_modify {proof : AssetOwnershipProof}
    {change : AssetOwnershipProof → AssetOwnershipProof}
    (keeps : ∀ row, ident (change row) = ident row) (member : proof ∈ proofs)
    (before : proof.status ≠ .verified) (after : (change proof).status ≠ .verified) :
    SameVerified proofs (proofs.modify proof.id change keeps) := by
  have rows (row : AssetOwnershipProof) : row ∈ proofs.modify proof.id change keeps ↔
      row = change proof ∨ row ∈ proofs ∧ ident row ≠ ident proof :=
    Table.mem_modify_of_mem member
  intro row verified
  rw [rows]
  constructor
  · rintro (rfl | ⟨inside, _⟩)
    · exact absurd verified after
    · exact inside
  · intro inside
    refine Or.inr ⟨inside, fun equal => ?_⟩
    rw [Table.ident_injective inside member equal] at verified
    exact before verified

/-- A proof that is created keeps the verified ones, and so do the deletions of
an opening. -/
theorem sameVerified_create (proofs : Table AssetOwnershipProof) (asset : Asset)
    (opening : Opening) (method : ProofMethod) (recipient : String) :
    SameVerified proofs ((proofs.deleteWhere (replacedBy asset method)).create
      (opening.row asset method recipient) (opening.ident_row asset method recipient)) := by
  intro row verified
  rw [Table.mem_create, Table.mem_deleteWhere]
  constructor
  · rintro (⟨inside, _⟩ | rfl)
    · exact inside
    · cases verified
  · intro inside
    refine Or.inl ⟨inside, ?_⟩
    simp [replacedBy, verified]

theorem SameVerified.trans {first second third : Table AssetOwnershipProof}
    (before : SameVerified first second) (after : SameVerified second third) :
    SameVerified first third :=
  fun row verified => (after row verified).trans (before row verified)

/-- Writing a row keeps the assets that have proofs. -/
theorem exists_modify_iff {key asset : Nat} {change : AssetOwnershipProof → AssetOwnershipProof}
    {keeps : ∀ row, ident (change row) = ident row}
    (asset_eq : ∀ row, (change row).asset = row.asset) :
    (∃ proof ∈ proofs.modify key change keeps, proof.asset = asset) ↔
      ∃ proof ∈ proofs, proof.asset = asset := by
  have same (row : AssetOwnershipProof) :
      (if ident row == key then change row else row).asset = row.asset := by
    split
    · exact asset_eq row
    · rfl
  constructor
  · rintro ⟨_, inside, rfl⟩
    obtain ⟨row, old, rfl⟩ := Table.mem_updateWhere.mp inside
    exact ⟨row, old, (same row).symm⟩
  · rintro ⟨row, old, rfl⟩
    exact ⟨_, Table.mem_updateWhere.mpr ⟨row, old, rfl⟩, same row⟩

/-- What an opening that succeeds writes. -/
structure Opened (proofs written : Table AssetOwnershipProof) (asset : Nat) : Prop where
  unproven : isOwnershipProven proofs asset = false
  verified : SameVerified proofs written
  opened : ∃ proof ∈ written, proof.asset = asset
  others : ∀ key, (∃ proof ∈ written, proof.asset = key) →
    key = asset ∨ ∃ proof ∈ proofs, proof.asset = key

theorem opened_create {asset : Asset} (unproven : isOwnershipProven proofs asset.id = false)
    (opening : Opening) (method : ProofMethod) (recipient : String) :
    Opened proofs ((proofs.deleteWhere (replacedBy asset method)).create
      (opening.row asset method recipient) (opening.ident_row asset method recipient))
        asset.id where
  unproven := unproven
  verified := sameVerified_create proofs asset opening method recipient
  opened := ⟨_, Table.mem_create.mpr (Or.inr rfl), rfl⟩
  others := by
    rintro _ ⟨proof, inside, rfl⟩
    rcases Table.mem_create.mp inside with old | rfl
    · exact Or.inr ⟨proof, (Table.mem_deleteWhere.mp old).1, rfl⟩
    · exact Or.inl rfl

/-- The change of a row of the same asset that leaves the verified ones. -/
theorem Opened.modify {written : Table AssetOwnershipProof} {asset key : Nat}
    {change : AssetOwnershipProof → AssetOwnershipProof}
    {keeps : ∀ row, ident (change row) = ident row} (opened : Opened proofs written asset)
    (asset_eq : ∀ row, (change row).asset = row.asset)
    (same : SameVerified written (written.modify key change keeps)) :
    Opened proofs (written.modify key change keeps) asset where
  unproven := opened.unproven
  verified := opened.verified.trans same
  opened := (exists_modify_iff asset_eq).mpr opened.opened
  others := fun other found => opened.others other ((exists_modify_iff asset_eq).mp found)

theorem emailRecipientFor_ne_integrity {domain emailRecipient : String} {method : ProofMethod} :
    emailRecipientFor unicode domain method emailRecipient ≠ .error .integrity := by
  unfold emailRecipientFor
  cases method with
  | dnsTxt => simp
  | httpFile => simp
  | email =>
      dsimp only
      split <;> simp

theorem checkProof_ne_integrity {answers : Answers} {domain code : String}
    {proof : AssetOwnershipProof} :
    checkProof unicode answers domain code proof ≠ .error .integrity := by
  unfold checkProof
  cases proof.method with
  | dnsTxt => simp
  | httpFile => simp
  | email =>
      dsimp only [compareDigest]
      split <;> simp [Except.map]

/-- An opening never fails on the constraint, and keeps the verified proofs. -/
theorem startOwnershipProof_cases (unicode : Unicode) (proofs : Table AssetOwnershipProof)
    (asset : Asset) (opening : Opening) :
    (∃ failure, startOwnershipProof unicode proofs asset opening = .error failure ∧
        failure ≠ .integrity) ∨
      ∃ written proof, startOwnershipProof unicode proofs asset opening = .ok (written, proof) ∧
        Opened proofs written asset.id := by
  unfold startOwnershipProof
  cases ProofMethod.ofValue? opening.method with
  | none => exact Or.inl ⟨_, rfl, by decide⟩
  | some method =>
      dsimp only
      split
      · exact Or.inl ⟨_, rfl, by decide⟩
      · rename_i unproven
        rw [Bool.not_eq_true] at unproven
        cases assetDomain unicode asset with
        | none => exact Or.inl ⟨_, rfl, by decide⟩
        | some domain =>
            dsimp only
            cases addressed : emailRecipientFor unicode domain method opening.emailRecipient with
            | error failure =>
                refine Or.inl ⟨failure, rfl, ?_⟩
                rintro rfl
                exact emailRecipientFor_ne_integrity addressed
            | ok recipient =>
                have created := opened_create unproven opening method recipient
                refine Or.inr ?_
                simp only [bind, Except.bind]
                split
                · have inside : opening.row asset method recipient proofs.next ∈
                      (proofs.deleteWhere (replacedBy asset method)).create
                        (opening.row asset method recipient)
                        (opening.ident_row asset method recipient) := by
                    rw [Table.mem_create]
                    exact Or.inr rfl
                  have failed := sameVerified_modify
                    (AssetOwnershipProof.ident_asFailed opening.now emailSendFailed) inside
                    (fun verified => by cases verified)
                    (fun verified => by cases verified)
                  refine ⟨_, _, saveProof_of_free fun verified => ?_,
                    created.modify (fun _ => rfl) failed⟩
                  cases verified
                · exact ⟨_, _, rfl, created⟩

/-- The view fails without a verdict, or it saves what the check of the proof
concludes. -/
theorem verifyView_cases (unicode : Unicode) (proofs : Table AssetOwnershipProof)
    (asset : Asset) (key : Nat) (code : String) (answers : Answers) (now : Nat) :
    (∃ failure, verifyView unicode proofs asset key code answers now = .error failure ∧
        failure ≠ .integrity ∧
        ∀ proof domain verdict, getOwnershipProof proofs asset key = some proof →
          assetDomain unicode asset = some domain →
          checkProof unicode answers domain code proof ≠ .ok verdict) ∨
      ∃ proof domain verdict, getOwnershipProof proofs asset key = some proof ∧
        assetDomain unicode asset = some domain ∧
        checkProof unicode answers domain code proof = .ok verdict ∧
        verifyView unicode proofs asset key code answers now =
          saveProof proofs proof (.concluded now verdict)
            (AssetOwnershipProof.ident_concluded now verdict) := by
  unfold verifyView
  cases getOwnershipProof proofs asset key with
  | none => exact Or.inl ⟨_, rfl, by decide, by simp⟩
  | some proof =>
      dsimp only [verifyOwnershipProof]
      cases assetDomain unicode asset with
      | none => exact Or.inl ⟨_, rfl, by decide, by simp⟩
      | some domain =>
          dsimp only
          cases checked : checkProof unicode answers domain code proof with
          | error failure =>
              refine Or.inl ⟨failure, rfl, ?_, ?_⟩
              · rintro rfl
                exact checkProof_ne_integrity checked
              · rintro _ _ verdict ⟨⟩ ⟨⟩
                simp [checked]
          | ok verdict => exact Or.inr ⟨proof, domain, verdict, rfl, rfl, checked, rfl⟩

/-- A save keeps at most one verified proof for each asset. -/
theorem oneVerified_modify {proof : AssetOwnershipProof}
    {change : AssetOwnershipProof → AssetOwnershipProof}
    {keeps : ∀ row, ident (change row) = ident row} (one : OneVerified proofs)
    (member : proof ∈ proofs) (asset_eq : (change proof).asset = proof.asset)
    (free : (change proof).status = .verified → ¬ ClashesWith proofs proof) :
    OneVerified (proofs.modify proof.id change keeps) := by
  have rows (row : AssetOwnershipProof) : row ∈ proofs.modify proof.id change keeps ↔
      row = change proof ∨ row ∈ proofs ∧ ident row ≠ ident proof :=
    Table.mem_modify_of_mem member
  intro first inFirst second inSecond same firstVerified secondVerified
  rcases (rows first).mp inFirst with rfl | ⟨oldFirst, apartFirst⟩ <;>
    rcases (rows second).mp inSecond with rfl | ⟨oldSecond, apartSecond⟩
  · rfl
  · refine absurd ⟨second, oldSecond, ?_, secondVerified, apartSecond⟩ (free firstVerified)
    rw [← same, asset_eq]
  · refine absurd ⟨first, oldFirst, ?_, firstVerified, apartFirst⟩ (free secondVerified)
    rw [same, asset_eq]
  · exact one first oldFirst second oldSecond same firstVerified secondVerified

/-- Another proof of a proven asset is verified exactly where this one is not. -/
theorem clashesWith_iff {proof : AssetOwnershipProof} (one : OneVerified proofs)
    (member : proof ∈ proofs) :
    ClashesWith proofs proof ↔
      isOwnershipProven proofs proof.asset = true ∧ proof.status ≠ .verified := by
  constructor
  · rintro ⟨row, inside, same, verified, other⟩
    refine ⟨isOwnershipProven_iff.mpr ⟨row, inside, same, verified⟩, fun standing => other ?_⟩
    rw [one row inside proof member same verified standing]
  · rintro ⟨proven, unverified⟩
    obtain ⟨row, inside, same, verified⟩ := isOwnershipProven_iff.mp proven
    refine ⟨row, inside, same, verified, fun equal => unverified ?_⟩
    rwa [← Table.ident_injective inside member equal]

/-- The assets proven after a row has changed. -/
theorem isOwnershipProven_modify {proof : AssetOwnershipProof}
    {change : AssetOwnershipProof → AssetOwnershipProof}
    {keeps : ∀ row, ident (change row) = ident row} (member : proof ∈ proofs)
    (asset_eq : (change proof).asset = proof.asset) {key : Nat} :
    isOwnershipProven (proofs.modify proof.id change keeps) key = true ↔
      (proof.asset = key ∧ (change proof).status = .verified) ∨
        ∃ row ∈ proofs, row.asset = key ∧ row.status = .verified ∧ row.id ≠ proof.id := by
  have rows (row : AssetOwnershipProof) : row ∈ proofs.modify proof.id change keeps ↔
      row = change proof ∨ row ∈ proofs ∧ ident row ≠ ident proof :=
    Table.mem_modify_of_mem member
  rw [isOwnershipProven_iff]
  constructor
  · rintro ⟨row, inside, same, verified⟩
    rcases (rows row).mp inside with rfl | ⟨old, apart⟩
    · exact Or.inl ⟨asset_eq.symm.trans same, verified⟩
    · exact Or.inr ⟨row, old, same, verified, apart⟩
  · rintro (⟨same, verified⟩ | ⟨row, old, same, verified, apart⟩)
    · exact ⟨_, (rows _).mpr (Or.inl rfl), asset_eq.trans same, verified⟩
    · exact ⟨row, (rows row).mpr (Or.inr ⟨old, apart⟩), same, verified⟩

/-- The proven assets stay proven over a change exactly where the asset of the row
is unproven, or verified by the row or by another. -/
theorem proven_modify_iff {proof : AssetOwnershipProof}
    {change : AssetOwnershipProof → AssetOwnershipProof}
    {keeps : ∀ row, ident (change row) = ident row} (member : proof ∈ proofs)
    (asset_eq : (change proof).asset = proof.asset) :
    (∀ key, isOwnershipProven proofs key = true →
        isOwnershipProven (proofs.modify proof.id change keeps) key = true) ↔
      (isOwnershipProven proofs proof.asset = true →
        (change proof).status = .verified ∨ ClashesWith proofs proof) := by
  simp only [isOwnershipProven_modify member asset_eq]
  constructor
  · intro kept proven
    exact (kept _ proven).imp And.right id
  · intro here key proven
    rcases eq_or_ne proof.asset key with rfl | elsewhere
    · exact (here proven).imp (fun verified => ⟨rfl, verified⟩) id
    · obtain ⟨row, inside, same, verified⟩ := isOwnershipProven_iff.mp proven
      refine Or.inr ⟨row, inside, same, verified, fun equal => elsewhere ?_⟩
      rw [← same, Table.ident_injective inside member equal]

end Rows

section Steps

variable {unicode : Unicode} {proofs : Table AssetOwnershipProof} {event : OwnershipEvent}

theorem concluded_status {now : Nat} {verdict : Bool × String} {proof : AssetOwnershipProof} :
    (proof.concluded now verdict).status = .verified ↔ verdict.1 = true := by
  unfold AssetOwnershipProof.concluded
  cases verdict.1 <;> simp [AssetOwnershipProof.asFailed, AssetOwnershipProof.asVerified]

theorem concluded_asset {now : Nat} {verdict : Bool × String} {proof : AssetOwnershipProof} :
    (proof.concluded now verdict).asset = proof.asset := by
  unfold AssetOwnershipProof.concluded
  split <;> rfl

/-- No operation leaves an asset with two verified proofs. -/
theorem oneVerified_ownershipStep (one : OneVerified proofs) :
    OneVerified (ownershipStep unicode proofs event) := by
  unfold ownershipStep OwnershipEvent.outcome
  cases event with
  | start asset opening =>
      dsimp only
      rcases startOwnershipProof_cases unicode proofs asset opening with
        ⟨failure, fails, _⟩ | ⟨written, proof, opens, opened⟩
      · rw [fails]
        exact one
      · rw [opens]
        exact opened.verified.oneVerified one
  | verify asset key code answers now =>
      dsimp only
      rcases verifyView_cases unicode proofs asset key code answers now with
        ⟨failure, fails, _⟩ | ⟨proof, domain, verdict, found, _, _, saves⟩
      · rw [fails]
        exact one
      · have member := (getOwnershipProof_eq_some found).1
        rw [saves]
        rcases saveProof_cases proofs proof (.concluded now verdict)
          (AssetOwnershipProof.ident_concluded now verdict) with
          ⟨clashes, _⟩ | ⟨written, free⟩
        · rw [clashes]
          exact one
        · rw [written]
          exact oneVerified_modify one member concluded_asset free

/-- What one operation keeps: a verification must agree with what is proven. -/
theorem keepsProven_iff (one : OneVerified proofs) :
    KeepsProven unicode proofs event ↔ AgreesWithProven unicode proofs event := by
  unfold KeepsProven ownershipStep OwnershipEvent.outcome
  cases event with
  | start asset opening =>
      refine iff_of_true ?_ trivial
      dsimp only
      rcases startOwnershipProof_cases unicode proofs asset opening with
        ⟨failure, fails, other⟩ | ⟨written, proof, opens, opened⟩
      · rw [fails]
        exact ⟨fun clashes => other (Except.error.inj clashes), fun _ proven => proven⟩
      · rw [opens]
        exact ⟨by simp, fun _ => opened.verified.proven⟩
  | verify asset key code answers now =>
      dsimp only [AgreesWithProven]
      rcases verifyView_cases unicode proofs asset key code answers now with
        ⟨failure, fails, other, silent⟩ | ⟨proof, domain, verdict, found, located, checked, saves⟩
      · rw [fails]
        refine iff_of_true ⟨fun clashes => other (Except.error.inj clashes), fun _ => id⟩ ?_
        intro _ proof domain verdict found located checked
        exact absurd checked (silent proof domain verdict found located)
      · obtain ⟨member, sameAsset⟩ := getOwnershipProof_eq_some found
        have clash := clashesWith_iff one member
        have condition : (isOwnershipProven proofs asset.id = true →
              ∀ proof domain verdict, getOwnershipProof proofs asset key = some proof →
                assetDomain unicode asset = some domain →
                checkProof unicode answers domain code proof = .ok verdict →
                (verdict.1 = true ↔ proof.status = .verified)) ↔
            (isOwnershipProven proofs proof.asset = true →
              (verdict.1 = true ↔ proof.status = .verified)) := by
          rw [sameAsset]
          refine imp_congr_right fun _ => ?_
          constructor
          · intro all
            exact all proof domain verdict found located checked
          · intro here _ _ _ otherFound otherLocated otherChecked
            cases found.symm.trans otherFound
            cases located.symm.trans otherLocated
            cases checked.symm.trans otherChecked
            exact here
        rw [condition, saves]
        rcases saveProof_cases proofs proof (.concluded now verdict)
          (AssetOwnershipProof.ident_concluded now verdict) with
          ⟨clashes, verified, clashing⟩ | ⟨written, free⟩
        · rw [clashes]
          refine iff_of_false (fun kept => kept.1 rfl) fun agrees => ?_
          obtain ⟨proven, unverified⟩ := clash.mp clashing
          exact unverified ((agrees proven).mp (concluded_status.mp verified))
        · rw [written]
          dsimp only
          rw [proven_modify_iff member concluded_asset, concluded_status, clash]
          rw [concluded_status, clash] at free
          constructor
          · rintro ⟨_, kept⟩ proven
            refine ⟨fun success => ?_, fun verified => ?_⟩
            · by_contra unverified
              exact free success ⟨proven, unverified⟩
            · exact (kept proven).resolve_right fun clashing => clashing.2 verified
          · intro agrees
            refine ⟨by simp, fun proven => ?_⟩
            by_cases verified : proof.status = .verified
            · exact Or.inl ((agrees proven).mpr verified)
            · exact Or.inr ⟨proven, verified⟩

/-- Over any run, an asset has at most one verified proof, no operation fails on
the constraint and the proven assets stay proven, exactly when every verification
agrees with what is proven. -/
theorem ownership_kept_iff (unicode : Unicode) (start : Table AssetOwnershipProof)
    (one : OneVerified start) (events : List OwnershipEvent) :
    (Always (ownershipStep unicode) OneVerified start events ∧
        EachStep (ownershipStep unicode) (KeepsProven unicode) start events) ↔
      EachStep (ownershipStep unicode) (AgreesWithProven unicode) start events := by
  have always : Always (ownershipStep unicode) OneVerified start events :=
    always_of_step (fun _ _ kept => oneVerified_ownershipStep kept) one events
  rw [and_iff_right always]
  exact eachStep_congr (fun _ _ kept => oneVerified_ownershipStep kept)
    (fun _ _ kept => keepsProven_iff kept) one events

end Steps

/-! A domain with a proof by DNS and one by file, both published. -/

def acmeMail : Asset := ⟨1, 1, .emailDomain, "acme.fr", true⟩

def asciiTables : Unicode := ⟨id, id, fun _ => true⟩

def openedBy (method token : String) : OwnershipEvent :=
  .start acmeMail ⟨method, some 7, "", token, true, 10⟩

def published : Answers :=
  ⟨fun _ => .ok ["rssi-verification=first"], fun _ => .ok ⟨200, "second"⟩⟩

def withdrawn : Answers := ⟨fun _ => .ok [], fun _ => .ok ⟨404, ""⟩⟩

def provenByDns : List OwnershipEvent :=
  [openedBy "dns_txt" "first", openedBy "http_file" "second", .verify acmeMail 0 "" published 20]

theorem ownership_kept_iff_empty :
    (Always (ownershipStep asciiTables) OneVerified Table.empty provenByDns ∧
        EachStep (ownershipStep asciiTables) (KeepsProven asciiTables) Table.empty provenByDns) ↔
      EachStep (ownershipStep asciiTables) (AgreesWithProven asciiTables) Table.empty provenByDns :=
  ownership_kept_iff asciiTables Table.empty
    (fun first inside => absurd inside (Table.not_mem_empty first)) provenByDns

/-- The second method then fails on the constraint, and the first one, checked
again once its record is withdrawn, leaves the domain unproven. -/
theorem second_method_clashes :
    ¬ EachStep (ownershipStep asciiTables) (KeepsProven asciiTables) Table.empty
        (provenByDns ++ [.verify acmeMail 1 "" published 30]) ∧
      ¬ EachStep (ownershipStep asciiTables) (KeepsProven asciiTables) Table.empty
        (provenByDns ++ [.verify acmeMail 0 "" withdrawn 30]) := by
  constructor
  · rintro ⟨_, _, _, ⟨noClash, _⟩, _⟩
    revert noClash
    decide +kernel
  · rintro ⟨_, _, _, ⟨_, kept⟩, _⟩
    have lost := kept acmeMail.id (by decide +kernel)
    revert lost
    decide +kernel

end RssiService.Monitoring
