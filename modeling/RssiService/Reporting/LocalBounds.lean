import RssiService.Foundation.LocalClock
import RssiService.Foundation.Traversal
import RssiService.Python.Date
import RssiService.Reporting.Periods

/-!
# The bounds of a period

The bounds are times of the local clock, a microsecond before midnight for the ends,
and days are taken from them on that clock.  They stand for instants, which are those
of whole days unless the clock is changed around one of the midnights.
-/

namespace RssiService.Reporting.Zoned

open Foundation Foundation.Outcome Foundation.LocalClock Python

/-- A `PeriodError`, or the `OverflowError` of a date before the first one or after
the last. -/
inductive Fault where
  | period (error : PeriodError)
  | overflow
  deriving DecidableEq, Repr

/-- A day, in microseconds. -/
def oneDay : Int := 86400000000

/-- `time.date()`, by its ordinal. -/
def dateOf (time : Int) : Int := time / oneDay

variable (zone : Zone)

/-- The local day of an instant. -/
def dayOf (moment : Int) : Int := dateOf (zone.shown moment)

/-- `timezone.localdate`. -/
def localdate (now : Int) : Except Fault Int :=
  if 1 ≤ dayOf zone now ∧ dayOf zone now ≤ maxOrdinal then .ok (dayOf zone now)
  else .error .overflow

/-- `_debut_de_jour`. -/
def debutDeJour (jour : Int) : Int := jour * oneDay

/-- `_fin_de_jour`. -/
def finDeJour (jour : Int) : Int := jour * oneDay + (oneDay - 1)

/-- A time less a delay. -/
def minusDelay (time delay : Int) : Except Fault Int :=
  if time - delay < debutDeJour 1 then .error .overflow else .ok (time - delay)

/-- A date less some days. -/
def minusDays (jour jours : Int) : Except Fault Int :=
  if jour - jours < 1 then .error .overflow else .ok (jour - jours)

/-- The bounds of the period, before the previous one is looked for. -/
structure Bornes where
  debut : Int
  fin : Int
  jours : Nat
  libelle : String
  deriving DecidableEq, Repr

def personnalisee (start «end» : Option Date) : Except Fault Bornes :=
  match start, «end» with
  | some start, some «end» =>
      if «end».ordinal < start.ordinal then .error (.period .reversed)
      else
        let jours := «end».ordinal - start.ordinal + 1
        if maxCustomDays < jours then .error (.period .tooLong)
        else .ok
          { debut := debutDeJour start.ordinal
            fin := finDeJour «end».ordinal
            jours
            libelle := "Période personnalisée" }
  | _, _ => .error (.period .missingBounds)

def predefinie (key : String) (now : Int) : Except Fault Bornes :=
  match presets.find? fun preset => preset.key = key with
  | none => .error (.period .unknown)
  | some preset => do
      let aujourdHui ← localdate zone now
      let premier ← minusDays aujourdHui (preset.days - 1)
      return {
        debut := debutDeJour premier
        fin := finDeJour aujourdHui
        jours := preset.days
        libelle := preset.label }

/-- A period and the one before it, as times of the clock. -/
structure Period where
  key : String
  label : String
  start : Int
  «end» : Int
  previousStart : Int
  previousEnd : Int
  deriving DecidableEq, Repr

def Period.days (period : Period) : Int := dateOf period.end - dateOf period.start + 1

/-- `key or DEFAULT_PRESET`. -/
def chosenKey (key : Option String) : String := (key.filter (· ≠ "")).getD defaultPreset

def bornes (key : String) (start «end» : Option Date) (now : Int) : Except Fault Bornes :=
  if key = presetCustom then personnalisee start «end» else predefinie zone key now

/-- `resolve`, at an instant. -/
def resolve (key : Option String) (start «end» : Option Date) (now : Int) :
    Except Fault Period := do
  let bornes ← bornes zone (chosenKey key) start «end» now
  let precedenteFin ← minusDelay bornes.debut 1
  let auparavant ← minusDelay bornes.debut (bornes.jours * oneDay)
  return {
    key := chosenKey key
    label := bornes.libelle
    start := bornes.debut
    «end» := bornes.fin
    previousStart := debutDeJour (dateOf auparavant)
    previousEnd := precedenteFin }

/-! ## What is asked for -/

/-- The last of the days that are asked for, and their number: two dates, or some days
up to today. -/
def asked (key : Option String) (start «end» : Option Date) (today : Int) : Option (Int × Nat) :=
  if chosenKey key = presetCustom then
    match start, «end» with
    | some start, some «end» =>
        if start.ordinal ≤ «end».ordinal ∧ «end».ordinal - start.ordinal < maxCustomDays then
          some («end».ordinal, «end».ordinal - start.ordinal + 1)
        else none
    | _, _ => none
  else (presets.find? fun preset => preset.key = chosenKey key).map fun preset =>
    (today, preset.days)

/-- From the first instant of a day to the last one of another. -/
structure Covers (start «end» first last : Int) : Prop where
  starts : ∀ moment, zone.instant start ≤ moment ↔ first ≤ dayOf zone moment
  ends : ∀ moment, moment ≤ zone.instant «end» ↔ dayOf zone moment ≤ last

/-- The period covers some whole days up to the last one, and the one before it as
many, up to its start. -/
structure Follows (period : Period) (last : Int) (count : Nat) : Prop where
  days : period.days = count
  covers : Covers zone period.start period.end (last - count + 1) last
  previous : Covers zone period.previousStart period.previousEnd (last - 2 * count + 1)
    (last - count)
  adjacent : zone.instant period.previousEnd + 1 = zone.instant period.start

/-- The period is refused, or is what was asked for; and instants of one local day give
the same. -/
def Promise (key : Option String) (start «end» : Option Date) (now : Int) : Prop :=
  ((∃ error, resolve zone key start «end» now = .error (.period error)) ∨
    ∃ last count period, asked key start «end» (dayOf zone now) = some (last, count) ∧
      resolve zone key start «end» now = .ok period ∧ Follows zone period last count) ∧
  ∀ other, localdate zone other = localdate zone now →
    resolve zone key start «end» other = resolve zone key start «end» now

/-- The days of the period and of the previous one are in the calendar, and no change of
the clock goes over the midnight that they begin with, or up to one that they end with. -/
structure Regular (last : Int) (count : Nat) : Prop where
  positive : 2 * (count : Int) ≤ last
  bounded : last ≤ maxOrdinal
  opened : ¬ PassesOver zone.jumps (debutDeJour (last - 2 * count + 1))
  joined : ¬ PassesUpTo zone.jumps (debutDeJour (last - count + 1))
  closed : ¬ PassesUpTo zone.jumps (debutDeJour (last + 1))

/-! ## Whole days -/

section Days

variable {zone} {first last moment : Int}

theorem le_dayOf_iff : first ≤ dayOf zone moment ↔ debutDeJour first ≤ zone.shown moment :=
  Int.le_ediv_iff_mul_le (by decide)

theorem finDeJour_eq (jour : Int) : finDeJour jour = debutDeJour (jour + 1) - 1 := by
  rw [finDeJour, debutDeJour, Int.add_mul, Int.one_mul]
  omega

theorem dateOf_debutDeJour (jour : Int) : dateOf (debutDeJour jour) = jour :=
  Int.mul_ediv_cancel jour (by decide)

theorem dateOf_finDeJour (jour : Int) : dateOf (finDeJour jour) = jour := by
  rw [dateOf, finDeJour, Int.add_comm, Int.add_mul_ediv_right _ _ (by decide)]
  exact Int.zero_add jour

/-- Whole days are covered from midnight to midnight, unless a change goes over the
first one or up to the second. -/
theorem covers_iff : Covers zone (debutDeJour first) (finDeJour last) first last ↔
    ¬ PassesOver zone.jumps (debutDeJour first) ∧
      ¬ PassesUpTo zone.jumps (debutDeJour (last + 1)) := by
  rw [← Zone.reaches_instant_iff, ← Zone.reaches_next_iff]
  have starts : (∀ moment, zone.instant (debutDeJour first) ≤ moment ↔
        first ≤ dayOf zone moment) ↔
      ∀ moment, zone.instant (debutDeJour first) ≤ moment ↔
        debutDeJour first ≤ zone.shown moment :=
    forall_congr' fun moment => iff_congr Iff.rfl le_dayOf_iff
  have ends : (∀ moment, moment ≤ zone.instant (finDeJour last) ↔ dayOf zone moment ≤ last) ↔
      ∀ moment, zone.instant (debutDeJour (last + 1) - 1) + 1 ≤ moment ↔
        debutDeJour (last + 1) ≤ zone.shown moment := by
    refine forall_congr' fun moment => ?_
    rw [← le_dayOf_iff, finDeJour_eq]
    omega
  rw [← starts, ← ends]
  constructor
  · exact fun covers => ⟨covers.starts, covers.ends⟩
  · exact fun both => ⟨both.1, both.2⟩

/-- Where the clock reaches a midnight through the microsecond before it, the instants
of both follow one another. -/
theorem instant_succ (clear : ¬ PassesUpTo zone.jumps (debutDeJour first)) :
    zone.instant (debutDeJour first - 1) + 1 = zone.instant (debutDeJour first) := by
  have here := Zone.reaches_instant_iff.mpr (not_passesOver clear)
  have next := Zone.reaches_next_iff.mpr clear
  apply Int.le_antisymm
  · exact (next _).mpr ((here _).mp (Int.le_refl _))
  · exact (here _).mpr ((next _).mp (Int.le_refl _))

end Days

/-! ## What is returned -/

section Resolution

variable {zone} {key : Option String} {start «end» : Option Date} {now last : Int} {count : Nat}

theorem days_pos (preset : Preset) : 1 ≤ preset.days := by
  cases preset <;> decide

theorem bornes_of_none (none : asked key start «end» (dayOf zone now) = none) :
    ∃ error, bornes zone (chosenKey key) start «end» now = .error (.period error) := by
  unfold asked at none
  rw [bornes]
  split at none
  · rename_i custom
    rw [if_pos custom]
    cases start with
    | none => exact ⟨.missingBounds, rfl⟩
    | some start =>
        cases «end» with
        | none => exact ⟨.missingBounds, rfl⟩
        | some «end» =>
            dsimp only at none
            rw [personnalisee]
            split at none
            · cases none
            · rename_i outside
              by_cases reversed : «end».ordinal < start.ordinal
              · exact ⟨.reversed, if_pos reversed⟩
              · rw [if_neg reversed]
                exact ⟨.tooLong, if_pos (by omega)⟩
  · rename_i custom
    rw [if_neg custom, predefinie, Option.map_eq_none_iff.mp none]
    exact ⟨.unknown, rfl⟩

/-- The bounds of some days up to the last one, when all are in the calendar. -/
theorem bornes_of_asked (given : asked key start «end» (dayOf zone now) = some (last, count)) :
    1 ≤ count ∧ ∃ libelle, bornes zone (chosenKey key) start «end» now =
      if count ≤ last ∧ last ≤ maxOrdinal then
        .ok
          { debut := debutDeJour (last - count + 1)
            fin := finDeJour last
            jours := count
            libelle }
      else .error .overflow := by
  unfold asked at given
  rw [bornes]
  split at given
  · rename_i custom
    rw [if_pos custom]
    cases start with
    | none => cases given
    | some start =>
        cases «end» with
        | none => cases given
        | some «end» =>
            dsimp only at given
            split at given
            · rename_i within
              cases given
              refine ⟨Nat.le_add_left 1 _, "Période personnalisée", ?_⟩
              have positive := start.positive
              have bounded := «end».bounded
              have first : («end».ordinal : Int) - («end».ordinal - start.ordinal + 1 : Nat) + 1 =
                  start.ordinal := by omega
              have inside : ((«end».ordinal - start.ordinal + 1 : Nat) : Int) ≤ «end».ordinal ∧
                  («end».ordinal : Int) ≤ maxOrdinal := by omega
              have short : ¬ maxCustomDays < «end».ordinal - start.ordinal + 1 := by omega
              rw [if_pos inside, first, personnalisee, if_neg (Nat.not_lt.mpr within.1)]
              exact if_neg short
            · cases given
  · rename_i custom
    rw [if_neg custom, predefinie]
    obtain ⟨preset, found, same⟩ := Option.map_eq_some_iff.mp given
    cases same
    refine ⟨days_pos preset, preset.label, ?_⟩
    have positive := days_pos preset
    rw [found]
    dsimp only
    by_cases dated : 1 ≤ dayOf zone now ∧ dayOf zone now ≤ maxOrdinal
    · rw [localdate, if_pos dated]
      by_cases enough : (preset.days : Int) ≤ dayOf zone now
      · have first : dayOf zone now - (preset.days - 1) = dayOf zone now - preset.days + 1 := by
          omega
        rw [if_pos ⟨enough, dated.2⟩, ← first]
        exact bind_eq_ok.mpr ⟨_, rfl, bind_eq_ok.mpr ⟨_, if_neg (by omega), rfl⟩⟩
      · rw [if_neg fun both => enough both.1]
        exact bind_eq_error.mpr (.inr ⟨_, rfl, bind_eq_error.mpr (.inl (if_pos (by omega)))⟩)
    · rw [localdate, if_neg dated, if_neg (by omega)]
      rfl

theorem minusDelay_debutDeJour (jour jours : Int) :
    minusDelay (debutDeJour jour) (jours * oneDay) =
      if jour - jours < 1 then .error .overflow else .ok (debutDeJour (jour - jours)) := by
  have moved : debutDeJour jour - jours * oneDay = debutDeJour (jour - jours) :=
    (Int.sub_mul ..).symm
  have before : debutDeJour (jour - jours) < debutDeJour 1 ↔ jour - jours < 1 :=
    Int.mul_lt_mul_right (by decide)
  rw [minusDelay, moved]
  simp only [before]

theorem minusDelay_one (jour : Int) : minusDelay (debutDeJour jour) 1 =
    if jour < 2 then .error .overflow else .ok (debutDeJour jour - 1) := by
  have before : debutDeJour jour - 1 < debutDeJour 1 ↔ jour < 2 := by
    rw [debutDeJour, debutDeJour, oneDay]
    omega
  rw [minusDelay]
  simp only [before]

/-- The period of some days up to the last one, and the one before it. -/
def periodOf (key label : String) (last : Int) (count : Nat) : Period where
  key := key
  label := label
  start := debutDeJour (last - count + 1)
  «end» := finDeJour last
  previousStart := debutDeJour (last - 2 * count + 1)
  previousEnd := finDeJour (last - count)

/-- The period of some days up to the last one, and the one before it, when all their
days are in the calendar. -/
theorem resolve_of_asked (given : asked key start «end» (dayOf zone now) = some (last, count)) :
    ∃ label, resolve zone key start «end» now =
      if 2 * (count : Int) ≤ last ∧ last ≤ maxOrdinal then
        .ok (periodOf (chosenKey key) label last count)
      else .error .overflow := by
  obtain ⟨positive, libelle, found⟩ := bornes_of_asked given
  refine ⟨libelle, ?_⟩
  rw [resolve, found]
  by_cases inside : (count : Int) ≤ last ∧ last ≤ maxOrdinal
  · rw [if_pos inside]
    have before : last - count + 1 - count = last - 2 * count + 1 := by omega
    simp only [bind, Except.bind, minusDelay_one, minusDelay_debutDeJour, before]
    by_cases whole : 2 * (count : Int) ≤ last
    · have day : ¬ last - count + 1 < 2 := by omega
      have first : ¬ last - 2 * count + 1 < 1 := by omega
      rw [if_neg day, if_neg first, if_pos ⟨whole, inside.2⟩, periodOf, finDeJour_eq (last - count)]
      dsimp only
      rw [dateOf_debutDeJour]
      rfl
    · have first : last - 2 * count + 1 < 1 := by omega
      have outside : ¬ (2 * (count : Int) ≤ last ∧ last ≤ maxOrdinal) := fun both => whole both.1
      rw [if_pos first, if_neg outside]
      by_cases day : last - count + 1 < 2
      · rw [if_pos day]
      · rw [if_neg day]
  · rw [if_neg inside, if_neg (by omega)]
    rfl

theorem resolve_of_none (none : asked key start «end» (dayOf zone now) = none) :
    ∃ error, resolve zone key start «end» now = .error (.period error) := by
  obtain ⟨error, failed⟩ := bornes_of_none none
  exact ⟨error, bind_eq_error.mpr (.inl failed)⟩

/-- The days that are asked for, when they are in the calendar, are those of the period
by its days. -/
theorem resolve_days_of_asked
    (given : asked key start «end» (dayOf zone now) = some (last, count))
    (inside : 2 * (count : Int) ≤ last) :
    ∃ days, Reporting.resolve key (start.map Date.ordinal) («end».map Date.ordinal)
        (dayOf zone now).toNat = .ok days ∧
      (days.lastDay : Int) = last ∧ days.days = count := by
  unfold asked chosenKey at given
  unfold Reporting.resolve
  split at given
  · rename_i custom
    cases start with
    | none => cases given
    | some start =>
        cases «end» with
        | none => cases given
        | some «end» =>
            dsimp only at given
            split at given
            · rename_i within
              cases given
              refine ⟨⟨presetCustom, "Période personnalisée", start.ordinal, «end».ordinal,
                within.1⟩, ?_, rfl, rfl⟩
              dsimp only [Option.map_some]
              rw [if_pos custom, dif_pos within.1, if_neg (by omega)]
            · cases given
  · rename_i custom
    obtain ⟨preset, found, same⟩ := Option.map_eq_some_iff.mp given
    cases same
    have positive := days_pos preset
    refine ⟨⟨preset.key, preset.label, (dayOf zone now).toNat - (preset.days - 1),
      (dayOf zone now).toNat, Nat.sub_le _ _⟩, ?_, ?_, ?_⟩
    · dsimp only
      rw [if_neg custom, found]
    · exact Int.toNat_of_nonneg (by omega)
    · rw [Reporting.Period.days]
      dsimp only
      omega

/-- The bounds are those of the period by its days, at midnights of the clock. -/
theorem resolve_refines {period : Period} (done : resolve zone key start «end» now = .ok period) :
    ∃ days, Reporting.resolve key (start.map Date.ordinal) («end».map Date.ordinal)
        (dayOf zone now).toNat = .ok days ∧
      period.start = debutDeJour days.firstDay ∧ period.end = finDeJour days.lastDay ∧
      period.previousStart = debutDeJour (days.firstDay - days.days : Nat) ∧
      period.previousEnd + 1 = period.start := by
  cases given : asked key start «end» (dayOf zone now) with
  | none =>
      obtain ⟨error, refused⟩ := resolve_of_none given
      cases done.symm.trans refused
  | some both =>
      obtain ⟨last, count⟩ := both
      obtain ⟨label, resolved⟩ := resolve_of_asked given
      rw [resolved] at done
      split at done
      · rename_i inside
        cases done
        obtain ⟨days, found, ends, counted⟩ := resolve_days_of_asked given inside.1
        have ordered := days.ordered
        have total := counted
        rw [Reporting.Period.days] at total
        have first : last - count + 1 = days.firstDay := by omega
        have before : last - 2 * count + 1 = (days.firstDay - days.days : Nat) := by
          rw [counted]
          omega
        refine ⟨days, found, ?_, ?_, ?_, ?_⟩
        · rw [periodOf, first]
        · rw [periodOf, ends]
        · rw [periodOf, before]
        · rw [periodOf, finDeJour_eq (last - count)]
          exact Int.sub_add_cancel ..
      · cases done

/-- The instant counts by its local date alone. -/
theorem resolve_congr {other : Int} (same : localdate zone other = localdate zone now) :
    resolve zone key start «end» other = resolve zone key start «end» now := by
  rw [resolve, resolve, bornes, bornes, predefinie, predefinie, same]

end Resolution

theorem follows_periodOf_iff {zone : Zone} {key label : String} {last : Int} {count : Nat} :
    Follows zone (periodOf key label last count) last count ↔
      ¬ PassesOver zone.jumps (debutDeJour (last - 2 * count + 1)) ∧
        ¬ PassesUpTo zone.jumps (debutDeJour (last - count + 1)) ∧
        ¬ PassesUpTo zone.jumps (debutDeJour (last + 1)) := by
  constructor
  · intro follows
    exact ⟨(covers_iff.mp follows.previous).1, (covers_iff.mp follows.previous).2,
      (covers_iff.mp follows.covers).2⟩
  · rintro ⟨opened, joined, closed⟩
    refine ⟨?_, covers_iff.mpr ⟨not_passesOver joined, closed⟩,
      covers_iff.mpr ⟨opened, joined⟩, ?_⟩
    · rw [Period.days, periodOf, dateOf_finDeJour, dateOf_debutDeJour]
      omega
    · rw [periodOf, finDeJour_eq (last - count)]
      exact instant_succ joined

/-- A period is refused, or covers the days asked for, with as many just before them,
exactly when what is asked for is refused, or all these days are in the calendar and no
change of the clock goes over one of their midnights; and it depends on the instant by
its local date alone. -/
theorem promise_iff (zone : Zone) (key : Option String) (start «end» : Option Date) (now : Int) :
    Promise zone key start «end» now ↔
      ∀ last count, asked key start «end» (dayOf zone now) = some (last, count) →
        Regular zone last count := by
  rw [Promise, and_iff_left fun _ => resolve_congr]
  cases given : asked key start «end» (dayOf zone now) with
  | none =>
      refine iff_of_true (.inl (resolve_of_none given)) fun last count impossible => ?_
      cases impossible
  | some both =>
      obtain ⟨last, count⟩ := both
      obtain ⟨label, resolved⟩ := resolve_of_asked given
      rw [resolved]
      by_cases inside : 2 * (count : Int) ≤ last ∧ last ≤ maxOrdinal
      · rw [if_pos inside]
        constructor
        · rintro (⟨error, ⟨⟩⟩ | ⟨_, _, _, ⟨⟩, ⟨⟩, follows⟩) _ _ ⟨⟩
          obtain ⟨opened, joined, closed⟩ := follows_periodOf_iff.mp follows
          exact ⟨inside.1, inside.2, opened, joined, closed⟩
        · intro regular
          obtain ⟨_, _, opened, joined, closed⟩ := regular last count rfl
          exact .inr ⟨last, count, _, rfl, rfl, follows_periodOf_iff.mpr ⟨opened, joined, closed⟩⟩
      · rw [if_neg inside]
        refine iff_of_false ?_ fun regular => ?_
        · rintro (⟨error, ⟨⟩⟩ | ⟨_, _, _, _, ⟨⟩, _⟩)
        · obtain ⟨positive, bounded, _⟩ := regular last count rfl
          exact inside ⟨positive, bounded⟩

/-- A clock that is changed within days alone covers every period in the calendar. -/
theorem regular_of_within {zone : Zone} {last : Int} {count : Nat}
    (within : ∀ jump ∈ zone.jumps, dateOf jump.1 = dateOf jump.2)
    (positive : 2 * (count : Int) ≤ last) (bounded : last ≤ maxOrdinal) :
    Regular zone last count := by
  have clear (jour : Int) : ¬ PassesUpTo zone.jumps (debutDeJour jour) := by
    rintro ⟨jump, listed, below, above⟩
    have same := within jump listed
    have early : dateOf (min jump.1 jump.2) < jour :=
      Int.ediv_lt_of_lt_mul (by decide) below
    have late : jour ≤ dateOf (max jump.1 jump.2) :=
      (Int.le_ediv_iff_mul_le (by decide)).mpr above
    rcases Int.le_total jump.1 jump.2 with forward | backward
    · rw [min_eq_left forward] at early
      rw [max_eq_right forward] at late
      omega
    · rw [min_eq_right backward] at early
      rw [max_eq_left backward] at late
      omega
  exact ⟨positive, bounded, not_passesOver (clear _), clear _, clear _⟩

/-! The first day of the calendar. -/

section FirstDay

def universalZone : Zone := ⟨0, [], 0, trivial⟩

theorem resolve_refines_year : ∃ period,
    resolve universalZone (some "year") none none (800 * oneDay) = .ok period ∧
      period.previousEnd + 1 = period.start := by
  have succeeds : (resolve universalZone (some "year") none none (800 * oneDay)).isOk = true := by
    decide +kernel
  cases done : resolve universalZone (some "year") none none (800 * oneDay) with
  | error fault =>
      rw [done] at succeeds
      cases succeeds
  | ok period =>
      obtain ⟨_, _, _, _, _, joined⟩ := resolve_refines done
      exact ⟨period, rfl, joined⟩

theorem first_day_overflows :
    ¬ Promise universalZone (some "custom") (some ⟨1, by decide, by decide⟩)
      (some ⟨1, by decide, by decide⟩) 0 := by
  have failed : resolve universalZone (some "custom") (some ⟨1, by decide, by decide⟩)
      (some ⟨1, by decide, by decide⟩) 0 = .error .overflow := by decide +kernel
  rw [Promise, failed]
  rintro ⟨⟨error, ⟨⟩⟩ | ⟨_, _, _, _, ⟨⟩, _⟩, _⟩

end FirstDay

end RssiService.Reporting.Zoned
