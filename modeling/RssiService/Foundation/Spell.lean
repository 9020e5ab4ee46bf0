import Mathlib.Data.List.Induction
import RssiService.Foundation.Run

/-!
# Spells

A property of the states of a run is on for spells, each turned on by some
event.  Events that fire do so once in a spell exactly when none of them fires
while the property is on.
-/

namespace Foundation.Spell

open Run

variable {State Event : Type*} {step : State → Event → State} {on : State → Prop}
  {fires : State → Event → Prop} {start : State} {events : List Event}

/-- Between two events that fire, the property is off somewhere. -/
def OncePerSpell (step : State → Event → State) (on : State → Prop)
    (fires : State → Event → Prop) (start : State) (events : List Event) : Prop :=
  ∀ earlier first between second later,
    events = earlier ++ first :: (between ++ second :: later) →
    fires (after step start earlier) first →
    fires (after step start (earlier ++ first :: between)) second →
      ¬ Always step on (step (after step start earlier) first) between

/-- Where the property is on after a run that it was off before, some event of the
run turned it on for the rest of it. -/
theorem exists_turn_on (off : ¬ on start) (lit : on (after step start events)) :
    ∃ earlier event later, events = earlier ++ event :: later ∧
      ¬ on (after step start earlier) ∧
      Always step on (step (after step start earlier) event) later := by
  induction events using List.reverseRecOn with
  | nil => exact absurd lit off
  | append_singleton events last ih =>
      by_cases before : on (after step start events)
      · obtain ⟨earlier, event, later, rfl, dark, always⟩ := ih before
        refine ⟨earlier, event, later ++ [last], by simp, dark, ?_⟩
        refine always_append always ⟨?_, ?_⟩
        · rwa [after_append, after_cons] at before
        · rwa [after_append, after_append, after_cons] at lit
      · rw [after_append] at lit
        exact ⟨events, last, [], rfl, before, lit⟩

theorem oncePerSpell_of_eachStep
    (quiet : EachStep step (fun state event => fires state event → ¬ on state) start events) :
    OncePerSpell step on fires start events := by
  rintro earlier first between second later rfl _ again always
  rw [← List.cons_append, ← List.append_assoc] at quiet
  have here := always.last
  rw [← after_cons, ← after_append] at here
  exact quiet.between again here

/-- Events that turn the property on, and that alone do, fire once in a spell exactly
when none fires while it is on. -/
theorem oncePerSpell_iff
    (lights : ∀ state event, ¬ on state → on (step state event) → fires state event)
    (off : ¬ on start) :
    OncePerSpell step on fires start events ↔
      EachStep step (fun state event => fires state event → ¬ on state) start events := by
  refine ⟨fun once => eachStep_of_between ?_, oncePerSpell_of_eachStep⟩
  rintro earlier second later rfl again lit
  obtain ⟨first, event, between, rfl, dark, always⟩ := exists_turn_on off lit
  refine once first event between second later (by simp) (lights _ _ dark always.start) ?_ always
  exact again

end Foundation.Spell
