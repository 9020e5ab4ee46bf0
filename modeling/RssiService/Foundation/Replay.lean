import Mathlib.Data.List.Nodup

/-!
# Logs that replay a life

A move leaves one place and reaches another.  A log of moves replays a life when each of
them leaves the place that the one before has reached.  One log may hold the moves of many
lives, told apart by a key.
-/

namespace Foundation.Replay

variable {Place Move Key : Type*}

/-- The moves lead from the first place to the last. -/
def Replays (source target : Move → Place) : Place → List Move → Place → Prop
  | first, [], last => first = last
  | first, move :: rest, last => source move = first ∧ Replays source target (target move) rest last

variable {source target : Move → Place}

theorem replays_append {first last : Place} {earlier later : List Move} :
    Replays source target first (earlier ++ later) last ↔
      ∃ place, Replays source target first earlier place ∧
        Replays source target place later last := by
  induction earlier generalizing first with
  | nil => exact ⟨fun later => ⟨first, rfl, later⟩, fun ⟨_, same, later⟩ => same ▸ later⟩
  | cons move rest ih =>
      rw [List.cons_append, Replays, ih]
      constructor
      · rintro ⟨leaves, place, before, after⟩
        exact ⟨place, ⟨leaves, before⟩, after⟩
      · rintro ⟨place, ⟨leaves, before⟩, after⟩
        exact ⟨leaves, place, before, after⟩

/-- One more move goes on from the last place. -/
theorem Replays.concat {first : Place} {moves : List Move} {move : Move}
    (replays : Replays source target first moves (source move)) :
    Replays source target first (moves ++ [move]) (target move) :=
  replays_append.mpr ⟨source move, replays, rfl, rfl⟩

/-- Where no two moves have the same key, those of the key of a move are that move. -/
theorem filter_key_eq_singleton [DecidableEq Key] {key : Move → Key} {moves : List Move}
    (distinct : (moves.map key).Nodup) {move : Move} (member : move ∈ moves) :
    moves.filter (fun other => key other = key move) = [move] := by
  induction moves with
  | nil => cases member
  | cons head rest ih =>
      rw [List.map_cons, List.nodup_cons] at distinct
      rcases List.mem_cons.mp member with rfl | later
      · rw [List.filter_cons, if_pos (decide_eq_true rfl), List.filter_eq_nil_iff.mpr]
        intro other inside same
        exact distinct.1 (of_decide_eq_true same ▸ List.mem_map_of_mem inside)
      · have apart : key head ≠ key move :=
          fun same => distinct.1 (same ▸ List.mem_map_of_mem later)
        rw [List.filter_cons, if_neg fun same => apart (of_decide_eq_true same)]
        exact ih distinct.2 later

end Foundation.Replay
