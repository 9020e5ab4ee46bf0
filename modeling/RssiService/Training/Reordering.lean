import RssiService.Foundation.Outcome
import RssiService.Foundation.Renumbering
import RssiService.Training.Studio

/-!
# The order of the screens

The screens of a version are numbered anew one row at a time, in two passes, while no
two of them may hold one number.
-/

namespace RssiService.Training

open Foundation Run Interleaving Renumbering Python

/-- The screens of a version, by key, and the ranks that they hold. -/
structure Ranked (version : Nat) (keys : List Nat) (rank : Nat → Nat) (library : Library) :
    Prop where
  listed : ∀ key, key ∈ keys ↔ ∃ row ∈ library.screens, row.id = key ∧ row.version = version
  held : ∀ row ∈ library.screens, row.version = version → rank row.id = row.order

namespace Ranked

variable {version : Nat} {keys : List Nat} {rank : Nat → Nat} {library : Library}

theorem taken_iff (ranked : Ranked version keys rank library) {screen order : Nat} :
    library.screenRankTaken version order (some screen) = true ↔
      ∃ other ∈ keys, other ≠ screen ∧ rank other = order := by
  rw [Library.screenRankTaken, List.any_eq_true]
  constructor
  · rintro ⟨row, member, holds⟩
    simp only [Bool.and_eq_true, decide_eq_true_eq, bne_iff_ne, ne_eq, Option.some.injEq] at holds
    obtain ⟨⟨own, same⟩, apart⟩ := holds
    exact ⟨row.id, (ranked.listed row.id).mpr ⟨row, member, rfl, own⟩, apart,
      (ranked.held row member own).trans same⟩
  · rintro ⟨other, member, apart, same⟩
    obtain ⟨row, inside, rfl, own⟩ := (ranked.listed other).mp member
    refine ⟨row, inside, ?_⟩
    simp [own, apart, ← same, ranked.held row inside own]

theorem screenOf_ne_none (ranked : Ranked version keys rank library) {screen : Nat}
    (member : screen ∈ keys) : (library.screenOf version screen).isNone = false := by
  obtain ⟨row, inside, key, own⟩ := (ranked.listed screen).mp member
  have found : library.screens.find? screen = some row :=
    Table.find?_eq_some_iff.mpr ⟨inside, key⟩
  simp [Library.screenOf, found, own]

/-- One write of a rank: the database refuses it where another screen holds the rank. -/
theorem setScreenOrder (ranked : Ranked version keys rank library) {screen : Nat}
    (member : screen ∈ keys) (order : Nat) :
    Option.Rel (Ranked version keys) (assign keys rank (screen, order))
      (library.setScreenOrder version screen order) := by
  rw [assign, Library.setScreenOrder, ranked.screenOf_ne_none member, Bool.or_false]
  by_cases taken : ∃ other ∈ keys, other ≠ screen ∧ rank other = order
  · rw [if_pos taken, if_pos (ranked.taken_iff.mpr taken)]
    exact .none
  · rw [if_neg taken, if_neg (fun refused => taken (ranked.taken_iff.mp refused))]
    have kept (row : Screen) :
        (if (row.id = screen && row.version = version : Bool) then { row with order } else row).id
            = row.id ∧
          (if (row.id = screen && row.version = version : Bool) then { row with order }
            else row).version = row.version := by
      split
      · exact ⟨rfl, rfl⟩
      · exact ⟨rfl, rfl⟩
    refine .some ⟨fun key => (ranked.listed key).trans ?_, ?_⟩
    · constructor
      · rintro ⟨row, inside, same, own⟩
        refine ⟨_, ?_, (kept row).1.trans same, (kept row).2.trans own⟩
        rw [Table.mem_updateWhere]
        exact ⟨row, inside, rfl⟩
      · rintro ⟨_, inside, same, own⟩
        rw [Table.mem_updateWhere] at inside
        obtain ⟨row, present, rfl⟩ := inside
        exact ⟨row, present, (kept row).1.symm.trans same, (kept row).2.symm.trans own⟩
    · intro row inside own
      rw [Table.mem_updateWhere] at inside
      obtain ⟨source, present, rfl⟩ := inside
      by_cases chosen : source.id = screen
      · have own_source : source.version = version := (kept source).2.symm.trans own
        rw [if_pos (by simp [chosen, own_source])]
        exact (congrArg _ chosen).trans (Function.update_self screen order rank)
      · rw [if_neg (by simp [chosen])] at own ⊢
        rw [Function.update_of_ne chosen]
        exact ranked.held source present own

/-- The screens of a version, sorted by rank, are those that are listed. -/
theorem perm_screensOf (ranked : Ranked version keys rank library) (nodup : keys.Nodup) :
    ((library.screensOf version).map Screen.id).Perm keys := by
  have distinct : ((library.screensOf version).map Screen.id).Nodup :=
    nodup_screensOf library version
  refine (List.perm_ext_iff_of_nodup distinct nodup).mpr fun key => ?_
  rw [ranked.listed key, List.mem_map]
  constructor
  · rintro ⟨row, member, same⟩
    obtain ⟨inside, own⟩ := mem_screensOf.mp member
    exact ⟨row, inside, same, own⟩
  · rintro ⟨row, inside, same, own⟩
    exact ⟨row, mem_screensOf.mpr ⟨inside, own⟩, same⟩

/-- Where the ranks follow a list of keys, the screens are sorted in its order. -/
theorem screensOf_of_renumbered {ordre : List Nat} {before : Nat → Nat}
    (ranked : Ranked version keys (renumbered before ordre 1) library) (nodup : ordre.Nodup)
    (perm : ordre.Perm keys) :
    (library.screensOf version).map Screen.id = ordre ∧
      (library.screensOf version).map Screen.order = List.range' 1 ordre.length := by
  have listed := ranked.perm_screensOf (perm.nodup_iff.mp nodup)
  have held : ∀ row ∈ library.screensOf version, row.order = 1 + ordre.idxOf row.id := by
    intro row member
    obtain ⟨inside, own⟩ := mem_screensOf.mp member
    have known : row.id ∈ ordre :=
      perm.mem_iff.mpr (listed.mem_iff.mp (List.mem_map_of_mem member))
    rw [← ranked.held row inside own, renumbered, if_pos known]
  have places : ordre.Pairwise fun first second => ordre.idxOf first ≤ ordre.idxOf second := by
    have increasing := List.pairwise_le_range (n := ordre.length)
    rw [← map_idxOf nodup] at increasing
    exact List.pairwise_map.mp increasing
  have sorted : ((library.screensOf version).map Screen.id).Pairwise fun first second =>
      ordre.idxOf first ≤ ordre.idxOf second := by
    refine List.pairwise_map.mpr ((List.pairwise_insertionSort _ _).imp_of_mem ?_)
    intro first second inFirst inSecond below
    have first_order := held first inFirst
    have second_order := held second inSecond
    omega
  have ids : (library.screensOf version).map Screen.id = ordre := by
    refine (listed.trans perm.symm).eq_of_pairwise ?_ sorted places
    intro first second inFirst _ below above
    have known := (listed.trans perm.symm).mem_iff.mp inFirst
    exact (List.idxOf_inj known).mp (Nat.le_antisymm below above)
  refine ⟨ids, ?_⟩
  calc (library.screensOf version).map Screen.order
      = (library.screensOf version).map fun row => 1 + ordre.idxOf row.id :=
        List.map_congr_left held
    _ = ((library.screensOf version).map Screen.id).map fun key => 1 + ordre.idxOf key := by
        rw [List.map_map]
        rfl
    _ = (ordre.map ordre.idxOf).map (1 + ·) := by
        rw [ids, List.map_map]
        rfl
    _ = List.range' 1 ordre.length := by
        rw [map_idxOf nodup, List.range_eq_range', List.map_add_range']

end Ranked

/-! ## The two passes -/

section Passes

variable {library : Library} {version : Nat} {ordre : List Nat}

/-- The rank of each screen of a version. -/
def Library.rankOf (library : Library) (version key : Nat) : Nat :=
  ((library.screenOf version key).map Screen.order).getD 0

theorem ranked_rankOf (library : Library) (version : Nat) :
    Ranked version ((library.screensOf version).map Screen.id) (library.rankOf version)
      library := by
  refine ⟨fun key => ?_, fun row inside own => ?_⟩
  · rw [List.mem_map]
    constructor
    · rintro ⟨row, member, same⟩
      obtain ⟨inside, own⟩ := mem_screensOf.mp member
      exact ⟨row, inside, same, own⟩
    · rintro ⟨row, inside, same, own⟩
      exact ⟨row, mem_screensOf.mpr ⟨inside, own⟩, same⟩
  · have found : library.screens.find? row.id = some row :=
      Table.find?_eq_some_iff.mpr ⟨inside, rfl⟩
    rw [Library.rankOf, Library.screenOf, found, Option.filter_some, if_pos (decide_eq_true own)]
    rfl

/-- A screen that has not had its turn holds no rank that the first pass gives before. -/
def RanksApart (library : Library) (version : Nat) (ordre : List Nat) : Prop :=
  ∀ row ∈ library.screens, row.version = version →
    row.order ≤ ordre.length ∨ ordre.length + ordre.idxOf row.id < row.order

theorem clear_iff_ranksApart :
    Clear ((library.screensOf version).map Screen.id) (library.rankOf version) ordre
      (ordre.length + 1) ↔ RanksApart library version ordre := by
  have ranked := ranked_rankOf library version
  constructor
  · intro clear row inside own
    have turn := clear row.id ((ranked.listed row.id).mpr ⟨row, inside, rfl, own⟩)
    rw [ranked.held row inside own] at turn
    omega
  · intro apart key member
    obtain ⟨row, inside, rfl, own⟩ := (ranked.listed key).mp member
    have turn := apart row inside own
    rw [ranked.held row inside own]
    omega

theorem reorderScreens_rel (perm : ordre.Perm ((library.screensOf version).map Screen.id)) :
    Option.Rel (Ranked version ((library.screensOf version).map Screen.id))
      ((ordre.zipIdx (ordre.length + 1) ++ ordre.zipIdx 1).foldlM
        (assign ((library.screensOf version).map Screen.id)) (library.rankOf version))
      (library.reorderScreens version ordre) := by
  refine Outcome.rel_foldlM ?_ (ranked_rankOf library version)
  rintro ⟨screen, rank⟩ member held other ranked
  have listed : screen ∈ ordre := by
    rcases List.mem_append.mp member with first | second
    · exact List.fst_mem_of_mem_zipIdx first
    · exact List.fst_mem_of_mem_zipIdx second
  exact ranked.setScreenOrder (perm.mem_iff.mp listed) rank

/-- The database takes every write of the two passes where the ranks stay apart, and the
screens are numbered from one on in the order that was asked. -/
theorem reorderScreens_cases (perm : ordre.Perm ((library.screensOf version).map Screen.id)) :
    (¬RanksApart library version ordre ∧ library.reorderScreens version ordre = none) ∨
      RanksApart library version ordre ∧ ∃ after,
        library.reorderScreens version ordre = some after ∧
          (after.screensOf version).map Screen.id = ordre ∧
            (after.screensOf version).map Screen.order = List.range' 1 ordre.length := by
  have nodup : ordre.Nodup := perm.nodup_iff.mpr (nodup_screensOf library version)
  have all : ∀ key ∈ (library.screensOf version).map Screen.id, key ∈ ordre :=
    fun key member => perm.mem_iff.mpr member
  have agree := reorderScreens_rel perm
  rw [← clear_iff_ranksApart]
  cases passes : (ordre.zipIdx (ordre.length + 1) ++ ordre.zipIdx 1).foldlM
      (assign ((library.screensOf version).map Screen.id)) (library.rankOf version) with
  | none =>
      rw [passes] at agree
      cases written : library.reorderScreens version ordre with
      | some after =>
          rw [written] at agree
          cases agree
      | none =>
          refine Or.inl ⟨fun clear => ?_, rfl⟩
          have goes := (two_passes_eq_some_iff nodup all).mpr ⟨clear, rfl⟩
          rw [passes] at goes
          cases goes
  | some rank =>
      obtain ⟨clear, rfl⟩ := (two_passes_eq_some_iff nodup all).mp passes
      rw [passes] at agree
      cases written : library.reorderScreens version ordre with
      | none =>
          rw [written] at agree
          cases agree
      | some after =>
          rw [written] at agree
          cases agree with
          | some ranked =>
              exact Or.inr ⟨clear, after, rfl, ranked.screensOf_of_renumbered nodup perm⟩

end Passes

/-! ## Requests -/

section Requests

variable (slugify : String → String)

/-- The request numbers the screens of the version from one on, in the order asked: the
database takes every number that is written on the way. -/
def Renumbers (library : Library) (version : Nat) (ordre : List Nat) : Prop :=
  (∀ given ∈ ordre.zipIdx (ordre.length + 1) ++ ordre.zipIdx 1, given.2 ≤ maxSmallInteger) ∧
    (library.reorderScreens version ordre).isSome ∧
      let after := serve Library.applyStudio (studioProgram slugify) library
        (.reordonnerEcrans version ordre)
      (after.screensOf version).map Screen.id = ordre ∧
        (after.screensOf version).map Screen.order = List.range' 1 ordre.length

theorem serve_reordonnerEcrans {library : Library} {version : Nat} {ordre : List Nat}
    {row : CourseVersion} (found : library.versions.find? version = some row)
    (draft : row.isPublished = false)
    (perm : ordre.Perm ((library.screensOf version).map Screen.id)) :
    serve Library.applyStudio (studioProgram slugify) library (.reordonnerEcrans version ordre) =
      library.applyStudio (.reorderScreens version ordre) := by
  have key : row.id = version := Table.ident_of_find? found
  have listed : (ordre.length = ((library.screensOf row.id).map Screen.id).length &&
      ordre.all ((library.screensOf row.id).map Screen.id).contains &&
      ((library.screensOf row.id).map Screen.id).all ordre.contains) = true := by
    rw [key]
    simp only [Bool.and_eq_true, decide_eq_true_eq, List.all_eq_true, List.contains_iff_mem]
    exact ⟨⟨perm.length_eq, fun screen => perm.mem_iff.mp⟩, fun screen => perm.mem_iff.mpr⟩
  rw [serve, studioProgram, reordonnerEcrans, versionModifiable, Program.alone, found]
  dsimp only
  rw [draft, if_neg Bool.false_ne_true, Program.alone, if_pos listed, key]
  rfl

theorem within_column_iff {ordre : List Nat} :
    (∀ given ∈ ordre.zipIdx (ordre.length + 1) ++ ordre.zipIdx 1, given.2 ≤ maxSmallInteger) ↔
      2 * ordre.length ≤ maxSmallInteger := by
  constructor
  · intro within
    rcases Nat.eq_zero_or_pos ordre.length with empty | filled
    · rw [empty]
      exact Nat.zero_le _
    · have last : (ordre[ordre.length - 1], ordre.length + 1 + (ordre.length - 1)) ∈
          ordre.zipIdx (ordre.length + 1) := by
        rw [List.mk_mem_zipIdx_iff_le_and_getElem?_sub]
        exact ⟨Nat.le_add_right _ _, by simp⟩
      have bound := within _ (List.mem_append_left _ last)
      dsimp only at bound
      omega
  · intro bound given member
    rcases List.mem_append.mp member with first | second
    · have below := List.snd_lt_add_of_mem_zipIdx first
      omega
    · have below := List.snd_lt_add_of_mem_zipIdx second
      omega

/-- In every run of the studio, a permutation of the screens of a draft numbers them from
one on exactly where no screen holds a number of the first pass before its turn. -/
theorem reordonnerEcrans_iff (start : Library) (requests : List StudioRequest) :
    Always (serve Library.applyStudio (studioProgram slugify))
      (fun library => ∀ version row ordre, library.versions.find? version = some row →
        row.isPublished = false → ordre.Perm ((library.screensOf version).map Screen.id) →
          (Renumbers slugify library version ordre ↔
            RanksApart library version ordre ∧ 2 * ordre.length ≤ maxSmallInteger))
      start requests := by
  have exact_at (library : Library) (version : Nat) (row : CourseVersion) (ordre : List Nat)
      (found : library.versions.find? version = some row) (draft : row.isPublished = false)
      (perm : ordre.Perm ((library.screensOf version).map Screen.id)) :
      Renumbers slugify library version ordre ↔
        RanksApart library version ordre ∧ 2 * ordre.length ≤ maxSmallInteger := by
    rw [Renumbers, within_column_iff, serve_reordonnerEcrans slugify found draft perm, and_comm]
    refine and_congr_left fun _ => ?_
    rcases reorderScreens_cases perm with ⟨crossed, refused⟩ | ⟨apart, after, written, numbered⟩
    · refine iff_of_false (fun renumbers => ?_) crossed
      rw [refused] at renumbers
      cases renumbers.1
    · refine iff_of_true ⟨by rw [written]; rfl, ?_⟩ apart
      dsimp only
      rw [Library.applyStudio, Library.write?, written]
      exact numbered
  exact always_of_step (fun _ _ _ => exact_at _) (exact_at start) requests

end Requests

/-! Four screens of which the first two are deleted, and the others exchanged. -/

section Gap

def phishingCourse (key : Nat) : Course := ⟨key, "hameconnage", "Hameçonnage", "", none⟩

def firstDraft (key : Nat) : CourseVersion := ⟨key, 0, 1, none, 70, 3, ""⟩

theorem ident_phishingCourse (key : Nat) : ident (phishingCourse key) = key := rfl

theorem ident_firstDraft (key : Nat) : ident (firstDraft key) = key := rfl

def openDraft : Library where
  courses := Table.empty.create phishingCourse ident_phishingCourse
  versions := Table.empty.create firstDraft ident_firstDraft
  screens := Table.empty
  questions := Table.empty
  choices := Table.empty

def writeScreen (title : String) : StudioRequest :=
  .ecrireEcran 0 none title
    [.obj [("type", .str "paragraphe"), ("texte", .str "Vérifiez l'expéditeur.")]] 60

def leavingGap : List StudioRequest :=
  [writeScreen "A", writeScreen "B", writeScreen "C", writeScreen "D", .supprimerEcran 0 0,
    .supprimerEcran 0 1]

theorem reordonnerEcrans_leavingGap :
    let library := after (serve Library.applyStudio (studioProgram id)) openDraft leavingGap
    (library.screensOf 0).map Screen.id = [2, 3] ∧
      (library.screensOf 0).map Screen.order = [3, 4] ∧
        (library.versions.find? 0).any (fun row => !row.isPublished) ∧
          [3, 2].Perm ((library.screensOf 0).map Screen.id) ∧
            ¬Renumbers id library 0 [3, 2] := by
  refine ⟨by decide +kernel, by decide +kernel, by decide +kernel, by decide +kernel, ?_⟩
  intro renumbers
  have refused : ((after (serve Library.applyStudio (studioProgram id)) openDraft
      leavingGap).reorderScreens 0 [3, 2]).isSome = false := by
    decide +kernel
  rw [renumbers.2.1] at refused
  cases refused

end Gap

end RssiService.Training
