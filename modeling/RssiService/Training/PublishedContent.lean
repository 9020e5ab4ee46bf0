import RssiService.Foundation.Outcome
import RssiService.Foundation.Reliance
import RssiService.Training.Studio

/-!
# The content of published versions

The studio refuses to write in a published version, on the version as it was loaded.
The loading command writes in the last version of a course, published or not, where
it is asked to load the content anew or finds none.
-/

namespace RssiService.Training

open Foundation Run Interleaving Reliance Python

/-- A version has the same screens, questions and choices before and after. -/
structure SameContent (version : Nat) (before after : Library) : Prop where
  screens : ∀ row : Screen, row.version = version → (row ∈ after.screens ↔ row ∈ before.screens)
  questions : ∀ row : Question, row.version = version →
    (row ∈ after.questions ↔ row ∈ before.questions)
  choices : ∀ row : Choice,
    (∃ question ∈ before.questions, question.id = row.question ∧ question.version = version) →
      (row ∈ after.choices ↔ row ∈ before.choices)

theorem SameContent.refl {version : Nat} (library : Library) :
    SameContent version library library :=
  ⟨fun _ _ => Iff.rfl, fun _ _ => Iff.rfl, fun _ _ => Iff.rfl⟩

theorem SameContent.trans {version : Nat} {first second third : Library}
    (earlier : SameContent version first second) (later : SameContent version second third) :
    SameContent version first third where
  screens row own := (later.screens row own).trans (earlier.screens row own)
  questions row own := (later.questions row own).trans (earlier.questions row own)
  choices row asked := by
    obtain ⟨question, member, same, own⟩ := asked
    have kept := (earlier.questions question own).mpr member
    exact (later.choices row ⟨question, kept, same, own⟩).trans
      (earlier.choices row ⟨question, member, same, own⟩)

/-- Every question refers to a screen of its version. -/
def Attached (library : Library) : Prop :=
  ∀ question ∈ library.questions, ∃ screen ∈ library.screens,
    screen.id = question.screen ∧ screen.version = question.version

/-- The version is a draft. -/
def IsDraft (version : Nat) (library : Library) : Prop :=
  ∀ row ∈ library.versions, row.id = version → row.isPublished = false

/-! ## Writes in one version -/

/-- Content is written in a version, while the others keep theirs. -/
structure StaysIn (version : Nat) (before after : Library) : Prop where
  attached : Attached before → Attached after
  others : Attached before → ∀ other, other ≠ version → SameContent other before after
  versions : after.versions = before.versions

namespace StaysIn

variable {version : Nat} {library : Library}

theorem refl (version : Nat) (library : Library) : StaysIn version library library :=
  ⟨id, fun _ _ _ => .refl library, rfl⟩

theorem trans {first second third : Library} (earlier : StaysIn version first second)
    (later : StaysIn version second third) : StaysIn version first third where
  attached valid := later.attached (earlier.attached valid)
  others valid other apart :=
    (earlier.others valid other apart).trans (later.others (earlier.attached valid) other apart)
  versions := later.versions.trans earlier.versions

/-- Writes that each stay in a version stay in it together. -/
theorem foldlM {Value : Type*} {write : Library → Value → Option Library}
    (stays : ∀ library value after, write library value = some after →
      StaysIn version library after)
    {values : List Value} {after : Library} (written : values.foldlM write library = some after) :
    StaysIn version library after :=
  Outcome.related_foldlM (refl version) trans stays written

/-- The courses hold no content. -/
theorem of_courses {courses : Table Course} : StaysIn version library { library with courses } :=
  ⟨id, fun _ _ _ => ⟨fun _ _ => Iff.rfl, fun _ _ => Iff.rfl, fun _ _ => Iff.rfl⟩, rfl⟩

theorem of_screens {screens : Table Screen}
    (others : ∀ row : Screen, row.version ≠ version → (row ∈ screens ↔ row ∈ library.screens))
    (kept : ∀ row ∈ library.screens, ∃ later ∈ screens,
      later.id = row.id ∧ later.version = row.version) :
    StaysIn version library { library with screens } where
  attached valid := by
    intro question member
    obtain ⟨screen, inside, same, own⟩ := valid question member
    obtain ⟨later, present, same', own'⟩ := kept screen inside
    exact ⟨later, present, same'.trans same, own'.trans own⟩
  others _ _ apart :=
    { screens := fun row own => others row (own ▸ apart)
      questions := fun _ _ => Iff.rfl
      choices := fun _ _ => Iff.rfl }
  versions := rfl

theorem of_questions {questions : Table Question} {choices : Table Choice}
    (others : Attached library → ∀ row : Question, row.version ≠ version →
      (row ∈ questions ↔ row ∈ library.questions))
    (attached : Attached library → ∀ row ∈ questions, ∃ screen ∈ library.screens,
      screen.id = row.screen ∧ screen.version = row.version)
    (answered : Attached library → ∀ question ∈ library.questions, question.version ≠ version →
      ∀ row : Choice, row.question = question.id → (row ∈ choices ↔ row ∈ library.choices)) :
    StaysIn version library { library with questions, choices } where
  attached := attached
  others valid _ apart :=
    { screens := fun _ _ => Iff.rfl
      questions := fun row own => others valid row (own ▸ apart)
      choices := fun row ⟨question, member, same, own⟩ =>
        answered valid question member (own ▸ apart) row same.symm }
  versions := rfl

theorem addScreen {draft : ScreenDraft} {after : Library}
    (written : library.addScreen version draft = some after) : StaysIn version library after := by
  rw [Library.addScreen] at written
  split at written
  · cases written
  · obtain rfl := Option.some.inj written
    refine of_screens (fun row apart => Table.mem_create.trans (or_iff_left ?_))
      fun row member => ⟨row, ?_, rfl, rfl⟩
    · rintro rfl
      exact apart rfl
    · exact Table.mem_create.mpr (Or.inl member)

theorem saveScreen {screen : Nat} {draft : ScreenDraft} {after : Library}
    (written : library.saveScreen version screen draft = some after) :
    StaysIn version library after := by
  rw [Library.saveScreen] at written
  split at written
  · cases written
  · rename_i free
    obtain rfl := Option.some.inj written
    have stays : ∀ row ∈ library.screens, row.id = screen → row.version = version := by
      intro row member same
      by_contra apart
      refine free (Bool.or_eq_true_iff.mpr (Or.inr (List.any_eq_true.mpr ⟨row, member, ?_⟩)))
      simp [same, apart]
    refine of_screens (fun row apart => ?_) fun row member => ?_
    · rw [Table.mem_put]
      constructor
      · rintro (rfl | ⟨inside, -⟩)
        · exact absurd rfl apart
        · exact inside
      · intro inside
        exact Or.inr ⟨inside, fun same => apart (stays row inside same)⟩
    · by_cases same : row.id = screen
      · refine ⟨draft.row version screen, Table.mem_put.mpr (Or.inl rfl), same.symm, ?_⟩
        exact (stays row member same).symm
      · exact ⟨row, Table.mem_put.mpr (Or.inr ⟨member, same⟩), rfl, rfl⟩

theorem setScreenOrder {screen order : Nat} {after : Library}
    (written : library.setScreenOrder version screen order = some after) :
    StaysIn version library after := by
  rw [Library.setScreenOrder] at written
  split at written
  · cases written
  · obtain rfl := Option.some.inj written
    have version_kept (row : Screen) :
        (if (row.id = screen && row.version = version : Bool) then { row with order } else row).id
            = row.id ∧
          (if (row.id = screen && row.version = version : Bool) then { row with order }
            else row).version = row.version := by
      split
      · exact ⟨rfl, rfl⟩
      · exact ⟨rfl, rfl⟩
    refine of_screens (fun row apart => ?_) fun row member => ?_
    · rw [Table.mem_updateWhere]
      constructor
      · rintro ⟨source, inside, rfl⟩
        rw [(version_kept source).2] at apart
        rwa [if_neg (by simp [apart])]
      · intro inside
        exact ⟨row, inside, if_neg (by simp [apart])⟩
    · refine ⟨_, Table.mem_updateWhere.mpr ⟨row, member, rfl⟩, ?_⟩
      exact version_kept row

theorem reorderScreens {order : List Nat} {after : Library}
    (written : library.reorderScreens version order = some after) :
    StaysIn version library after :=
  foldlM (fun _ _ _ => setScreenOrder) written

theorem deleteQuestions {selected : Question → Bool}
    (own : Attached library → ∀ row ∈ library.questions, selected row = true →
      row.version = version) :
    StaysIn version library (library.deleteQuestions selected) := by
  refine of_questions (fun valid row apart => ?_) (fun valid row member => ?_)
    fun valid question member apart row same => ?_
  · refine Table.mem_deleteWhere.trans (and_iff_left_of_imp fun inside => ?_)
    exact Bool.eq_false_iff.mpr fun gone => apart (own valid row inside gone)
  · exact valid row (Table.mem_deleteWhere.mp member).1
  · refine Table.mem_deleteWhere.trans (and_iff_left_of_imp fun inside => ?_)
    refine Bool.eq_false_iff.mpr fun gone => ?_
    obtain ⟨deleted, present, both⟩ := List.any_eq_true.mp gone
    obtain ⟨chosen, asked⟩ := Bool.and_eq_true_iff.mp both
    have key : deleted.id = question.id := (of_decide_eq_true asked).trans same
    rw [Table.ident_injective present member key] at chosen
    exact apart (own valid question member chosen)

theorem deleteScreens {selected : Screen → Bool}
    (own : ∀ row ∈ library.screens, selected row = true → row.version = version) :
    StaysIn version library (library.deleteScreens selected) := by
  have gone_own (valid : Attached library) : ∀ row ∈ library.questions,
      (library.screens.rows.any fun screen => selected screen && screen.id = row.screen) = true →
        row.version = version := by
    intro row member gone
    obtain ⟨deleted, present, both⟩ := List.any_eq_true.mp gone
    obtain ⟨chosen, asked⟩ := Bool.and_eq_true_iff.mp both
    obtain ⟨screen, inside, same, version_eq⟩ := valid row member
    have key : deleted.id = screen.id := (of_decide_eq_true asked).trans same.symm
    rw [Table.ident_injective present inside key] at chosen
    exact version_eq.symm.trans (own screen inside chosen)
  have questions := deleteQuestions gone_own
  refine ⟨fun valid question member => ?_, fun valid other apart => ?_, questions.versions⟩
  · obtain ⟨kept, stays⟩ := Table.mem_deleteWhere.mp member
    obtain ⟨screen, inside, same, version_eq⟩ := valid question kept
    refine ⟨screen, Table.mem_deleteWhere.mpr ⟨inside, ?_⟩, same, version_eq⟩
    refine Bool.eq_false_iff.mpr fun chosen => Bool.eq_false_iff.mp stays ?_
    exact List.any_eq_true.mpr ⟨screen, inside, by simp [chosen, same]⟩
  · have same := questions.others valid other apart
    refine ⟨fun row version_eq => ?_, same.questions, same.choices⟩
    refine Table.mem_deleteWhere.trans (and_iff_left_of_imp fun inside => ?_)
    exact Bool.eq_false_iff.mpr fun chosen =>
      apart (version_eq.symm.trans (own row inside chosen))

theorem addChoices {question : Nat} {drafts : List ChoiceDraft}
    (own : ∀ row ∈ library.questions, row.id = question → row.version = version) :
    StaysIn version library (library.addChoices question drafts) := by
  refine of_questions (fun _ _ _ => Iff.rfl) (fun valid => valid)
    fun _ asked member apart row same => ?_
  constructor
  · intro inside
    rcases Table.mem_createAll inside with old | ⟨draft, _, key, rfl⟩
    · exact old
    · exact absurd (own asked member same.symm) apart
  · exact Table.mem_createAll_of_mem

theorem screenOf_attached {screen : Nat}
    (found : ¬(library.screenOf version screen).isNone = true) :
    ∃ row ∈ library.screens, row.id = screen ∧ row.version = version := by
  rw [Option.isNone_iff_eq_none] at found
  obtain ⟨row, present⟩ := Option.ne_none_iff_exists'.mp found
  obtain ⟨inside, own⟩ := Option.filter_eq_some_iff.mp present
  obtain ⟨member, key⟩ := Table.find?_eq_some_iff.mp inside
  exact ⟨row, member, key, of_decide_eq_true own⟩

theorem addQuestion {screen : Nat} {draft : QuestionDraft} {after : Library}
    (written : library.addQuestion version screen draft = some after) :
    StaysIn version library after := by
  rw [Library.addQuestion] at written
  split at written
  · cases written
  · rename_i allowed
    obtain rfl := Option.some.inj written
    rw [Bool.or_eq_true, not_or] at allowed
    refine trans (of_questions (fun _ row apart => ?_) (fun valid row member => ?_)
      fun _ _ _ _ _ _ => Iff.rfl) (addChoices fun row member same => ?_)
    · refine Table.mem_create.trans (or_iff_left ?_)
      rintro rfl
      exact apart rfl
    · rcases Table.mem_create.mp member with old | rfl
      · exact valid row old
      · exact screenOf_attached allowed.2
    · have created : row ∈ library.questions.create (draft.row version screen) fun _ => rfl :=
        member
      rcases Table.mem_create.mp created with old | rfl
      · exact absurd same (Table.ne_next old)
      · rfl

theorem saveQuestion {question screen : Nat} {draft : QuestionDraft} {after : Library}
    (written : library.saveQuestion version question screen draft = some after) :
    StaysIn version library after := by
  rw [Library.saveQuestion] at written
  split at written
  · cases written
  · rename_i allowed
    obtain rfl := Option.some.inj written
    rw [Bool.or_eq_true, Bool.or_eq_true, not_or, not_or] at allowed
    have stays : ∀ row ∈ library.questions, row.id = question → row.version = version := by
      intro row member same
      by_contra apart
      exact allowed.2 (List.any_eq_true.mpr ⟨row, member, by simp [same, apart]⟩)
    refine trans (of_questions (fun _ row apart => ?_) (fun valid row member => ?_)
      fun _ asked member apart row same => ?_) (addChoices fun row member same => ?_)
    · rw [Table.mem_put]
      constructor
      · rintro (rfl | ⟨inside, -⟩)
        · exact absurd rfl apart
        · exact inside
      · exact fun inside => Or.inr ⟨inside, fun same => apart (stays row inside same)⟩
    · rcases Table.mem_put.mp member with rfl | ⟨old, -⟩
      · exact screenOf_attached allowed.1.2
      · exact valid row old
    · refine Table.mem_deleteWhere.trans (and_iff_left_of_imp fun _ => ?_)
      have other : asked.id ≠ question := fun own => apart (stays asked member own)
      simp [same, other]
    · have saved : row ∈ library.questions.put (draft.row version screen question) := member
      rcases Table.mem_put.mp saved with rfl | ⟨-, apart⟩
      · rfl
      · exact absurd same apart

theorem addContent {screens : List ScreenDraft} {questions : List (Nat × QuestionDraft)}
    {after : Library} (written : library.addContent version screens questions = some after) :
    StaysIn version library after := by
  rw [Library.addContent, Option.bind_eq_bind, Option.bind_eq_some_iff] at written
  obtain ⟨loaded, first, later⟩ := written
  refine (foldlM (fun _ _ _ => addScreen) first).trans (foldlM ?_ later)
  rintro middle ⟨position, draft⟩ result asked
  dsimp only at asked
  split at asked
  · exact addQuestion asked
  · cases asked

theorem addCourse (version : Nat) {target : CourseTarget} {after : Library} {course : Nat}
    (written : library.addCourse target = some (after, course)) :
    StaysIn version library after := by
  cases target with
  | existing key =>
      cases written
      exact refl version library
  | new slug title summary owner =>
      rw [Library.addCourse] at written
      split at written
      · cases written
      · cases written
        exact of_courses

theorem retitle {course : Nat} {title summary : String} :
    StaysIn version library (library.retitle course title summary) :=
  of_courses

end StaysIn

/-! ## Whole writes -/

/-- A version is written, and perhaps published, while the others keep their content and
no draft among them is published. -/
structure Fills (version : Nat) (before after : Library) : Prop where
  attached : Attached before → Attached after
  others : Attached before → ∀ other, other ≠ version → SameContent other before after
  published : ∀ row ∈ before.versions, row.isPublished = true →
    ∃ later ∈ after.versions, later.id = row.id ∧ later.isPublished = true
  drafts : ∀ other, other ≠ version → IsDraft other before → IsDraft other after

namespace Fills

variable {version : Nat} {library : Library}

theorem of_staysIn {after : Library} (stays : StaysIn version library after) :
    Fills version library after where
  attached := stays.attached
  others := stays.others
  published row member shown := ⟨row, stays.versions ▸ member, rfl, shown⟩
  drafts _ _ draft row member := draft row (stays.versions ▸ member)

theorem trans {first second third : Library} (earlier : Fills version first second)
    (later : Fills version second third) : Fills version first third where
  attached valid := later.attached (earlier.attached valid)
  others valid other apart :=
    (earlier.others valid other apart).trans (later.others (earlier.attached valid) other apart)
  published row member shown := by
    obtain ⟨middle, inside, same, still⟩ := earlier.published row member shown
    obtain ⟨last, kept, same', ending⟩ := later.published middle inside still
    exact ⟨last, kept, same'.trans same, ending⟩
  drafts other apart draft := later.drafts other apart (earlier.drafts other apart draft)

theorem addVersion {course number passThreshold maxAttempts added : Nat} {changeNote : String}
    {after : Library} (written : library.addVersion course number passThreshold maxAttempts
      changeNote = some (after, added)) :
    Fills added library after ∧ added = library.versions.next ∧ IsDraft added after := by
  rw [Library.addVersion] at written
  split at written
  · cases written
  · cases written
    refine ⟨⟨id, fun _ _ _ => ⟨fun _ _ => Iff.rfl, fun _ _ => Iff.rfl, fun _ _ => Iff.rfl⟩,
      fun row member shown => ?_, fun other apart draft row member own => ?_⟩, rfl,
      fun row member own => ?_⟩
    · exact ⟨row, Table.mem_create.mpr (Or.inl member), rfl, shown⟩
    · rcases Table.mem_create.mp member with old | rfl
      · exact draft row old own
      · rfl
    · rcases Table.mem_create.mp member with old | rfl
      · exact absurd own (Table.ne_next old)
      · rfl

theorem publish {now : Nat} : Fills version library (library.publish version now) := by
  rw [Library.publish]
  refine ⟨id, fun _ _ _ => ⟨fun _ _ => Iff.rfl, fun _ _ => Iff.rfl, fun _ _ => Iff.rfl⟩,
    fun row member shown => ?_, fun other apart draft row member own => ?_⟩
  · by_cases own : row.id = version
    · refine ⟨{ row with publishedAt := some now }, ?_, rfl, rfl⟩
      rw [Table.mem_modify]
      exact ⟨row, member, if_pos own⟩
    · refine ⟨row, ?_, rfl, shown⟩
      rw [Table.mem_modify]
      exact ⟨row, member, if_neg own⟩
  · rw [Table.mem_modify] at member
    obtain ⟨source, inside, rfl⟩ := member
    by_cases chosen : ident source = version
    · rw [if_pos chosen] at own
      exact absurd (own.symm.trans chosen) apart
    · rw [if_neg chosen] at own ⊢
      exact draft source inside own

theorem loadedVersion {course target : Nat} {found : Option CourseVersion} {reset : Bool}
    {data : CourseData} {after : Library}
    (written : library.loadedVersion course found reset data = some (after, target)) :
    Fills target library after ∧
      target = (found.map CourseVersion.id).getD library.versions.next := by
  cases found with
  | none =>
      obtain ⟨fills, target_eq, -⟩ := addVersion written
      exact ⟨fills, target_eq⟩
  | some version =>
      rw [Library.loadedVersion] at written
      cases reset with
      | false =>
          cases written
          exact ⟨of_staysIn (.refl _ library), rfl⟩
      | true =>
          cases written
          refine ⟨of_staysIn ?_, rfl⟩
          refine (StaysIn.deleteScreens fun _ _ => of_decide_eq_true).trans (.deleteQuestions ?_)
          exact fun _ _ _ => of_decide_eq_true

theorem createVersion {target : CourseTarget} {number passThreshold maxAttempts : Nat}
    {changeNote : String} {screens : List ScreenDraft} {questions : List (Nat × QuestionDraft)}
    {after : Library} (written : library.createVersion target number passThreshold maxAttempts
      changeNote screens questions = some after) :
    Fills library.versions.next library after ∧ IsDraft library.versions.next after := by
  rw [Library.createVersion, Option.bind_eq_bind, Option.bind_eq_some_iff] at written
  obtain ⟨⟨titled, course⟩, first, written⟩ := written
  dsimp only at written
  rw [Option.bind_eq_some_iff] at written
  obtain ⟨⟨opened, added⟩, second, third⟩ := written
  have titles := StaysIn.addCourse added first
  obtain ⟨opens, added_eq, draft⟩ := addVersion second
  have fills := StaysIn.addContent third
  rw [← titles.versions, ← added_eq]
  refine ⟨((of_staysIn titles).trans opens).trans (of_staysIn fills), ?_⟩
  exact fun row member => draft row (fills.versions ▸ member)

theorem load {target : CourseTarget} {found : Option CourseVersion} {reset : Bool}
    {data : CourseData} {now : Nat} {after : Library}
    (written : library.load target found reset data now = some after) :
    Fills ((found.map CourseVersion.id).getD library.versions.next) library after := by
  rw [Library.load, Option.bind_eq_bind, Option.bind_eq_some_iff] at written
  obtain ⟨⟨titled, course⟩, first, written⟩ := written
  dsimp only at written
  rw [Option.bind_eq_some_iff] at written
  obtain ⟨⟨opened, filled⟩, second, written⟩ := written
  dsimp only at written
  rw [Option.bind_eq_bind, Option.bind_eq_some_iff] at written
  obtain ⟨loaded, third, written⟩ := written
  obtain ⟨opens, target_eq⟩ := loadedVersion second
  have titles : StaysIn filled library (titled.retitle course data.title data.summary) :=
    (StaysIn.addCourse filled first).trans .retitle
  have filled_eq : filled = (found.map CourseVersion.id).getD library.versions.next := by
    rw [target_eq, titles.versions]
  rw [← filled_eq]
  have filling := ((of_staysIn titles).trans opens).trans (of_staysIn (.addContent third))
  split at written
  · cases written
    exact filling
  · split at written
    · cases written
      exact filling.trans publish
    · cases written

end Fills

/-- The version that a write is made in; a new one where it creates one. -/
def StudioWrite.target (library : Library) : StudioWrite → Nat
  | .createVersion .. | .retitle .. => library.versions.next
  | .addScreen version _ | .saveScreen version _ _ | .reorderScreens version _ |
    .deleteScreen version _ | .addQuestion version _ _ | .saveQuestion version _ _ _ |
    .deleteQuestion version _ | .publish version _ => version
  | .load _ found _ _ _ => (found.map CourseVersion.id).getD library.versions.next

/-- The version that a studio operation writes in. -/
def StudioWrite.draft : StudioWrite → Option Nat
  | .addScreen version _ | .saveScreen version _ _ | .reorderScreens version _ |
    .deleteScreen version _ | .addQuestion version _ _ | .saveQuestion version _ _ _ |
    .deleteQuestion version _ => some version
  | _ => none

/-- The version that the loading command writes in. -/
def StudioWrite.loaded : StudioWrite → Option Nat
  | .load _ found _ _ _ => found.map CourseVersion.id
  | _ => none

theorem staysIn_draft {library after : Library} {change : StudioWrite} {version : Nat}
    (drafted : change.draft = some version) (written : library.write? change = some after) :
    StaysIn version library after := by
  cases change with
  | createVersion => cases drafted
  | publish => cases drafted
  | retitle => cases drafted
  | load => cases drafted
  | addScreen =>
      cases drafted
      exact .addScreen written
  | saveScreen =>
      cases drafted
      exact .saveScreen written
  | reorderScreens =>
      cases drafted
      exact .reorderScreens written
  | deleteScreen =>
      cases drafted
      cases written
      exact .deleteScreens fun row _ chosen => of_decide_eq_true (Bool.and_eq_true_iff.mp chosen).2
  | addQuestion =>
      cases drafted
      exact .addQuestion written
  | saveQuestion =>
      cases drafted
      exact .saveQuestion written
  | deleteQuestion =>
      cases drafted
      cases written
      exact .deleteQuestions fun _ row _ chosen =>
        of_decide_eq_true (Bool.and_eq_true_iff.mp chosen).2

theorem target_of_draft {library : Library} {change : StudioWrite} {version : Nat}
    (drafted : change.draft = some version) : change.target library = version := by
  cases change with
  | createVersion => cases drafted
  | publish => cases drafted
  | retitle => cases drafted
  | load => cases drafted
  | _ => exact Option.some.inj drafted

theorem fills_target {library after : Library} {change : StudioWrite}
    (written : library.write? change = some after) :
    Fills (change.target library) library after := by
  cases drafted : change.draft with
  | some version =>
      rw [target_of_draft drafted]
      exact .of_staysIn (staysIn_draft drafted written)
  | none =>
      cases change with
      | createVersion course number passThreshold maxAttempts changeNote screens questions =>
          exact (Fills.createVersion written).1
      | publish version now =>
          cases written
          exact .publish
      | retitle course title summary =>
          cases written
          exact .of_staysIn .retitle
      | load course found reset data now => exact .load written
      | _ => cases drafted

theorem fills_applyStudio (library : Library) (change : StudioWrite) :
    Fills (change.target library) library (library.applyStudio change) := by
  rw [Library.applyStudio]
  cases written : library.write? change with
  | none => exact .of_staysIn (.refl _ library)
  | some after => exact fills_target written

/-! ## Published versions -/

/-- An operation of the studio needs the version that it writes in to be a draft. -/
def draftStakes : Stakes Library StudioWrite Nat where
  clear := IsDraft
  acts version change := change.draft = some version

/-- The published versions stay published, and their content is that of before, unless
the write is a load of the version. -/
def PublishedKept (library : Library) (change : StudioWrite) : Prop :=
  ∀ row ∈ library.versions, row.isPublished = true →
    (∃ later ∈ (library.applyStudio change).versions,
      later.id = row.id ∧ later.isPublished = true) ∧
    (SameContent row.id library (library.applyStudio change) ∨ change.loaded = some row.id)

/-- The version that a write publishes, or may. -/
def StudioWrite.published (library : Library) : StudioWrite → Option Nat
  | .publish version _ => some version
  | .load _ found _ _ _ => some ((found.map CourseVersion.id).getD library.versions.next)
  | _ => none

/-- No other operation that found the version to be a draft has still to write in it when
it is published. -/
def PublishesApart (session : Session Library StudioWrite) : Moment StudioRequest → Prop
  | .arrive _ _ => True
  | .advance client =>
      match session.pending client with
      | .write change next =>
          ∀ version, change.published session.state = some version → ∀ other,
            ¬draftStakes.Relies version (Function.update session.pending client next other)
      | _ => True

/-- Only a publication and a load put an end to a draft. -/
theorem isDraft_write {library after : Library} {change : StudioWrite} {version : Nat}
    (written : library.write? change = some after) (draft : IsDraft version library)
    (apart : change.published library ≠ some version) : IsDraft version after := by
  by_cases own : version = change.target library
  · cases drafted : change.draft with
    | some inside =>
        exact fun row member => draft row ((staysIn_draft drafted written).versions ▸ member)
    | none =>
        cases change with
        | createVersion course number passThreshold maxAttempts changeNote screens questions =>
            rw [own]
            exact (Fills.createVersion written).2
        | retitle course title summary =>
            cases written
            exact draft
        | publish published now => exact absurd (congrArg some own.symm) apart
        | load course found reset data now => exact absurd (congrArg some own.symm) apart
        | _ => cases drafted
  · exact (fills_target written).drafts version own draft

theorem isDraft_applyStudio {library : Library} {change : StudioWrite} {version : Nat}
    (draft : IsDraft version library) (apart : change.published library ≠ some version) :
    IsDraft version (library.applyStudio change) := by
  rw [Library.applyStudio]
  cases written : library.write? change with
  | none => exact draft
  | some after => exact isDraft_write written draft apart

theorem publishedKept_of_finds {library : Library} {change : StudioWrite}
    (attached : Attached library) (finds : draftStakes.Finds library change) :
    PublishedKept library change := by
  intro row member shown
  have fills := fills_applyStudio library change
  refine ⟨fills.published row member shown, ?_⟩
  by_cases own : row.id = change.target library
  · cases drafted : change.draft with
    | some version =>
        rw [finds version drafted row member (own.trans (target_of_draft drafted))] at shown
        cases shown
    | none =>
        cases change with
        | createVersion => exact absurd own (Table.ne_next member)
        | retitle => exact absurd own (Table.ne_next member)
        | publish version now =>
            exact Or.inl ⟨fun _ _ => Iff.rfl, fun _ _ => Iff.rfl, fun _ _ => Iff.rfl⟩
        | load course found reset data now =>
            cases found with
            | none => exact absurd own (Table.ne_next member)
            | some version => exact Or.inr (congrArg some own.symm)
        | _ => cases drafted
  · exact Or.inl (fills.others attached row.id own)

/-! ## What the operations rely on -/

section Operations

variable {slugify : String → String} {session : Session Library StudioWrite} {key : Nat}

/-- An operation that has read that its version is a draft relies on nothing before. -/
theorem not_relies_versionModifiable {version : Nat} {next : CourseVersion → StudioProgram}
    (own : ∀ row change, (next row).Makes change → change.draft = some row.id) :
    ¬draftStakes.Relies key (versionModifiable version next) := by
  rintro ⟨library, missing, relies⟩
  dsimp only at relies
  cases found : library.versions.find? version with
  | none =>
      rw [found] at relies
      exact relies
  | some row =>
      rw [found] at relies
      dsimp only at relies
      split at relies
      · exact relies
      · rename_i unpublished
        obtain ⟨change, makes, needs⟩ := Stakes.makes_of_relies relies
        obtain rfl := Option.some.inj ((own row change makes).symm.trans needs)
        refine missing fun other member same => ?_
        rw [Table.ident_injective member (Table.mem_of_find? found) same]
        exact Bool.eq_false_iff.mpr unpublished

theorem not_relies_of_makes {program : StudioProgram}
    (quiet : ∀ change, program.Makes change → change.draft = none) :
    ¬draftStakes.Relies key program := by
  intro relies
  obtain ⟨change, makes, needs⟩ := Stakes.makes_of_relies relies
  exact Option.some_ne_none key (needs.symm.trans (quiet change makes))

theorem not_relies_ecrireEcran {version seconds : Nat} {screen : Option Nat} {title : String}
    {content : List Json} :
    ¬draftStakes.Relies key (ecrireEcran version screen title content seconds) := by
  refine not_relies_versionModifiable fun row change makes => ?_
  obtain ⟨library, makes⟩ := makes
  dsimp only at makes
  split at makes
  · obtain rfl := makes.resolve_right id
    rfl
  · split at makes
    · exact makes.elim
    · obtain rfl := makes.resolve_right id
      rfl

theorem not_relies_reordonnerEcrans {version : Nat} {ordre : List Nat} :
    ¬draftStakes.Relies key (reordonnerEcrans version ordre) := by
  refine not_relies_versionModifiable fun row change makes => ?_
  obtain ⟨library, makes⟩ := makes
  dsimp only at makes
  split at makes
  · obtain rfl := makes.resolve_right id
    rfl
  · exact makes.elim

theorem not_relies_supprimerEcran {version screen : Nat} :
    ¬draftStakes.Relies key (supprimerEcran version screen) := by
  refine not_relies_versionModifiable fun row change makes => ?_
  obtain ⟨library, makes⟩ := makes
  dsimp only at makes
  split at makes
  · exact makes.elim
  · obtain ⟨later, makes⟩ := makes
    dsimp only at makes
    split at makes
    · exact makes.elim
    · obtain rfl := makes.resolve_right id
      rfl

theorem not_relies_ecrireQuestion {version screen : Nat} {question : Option Nat} {text : String}
    {kind : Kind} {explanation : String} {choix : List (String × Bool)} :
    ¬draftStakes.Relies key
      (ecrireQuestion version question text kind explanation screen choix) := by
  refine not_relies_versionModifiable fun row change makes => ?_
  dsimp only at makes
  split at makes
  · exact makes.elim
  · obtain ⟨library, makes⟩ := makes
    dsimp only at makes
    split at makes
    · exact makes.elim
    · obtain ⟨later, makes⟩ := makes
      dsimp only at makes
      split at makes
      · obtain rfl := makes.resolve_right id
        rfl
      · split at makes
        · exact makes.elim
        · obtain rfl := makes.resolve_right id
          rfl

theorem not_relies_supprimerQuestion {version question : Nat} :
    ¬draftStakes.Relies key (supprimerQuestion version question) := by
  refine not_relies_versionModifiable fun row change makes => ?_
  obtain ⟨library, makes⟩ := makes
  dsimp only at makes
  split at makes
  · exact makes.elim
  · obtain rfl := makes.resolve_right id
    rfl

theorem not_relies_publier {version now : Nat} :
    ¬draftStakes.Relies key (publier version now) := by
  refine not_relies_of_makes fun change makes => ?_
  obtain ⟨library, makes⟩ := makes
  dsimp only at makes
  split at makes
  · exact makes.elim
  · split at makes
    · exact makes.elim
    · obtain ⟨later, makes⟩ := makes
      dsimp only at makes
      split at makes
      · obtain rfl := makes.resolve_right id
        rfl
      · exact makes.elim

theorem makes_recopierContenu {source : Nat}
    {next : List ScreenDraft → List (Nat × QuestionDraft) → StudioProgram} {change : StudioWrite}
    (makes : (recopierContenu source next).Makes change) :
    ∃ screens questions, (next screens questions).Makes change := by
  obtain ⟨library, later, makes⟩ := makes
  dsimp only at makes
  split at makes
  · exact makes.elim
  · exact ⟨_, _, makes⟩

theorem not_relies_nouvelleVersion {course : Nat} {changeNote : String} :
    ¬draftStakes.Relies key (nouvelleVersion course changeNote) := by
  refine not_relies_of_makes fun change makes => ?_
  obtain ⟨library, makes⟩ := makes
  dsimp only at makes
  split at makes
  · exact makes.elim
  · obtain ⟨later, makes⟩ := makes
    dsimp only at makes
    split at makes
    · exact makes.elim
    · obtain ⟨screens, questions, makes⟩ := makes_recopierContenu makes
      obtain rfl := makes.resolve_right id
      rfl

theorem not_relies_dupliquer {course : Nat} {owner : Option Nat} {titre : Option String} :
    ¬draftStakes.Relies key (dupliquer slugify course owner titre) := by
  refine not_relies_of_makes fun change makes => ?_
  obtain ⟨library, makes⟩ := makes
  dsimp only at makes
  split at makes
  · obtain ⟨later, makes⟩ := makes
    obtain ⟨screens, questions, makes⟩ := makes_recopierContenu makes
    obtain rfl := makes.resolve_right id
    rfl
  · exact makes.elim

theorem not_relies_unCours {data : CourseData} {reset : Bool} {now : Nat} :
    ¬draftStakes.Relies key (unCours data reset now) := by
  refine not_relies_of_makes fun change makes => ?_
  obtain ⟨library, makes⟩ := makes
  dsimp only at makes
  split at makes
  · obtain rfl := makes.resolve_right id
    rfl
  · obtain ⟨later, makes⟩ := makes
    dsimp only at makes
    split at makes
    · obtain rfl := makes.resolve_right id
      rfl
    · split at makes
      · obtain rfl := makes.resolve_right id
        rfl
      · obtain ⟨last, makes⟩ := makes
        dsimp only at makes
        split at makes
        · obtain rfl := makes.resolve_right id
          rfl
        · obtain rfl := makes.resolve_right id
          rfl

/-- Every operation may come in at any time. -/
theorem not_relies_studioProgram (request : StudioRequest) :
    ¬draftStakes.Relies key (studioProgram slugify request) := by
  cases request with
  | creerCours title summary owner =>
      refine not_relies_of_makes fun change makes => ?_
      obtain ⟨library, makes⟩ := makes
      obtain rfl := makes.resolve_right id
      rfl
  | dupliquer course owner titre => exact not_relies_dupliquer
  | nouvelleVersion course changeNote => exact not_relies_nouvelleVersion
  | ecrireEcran version screen title content seconds => exact not_relies_ecrireEcran
  | reordonnerEcrans version ordre => exact not_relies_reordonnerEcrans
  | supprimerEcran version screen => exact not_relies_supprimerEcran
  | ecrireQuestion version question text kind explanation screen choix =>
      exact not_relies_ecrireQuestion
  | supprimerQuestion version question => exact not_relies_supprimerQuestion
  | publier version now => exact not_relies_publier
  | unCours data reset now => exact not_relies_unCours

/-- Where the versions are published apart, the operations in progress keep the drafts that
they rely on. -/
theorem keepsCover_of_publishesApart {moment : Moment StudioRequest}
    (covered : draftStakes.Covered session) (apart : PublishesApart session moment) :
    draftStakes.KeepsCover Library.applyStudio (studioProgram slugify) session moment := by
  cases moment with
  | arrive client request =>
      exact fun _ version relies => absurd relies (not_relies_studioProgram request)
  | advance client =>
      rw [PublishesApart] at apart
      rw [Stakes.KeepsCover]
      cases left : session.pending client with
      | done => trivial
      | read next => trivial
      | write change next =>
          rw [left] at apart
          intro other version relies
          refine isDraft_applyStudio ?_ fun published => apart version published other relies
          exact covered other version (Stakes.relies_of_write left relies)

theorem always_covered {start : Session Library StudioWrite} {moments : List (Moment StudioRequest)}
    (covered : draftStakes.Covered start)
    (apart : EachStep (step Library.applyStudio (studioProgram slugify)) PublishesApart start
      moments) :
    Always (step Library.applyStudio (studioProgram slugify)) draftStakes.Covered start
      moments := by
  refine always_of_eachStep covered (apart.imp fun session moment published covered => ?_)
  exact (Stakes.covered_step_iff covered moment).mpr
    (keepsCover_of_publishesApart covered published)

theorem always_attached {start : Session Library StudioWrite}
    {moments : List (Moment StudioRequest)} (attached : Attached start.state) :
    Always (step Library.applyStudio (studioProgram slugify))
      (fun session => Attached session.state) start moments := by
  refine always_of_step (P := fun session : Session Library StudioWrite =>
    Attached session.state) (fun session moment valid => ?_) attached moments
  refine related_of_writeMeets (R := fun before after => Attached before → Attached after)
    (fun _ => id) ?_ valid
  exact WriteMeets.of_forall (fun library change => (fills_applyStudio library change).attached) _ _

end Operations

/-- The request is a run of the loading command, on a version that it found to be the last
one of its course: to load it anew, or because it found no screen there. -/
def LoadsAnew (version : Nat) : StudioRequest → Prop
  | .unCours _ reset _ =>
      (∃ (library : Library) (course : Nat),
        (library.latestVersion course).map CourseVersion.id = some version) ∧
      (reset = true ∨ ∃ library : Library, library.screensOf version = [])
  | _ => False

theorem loadsAnew_of_makes {data : CourseData} {reset : Bool} {now version : Nat}
    {change : StudioWrite} (makes : (unCours data reset now).Makes change)
    (loaded : change.loaded = some version) : LoadsAnew version (.unCours data reset now) := by
  obtain ⟨library, makes⟩ := makes
  dsimp only at makes
  split at makes
  · obtain rfl := makes.resolve_right id
    cases loaded
  · rename_i cours _
    obtain ⟨later, makes⟩ := makes
    dsimp only at makes
    split at makes
    · obtain rfl := makes.resolve_right id
      cases loaded
    · rename_i found latest
      have last : (later.latestVersion cours.id).map CourseVersion.id = some found.id :=
        congrArg (Option.map CourseVersion.id) latest
      split at makes
      · rename_i anew
        obtain rfl := makes.resolve_right id
        cases loaded
        exact ⟨⟨later, cours.id, last⟩, Or.inl anew⟩
      · obtain ⟨looked, makes⟩ := makes
        dsimp only at makes
        split at makes
        · rename_i bare
          obtain rfl := makes.resolve_right id
          cases loaded
          exact ⟨⟨later, cours.id, last⟩, Or.inr ⟨looked, List.isEmpty_iff.mp bare⟩⟩
        · obtain rfl := makes.resolve_right id
          cases loaded

section LoadedAnew

def sharingQuestion (key : Nat) : Question :=
  ⟨key, 0, 1, "Faut-il partager un mot de passe ?", .single, "Jamais.", 0⟩

theorem ident_sharingQuestion (key : Nat) : ident (sharingQuestion key) = key := rfl

def sharingChoice (value : String × Bool) (key : Nat) : Choice :=
  ⟨key, 0, key + 1, value.1, value.2⟩

theorem ident_sharingChoice (value : String × Bool) (key : Nat) :
    ident (sharingChoice value key) = key := rfl

def publishedCourse : Library where
  courses := Table.empty.create (fun key =>
    ⟨key, "mots-de-passe", "Mots de passe", "Un par service.", none⟩) fun _ => rfl
  versions := Table.empty.create (fun key => ⟨key, 0, 1, some 0, 70, 3, ""⟩) fun _ => rfl
  screens := Table.empty.create (fun key => ⟨key, 0, 1, "Un mot de passe", [], 60⟩) fun _ => rfl
  questions := Table.empty.create sharingQuestion ident_sharingQuestion
  choices := Table.empty.createAll sharingChoice ident_sharingChoice
    [("Oui", false), ("Non", true)]

def correctedCourse : CourseData where
  slug := "mots-de-passe"
  title := "Mots de passe"
  summary := "Un par service."
  seuil := 70
  ecrans := [("Un mot de passe par service", [], 60)]
  questions := [(1, 1, "Faut-il partager un mot de passe ?", .single, "Jamais.",
    [("Oui", false), ("Non", true)])]

def loadedAnew : List (Moment StudioRequest) :=
  [.arrive 0 (.unCours correctedCourse true 60), .advance 0, .advance 0, .advance 0]

/-- The same course before its publication. -/
def draftCourse : Library :=
  { publishedCourse with
    versions := Table.empty.create (fun key => ⟨key, 0, 1, none, 70, 3, ""⟩) fun _ => rfl }

/-- An operation finds the draft and comes to its write; the version is published. -/
def publishedMeanwhile : List (Moment StudioRequest) :=
  [.arrive 0 (.ecrireEcran 0 none "Un ajout" [] 60), .advance 0, .advance 0,
    .arrive 1 (.publier 0 60), .advance 1, .advance 1, .advance 1]

def ContentKept (first last : Session Library StudioWrite) : Prop :=
  ∀ row ∈ first.state.versions, row.isPublished = true →
    SameContent row.id first.state last.state

theorem attached_publishedCourse : Attached publishedCourse := by
  intro question member
  obtain rfl := List.mem_singleton.mp member
  exact ⟨_, List.mem_singleton_self _, rfl, rfl⟩

end LoadedAnew

end RssiService.Training
