import RssiService.Foundation.UniqueLabel
import RssiService.Training.PublishedContent

/-!
# What the tables of the courses always satisfy

Rows refer to rows that have been created, no two screens or questions of a version
have one rank, and the draft of a course is one, ahead of its published versions.
-/

namespace RssiService.Training

open Foundation Run Interleaving Python

def Screen.place (screen : Screen) : Nat × Nat := (screen.version, screen.order)

def Question.place (question : Question) : Nat × Nat := (question.version, question.order)

/-- Rows refer to rows that have been created, and ranks are held once in a version. -/
structure Sound (library : Library) : Prop where
  attached : Attached library
  owned : ∀ row ∈ library.versions, row.course < library.courses.next
  placed : ∀ row ∈ library.screens, row.version < library.versions.next
  answered : ∀ row ∈ library.choices, row.question < library.questions.next
  screenRanks : Table.UniqueLive (fun _ => True) Screen.place library.screens
  questionRanks : Table.UniqueLive (fun _ => True) Question.place library.questions

theorem vacant_of_screenRank_free {library : Library} {version order : Nat} {except : Option Nat}
    {key : Nat} (apart : ∀ other, except = some other → other = key)
    (free : ¬library.screenRankTaken version order except = true) :
    Table.Vacant (fun _ => True) Screen.place library.screens (version, order) key := by
  intro row member _ different same
  obtain ⟨rfl, rfl⟩ := Prod.mk.inj same
  refine free (List.any_eq_true.mpr ⟨row, member, ?_⟩)
  have other : some row.id ≠ except := fun chosen => different (apart _ chosen.symm)
  simp [other]

theorem vacant_of_questionRank_free {library : Library} {version order : Nat}
    {except : Option Nat} {key : Nat} (apart : ∀ other, except = some other → other = key)
    (free : ¬library.questionRankTaken version order except = true) :
    Table.Vacant (fun _ => True) Question.place library.questions (version, order) key := by
  intro row member _ different same
  obtain ⟨rfl, rfl⟩ := Prod.mk.inj same
  refine free (List.any_eq_true.mpr ⟨row, member, ?_⟩)
  have other : some row.id ≠ except := fun chosen => different (apart _ chosen.symm)
  simp [other]

namespace Sound

variable {library after : Library} {version : Nat}

theorem addScreen {draft : ScreenDraft} (sound : Sound library)
    (known : version < library.versions.next)
    (written : library.addScreen version draft = some after) : Sound after := by
  have attached := (StaysIn.addScreen written).attached sound.attached
  rw [Library.addScreen] at written
  split at written
  · cases written
  · rename_i free
    obtain rfl := Option.some.inj written
    refine ⟨attached, sound.owned, ?_, sound.answered, ?_, sound.questionRanks⟩
    · intro row member
      have listed : row ∈ library.screens.create (draft.row version) fun _ => rfl := member
      rcases Table.mem_create.mp listed with old | rfl
      · exact sound.placed row old
      · exact known
    · exact sound.screenRanks.create (fun _ => rfl) (vacant_of_screenRank_free (by simp) free)

theorem saveScreen {screen : Nat} {draft : ScreenDraft} (sound : Sound library)
    (known : version < library.versions.next)
    (written : library.saveScreen version screen draft = some after) : Sound after := by
  have attached := (StaysIn.saveScreen written).attached sound.attached
  rw [Library.saveScreen] at written
  split at written
  · cases written
  · rename_i free
    obtain rfl := Option.some.inj written
    rw [Bool.or_eq_true, not_or] at free
    refine ⟨attached, sound.owned, ?_, sound.answered, ?_, sound.questionRanks⟩
    · intro row member
      rcases Table.mem_put.mp member with rfl | ⟨old, -⟩
      · exact known
      · exact sound.placed row old
    · refine sound.screenRanks.put (vacant_of_screenRank_free ?_ free.1)
      intro other same
      exact (Option.some.inj same).symm

/-- A screen that is given a rank is one row, changed in its place. -/
theorem setScreenOrder {screen order : Nat} (sound : Sound library)
    (written : library.setScreenOrder version screen order = some after) : Sound after := by
  have attached := (StaysIn.setScreenOrder written).attached sound.attached
  rw [Library.setScreenOrder] at written
  split at written
  · cases written
  · rename_i allowed
    obtain rfl := Option.some.inj written
    rw [Bool.or_eq_true, not_or] at allowed
    obtain ⟨found, inside, rfl, rfl⟩ := StaysIn.screenOf_attached allowed.2
    have vacant := vacant_of_screenRank_free
      (fun other same => (Option.some.inj same).symm) allowed.1
    have changed (row : Screen) (old : row ∈ library.screens) :
        (if (row.id = found.id && row.version = found.version : Bool) then { row with order }
          else row) = { found with order } ∨
        row.id ≠ found.id ∧
          (if (row.id = found.id && row.version = found.version : Bool) then { row with order }
            else row) = row := by
      by_cases own : row.id = found.id
      · obtain rfl := Table.ident_injective old inside own
        exact Or.inl (if_pos (by simp))
      · exact Or.inr ⟨own, if_neg (by simp [own])⟩
    refine ⟨attached, sound.owned, ?_, sound.answered, ?_, sound.questionRanks⟩
    · intro row member
      rw [Table.mem_updateWhere] at member
      obtain ⟨source, old, rfl⟩ := member
      split
      · exact sound.placed source old
      · exact sound.placed source old
    · intro first inFirst second inSecond _ _ same
      rw [Table.mem_updateWhere] at inFirst inSecond
      obtain ⟨source, old, rfl⟩ := inFirst
      obtain ⟨source', old', rfl⟩ := inSecond
      rcases changed source old with chosen | ⟨apart, kept⟩
      · rcases changed source' old' with chosen' | ⟨apart', kept'⟩
        · rw [chosen, chosen']
        · rw [chosen, kept'] at same
          exact absurd same.symm (vacant source' old' trivial apart')
      · rcases changed source' old' with chosen' | ⟨apart', kept'⟩
        · rw [kept, chosen'] at same
          exact absurd same (vacant source old trivial apart)
        · rw [kept, kept'] at same ⊢
          exact sound.screenRanks source old source' old' trivial trivial same

theorem deleteQuestions (sound : Sound library) (selected : Question → Bool)
    (attached : Attached (library.deleteQuestions selected)) :
    Sound (library.deleteQuestions selected) where
  attached := attached
  owned := sound.owned
  placed := sound.placed
  answered row member := sound.answered row (Table.mem_deleteWhere.mp member).1
  screenRanks := sound.screenRanks
  questionRanks := sound.questionRanks.deleteWhere

theorem deleteScreens (sound : Sound library) (selected : Screen → Bool)
    (attached : Attached (library.deleteScreens selected)) :
    Sound (library.deleteScreens selected) where
  attached := attached
  owned := sound.owned
  placed row member := sound.placed row (Table.mem_deleteWhere.mp member).1
  answered row member := sound.answered row (Table.mem_deleteWhere.mp member).1
  screenRanks := sound.screenRanks.deleteWhere
  questionRanks := sound.questionRanks.deleteWhere

theorem addChoices {question : Nat} {drafts : List ChoiceDraft} (sound : Sound library)
    (known : question < library.questions.next) : Sound (library.addChoices question drafts) where
  attached := sound.attached
  owned := sound.owned
  placed := sound.placed
  answered row member := by
    rcases Table.mem_createAll member with old | ⟨draft, _, key, rfl⟩
    · exact sound.answered row old
    · exact known
  screenRanks := sound.screenRanks
  questionRanks := sound.questionRanks

theorem addQuestion {screen : Nat} {draft : QuestionDraft} (sound : Sound library)
    (written : library.addQuestion version screen draft = some after) : Sound after := by
  have attached := (StaysIn.addQuestion written).attached sound.attached
  rw [Library.addQuestion] at written
  split at written
  · cases written
  · rename_i allowed
    obtain rfl := Option.some.inj written
    rw [Bool.or_eq_true, not_or] at allowed
    have created : Sound { library with
        questions := library.questions.create (draft.row version screen) fun _ => rfl } := by
      refine ⟨attached, sound.owned, sound.placed, fun row member => ?_, sound.screenRanks, ?_⟩
      · exact (sound.answered row member).trans (Nat.lt_succ_self _)
      · exact sound.questionRanks.create (fun _ => rfl)
          (vacant_of_questionRank_free (by simp) allowed.1)
    exact created.addChoices (Nat.lt_succ_self _)

theorem saveQuestion {question screen : Nat} {draft : QuestionDraft} (sound : Sound library)
    (written : library.saveQuestion version question screen draft = some after) : Sound after := by
  have attached := (StaysIn.saveQuestion written).attached sound.attached
  rw [Library.saveQuestion] at written
  split at written
  · cases written
  · rename_i allowed
    obtain rfl := Option.some.inj written
    rw [Bool.or_eq_true, Bool.or_eq_true, not_or, not_or] at allowed
    have saved : Sound { library with
        questions := library.questions.put (draft.row version screen question)
        choices := library.choices.deleteWhere fun choice => choice.question = question } := by
      refine ⟨attached, sound.owned, sound.placed, fun row member => ?_, sound.screenRanks, ?_⟩
      · have bound := sound.answered row (Table.mem_deleteWhere.mp member).1
        exact bound.trans_le (Nat.le_max_left _ _)
      · refine sound.questionRanks.put (vacant_of_questionRank_free ?_ allowed.1.1)
        exact fun other same => (Option.some.inj same).symm
    exact saved.addChoices ((Nat.lt_succ_self question).trans_le (Nat.le_max_right _ _))

theorem addContent {screens : List ScreenDraft} {questions : List (Nat × QuestionDraft)}
    (sound : Sound library) (known : version < library.versions.next)
    (written : library.addContent version screens questions = some after) : Sound after := by
  rw [Library.addContent, Option.bind_eq_bind, Option.bind_eq_some_iff] at written
  obtain ⟨loaded, first, later⟩ := written
  have kept : Sound loaded ∧ version < loaded.versions.next := by
    refine Outcome.holds_foldlM (P := fun library =>
      Sound library ∧ version < library.versions.next) ?_ ⟨sound, known⟩ first
    rintro draft - middle result ⟨sound, known⟩ added
    have same := (StaysIn.addScreen added).versions
    exact ⟨sound.addScreen known added, same ▸ known⟩
  refine Outcome.holds_foldlM ?_ kept.1 later
  rintro ⟨position, draft⟩ - middle result sound asked
  dsimp only at asked
  split at asked
  · exact sound.addQuestion asked
  · cases asked

theorem addCourse {target : CourseTarget} {course : Nat} (sound : Sound library)
    (written : library.addCourse target = some (after, course)) : Sound after := by
  cases target with
  | existing key =>
      cases written
      exact sound
  | new slug title summary owner =>
      rw [Library.addCourse] at written
      split at written
      · cases written
      · cases written
        exact { sound with
          owned := fun row member => (sound.owned row member).trans (Nat.lt_succ_self _) }

theorem addVersion {course number passThreshold maxAttempts key : Nat} {changeNote : String}
    (sound : Sound library) (known : course < library.courses.next)
    (written : library.addVersion course number passThreshold maxAttempts changeNote =
      some (after, key)) : Sound after := by
  rw [Library.addVersion] at written
  split at written
  · cases written
  · cases written
    refine { sound with
      owned := fun row member => ?_
      placed := fun row member => (sound.placed row member).trans (Nat.lt_succ_self _) }
    rcases Table.mem_create.mp member with old | rfl
    · exact sound.owned row old
    · exact known

theorem publish {now : Nat} (sound : Sound library) : Sound (library.publish version now) := by
  refine { sound with owned := fun row member => ?_ }
  simp only [Library.publish, Table.mem_modify] at member
  obtain ⟨source, inside, rfl⟩ := member
  split
  · exact sound.owned source inside
  · exact sound.owned source inside

theorem retitle {course : Nat} {title summary : String} (sound : Sound library) :
    Sound (library.retitle course title summary) :=
  { sound with }

theorem loadedVersion {course target : Nat} {found : Option CourseVersion} {reset : Bool}
    {data : CourseData} (sound : Sound library) (known : course < library.courses.next)
    (written : library.loadedVersion course found reset data = some (after, target)) :
    Sound after := by
  cases found with
  | none => exact sound.addVersion known written
  | some row =>
      rw [Library.loadedVersion] at written
      cases reset with
      | false =>
          cases written
          exact sound
      | true =>
          cases written
          have emptied := sound.deleteScreens (fun screen => screen.version = row.id)
            ((StaysIn.deleteScreens fun _ _ => of_decide_eq_true).attached sound.attached)
          have stays : StaysIn row.id (library.deleteScreens fun screen => screen.version = row.id)
              ((library.deleteScreens fun screen => screen.version = row.id).deleteQuestions
                fun question => question.version = row.id) :=
            StaysIn.deleteQuestions fun _ _ _ => of_decide_eq_true
          exact emptied.deleteQuestions _ (stays.attached emptied.attached)

end Sound

/-! ## Drafts -/

/-- A course has one draft at most, and it is numbered after the published versions. -/
structure DraftsAhead (library : Library) : Prop where
  single : ∀ first ∈ library.versions, ∀ second ∈ library.versions, first.isPublished = false →
    second.isPublished = false → first.course = second.course → first = second
  ahead : ∀ draft ∈ library.versions, ∀ row ∈ library.versions, draft.isPublished = false →
    row.isPublished = true → row.course = draft.course → row.number < draft.number

namespace DraftsAhead

variable {library after : Library}

theorem of_versions (ahead : DraftsAhead library) (same : after.versions = library.versions) :
    DraftsAhead after := by
  refine ⟨?_, ?_⟩
  · rw [same]
    exact ahead.single
  · rw [same]
    exact ahead.ahead

/-- A version is added where all those of its course are published, under lower numbers. -/
theorem addVersion {course number passThreshold maxAttempts key : Nat} {changeNote : String}
    (ahead : DraftsAhead library)
    (room : ∀ row ∈ library.versions, row.course = course →
      row.isPublished = true ∧ row.number < number)
    (written : library.addVersion course number passThreshold maxAttempts changeNote =
      some (after, key)) : DraftsAhead after := by
  rw [Library.addVersion] at written
  split at written
  · cases written
  · cases written
    refine ⟨fun first inFirst second inSecond openFirst openSecond same => ?_,
      fun draft inDraft row inRow opened shown same => ?_⟩
    · rcases Table.mem_create.mp inFirst with oldFirst | rfl
      · rcases Table.mem_create.mp inSecond with oldSecond | rfl
        · exact ahead.single first oldFirst second oldSecond openFirst openSecond same
        · rw [(room first oldFirst same).1] at openFirst
          cases openFirst
      · rcases Table.mem_create.mp inSecond with oldSecond | rfl
        · rw [(room second oldSecond same.symm).1] at openSecond
          cases openSecond
        · rfl
    · rcases Table.mem_create.mp inRow with oldRow | rfl
      · rcases Table.mem_create.mp inDraft with oldDraft | rfl
        · exact ahead.ahead draft oldDraft row oldRow opened shown same
        · exact (room row oldRow same).2
      · cases shown

theorem publish {version now : Nat} (ahead : DraftsAhead library) :
    DraftsAhead (library.publish version now) := by
  have old_or_published (row : CourseVersion)
      (member : row ∈ (library.publish version now).versions) :
      row ∈ library.versions ∨ row.isPublished = true ∧ ∃ source ∈ library.versions,
        source.id = row.id ∧ source.course = row.course ∧ source.number = row.number := by
    simp only [Library.publish, Table.mem_modify] at member
    obtain ⟨source, inside, rfl⟩ := member
    split
    · exact Or.inr ⟨rfl, source, inside, rfl, rfl, rfl⟩
    · exact Or.inl inside
  have old_of_draft (row : CourseVersion) (member : row ∈ (library.publish version now).versions)
      (opened : row.isPublished = false) : row ∈ library.versions := by
    rcases old_or_published row member with old | ⟨shown, _⟩
    · exact old
    · rw [opened] at shown
      cases shown
  refine ⟨fun first inFirst second inSecond openFirst openSecond same => ?_,
    fun draft inDraft row inRow opened shown same => ?_⟩
  · exact ahead.single first (old_of_draft first inFirst openFirst) second
      (old_of_draft second inSecond openSecond) openFirst openSecond same
  · have old := old_of_draft draft inDraft opened
    rcases old_or_published row inRow with oldRow | ⟨_, source, inside, key, course, number⟩
    · exact ahead.ahead draft old row oldRow opened shown same
    · cases before : source.isPublished with
      | true =>
          rw [← number]
          exact ahead.ahead draft old source inside opened before (course.trans same)
      | false =>
          -- The version that is published was the draft of its course.
          obtain rfl := ahead.single source inside draft old before opened (course.trans same)
          obtain rfl := Table.ident_injective inDraft inRow key
          rw [opened] at shown
          cases shown

end DraftsAhead

/-! ## Whole writes -/

/-- The tables are sound and the drafts are ahead. -/
structure Orderly (library : Library) : Prop where
  sound : Sound library
  drafts : DraftsAhead library

/-- What the operation that makes a write has found before. -/
def StudioWrite.Lawful (library : Library) : StudioWrite → Prop
  | .createVersion (.existing course) number _ _ _ _ _ =>
      course < library.courses.next ∧ ∀ row ∈ library.versions, row.course = course →
        row.isPublished = true ∧ row.number < number
  | .addScreen version _ | .saveScreen version _ _ => version < library.versions.next
  | .load (.existing course) none _ _ _ =>
      course < library.courses.next ∧ ∀ row ∈ library.versions, row.course ≠ course
  | .load (.existing course) (some row) _ _ _ =>
      course < library.courses.next ∧ row ∈ library.versions
  | .load (.new ..) (some _) _ _ _ => False
  | _ => True

namespace Orderly

variable {library after : Library}

theorem of_sound (orderly : Orderly library) (sound : Sound after)
    (same : after.versions = library.versions) : Orderly after :=
  ⟨sound, orderly.drafts.of_versions same⟩

theorem lt_next_of_addVersion {course number passThreshold maxAttempts key : Nat}
    {changeNote : String} (written : library.addVersion course number passThreshold maxAttempts
      changeNote = some (after, key)) : key < after.versions.next := by
  rw [Library.addVersion] at written
  split at written
  · cases written
  · cases written
    exact Nat.lt_succ_self _

/-- The course that a write goes to, and its versions. -/
theorem addCourse {target : CourseTarget} {titled : Library} {course : Nat}
    (orderly : Orderly library) (known : ∀ key, target = .existing key → key < library.courses.next)
    (written : library.addCourse target = some (titled, course)) :
    Orderly titled ∧ course < titled.courses.next ∧ titled.versions = library.versions ∧
      (target = .existing course ∨ ∀ row ∈ library.versions, row.course ≠ course) := by
  refine ⟨orderly.of_sound (orderly.sound.addCourse written) (StaysIn.addCourse 0 written).versions,
    ?_, (StaysIn.addCourse 0 written).versions, ?_⟩
  · cases target with
    | existing key =>
        cases written
        exact known course rfl
    | new slug title summary owner =>
        rw [Library.addCourse] at written
        split at written
        · cases written
        · cases written
          exact Nat.lt_succ_self _
  · cases target with
    | existing key =>
        cases written
        exact Or.inl rfl
    | new slug title summary owner =>
        rw [Library.addCourse] at written
        split at written
        · cases written
        · cases written
          exact Or.inr fun row member => Nat.ne_of_lt (orderly.sound.owned row member)

theorem createVersion {target : CourseTarget} {number passThreshold maxAttempts : Nat}
    {changeNote : String} {screens : List ScreenDraft} {questions : List (Nat × QuestionDraft)}
    (orderly : Orderly library)
    (lawful : (StudioWrite.createVersion target number passThreshold maxAttempts changeNote screens
      questions).Lawful library)
    (written : library.createVersion target number passThreshold maxAttempts changeNote screens
      questions = some after) : Orderly after := by
  rw [Library.createVersion, Option.bind_eq_bind, Option.bind_eq_some_iff] at written
  obtain ⟨⟨titled, course⟩, first, written⟩ := written
  dsimp only at written
  rw [Option.bind_eq_some_iff] at written
  obtain ⟨⟨opened, version⟩, second, third⟩ := written
  have known : ∀ key, target = .existing key → key < library.courses.next := by
    rintro key rfl
    exact lawful.1
  obtain ⟨titles, present, same, origin⟩ := orderly.addCourse known first
  have room : ∀ row ∈ titled.versions, row.course = course →
      row.isPublished = true ∧ row.number < number := by
    rw [same]
    intro row member own
    rcases origin with rfl | none
    · exact lawful.2 row member own
    · exact absurd own (none row member)
  have opens : Orderly opened :=
    ⟨titles.sound.addVersion present second, titles.drafts.addVersion room second⟩
  have fresh := lt_next_of_addVersion second
  exact opens.of_sound (opens.sound.addContent fresh third) (StaysIn.addContent third).versions

/-- The version that a load fills: the one that it found, or the first of its course. -/
theorem loadedVersion {course version : Nat} {found : Option CourseVersion} {reset : Bool}
    {data : CourseData} (orderly : Orderly library) (known : course < library.courses.next)
    (room : found = none → ∀ row ∈ library.versions, row.course ≠ course)
    (present : ∀ row, found = some row → row ∈ library.versions)
    (written : library.loadedVersion course found reset data = some (after, version)) :
    Orderly after ∧ version < after.versions.next := by
  have sound := orderly.sound.loadedVersion known written
  cases found with
  | none =>
      have empty : ∀ row ∈ library.versions, row.course = course →
          row.isPublished = true ∧ row.number < 1 :=
        fun row member own => absurd own (room rfl row member)
      exact ⟨⟨sound, orderly.drafts.addVersion empty written⟩, lt_next_of_addVersion written⟩
  | some row =>
      have bound := library.versions.allocated row (present row rfl)
      rw [Library.loadedVersion] at written
      cases reset with
      | false =>
          cases written
          exact ⟨orderly, bound⟩
      | true =>
          cases written
          exact ⟨orderly.of_sound sound rfl, bound⟩

theorem load {target : CourseTarget} {found : Option CourseVersion} {reset : Bool}
    {data : CourseData} {now : Nat} (orderly : Orderly library)
    (lawful : (StudioWrite.load target found reset data now).Lawful library)
    (written : library.load target found reset data now = some after) : Orderly after := by
  rw [Library.load, Option.bind_eq_bind, Option.bind_eq_some_iff] at written
  obtain ⟨⟨titled, course⟩, first, written⟩ := written
  dsimp only at written
  rw [Option.bind_eq_some_iff] at written
  obtain ⟨⟨opened, version⟩, second, written⟩ := written
  dsimp only at written
  rw [Option.bind_eq_bind, Option.bind_eq_some_iff] at written
  obtain ⟨loaded, third, written⟩ := written
  have known : ∀ key, target = .existing key → key < library.courses.next := by
    rintro key rfl
    cases found with
    | none => exact lawful.1
    | some row => exact lawful.1
  obtain ⟨titles, present, same, origin⟩ := orderly.addCourse known first
  have room : found = none → ∀ row ∈ titled.versions, row.course ≠ course := by
    rintro rfl
    rw [same]
    rcases origin with rfl | none
    · exact lawful.2
    · exact none
  have listed : ∀ row, found = some row → row ∈ titled.versions := by
    rintro row rfl
    rw [same]
    cases target with
    | existing key => exact lawful.2
    | new slug title summary owner => exact lawful.elim
  have retitled : Orderly (titled.retitle course data.title data.summary) :=
    titles.of_sound titles.sound.retitle rfl
  obtain ⟨opens, fresh⟩ := retitled.loadedVersion present room listed second
  have filled : Orderly loaded :=
    opens.of_sound (opens.sound.addContent fresh third) (StaysIn.addContent third).versions
  split at written
  · cases written
    exact filled
  · split at written
    · cases written
      exact ⟨filled.sound.publish, filled.drafts.publish⟩
    · cases written

/-- A lawful write leaves the tables orderly. -/
theorem write {change : StudioWrite} (orderly : Orderly library) (lawful : change.Lawful library)
    (written : library.write? change = some after) : Orderly after := by
  cases change with
  | createVersion course number passThreshold maxAttempts changeNote screens questions =>
      exact orderly.createVersion lawful written
  | addScreen version draft =>
      exact orderly.of_sound (orderly.sound.addScreen lawful written)
        (StaysIn.addScreen written).versions
  | saveScreen version screen draft =>
      exact orderly.of_sound (orderly.sound.saveScreen lawful written)
        (StaysIn.saveScreen written).versions
  | reorderScreens version order =>
      exact orderly.of_sound
        (Outcome.holds_foldlM (fun _ _ _ _ sound => sound.setScreenOrder) orderly.sound written)
        (StaysIn.reorderScreens written).versions
  | deleteScreen version screen =>
      have stays := staysIn_draft rfl written
      cases written
      exact orderly.of_sound
        (orderly.sound.deleteScreens _ (stays.attached orderly.sound.attached)) rfl
  | addQuestion version screen draft =>
      exact orderly.of_sound (orderly.sound.addQuestion written)
        (StaysIn.addQuestion written).versions
  | saveQuestion version question screen draft =>
      exact orderly.of_sound (orderly.sound.saveQuestion written)
        (StaysIn.saveQuestion written).versions
  | deleteQuestion version question =>
      have stays := staysIn_draft rfl written
      cases written
      exact orderly.of_sound
        (orderly.sound.deleteQuestions _ (stays.attached orderly.sound.attached)) rfl
  | publish version now =>
      cases written
      exact ⟨orderly.sound.publish, orderly.drafts.publish⟩
  | retitle course title summary =>
      cases written
      exact orderly.of_sound orderly.sound.retitle rfl
  | load course found reset data now => exact orderly.load lawful written

end Orderly

/-! ## What the columns hold -/

def maxSlug : Nat := 80

def maxCourseTitle : Nat := 200

def maxChangeNote : Nat := 300

def CourseTarget.Fits : CourseTarget → Prop
  | .existing _ => True
  | .new slug title _ _ => slug.length ≤ maxSlug ∧ title.length ≤ maxCourseTitle

/-- The columns hold what an operation computes for a new version; what it copies comes
from the same columns. -/
def StudioWrite.Fits : StudioWrite → Prop
  | .createVersion course number _ _ changeNote _ _ =>
      course.Fits ∧ number ≤ maxSmallInteger ∧ changeNote.length ≤ maxChangeNote
  | _ => True

instance (target : CourseTarget) : Decidable target.Fits :=
  match target with
  | .existing _ => inferInstanceAs (Decidable True)
  | .new slug title _ _ =>
      inferInstanceAs (Decidable (slug.length ≤ maxSlug ∧ title.length ≤ maxCourseTitle))

instance (change : StudioWrite) : Decidable change.Fits :=
  match change with
  | .createVersion course number _ _ changeNote _ _ => inferInstanceAs
      (Decidable (course.Fits ∧ number ≤ maxSmallInteger ∧ changeNote.length ≤ maxChangeNote))
  | .addScreen _ _ | .saveScreen _ _ _ | .reorderScreens _ _ | .deleteScreen _ _ |
    .addQuestion _ _ _ | .saveQuestion _ _ _ _ | .deleteQuestion _ _ | .publish _ _ |
    .retitle _ _ _ | .load _ _ _ _ _ => inferInstanceAs (Decidable True)

/-- The database refuses a write as a whole where a value exceeds its column. -/
def Library.applyChecked (library : Library) (change : StudioWrite) : Library :=
  if change.Fits then library.applyStudio change else library

theorem Orderly.applyChecked {library : Library} {change : StudioWrite} (orderly : Orderly library)
    (lawful : change.Lawful library) : Orderly (library.applyChecked change) := by
  rw [Library.applyChecked]
  split
  · rw [Library.applyStudio]
    cases written : library.write? change with
    | none => exact orderly
    | some after => exact orderly.write lawful written
  · exact orderly

/-! ## Operations -/

section Operations

variable {library : Library} {course : Nat}

theorem mem_versionsOf {row : CourseVersion} :
    row ∈ library.versionsOf course ↔ row ∈ library.versions ∧ row.course = course := by
  rw [Library.versionsOf, List.mem_insertionSort, List.mem_filter, decide_eq_true_eq]
  rfl

theorem of_latestVersion_none (none : library.latestVersion course = none) :
    ∀ row ∈ library.versions, row.course ≠ course := by
  intro row member own
  have listed := mem_versionsOf.mpr ⟨member, own⟩
  rw [List.head?_eq_none_iff.mp none] at listed
  cases listed

theorem of_latestVersion {row : CourseVersion} (found : library.latestVersion course = some row) :
    row ∈ library.versions ∧ row.course = course :=
  mem_versionsOf.mp (List.mem_of_mem_head? found)

theorem of_draftVersion_none (none : library.draftVersion course = none) :
    ∀ row ∈ library.versions, row.course = course → row.isPublished = true := by
  intro row member own
  have listed := mem_versionsOf.mpr ⟨member, own⟩
  have shown := List.filter_eq_nil_iff.mp (List.head?_eq_none_iff.mp none) row listed
  simpa using shown

/-- The published version of a course is the last one that was published. -/
theorem of_publishedVersion {source : CourseVersion}
    (found : library.publishedVersion course = some source) :
    source ∈ library.versions ∧ source.course = course ∧ source.isPublished = true ∧
      ∀ row ∈ library.versions, row.course = course → row.isPublished = true →
        row.number ≤ source.number := by
  have listed := List.mem_filter.mp (List.mem_of_mem_head? found)
  obtain ⟨member, own⟩ := mem_versionsOf.mp listed.1
  refine ⟨member, own, listed.2, fun row inside same shown => ?_⟩
  have sorted : ((library.versionsOf course).filter CourseVersion.isPublished).Pairwise
      fun first second => second.number ≤ first.number :=
    (List.pairwise_insertionSort _ _).filter _
  have among : row ∈ (library.versionsOf course).filter CourseVersion.isPublished :=
    List.mem_filter.mpr ⟨mem_versionsOf.mpr ⟨inside, same⟩, shown⟩
  cases published : (library.versionsOf course).filter CourseVersion.isPublished with
  | nil =>
      rw [published] at among
      cases among
  | cons first rest =>
      have first_eq : first = source := by
        rw [Library.publishedVersion, published] at found
        exact Option.some.inj found
      subst first_eq
      rw [published] at sorted among
      rcases List.mem_cons.mp among with rfl | later
      · exact Nat.le_refl _
      · exact (List.pairwise_cons.mp sorted).1 row later

/-- The version that an operation of the studio writes in is another one. -/
def StudioRequest.Spares (version : Nat) : StudioRequest → Prop
  | .creerCours _ _ _ | .dupliquer _ _ _ | .nouvelleVersion _ _ => True
  | .ecrireEcran other _ _ _ _ | .reordonnerEcrans other _ | .supprimerEcran other _ |
    .ecrireQuestion other _ _ _ _ _ _ | .supprimerQuestion other _ | .publier other _ =>
      other ≠ version
  | .unCours _ _ _ => False

def StudioWrite.Spares (version : Nat) : StudioWrite → Prop
  | .createVersion _ _ _ _ _ _ _ => True
  | .addScreen other _ | .saveScreen other _ _ | .reorderScreens other _ | .deleteScreen other _ |
    .addQuestion other _ _ | .saveQuestion other _ _ _ | .deleteQuestion other _ |
    .publish other _ => other ≠ version
  | .retitle _ _ _ | .load _ _ _ _ _ => False

/-- A lawful write in no version that the request spares. -/
def StudioWrite.Proper (request : StudioRequest) (library : Library) (change : StudioWrite) :
    Prop :=
  change.Lawful library ∧ ∀ version, request.Spares version → change.Spares version

/-- The writes of an uninterrupted operation are those of the request. -/
abbrev WritesProper (request : StudioRequest) (operation : StudioProgram) (library : Library) :
    Prop :=
  operation.WritesFit Library.applyChecked (fun library change => change.Proper request library)
    library

theorem WritesProper.versionModifiable {request : StudioRequest} {version : Nat}
    {next : CourseVersion → StudioProgram}
    (writes : ∀ row ∈ library.versions, row.id = version →
      WritesProper request (next row) library) :
    WritesProper request (versionModifiable version next) library := by
  rw [Training.versionModifiable, WritesProper, Program.WritesFit]
  split
  · trivial
  · rename_i row found
    split
    · trivial
    · exact writes row (Table.mem_of_find? found) (Table.ident_of_find? found)

/-- A copy makes one write, whatever it copies. -/
theorem WritesProper.recopierContenu {request : StudioRequest} {source : Nat}
    {next : List ScreenDraft → List (Nat × QuestionDraft) → StudioProgram}
    (writes : ∀ screens questions, WritesProper request (next screens questions) library) :
    WritesProper request (recopierContenu source next) library := by
  rw [Training.recopierContenu]
  simp only [WritesProper, Program.WritesFit]
  split
  · trivial
  · exact writes _ _

theorem proper_nouvelleVersion {changeNote : String} (orderly : Orderly library) :
    WritesProper (.nouvelleVersion course changeNote) (nouvelleVersion course changeNote)
      library := by
  rw [nouvelleVersion, WritesProper, Program.WritesFit]
  split
  · trivial
  · rename_i vacant
    rw [Program.WritesFit]
    cases found : library.publishedVersion course with
    | none => trivial
    | some source =>
        obtain ⟨member, own, _, last⟩ := of_publishedVersion found
        have shown := of_draftVersion_none (Option.not_isSome_iff_eq_none.mp vacant)
        refine WritesProper.recopierContenu fun screens questions =>
          ⟨⟨⟨?_, ?_⟩, fun _ _ => trivial⟩, trivial⟩
        · exact own ▸ orderly.sound.owned source member
        · intro row inside same
          have published := shown row inside same
          exact ⟨published, Nat.lt_succ_of_le (last row inside same published)⟩

theorem proper_dupliquer {slugify : String → String} {owner : Option Nat} {titre : Option String} :
    WritesProper (.dupliquer course owner titre) (dupliquer slugify course owner titre)
      library := by
  rw [dupliquer, WritesProper, Program.WritesFit]
  split
  · dsimp only [Program.WritesFit]
    exact WritesProper.recopierContenu fun screens questions =>
      ⟨⟨trivial, fun _ _ => trivial⟩, trivial⟩
  · trivial

theorem proper_unCours {data : CourseData} {reset : Bool} {now : Nat} :
    WritesProper (.unCours data reset now) (unCours data reset now) library := by
  rw [unCours, WritesProper, Program.WritesFit]
  split
  · exact ⟨⟨trivial, fun _ => False.elim⟩, trivial⟩
  · rename_i cours looked
    have known : cours.id < library.courses.next :=
      library.courses.allocated cours (List.mem_of_find?_eq_some looked)
    rw [Program.WritesFit]
    split
    · rename_i none
      exact ⟨⟨⟨known, of_latestVersion_none none⟩, fun _ => False.elim⟩, trivial⟩
    · rename_i version found
      have member := (of_latestVersion found).1
      split
      · exact ⟨⟨⟨known, member⟩, fun _ => False.elim⟩, trivial⟩
      · rw [Program.WritesFit]
        split
        · exact ⟨⟨⟨known, member⟩, fun _ => False.elim⟩, trivial⟩
        · exact ⟨⟨trivial, fun _ => False.elim⟩, trivial⟩

theorem proper_ecrireEcran {version seconds : Nat} {screen : Option Nat} {title : String}
    {content : List Json} :
    WritesProper (.ecrireEcran version screen title content seconds)
      (ecrireEcran version screen title content seconds) library := by
  refine WritesProper.versionModifiable ?_
  rintro row member rfl
  have bound := library.versions.allocated row member
  cases screen with
  | none => exact ⟨⟨bound, fun _ => id⟩, trivial⟩
  | some key =>
      simp only [WritesProper, Program.WritesFit]
      split
      · trivial
      · exact ⟨⟨bound, fun _ => id⟩, trivial⟩

theorem proper_reordonnerEcrans {version : Nat} {ordre : List Nat} :
    WritesProper (.reordonnerEcrans version ordre) (reordonnerEcrans version ordre) library := by
  refine WritesProper.versionModifiable ?_
  rintro row member rfl
  simp only [WritesProper, Program.WritesFit]
  split
  · exact ⟨⟨trivial, fun _ => id⟩, trivial⟩
  · trivial

theorem proper_supprimerEcran {version screen : Nat} :
    WritesProper (.supprimerEcran version screen) (supprimerEcran version screen) library := by
  refine WritesProper.versionModifiable ?_
  rintro row member rfl
  simp only [WritesProper, Program.WritesFit]
  split
  · trivial
  · simp only [Program.WritesFit]
    split
    · trivial
    · exact ⟨⟨trivial, fun _ => id⟩, trivial⟩

theorem proper_ecrireQuestion {version screen : Nat} {question : Option Nat}
    {text explanation : String} {kind : Kind} {choix : List (String × Bool)} :
    WritesProper (.ecrireQuestion version question text kind explanation screen choix)
      (ecrireQuestion version question text kind explanation screen choix) library := by
  refine WritesProper.versionModifiable ?_
  rintro row member rfl
  split
  · trivial
  · simp only [WritesProper, Program.WritesFit]
    split
    · trivial
    · cases question with
      | none => exact ⟨⟨trivial, fun _ => id⟩, trivial⟩
      | some key =>
          simp only [Program.WritesFit]
          split
          · trivial
          · exact ⟨⟨trivial, fun _ => id⟩, trivial⟩

theorem proper_supprimerQuestion {version question : Nat} :
    WritesProper (.supprimerQuestion version question) (supprimerQuestion version question)
      library := by
  refine WritesProper.versionModifiable ?_
  rintro row member rfl
  simp only [WritesProper, Program.WritesFit]
  split
  · trivial
  · exact ⟨⟨trivial, fun _ => id⟩, trivial⟩

theorem proper_publier {version now : Nat} :
    WritesProper (.publier version now) (publier version now) library := by
  simp only [WritesProper, publier, Program.WritesFit]
  split
  · trivial
  · rename_i row found
    obtain rfl := Table.ident_of_find? found
    split
    · trivial
    · simp only [Program.WritesFit]
      split
      · exact ⟨⟨trivial, fun _ => id⟩, trivial⟩
      · trivial

theorem proper_studioProgram {slugify : String → String} (orderly : Orderly library)
    (request : StudioRequest) :
    WritesProper request (studioProgram slugify request) library := by
  cases request with
  | creerCours title summary owner => exact ⟨⟨trivial, fun _ _ => trivial⟩, trivial⟩
  | dupliquer course owner titre => exact proper_dupliquer
  | nouvelleVersion course changeNote => exact proper_nouvelleVersion orderly
  | ecrireEcran version screen title content estimatedSeconds => exact proper_ecrireEcran
  | reordonnerEcrans version ordre => exact proper_reordonnerEcrans
  | supprimerEcran version screen => exact proper_supprimerEcran
  | ecrireQuestion version question text kind explanation screen choix =>
      exact proper_ecrireQuestion
  | supprimerQuestion version question => exact proper_supprimerQuestion
  | publier version now => exact proper_publier
  | unCours data reset now => exact proper_unCours

/-- Every run of the studio keeps the tables orderly. -/
theorem always_orderly {slugify : String → String} {start : Library} (orderly : Orderly start)
    (requests : List StudioRequest) :
    Always (serve Library.applyChecked (studioProgram slugify)) Orderly start requests :=
  always_of_step (fun _ request orderly =>
    Program.holds_alone (fun _ _ orderly proper => orderly.applyChecked proper.1)
      (proper_studioProgram orderly request) orderly) orderly requests

end Operations

end RssiService.Training
