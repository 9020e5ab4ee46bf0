import RssiService.Foundation.Counting
import RssiService.Training.StudioInvariants
import RssiService.Training.WinnableQuiz

/-!
# Copies of a version

A copy has the screens, questions and choices of its source, and each of its questions
refers to the screen that stands where that of the source stands.
-/

namespace RssiService.Training

open Foundation Run Interleaving Python

def Choice.draft (choice : Choice) : ChoiceDraft where
  order := choice.order
  text := choice.text
  isCorrect := choice.isCorrect

/-- A question with its choices, without the screen that it refers to. -/
def Library.questionDraft (library : Library) (question : Question) : QuestionDraft where
  order := question.order
  text := question.text
  kind := question.kind
  explanation := question.explanation
  choices := (library.choicesOf question.id).map Choice.draft

/-- The question refers to the screen at a place of its version. -/
def Library.PointsAt (library : Library) (version place : Nat) (question : Question) : Prop :=
  ((library.screensOf version)[place]?).map Screen.id = some question.screen

/-- A version holds what another one held, place by place. -/
structure IsCopy (before : Library) (source : Nat) (after : Library) (copy : Nat) : Prop where
  screens : (after.screensOf copy).map Screen.draft = (before.screensOf source).map Screen.draft
  questions : List.Forall₂ (fun question copied =>
      after.questionDraft copied = before.questionDraft question ∧
        ∃ place, before.PointsAt source place question ∧ after.PointsAt copy place copied)
    (before.questionsOf source) (after.questionsOf copy)

/-! ## The content of a new version -/

section Content

variable {library : Library} {version : Nat}

/-- New screens go through where their ranks are free. -/
theorem addScreens_eq (library : Library) (version : Nat) {drafts : List ScreenDraft}
    (apart : drafts.Pairwise fun first second => first.order < second.order)
    (free : ∀ draft ∈ drafts, ∀ row ∈ library.screens, row.version = version →
      row.order ≠ draft.order) :
    drafts.foldlM (fun library draft => library.addScreen version draft) library =
      some { library with
        screens := library.screens.createAll (fun draft key => draft.row version key)
          (fun _ _ => rfl) drafts } := by
  induction drafts generalizing library with
  | nil => rfl
  | cons draft rest ih =>
      obtain ⟨below, rest_apart⟩ := List.pairwise_cons.mp apart
      have unheld : ¬library.screenRankTaken version draft.order none = true := by
        intro taken
        obtain ⟨row, member, holds⟩ := List.any_eq_true.mp taken
        simp only [Bool.and_eq_true, decide_eq_true_eq] at holds
        exact free draft List.mem_cons_self row member holds.1.1 holds.1.2
      have added : library.addScreen version draft = some { library with
          screens := library.screens.create (draft.row version) fun _ => rfl } :=
        if_neg unheld
      rw [List.foldlM_cons, added, Option.bind_eq_bind, Option.bind_some, ih _ rest_apart]
      · rfl
      · intro later listed row member own
        have created : row ∈ library.screens.create (draft.row version) fun _ => rfl := member
        rcases Table.mem_create.mp created with old | rfl
        · exact free later (List.mem_cons_of_mem _ listed) row old own
        · exact Nat.ne_of_lt (below later listed)

/-- Drafts of screens, and the rows that they become under consecutive keys. -/
def screenRows (version : Nat) (drafts : List ScreenDraft) (first : Nat) : List Screen :=
  (drafts.zipIdx first).map fun entry => entry.1.row version entry.2

/-- The screens of a new version are the drafts, in order. -/
theorem screensOf_of_rows {after : Library} {drafts : List ScreenDraft}
    (rows : after.screens.rows =
      library.screens.rows ++ screenRows version drafts library.screens.next)
    (sorted : drafts.Pairwise fun first second => first.order < second.order)
    (fresh : ∀ row ∈ library.screens, row.version ≠ version) :
    after.screensOf version = screenRows version drafts library.screens.next := by
  have old : (library.screens.rows.filter fun row => row.version = version) = [] :=
    List.filter_eq_nil_iff.mpr fun row member => by simpa using fresh row member
  have own : (screenRows version drafts library.screens.next).filter
      (fun row => row.version = version) = screenRows version drafts library.screens.next := by
    refine List.filter_eq_self.mpr fun row member => ?_
    obtain ⟨entry, _, rfl⟩ := List.mem_map.mp member
    exact decide_eq_true rfl
  rw [Library.screensOf, rows, List.filter_append, old, List.nil_append, own]
  refine List.Pairwise.insertionSort_eq ?_
  have drafts_sorted : ((drafts.zipIdx library.screens.next).map Prod.fst).Pairwise
      fun first second => first.order ≤ second.order := by
    rw [List.zipIdx_map_fst]
    exact sorted.imp Nat.le_of_lt
  rw [List.pairwise_map] at drafts_sorted
  rw [screenRows, List.pairwise_map]
  exact drafts_sorted

/-- The screens of a new version are loaded, under the keys that follow. -/
theorem addScreens_loads (library : Library) (version : Nat) {drafts : List ScreenDraft}
    (sorted : drafts.Pairwise fun first second => first.order < second.order)
    (fresh : ∀ row ∈ library.screens, row.version ≠ version) :
    ∃ loaded, drafts.foldlM (fun library draft => library.addScreen version draft) library =
        some loaded ∧
      loaded.questions = library.questions ∧ loaded.choices = library.choices ∧
        loaded.screensOf version = screenRows version drafts library.screens.next := by
  refine ⟨_, addScreens_eq library version sorted ?_, rfl, rfl, ?_⟩
  · exact fun _ _ row member own => absurd own (fresh row member)
  · refine screensOf_of_rows ?_ sorted fresh
    exact Table.rows_createAll library.screens
      (fun (draft : ScreenDraft) key => draft.row version key) (fun _ _ => rfl) drafts

theorem draft_screenRows (version first : Nat) (drafts : List ScreenDraft) :
    (screenRows version drafts first).map Screen.draft = drafts := by
  rw [screenRows, List.map_map]
  exact List.zipIdx_map_fst first drafts

theorem id_screenRows {version first place : Nat} {drafts : List ScreenDraft}
    (inside : place < drafts.length) :
    ((screenRows version drafts first)[place]?).map Screen.id = some (first + place) := by
  rw [screenRows, List.getElem?_map, List.getElem?_zipIdx, List.getElem?_eq_getElem inside]
  rfl

/-- Adding a question, where its rank is free and its screen is there. -/
theorem addQuestion_eq {screen : Nat} {draft : QuestionDraft}
    (free : ∀ row ∈ library.questions, row.version = version → row.order ≠ draft.order)
    (present : (library.screenOf version screen).isSome) :
    library.addQuestion version screen draft = some (({ library with
      questions := library.questions.create (draft.row version screen) fun _ => rfl }).addChoices
        library.questions.next draft.choices) := by
  refine if_neg ?_
  rw [Option.isNone_eq_false_iff.mpr present, Bool.or_false]
  intro taken
  obtain ⟨row, member, holds⟩ := List.any_eq_true.mp taken
  simp only [Bool.and_eq_true, decide_eq_true_eq] at holds
  exact free row member holds.1.1 holds.1.2

/-- The choices of a question that has just been added are its own. -/
theorem choicesOf_addChoices (library : Library) (question : Nat) {drafts : List ChoiceDraft}
    (sorted : drafts.Pairwise fun first second => first.order ≤ second.order) :
    (∀ asked, asked ≠ question →
      (library.addChoices question drafts).choicesOf asked = library.choicesOf asked) ∧
    ((∀ row ∈ library.choices, row.question ≠ question) →
      ((library.addChoices question drafts).choicesOf question).map Choice.draft = drafts) := by
  have rows : (library.addChoices question drafts).choices.rows = library.choices.rows ++
      (drafts.zipIdx library.choices.next).map fun entry => entry.1.row question entry.2 :=
    Table.rows_createAll library.choices (fun (draft : ChoiceDraft) key => draft.row question key)
      (fun _ _ => rfl) drafts
  refine ⟨fun asked apart => ?_, fun unanswered => ?_⟩
  · have others : ((drafts.zipIdx library.choices.next).map fun entry =>
        entry.1.row question entry.2).filter (fun row => row.question = asked) = [] := by
      refine List.filter_eq_nil_iff.mpr fun row member => ?_
      obtain ⟨entry, _, rfl⟩ := List.mem_map.mp member
      exact fun own => apart (of_decide_eq_true own).symm
    rw [Library.choicesOf, rows, List.filter_append, others, List.append_nil]
    rfl
  · have old : (library.choices.rows.filter fun row => row.question = question) = [] :=
      List.filter_eq_nil_iff.mpr fun row member => by simpa using unanswered row member
    have own : ((drafts.zipIdx library.choices.next).map fun entry =>
        entry.1.row question entry.2).filter (fun row => row.question = question) =
          (drafts.zipIdx library.choices.next).map fun entry => entry.1.row question entry.2 := by
      refine List.filter_eq_self.mpr fun row member => ?_
      obtain ⟨entry, _, rfl⟩ := List.mem_map.mp member
      exact decide_eq_true rfl
    have drafts_sorted : ((drafts.zipIdx library.choices.next).map Prod.fst).Pairwise
        fun first second => first.order ≤ second.order := by
      rw [List.zipIdx_map_fst]
      exact sorted
    have rows_sorted : ((drafts.zipIdx library.choices.next).map fun entry =>
        entry.1.row question entry.2).Pairwise fun first second => first.order ≤ second.order := by
      rw [List.pairwise_map] at drafts_sorted ⊢
      exact drafts_sorted
    rw [Library.choicesOf, rows, List.filter_append, old, List.nil_append, own,
      rows_sorted.insertionSort_eq, List.map_map]
    exact List.zipIdx_map_fst library.choices.next drafts

/-- One question has been added to a version, with its choices. -/
structure AddsOne (version screen : Nat) (draft : QuestionDraft) (library after : Library) :
    Prop where
  screens : after.screens = library.screens
  rows : after.questions.rows =
    library.questions.rows ++ [draft.row version screen library.questions.next]
  next : after.questions.next = library.questions.next + 1
  others : ∀ key < library.questions.next, after.choicesOf key = library.choicesOf key
  own : (after.choicesOf library.questions.next).map Choice.draft = draft.choices
  answered : ∀ row ∈ after.choices, row.question < after.questions.next

theorem addQuestion_addsOne {screen : Nat} {draft : QuestionDraft}
    (free : ∀ row ∈ library.questions, row.version = version → row.order ≠ draft.order)
    (present : (library.screenOf version screen).isSome)
    (answered : ∀ row ∈ library.choices, row.question < library.questions.next)
    (sorted : draft.choices.Pairwise fun first second => first.order ≤ second.order) :
    ∃ after, library.addQuestion version screen draft = some after ∧
      AddsOne version screen draft library after := by
  have choices := choicesOf_addChoices { library with
    questions := library.questions.create (draft.row version screen) fun _ => rfl }
    library.questions.next sorted
  refine ⟨_, addQuestion_eq free present, rfl, rfl, rfl, ?_, ?_, ?_⟩
  · exact fun key below => choices.1 key (Nat.ne_of_lt below)
  · exact choices.2 fun row member => Nat.ne_of_lt (answered row member)
  · intro row member
    rcases Table.mem_createAll member with old | ⟨choice, _, key, rfl⟩
    · exact (answered row old).trans (Nat.lt_succ_self _)
    · exact Nat.lt_succ_self _

/-- Questions have been added to a version, with their choices. -/
structure Adds (version first : Nat) (library after : Library)
    (entries : List (Nat × QuestionDraft)) (news : List Question) : Prop where
  screens : after.screens = library.screens
  rows : after.questions.rows = library.questions.rows ++ news
  others : ∀ key < library.questions.next, after.choicesOf key = library.choicesOf key
  added : List.Forall₂ (fun entry row => row.version = version ∧ row.screen = first + entry.1 ∧
    after.questionDraft row = entry.2) entries news

/-- New questions go through where their ranks are free and their screens are there. -/
theorem addQuestions_adds {count first : Nat} {entries : List (Nat × QuestionDraft)}
    (sorted : entries.Pairwise fun first second => first.2.order < second.2.order)
    (free : ∀ entry ∈ entries, ∀ row ∈ library.questions, row.version = version →
      row.order ≠ entry.2.order)
    (answered : ∀ row ∈ library.choices, row.question < library.questions.next)
    (present : ∀ entry ∈ entries,
      entry.1 < count ∧ (library.screenOf version (first + entry.1)).isSome)
    (choices : ∀ entry ∈ entries,
      entry.2.choices.Pairwise fun first second => first.order ≤ second.order) :
    ∃ after news, entries.foldlM (fun library (position, draft) =>
        if position < count then library.addQuestion version (first + position) draft
        else none) library = some after ∧
      Adds version first library after entries news := by
  induction entries generalizing library with
  | nil =>
      exact ⟨library, [], rfl, rfl, (List.append_nil _).symm, fun _ _ => rfl, .nil⟩
  | cons entry rest ih =>
      obtain ⟨position, draft⟩ := entry
      obtain ⟨below, rest_sorted⟩ := List.pairwise_cons.mp sorted
      obtain ⟨⟨inside, screen⟩, rest_present⟩ := List.forall_mem_cons.mp present
      obtain ⟨own_sorted, rest_choices⟩ := List.forall_mem_cons.mp choices
      obtain ⟨middle, added, one⟩ :=
        addQuestion_addsOne (free _ List.mem_cons_self) screen answered own_sorted
      have rest_free : ∀ entry ∈ rest, ∀ row ∈ middle.questions, row.version = version →
          row.order ≠ entry.2.order := by
        intro entry listed row member own
        rw [Table.mem_def, one.rows, List.mem_append, List.mem_singleton] at member
        rcases member with old | rfl
        · exact free entry (List.mem_cons_of_mem _ listed) row old own
        · exact Nat.ne_of_lt (below entry listed)
      have screens_kept : ∀ entry ∈ rest,
          entry.1 < count ∧ (middle.screenOf version (first + entry.1)).isSome := by
        intro entry listed
        rw [Library.screenOf, one.screens]
        exact rest_present entry listed
      obtain ⟨after, news, written, adds⟩ :=
        ih rest_sorted rest_free one.answered screens_kept rest_choices
      refine ⟨after, draft.row version (first + position) library.questions.next :: news, ?_, ?_⟩
      · rw [List.foldlM_cons]
        dsimp only
        rw [if_pos inside, added]
        exact written
      · refine ⟨adds.screens.trans one.screens, ?_, ?_, .cons ⟨rfl, rfl, ?_⟩ adds.added⟩
        · rw [adds.rows, one.rows, List.append_assoc]
          rfl
        · intro key below
          rw [adds.others key (one.next ▸ Nat.lt_succ_of_lt below), one.others key below]
        · have later := adds.others library.questions.next (one.next ▸ Nat.lt_succ_self _)
          have choices_eq : (after.choicesOf library.questions.next).map Choice.draft =
              draft.choices := by
            rw [later, one.own]
          rw [Library.questionDraft]
          exact congrArg (QuestionDraft.mk draft.order draft.text draft.kind draft.explanation)
            choices_eq

/-- The questions of a version can all be copied, each with the place of its screen. -/
theorem exists_copiedQuestions (attached : Attached library) (source : Nat) :
    ∃ entries, library.copiedQuestions source ((library.screensOf source).map Screen.id) =
        some entries ∧
      List.Forall₂ (fun question entry => entry.2 = library.questionDraft question ∧
        library.PointsAt source entry.1 question) (library.questionsOf source) entries := by
  refine Outcome.exists_mapM fun question member => ?_
  obtain ⟨inside, own⟩ := mem_questionsOf.mp member
  obtain ⟨screen, present, key, same⟩ := attached question inside
  have listed : question.screen ∈ (library.screensOf source).map Screen.id :=
    List.mem_map.mpr ⟨screen, mem_screensOf.mpr ⟨present, same.trans own⟩, key⟩
  obtain ⟨place, found⟩ := Option.isSome_iff_exists.mp (List.isSome_idxOf?.mpr listed)
  obtain ⟨below, stands, _⟩ := List.idxOf?_eq_some_iff.mp found
  refine ⟨(place, library.questionDraft question), ?_, rfl, ?_⟩
  · rw [found]
    rfl
  · rw [Library.PointsAt, ← List.getElem?_map, List.getElem?_eq_getElem below]
    exact congrArg some stands

theorem forall₂_chain {First Second Third : Type*} {R : First → Second → Prop}
    {S : Second → Third → Prop} {T : First → Third → Prop}
    (chain : ∀ first second third, R first second → S second third → T first third)
    {firsts : List First} {seconds : List Second} {thirds : List Third}
    (left : List.Forall₂ R firsts seconds) (right : List.Forall₂ S seconds thirds) :
    List.Forall₂ T firsts thirds := by
  induction left generalizing thirds with
  | nil =>
      cases right
      exact .nil
  | cons related _ ih =>
      cases right with
      | cons next later => exact .cons (chain _ _ _ related next) (ih later)

/-- Rows that are sorted by rank are sorted strictly where ranks are held once. -/
theorem pairwise_lt_of_unique {Row : Type*} {rows : List Row} {order : Row → Nat}
    (sorted : rows.Pairwise fun first second => order first ≤ order second) (nodup : rows.Nodup)
    (unique : ∀ first ∈ rows, ∀ second ∈ rows, order first = order second → first = second) :
    rows.Pairwise fun first second => order first < order second := by
  refine (sorted.and nodup).imp_of_mem ?_
  rintro first second inFirst inSecond ⟨below, apart⟩
  exact Nat.lt_of_le_of_ne below fun same => apart (unique first inFirst second inSecond same)

theorem screensOf_sorted (sound : Sound library) (version : Nat) :
    (library.screensOf version).Pairwise fun first second => first.order < second.order := by
  refine pairwise_lt_of_unique (List.pairwise_insertionSort _ _) ?_ ?_
  · exact (nodup_screensOf library version).of_map
  · intro first inFirst second inSecond same
    obtain ⟨first_in, first_own⟩ := mem_screensOf.mp inFirst
    obtain ⟨second_in, second_own⟩ := mem_screensOf.mp inSecond
    refine sound.screenRanks first first_in second second_in trivial trivial ?_
    exact Prod.ext (first_own.trans second_own.symm) same

theorem questionsOf_sorted (sound : Sound library) (version : Nat) :
    (library.questionsOf version).Pairwise fun first second => first.order < second.order := by
  refine pairwise_lt_of_unique (List.pairwise_insertionSort _ _) ?_ ?_
  · refine (List.perm_insertionSort _ _).nodup_iff.mpr ?_
    exact (Table.nodup_rows library.questions).filter _
  · intro first inFirst second inSecond same
    obtain ⟨first_in, first_own⟩ := mem_questionsOf.mp inFirst
    obtain ⟨second_in, second_own⟩ := mem_questionsOf.mp inSecond
    refine sound.questionRanks first first_in second second_in trivial trivial ?_
    exact Prod.ext (first_own.trans second_own.symm) same

theorem choicesOf_sorted (library : Library) (question : Nat) :
    ((library.choicesOf question).map Choice.draft).Pairwise
      fun first second => first.order ≤ second.order := by
  have sorted : (library.choicesOf question).Pairwise
      fun first second => first.order ≤ second.order :=
    List.pairwise_insertionSort _ _
  exact List.pairwise_map.mpr sorted

/-- The questions of a version that had none are those that have been added, sorted. -/
theorem questionsOf_of_rows {after : Library} {news : List Question}
    (rows : after.questions.rows = library.questions.rows ++ news)
    (fresh : ∀ row ∈ library.questions, row.version ≠ version)
    (own : ∀ row ∈ news, row.version = version)
    (sorted : (news.map Question.order).Pairwise fun first second => first < second) :
    after.questionsOf version = news := by
  have old : (library.questions.rows.filter fun row => row.version = version) = [] :=
    List.filter_eq_nil_iff.mpr fun row member => by simpa using fresh row member
  have all : (news.filter fun row => row.version = version) = news :=
    List.filter_eq_self.mpr fun row member => decide_eq_true (own row member)
  rw [Library.questionsOf, rows, List.filter_append, old, List.nil_append, all]
  refine List.Pairwise.insertionSort_eq ?_
  exact (List.pairwise_map.mp sorted).imp Nat.le_of_lt

/-- The place of a screen that a question refers to is the place of a draft. -/
theorem lt_of_pointsAt {source place : Nat} {question : Question}
    (points : library.PointsAt source place question) :
    place < ((library.screensOf source).map Screen.draft).length := by
  obtain ⟨screen, stands, _⟩ := Option.map_eq_some_iff.mp points
  rw [List.length_map]
  exact (List.getElem?_eq_some_iff.mp stands).1

theorem screenOf_isSome {place first : Nat} {drafts : List ScreenDraft}
    (screens : library.screensOf version = screenRows version drafts first)
    (inside : place < drafts.length) :
    (library.screenOf version (first + place)).isSome := by
  have key : ((screenRows version drafts first)[place]?).map Screen.id = some (first + place) :=
    id_screenRows inside
  rw [← screens] at key
  obtain ⟨screen, stands, id_eq⟩ := Option.map_eq_some_iff.mp key
  obtain ⟨member, own⟩ := mem_screensOf.mp (List.mem_of_getElem? stands)
  have found := Table.find?_eq_some_iff.mpr ⟨member, id_eq⟩
  rw [Library.screenOf, found, Option.filter_some, if_pos (decide_eq_true own)]
  rfl

/-- The content of a version, added to a new one, is a copy. -/
theorem addContent_isCopy (sound : Sound library) (opened : Library)
    (screens : opened.screens = library.screens)
    (questions : opened.questions = library.questions)
    (choices : opened.choices = library.choices) {source : Nat}
    {entries : List (Nat × QuestionDraft)}
    (related : List.Forall₂ (fun question entry => entry.2 = library.questionDraft question ∧
      library.PointsAt source entry.1 question) (library.questionsOf source) entries) :
    ∃ after, opened.addContent library.versions.next ((library.screensOf source).map Screen.draft)
        entries = some after ∧
      IsCopy library source after library.versions.next := by
  have fresh : ∀ row ∈ opened.screens, row.version ≠ library.versions.next := by
    rw [screens]
    exact fun row member => Nat.ne_of_lt (sound.placed row member)
  have fresh_questions : ∀ row ∈ opened.questions, row.version ≠ library.versions.next := by
    rw [questions]
    intro row member own
    obtain ⟨screen, present, _, same⟩ := sound.attached row member
    exact Nat.ne_of_lt (sound.placed screen present) (same.trans own)
  have drafts_sorted : ((library.screensOf source).map Screen.draft).Pairwise
      fun first second => first.order < second.order :=
    List.pairwise_map.mpr (screensOf_sorted sound source)
  obtain ⟨loaded, loads, loaded_questions, loaded_choices, loaded_screens⟩ :=
    addScreens_loads opened library.versions.next drafts_sorted fresh
  have entries_sorted : (entries.map fun entry => entry.2.order).Pairwise
      fun first second => first < second := by
    have orders : (library.questionsOf source).map Question.order =
        entries.map fun entry => entry.2.order := by
      refine map_eq_of_forall₂ related ?_
      rintro question entry ⟨same, _⟩
      rw [same]
      rfl
    rw [← orders]
    exact List.pairwise_map.mpr (questionsOf_sorted sound source)
  have answered : ∀ row ∈ loaded.choices, row.question < loaded.questions.next := by
    rw [loaded_choices, loaded_questions, choices, questions]
    exact sound.answered
  have present : ∀ entry ∈ entries,
      entry.1 < ((library.screensOf source).map Screen.draft).length ∧
        (loaded.screenOf library.versions.next (opened.screens.next + entry.1)).isSome := by
    intro entry listed
    obtain ⟨question, _, _, points⟩ := exists_left_of_forall₂ related listed
    exact ⟨lt_of_pointsAt points, screenOf_isSome loaded_screens (lt_of_pointsAt points)⟩
  have choices_sorted : ∀ entry ∈ entries,
      entry.2.choices.Pairwise fun first second => first.order ≤ second.order := by
    intro entry listed
    obtain ⟨question, _, same, _⟩ := exists_left_of_forall₂ related listed
    rw [same]
    exact choicesOf_sorted library question.id
  obtain ⟨after, news, written, adds⟩ := addQuestions_adds (List.pairwise_map.mp entries_sorted)
    (fun _ _ row member own => absurd own (fresh_questions row (loaded_questions ▸ member)))
    answered present choices_sorted
  have after_screens : after.screensOf library.versions.next =
      screenRows library.versions.next ((library.screensOf source).map Screen.draft)
        opened.screens.next := by
    rw [← loaded_screens, Library.screensOf, adds.screens]
    rfl
  have after_questions : after.questionsOf library.versions.next = news := by
    refine questionsOf_of_rows adds.rows ?_ ?_ ?_
    · rw [loaded_questions]
      exact fresh_questions
    · intro row listed
      obtain ⟨entry, _, own, _⟩ := exists_left_of_forall₂ adds.added listed
      exact own
    · have orders : entries.map (fun entry => entry.2.order) = news.map Question.order := by
        refine map_eq_of_forall₂ adds.added ?_
        rintro entry row ⟨_, _, draft⟩
        exact (congrArg QuestionDraft.order draft).symm
      rw [← orders]
      exact entries_sorted
  refine ⟨after, ?_, ?_, ?_⟩
  · rw [Library.addContent, loads]
    exact written
  · rw [after_screens, draft_screenRows]
  · rw [after_questions]
    refine forall₂_chain ?_ related adds.added
    rintro question entry copied ⟨same, points⟩ ⟨_, screen, draft⟩
    refine ⟨draft.trans same, entry.1, points, ?_⟩
    rw [Library.PointsAt, after_screens, id_screenRows (lt_of_pointsAt points), screen]

end Content

/-! ## The requests that copy -/

section Requests

variable {slugify : String → String} {library : Library}

theorem courses_addContent {version : Nat} {screens : List ScreenDraft}
    {questions : List (Nat × QuestionDraft)} {after : Library}
    (written : library.addContent version screens questions = some after) :
    after.courses = library.courses := by
  rw [Library.addContent, Option.bind_eq_bind, Option.bind_eq_some_iff] at written
  obtain ⟨loaded, first, later⟩ := written
  have loads : loaded.courses = library.courses := by
    refine Outcome.holds_foldlM (P := fun middle => middle.courses = library.courses) ?_ rfl first
    intro draft _ middle result same added
    rw [Library.addScreen] at added
    split at added
    · cases added
    · cases added
      exact same
  refine Outcome.holds_foldlM (P := fun middle => middle.courses = library.courses) ?_ loads later
  rintro ⟨position, draft⟩ _ middle result same added
  dsimp only at added
  split at added
  · rw [Library.addQuestion] at added
    split at added
    · cases added
    · cases added
      exact same
  · cases added

/-- The draft that a version is copied to. -/
def CourseVersion.reopened (source : CourseVersion) (course number : Nat) (changeNote : String)
    (key : Nat) : CourseVersion where
  id := key
  course := course
  number := number
  publishedAt := none
  passThreshold := source.passThreshold
  maxAttempts := source.maxAttempts
  changeNote := changeNote

/-- A draft with the content of a version has been opened. -/
def Opened (library after : Library) (source : CourseVersion) (course number : Nat) : Prop :=
  ∃ row ∈ after.versions, row.id = library.versions.next ∧ row.course = course ∧
    row.number = number ∧ row.isPublished = false ∧ row.passThreshold = source.passThreshold ∧
      row.maxAttempts = source.maxAttempts ∧ IsCopy library source.id after row.id

theorem createVersion_opens (sound : Sound library) {target : CourseTarget} {titled : Library}
    {course number : Nat} (changeNote : String) {source : CourseVersion}
    {entries : List (Nat × QuestionDraft)}
    (targeted : library.addCourse target = some (titled, course))
    (free : ∀ row ∈ library.versions, row.course = course → row.number ≠ number)
    (related : List.Forall₂ (fun question entry => entry.2 = library.questionDraft question ∧
      library.PointsAt source.id entry.1 question) (library.questionsOf source.id) entries) :
    ∃ after, library.createVersion target number source.passThreshold source.maxAttempts changeNote
        ((library.screensOf source.id).map Screen.draft) entries = some after ∧
      Opened library after source course number ∧ after.courses = titled.courses := by
  have titled_eq : titled = { library with courses := titled.courses } := by
    cases target with
    | existing key =>
        cases targeted
        rfl
    | new slug title summary owner =>
        rw [Library.addCourse] at targeted
        split at targeted
        · cases targeted
        · cases targeted
          rfl
  generalize titled.courses = courses at titled_eq
  subst titled_eq
  have added : ({ library with courses } : Library).addVersion course number source.passThreshold
      source.maxAttempts changeNote = some ({ library with
        courses
        versions := library.versions.create (source.reopened course number changeNote)
          fun _ => rfl }, library.versions.next) := by
    refine if_neg fun taken => ?_
    obtain ⟨row, member, both⟩ := List.any_eq_true.mp taken
    simp only [Bool.and_eq_true, decide_eq_true_eq] at both
    exact free row member both.1 both.2
  obtain ⟨after, written, copy⟩ := addContent_isCopy sound { library with
    courses
    versions := library.versions.create (source.reopened course number changeNote)
      fun _ => rfl } rfl rfl rfl related
  have listed : source.reopened course number changeNote library.versions.next ∈
      after.versions := by
    have created : source.reopened course number changeNote library.versions.next ∈
        library.versions.create (source.reopened course number changeNote) fun _ => rfl :=
      Table.mem_create.mpr (Or.inr rfl)
    rw [(StaysIn.addContent written).versions]
    exact created
  refine ⟨after, ?_, ⟨_, listed, rfl, rfl, rfl, rfl, rfl, rfl, copy⟩, courses_addContent written⟩
  rw [Library.createVersion, targeted, Option.bind_eq_bind, Option.bind_some]
  dsimp only
  rw [added, Option.bind_some]
  exact written

/-- Nothing is opened where nothing is written. -/
theorem not_opened_self {source : CourseVersion} {course number : Nat} :
    ¬Opened library library source course number := by
  rintro ⟨row, member, key, _⟩
  exact Table.ne_next member key

/-- The title of a duplicate. -/
def titreCopie (cours : Course) (titre : Option String) : String :=
  textOr (titre.getD "") (cours.title ++ " (copie)")

def noteCopie (cours : Course) (source : CourseVersion) : String :=
  "Dérivé de « " ++ cours.title ++ " » (version " ++ toString source.number ++ ")."

/-- The course is there, and this is the version that a duplicate is made of. -/
def Duplicable (library : Library) (cours : Course) (source : CourseVersion) : Prop :=
  library.courses.find? cours.id = some cours ∧
    (library.publishedVersion cours.id <|> library.draftVersion cours.id) = some source

/-- The duplicate of a course is a new course with a copy of its version. -/
def Duplicates (slugify : String → String) (library : Library) (cours : Course)
    (source : CourseVersion) (owner : Option Nat) (titre : Option String) : Prop :=
  let after := serve Library.applyChecked (studioProgram slugify) library
    (.dupliquer cours.id owner titre)
  (∃ copie ∈ after.courses, copie.id = library.courses.next ∧
      copie.title = strip (titreCopie cours titre) ∧ copie.summary = cours.summary ∧
        copie.ownerTenant = owner) ∧
    Opened library after source library.courses.next 1

/-- The new course fits its columns. -/
def DuplicateFits (slugify : String → String) (library : Library) (cours : Course)
    (source : CourseVersion) (titre : Option String) : Prop :=
  (strip (titreCopie cours titre)).length ≤ maxCourseTitle ∧
    (slugLibre slugify library (titreCopie cours titre)).length ≤ maxSlug ∧
      (noteCopie cours source).length ≤ maxChangeNote

theorem slugLibre_free (slugify : String → String) (library : Library) (titre : String) :
    ∀ row ∈ library.courses, row.slug ≠ slugLibre slugify library titre := by
  obtain ⟨slug, found, free⟩ := Table.exists_free_numbered library.courses Course.slug
    (textOr (takeChars (slugify titre) 70) "cours")
  intro row member taken
  have taken_slug : row.slug = slug := taken.trans (congrArg (Option.getD · _) found)
  exact free row member taken_slug

theorem addCourse_new (title summary : String) (owner : Option Nat) {slug : String}
    (free : ∀ row ∈ library.courses, row.slug ≠ slug) :
    library.addCourse (.new slug title summary owner) = some ({ library with
      courses := library.courses.create (fun key =>
        { id := key, slug, title, summary, ownerTenant := owner }) fun _ => rfl },
      library.courses.next) := by
  refine if_neg fun taken => ?_
  obtain ⟨row, member, same⟩ := List.any_eq_true.mp taken
  exact free row member (of_decide_eq_true same)

theorem duplicates_iff (orderly : Orderly library) {cours : Course} {source : CourseVersion}
    (duplicable : Duplicable library cours source) (owner : Option Nat) (titre : Option String) :
    Duplicates slugify library cours source owner titre ↔
      DuplicateFits slugify library cours source titre := by
  obtain ⟨entries, copied, related⟩ :=
    exists_copiedQuestions orderly.sound.attached source.id
  have served : serve Library.applyChecked (studioProgram slugify) library
      (.dupliquer cours.id owner titre) = library.applyChecked (.createVersion
        (.new (slugLibre slugify library (titreCopie cours titre))
          (strip (titreCopie cours titre)) cours.summary owner) 1 source.passThreshold
        source.maxAttempts (noteCopie cours source)
        ((library.screensOf source.id).map Screen.draft) entries) := by
    rw [serve, studioProgram, dupliquer, Program.alone, duplicable.1, duplicable.2]
    dsimp only
    rw [Program.alone, recopierContenu, Program.alone]
    dsimp only
    rw [Program.alone, copied]
    rfl
  have targeted := addCourse_new (strip (titreCopie cours titre)) cours.summary owner
    (slugLibre_free slugify library (titreCopie cours titre))
  have free : ∀ row ∈ library.versions, row.course = library.courses.next → row.number ≠ 1 :=
    fun row member own => absurd own (Nat.ne_of_lt (orderly.sound.owned row member))
  obtain ⟨after, written, opened, courses⟩ :=
    createVersion_opens orderly.sound (noteCopie cours source) targeted free related
  rw [Duplicates, served, Library.applyChecked]
  split
  · rename_i fits
    refine iff_of_true ?_ ⟨fits.1.2, fits.1.1, fits.2.2⟩
    have applied := congrArg (Option.getD · library) written
    dsimp only [Option.getD_some] at applied
    rw [Library.applyStudio, Library.write?, applied]
    refine ⟨?_, opened⟩
    rw [courses]
    refine ⟨_, Table.mem_create.mpr (Or.inr rfl), rfl, rfl, rfl, rfl⟩
  · rename_i exceeds
    refine iff_of_false (fun duplicates => not_opened_self duplicates.2) fun fits => exceeds ?_
    exact ⟨⟨fits.2.1, fits.1⟩, by decide, fits.2.2⟩

/-- The course has a published version and no draft, and this is the version that a new
one is made of. -/
def Reopenable (library : Library) (course : Nat) (source : CourseVersion) : Prop :=
  library.draftVersion course = none ∧ library.publishedVersion course = some source

/-- The new version of a course is a draft with a copy of the last published one. -/
def Reopens (slugify : String → String) (library : Library) (course : Nat)
    (source : CourseVersion) (changeNote : String) : Prop :=
  Opened library (serve Library.applyChecked (studioProgram slugify) library
    (.nouvelleVersion course changeNote)) source course (source.number + 1)

theorem reopens_iff (orderly : Orderly library) {course : Nat} {source : CourseVersion}
    (reopenable : Reopenable library course source) (changeNote : String) :
    Reopens slugify library course source changeNote ↔
      source.number + 1 ≤ maxSmallInteger ∧ changeNote.length ≤ maxChangeNote := by
  obtain ⟨entries, copied, related⟩ :=
    exists_copiedQuestions orderly.sound.attached source.id
  obtain ⟨member, own, _, last⟩ := of_publishedVersion reopenable.2
  have served : serve Library.applyChecked (studioProgram slugify) library
      (.nouvelleVersion course changeNote) = library.applyChecked (.createVersion
        (.existing course) (source.number + 1) source.passThreshold source.maxAttempts changeNote
        ((library.screensOf source.id).map Screen.draft) entries) := by
    rw [serve, studioProgram, nouvelleVersion, Program.alone, reopenable.1]
    dsimp only [Option.isSome_none]
    rw [if_neg Bool.false_ne_true, Program.alone, reopenable.2]
    dsimp only
    rw [recopierContenu, Program.alone]
    dsimp only
    rw [Program.alone, copied]
    rfl
  have free : ∀ row ∈ library.versions, row.course = course → row.number ≠ source.number + 1 := by
    intro row inside same
    have shown := of_draftVersion_none reopenable.1 row inside same
    exact Nat.ne_of_lt (Nat.lt_succ_of_le (last row inside same shown))
  have targeted : library.addCourse (.existing course) = some (library, course) := rfl
  obtain ⟨after, written, opened, _⟩ :=
    createVersion_opens orderly.sound changeNote targeted free related
  rw [Reopens, served, Library.applyChecked]
  split
  · rename_i fits
    refine iff_of_true ?_ fits.2
    have applied := congrArg (Option.getD · library) written
    dsimp only [Option.getD_some] at applied
    rw [Library.applyStudio, Library.write?, applied]
    exact opened
  · rename_i exceeds
    exact iff_of_false not_opened_self fun fits => exceeds ⟨trivial, fits⟩

/-! ## What a copy leaves alone -/

/-- A version, its content and its course are those of before. -/
structure Untouched (source : CourseVersion) (before after : Library) : Prop where
  version : source ∈ after.versions
  content : SameContent source.id before after
  courses : ∀ cours ∈ before.courses, cours ∈ after.courses

theorem Untouched.refl {source : CourseVersion} (member : source ∈ library.versions) :
    Untouched source library library :=
  ⟨member, .refl library, fun _ => id⟩

theorem Untouched.trans {source : CourseVersion} {first second third : Library}
    (earlier : Untouched source first second) (later : Untouched source second third) :
    Untouched source first third where
  version := later.version
  content := earlier.content.trans later.content
  courses cours member := later.courses cours (earlier.courses cours member)

theorem courses_of_draft {after : Library} {change : StudioWrite} {version : Nat}
    (drafted : change.draft = some version) (written : library.write? change = some after) :
    after.courses = library.courses := by
  cases change with
  | createVersion => cases drafted
  | publish => cases drafted
  | retitle => cases drafted
  | load => cases drafted
  | addScreen version draft =>
      rw [Library.write?, Library.addScreen] at written
      split at written
      · cases written
      · cases written
        rfl
  | saveScreen version screen draft =>
      rw [Library.write?, Library.saveScreen] at written
      split at written
      · cases written
      · cases written
        rfl
  | reorderScreens version order =>
      refine Outcome.holds_foldlM (P := fun middle => middle.courses = library.courses) ?_ rfl
        written
      rintro ⟨screen, rank⟩ _ middle result same changed
      dsimp only at changed
      rw [Library.setScreenOrder] at changed
      split at changed
      · cases changed
      · cases changed
        exact same
  | deleteScreen version screen =>
      cases written
      rfl
  | addQuestion version screen draft =>
      rw [Library.write?, Library.addQuestion] at written
      split at written
      · cases written
      · cases written
        rfl
  | saveQuestion version question screen draft =>
      rw [Library.write?, Library.saveQuestion] at written
      split at written
      · cases written
      · cases written
        rfl
  | deleteQuestion version question =>
      cases written
      rfl

/-- A new version is added to the courses and versions that are there. -/
theorem kept_of_createVersion {target : CourseTarget} {number passThreshold maxAttempts : Nat}
    {changeNote : String} {screens : List ScreenDraft} {questions : List (Nat × QuestionDraft)}
    {after : Library} (written : library.createVersion target number passThreshold maxAttempts
      changeNote screens questions = some after) :
    (∀ row ∈ library.versions, row ∈ after.versions) ∧
      ∀ cours ∈ library.courses, cours ∈ after.courses := by
  rw [Library.createVersion, Option.bind_eq_bind, Option.bind_eq_some_iff] at written
  obtain ⟨⟨titled, course⟩, first, written⟩ := written
  dsimp only at written
  rw [Option.bind_eq_some_iff] at written
  obtain ⟨⟨opened, version⟩, second, third⟩ := written
  have titles : titled.versions = library.versions ∧
      ∀ cours ∈ library.courses, cours ∈ titled.courses := by
    cases target with
    | existing key =>
        cases first
        exact ⟨rfl, fun _ => id⟩
    | new slug title summary owner =>
        rw [Library.addCourse] at first
        split at first
        · cases first
        · cases first
          exact ⟨rfl, fun cours member => Table.mem_create.mpr (Or.inl member)⟩
  have opens : (∀ row ∈ titled.versions, row ∈ opened.versions) ∧
      opened.courses = titled.courses := by
    rw [Library.addVersion] at second
    split at second
    · cases second
    · cases second
      exact ⟨fun row member => Table.mem_create.mpr (Or.inl member), rfl⟩
  rw [(StaysIn.addContent third).versions, courses_addContent third, opens.2]
  exact ⟨fun row member => opens.1 row (titles.1.symm ▸ member), titles.2⟩

/-- A write in another version leaves a version, its content and its course alone. -/
theorem untouched_write {source : CourseVersion} {change : StudioWrite} {after : Library}
    (attached : Attached library) (member : source ∈ library.versions)
    (spares : change.Spares source.id) (written : library.write? change = some after) :
    Untouched source library after := by
  have drafted (version : Nat) (drafts : change.draft = some version)
      (apart : version ≠ source.id) : Untouched source library after := by
    have stays := staysIn_draft drafts written
    refine ⟨stays.versions ▸ member, stays.others attached source.id apart.symm, ?_⟩
    rw [courses_of_draft drafts written]
    exact fun _ => id
  cases change with
  | createVersion target number passThreshold maxAttempts changeNote screens questions =>
      have kept := kept_of_createVersion written
      have fills := (Fills.createVersion written).1
      have apart : source.id ≠ library.versions.next := Table.ne_next member
      exact ⟨kept.1 source member, fills.others attached source.id apart, kept.2⟩
  | publish version now =>
      cases written
      have fills : Fills version library (library.publish version now) := Fills.publish
      refine ⟨?_, fills.others attached source.id (Ne.symm spares), fun _ => id⟩
      rw [Library.publish, Table.mem_modify]
      exact ⟨source, member, if_neg (Ne.symm spares)⟩
  | addScreen version draft => exact drafted version rfl spares
  | saveScreen version screen draft => exact drafted version rfl spares
  | reorderScreens version order => exact drafted version rfl spares
  | deleteScreen version screen => exact drafted version rfl spares
  | addQuestion version screen draft => exact drafted version rfl spares
  | saveQuestion version question screen draft => exact drafted version rfl spares
  | deleteQuestion version question => exact drafted version rfl spares
  | retitle course title summary => exact spares.elim
  | load course found reset data now => exact spares.elim

theorem untouched_applyChecked {source : CourseVersion} {change : StudioWrite}
    (attached : Attached library) (member : source ∈ library.versions)
    (spares : change.Spares source.id) :
    Untouched source library (library.applyChecked change) := by
  rw [Library.applyChecked]
  split
  · rw [Library.applyStudio]
    cases written : library.write? change with
    | none => exact .refl member
    | some after => exact untouched_write attached member spares written
  · exact .refl member

/-- No sequence of operations in other versions changes anything of a version. -/
theorem untouched_after (slugify : String → String) {source : CourseVersion}
    (orderly : Orderly library) (member : source ∈ library.versions)
    {requests : List StudioRequest} (spare : ∀ request ∈ requests, request.Spares source.id) :
    Untouched source library
      (after (serve Library.applyChecked (studioProgram slugify)) library requests) := by
  induction requests generalizing library with
  | nil => exact .refl member
  | cons request rest ih =>
      obtain ⟨first, later⟩ := List.forall_mem_cons.mp spare
      have served : Orderly (serve Library.applyChecked (studioProgram slugify) library request) ∧
          Untouched source library
            (serve Library.applyChecked (studioProgram slugify) library request) := by
        refine Program.holds_alone (P := fun middle => Orderly middle ∧
          Untouched source library middle) ?_ (proper_studioProgram orderly request)
          ⟨orderly, .refl member⟩
        rintro middle change ⟨kept, untouched⟩ proper
        refine ⟨kept.applyChecked proper.1, untouched.trans ?_⟩
        exact untouched_applyChecked kept.sound.attached untouched.version
          (proper.2 source.id first)
      exact served.2.trans (ih served.1 served.2.version later)

end Requests

theorem orderly_empty : Orderly Library.empty where
  sound :=
    { attached := by rintro question ⟨⟩
      owned := by rintro row ⟨⟩
      placed := by rintro row ⟨⟩
      answered := by rintro row ⟨⟩
      screenRanks := by rintro first ⟨⟩
      questionRanks := by rintro first ⟨⟩ }
  drafts :=
    { single := by rintro first ⟨⟩
      ahead := by rintro draft ⟨⟩ }

/-- In every library that the studio reaches, the draft of a course is one and ahead, a
copy goes through exactly where what it computes fits the columns, and what is written
in other versions changes nothing of a version. -/
theorem copies_iff (slugify : String → String) (requests : List StudioRequest) :
    Always (serve Library.applyChecked (studioProgram slugify))
      (fun library => DraftsAhead library ∧
        (∀ cours source, Duplicable library cours source → ∀ owner titre,
          (Duplicates slugify library cours source owner titre ↔
            DuplicateFits slugify library cours source titre)) ∧
        (∀ course source, Reopenable library course source → ∀ changeNote,
          (Reopens slugify library course source changeNote ↔
            source.number + 1 ≤ maxSmallInteger ∧ changeNote.length ≤ maxChangeNote)) ∧
        ∀ source ∈ library.versions, ∀ later, (∀ request ∈ later, request.Spares source.id) →
          Untouched source library
            (after (serve Library.applyChecked (studioProgram slugify)) library later))
      Library.empty requests := by
  refine (always_orderly orderly_empty requests).imp fun library orderly => ⟨?_, ?_, ?_, ?_⟩
  · exact orderly.drafts
  · exact fun cours source duplicable owner titre => duplicates_iff orderly duplicable owner titre
  · exact fun course source reopenable changeNote => reopens_iff orderly reopenable changeNote
  · exact fun source member later spare => untouched_after slugify orderly member spare

/-! A course whose title leaves no room for what a copy adds to it. -/

def longTitle : String := String.ofList (List.replicate 195 'a')

theorem longTitle_toList : longTitle.toList = List.replicate 195 'a' := String.toList_ofList

theorem longTitle_length : longTitle.length = 195 :=
  String.length_ofList.trans List.length_replicate

theorem strip_longTitle : strip longTitle = longTitle := strip_ofList (by decide +kernel)

theorem takeChars_longTitle : takeChars longTitle 70 = String.ofList (List.replicate 70 'a') := by
  rw [takeChars, longTitle_toList, List.take_replicate]
  rfl

theorem slugLibre_longTitle : slugLibre id Library.empty longTitle = takeChars longTitle 70 := by
  have filled : takeChars longTitle 70 ≠ "" := by
    rw [takeChars_longTitle]
    decide +kernel
  have base : textOr (takeChars (id longTitle) 70) "cours" = takeChars longTitle 70 :=
    if_neg filled
  rw [slugLibre, base]
  rfl

/-- The library where the studio has made this course alone. -/
theorem created_longTitle :
    after (serve Library.applyChecked (studioProgram id)) Library.empty
        [.creerCours longTitle "" none] =
      Library.empty.applyStudio (.createVersion
        (.new (takeChars longTitle 70) longTitle "" none) 1 70 3 "Première version." [] []) := by
  have served : serve Library.applyChecked (studioProgram id) Library.empty
      (.creerCours longTitle "" none) = Library.empty.applyChecked (.createVersion
        (.new (slugLibre id Library.empty longTitle) (strip longTitle) (strip "") none) 1 70 3
        "Première version." [] []) := by
    rw [serve, studioProgram, creerCours, Program.alone, Program.alone, Program.alone]
    rfl
  rw [after, List.foldl_cons, List.foldl_nil, served, slugLibre_longTitle, strip_longTitle,
    Library.applyChecked]
  refine if_pos ⟨⟨?_, ?_⟩, ?_, ?_⟩
  · rw [takeChars_longTitle, String.length_ofList]
    decide
  · rw [longTitle_length]
    decide
  · decide
  · decide +kernel

theorem duplicable_created (slug title changeNote : String) :
    Duplicable (Library.empty.applyStudio
        (.createVersion (.new slug title "" none) 1 70 3 changeNote [] []))
      ⟨0, slug, title, "", none⟩ ⟨0, 0, 1, none, 70, 3, changeNote⟩ :=
  ⟨rfl, rfl⟩

theorem duplicates_longTitle :
    let library := after (serve Library.applyChecked (studioProgram id)) Library.empty
      [.creerCours longTitle "" none]
    ∃ cours source, Duplicable library cours source ∧
      ¬Duplicates id library cours source none none := by
  intro library
  have created : library = _ := created_longTitle
  have duplicable : Duplicable library ⟨0, takeChars longTitle 70, longTitle, "", none⟩
      ⟨0, 0, 1, none, 70, 3, "Première version."⟩ := by
    rw [created]
    exact duplicable_created _ _ _
  refine ⟨_, _, duplicable, ?_⟩
  intro duplicates
  have always : Always (serve Library.applyChecked (studioProgram id)) Orderly Library.empty
      [.creerCours longTitle "" none] := always_orderly orderly_empty _
  have fits := ((duplicates_iff always.last duplicable none none).mp duplicates).1
  have titled : titreCopie ⟨0, takeChars longTitle 70, longTitle, "", none⟩ none =
      String.ofList (List.replicate 195 'a' ++ " (copie)".toList) := by
    rw [String.ofList_append, String.ofList_toList]
    rfl
  rw [titled, strip_ofList (by decide +kernel), String.length_ofList] at fits
  revert fits
  decide +kernel

end RssiService.Training
