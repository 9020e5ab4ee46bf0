import RssiService.Foundation.Outcome

/-!
# Reading CSV

The reader of the `csv` module with its default dialect and a delimiter: a field
may be quoted, a doubled quote stands for a quote, and a quoted field may go
over several lines.  Lines end with a line feed.
-/

namespace RssiService.Python.Csv

open Foundation.Outcome

inductive State where
  | startRecord
  | startField
  | inField
  | inQuotedField
  | quoteInQuotedField
  | eatCrnl
  deriving DecidableEq, Repr

/-- The field being read and the fields of the record before it. -/
structure Reader where
  state : State
  field : List Char
  fields : List String
  deriving DecidableEq, Repr

/-- `csv.field_size_limit()`. -/
def fieldLimit : Nat := 131072

def isNewline (symbol : Char) : Bool := symbol = '\n' || symbol = '\r'

namespace Reader

def reset : Reader := ⟨.startRecord, [], []⟩

def enter (reader : Reader) (state : State) : Reader := { reader with state }

def addChar (reader : Reader) (symbol : Char) (state : State) : Except String Reader :=
  if fieldLimit ≤ reader.field.length then
    .error s!"field larger than field limit ({fieldLimit})"
  else .ok { reader with field := reader.field ++ [symbol], state }

def saveField (reader : Reader) (state : State) : Reader :=
  { state, field := [], fields := reader.fields ++ [String.ofList reader.field] }

/-- The first symbol of a field. -/
def openField (delimiter : Char) (reader : Reader) (symbol : Char) : Except String Reader :=
  if symbol = '"' then .ok (reader.enter .inQuotedField)
  else if symbol = delimiter then .ok (reader.saveField .startField)
  else reader.addChar symbol .inField

/-- One symbol of a line; there is none at its end. -/
def processChar (delimiter : Char) (reader : Reader) (symbol : Option Char) :
    Except String Reader :=
  match reader.state, symbol with
  | .startRecord, none => .ok reader
  | .startRecord, some symbol =>
      if isNewline symbol then .ok (reader.enter .eatCrnl)
      else openField delimiter reader symbol
  | .startField, none => .ok (reader.saveField .startRecord)
  | .startField, some symbol =>
      if isNewline symbol then .ok (reader.saveField .eatCrnl)
      else openField delimiter reader symbol
  | .inField, none => .ok (reader.saveField .startRecord)
  | .inField, some symbol =>
      if isNewline symbol then .ok (reader.saveField .eatCrnl)
      else if symbol = delimiter then .ok (reader.saveField .startField)
      else reader.addChar symbol .inField
  | .inQuotedField, none => .ok reader
  | .inQuotedField, some symbol =>
      if symbol = '"' then .ok (reader.enter .quoteInQuotedField)
      else reader.addChar symbol .inQuotedField
  | .quoteInQuotedField, none => .ok (reader.saveField .startRecord)
  | .quoteInQuotedField, some symbol =>
      if symbol = '"' then reader.addChar symbol .inQuotedField
      else if symbol = delimiter then .ok (reader.saveField .startField)
      else if isNewline symbol then .ok (reader.saveField .eatCrnl)
      else reader.addChar symbol .inField
  | .eatCrnl, none => .ok (reader.enter .startRecord)
  | .eatCrnl, some symbol =>
      if isNewline symbol then .ok reader
      else .error ("new-line character seen in unquoted field - do you need to open the file " ++
        "with newline=''?")

end Reader

/-- The lines of a text, with their line feed. -/
def lines : List Char → List (List Char)
  | [] => []
  | symbol :: rest =>
      if symbol = '\n' then ['\n'] :: lines rest
      else
        match lines rest with
        | [] => [[symbol]]
        | line :: others => (symbol :: line) :: others

/-- One line; a record that ends with it joins the records. -/
def readLine (delimiter : Char) (progress : Reader × List (List String)) (line : List Char) :
    Except String (Reader × List (List String)) := do
  let reader ← (line.map some ++ [none]).foldlM (Reader.processChar delimiter) progress.1
  if reader.state = .startRecord then return (Reader.reset, progress.2 ++ [reader.fields])
  else return (reader, progress.2)

/-- `list(csv.reader(io.StringIO(text), delimiter=delimiter))`: a quoted field that
is not closed ends with the text. -/
def read (delimiter : Char) (text : String) : Except String (List (List String)) := do
  let progress ← (lines text.toList).foldlM (readLine delimiter) (Reader.reset, [])
  if progress.1.field ≠ [] ∨ progress.1.state = .inQuotedField then
    return progress.2 ++ [(progress.1.saveField .startRecord).fields]
  else return progress.2

/-! ## Texts that are always read -/

namespace Reader

variable (delimiter : Char) {reader : Reader}

/-- A reader that has not just ended a line, with room for some more symbols. -/
def Has (room : Nat) (reader : Reader) : Prop :=
  reader.state ≠ .eatCrnl ∧ reader.field.length + room ≤ fieldLimit

theorem addChar_of_room {room : Nat} (has : reader.Has (room + 1)) (symbol : Char) {state : State}
    (within : state ≠ .eatCrnl) :
    ∃ next, reader.addChar symbol state = .ok next ∧ next.Has room := by
  have bound := has.2
  refine ⟨{ reader with field := reader.field ++ [symbol], state }, ?_, within, ?_⟩
  · rw [addChar, if_neg (by omega)]
  · rw [List.length_append, List.length_singleton]
    omega

theorem saveField_has {room : Nat} (has : reader.Has room) {state : State}
    (within : state ≠ .eatCrnl) : (reader.saveField state).Has room := by
  have bound := has.2
  refine ⟨within, ?_⟩
  rw [saveField, List.length_nil]
  omega

theorem enter_has {room : Nat} (has : reader.Has (room + 1)) {state : State}
    (within : state ≠ .eatCrnl) : (reader.enter state).Has room :=
  ⟨within, Nat.le_of_succ_le has.2⟩

theorem Has.mono {room other : Nat} (has : reader.Has other) (le : room ≤ other) :
    reader.Has room :=
  ⟨has.1, Nat.le_trans (Nat.add_le_add_left le _) has.2⟩

theorem openField_has {room : Nat} (has : reader.Has (room + 1)) (symbol : Char) :
    ∃ next, openField delimiter reader symbol = .ok next ∧ next.Has room := by
  rw [openField]
  split_ifs
  · exact ⟨_, rfl, enter_has has (by decide)⟩
  · exact ⟨_, rfl, saveField_has (has.mono (Nat.le_succ _)) (by decide)⟩
  · exact addChar_of_room has symbol (by decide)

/-- A symbol within a line is read. -/
theorem processChar_has {room : Nat} (has : reader.Has (room + 1)) {symbol : Char}
    (inside : isNewline symbol = false) :
    ∃ next, processChar delimiter reader (some symbol) = .ok next ∧ next.Has room := by
  have less := has.mono (Nat.le_succ room)
  have inside' : ¬ isNewline symbol = true := by rw [inside]; exact Bool.false_ne_true
  obtain ⟨state, field, fields⟩ := reader
  cases state with
  | startRecord =>
      simp only [processChar, if_neg inside']
      exact openField_has delimiter has symbol
  | startField =>
      simp only [processChar, if_neg inside']
      exact openField_has delimiter has symbol
  | inField =>
      simp only [processChar, if_neg inside']
      split_ifs
      · exact ⟨_, rfl, saveField_has less (by decide)⟩
      · exact addChar_of_room has symbol (by decide)
  | inQuotedField =>
      simp only [processChar]
      split_ifs
      · exact ⟨_, rfl, enter_has has (by decide)⟩
      · exact addChar_of_room has symbol (by decide)
  | quoteInQuotedField =>
      simp only [processChar, if_neg inside']
      split_ifs
      · exact addChar_of_room has symbol (by decide)
      · exact ⟨_, rfl, saveField_has less (by decide)⟩
      · exact addChar_of_room has symbol (by decide)
  | eatCrnl => exact absurd rfl has.1

/-- The end of a line is read, after its line feed or without one. -/
theorem processChar_end {room : Nat} (bound : reader.field.length + room ≤ fieldLimit) :
    ∃ next, processChar delimiter reader none = .ok next ∧ next.Has room := by
  have emptied (fields : List String) : Has room ⟨.startRecord, [], fields⟩ := by
    refine ⟨show State.startRecord ≠ .eatCrnl by decide, ?_⟩
    rw [List.length_nil]
    omega
  obtain ⟨state, field, fields⟩ := reader
  cases state with
  | startRecord => exact ⟨_, rfl, show State.startRecord ≠ .eatCrnl by decide, bound⟩
  | startField => exact ⟨_, rfl, emptied _⟩
  | inField => exact ⟨_, rfl, emptied _⟩
  | inQuotedField => exact ⟨_, rfl, show State.inQuotedField ≠ .eatCrnl by decide, bound⟩
  | quoteInQuotedField => exact ⟨_, rfl, emptied _⟩
  | eatCrnl => exact ⟨_, rfl, show State.startRecord ≠ .eatCrnl by decide, bound⟩

/-- The line feed of a line is read. -/
theorem processChar_lineFeed {room : Nat} (has : reader.Has (room + 1)) :
    ∃ next, processChar delimiter reader (some '\n') = .ok next ∧
      next.field.length + room ≤ fieldLimit := by
  have bound := has.2
  have saved (state : State) : (reader.saveField state).field.length + room ≤ fieldLimit := by
    rw [saveField, List.length_nil]
    omega
  obtain ⟨state, field, fields⟩ := reader
  cases state with
  | startRecord => exact ⟨_, rfl, Nat.le_of_succ_le bound⟩
  | startField => exact ⟨_, rfl, saved _⟩
  | inField => exact ⟨_, rfl, saved _⟩
  | inQuotedField =>
      obtain ⟨next, added, has'⟩ :=
        addChar_of_room has '\n' (show State.inQuotedField ≠ .eatCrnl by decide)
      exact ⟨next, added, has'.2⟩
  | quoteInQuotedField =>
      by_cases separates : '\n' = delimiter
      · refine ⟨_, ?_, saved .startField⟩
        simp only [processChar, if_neg (show '\n' ≠ '"' by decide), if_pos separates]
      · refine ⟨_, ?_, saved .eatCrnl⟩
        simp only [processChar, if_neg (show '\n' ≠ '"' by decide), if_neg separates,
          if_pos (show isNewline '\n' = true by decide)]
  | eatCrnl => exact absurd rfl has.1

/-- The symbols of a line without its line feed are read. -/
theorem foldlM_has {room : Nat} {body : List Char} (has : reader.Has (room + body.length))
    (inside : ∀ symbol ∈ body, isNewline symbol = false) :
    ∃ next, (body.map some).foldlM (processChar delimiter) reader = .ok next ∧ next.Has room := by
  induction body generalizing reader with
  | nil => exact ⟨reader, rfl, has⟩
  | cons symbol rest ih =>
      obtain ⟨next, step, has'⟩ := processChar_has delimiter has
        (inside symbol List.mem_cons_self)
      obtain ⟨last, loop, room⟩ := ih has'
        fun other member => inside other (List.mem_cons_of_mem _ member)
      refine ⟨last, ?_, room⟩
      rw [List.map_cons, List.foldlM_cons, step]
      exact loop

end Reader

/-- A line: symbols without a line feed, and perhaps a line feed after them. -/
def IsLine (line : List Char) : Prop :=
  ∃ body, '\n' ∉ body ∧ (line = body ∨ line = body ++ ['\n'])

theorem lines_isLine (text : List Char) :
    (lines text).flatten = text ∧ ∀ line ∈ lines text, IsLine line := by
  induction text with
  | nil => exact ⟨rfl, fun line member => absurd member List.not_mem_nil⟩
  | cons symbol rest ih =>
      obtain ⟨joined, all⟩ := ih
      by_cases feed : symbol = '\n'
      · subst feed
        rw [lines, if_pos rfl]
        refine ⟨congrArg _ joined, ?_⟩
        exact List.forall_mem_cons.mpr ⟨⟨[], List.not_mem_nil, .inr rfl⟩, all⟩
      · rw [lines, if_neg feed]
        cases split : lines rest with
        | nil =>
            rw [split] at joined
            refine ⟨congrArg _ joined, ?_⟩
            intro line member
            obtain rfl := List.mem_singleton.mp member
            exact ⟨[symbol], by simpa using Ne.symm feed, .inl rfl⟩
        | cons line others =>
            rw [split] at joined all
            refine ⟨congrArg _ joined, ?_⟩
            obtain ⟨⟨body, free, shape⟩, later⟩ := List.forall_mem_cons.mp all
            refine List.forall_mem_cons.mpr ⟨⟨symbol :: body, ?_, ?_⟩, later⟩
            · simpa using ⟨Ne.symm feed, free⟩
            · rcases shape with rfl | rfl
              · exact .inl rfl
              · exact .inr rfl

/-- A line without a carriage return is read. -/
theorem readLine_has {delimiter : Char} {room : Nat} {reader : Reader} {rows : List (List String)}
    {line : List Char} (has : reader.Has (room + line.length)) (isLine : IsLine line)
    (noReturn : '\r' ∉ line) :
    ∃ next records, readLine delimiter (reader, rows) line = .ok (next, records) ∧
      next.Has room := by
  obtain ⟨body, free, shape⟩ := isLine
  have ends : ∀ {last : Reader}, last.field.length + room ≤ fieldLimit →
      (line.map some).foldlM (Reader.processChar delimiter) reader = .ok last →
        ∃ next records, readLine delimiter (reader, rows) line = .ok (next, records) ∧
          next.Has room := by
    intro last bound body
    obtain ⟨next, ended, has'⟩ := Reader.processChar_end delimiter bound
    have whole : (line.map some ++ [none]).foldlM (Reader.processChar delimiter) reader =
        .ok next := by
      rw [List.foldlM_append, body]
      exact bind_eq_ok.mpr ⟨last, rfl, bind_eq_ok.mpr ⟨next, ended, rfl⟩⟩
    by_cases record : next.state = .startRecord
    · refine ⟨.reset, rows ++ [next.fields], bind_eq_ok.mpr ⟨next, whole, if_pos record⟩, ?_⟩
      refine ⟨show State.startRecord ≠ .eatCrnl by decide, ?_⟩
      rw [Reader.reset, List.length_nil]
      omega
    · exact ⟨next, rows, bind_eq_ok.mpr ⟨next, whole, if_neg record⟩, has'⟩
  have inside : ∀ symbol ∈ body, isNewline symbol = false := by
    intro symbol member
    have notFeed : symbol ≠ '\n' := fun same => free (same ▸ member)
    have notReturn : symbol ≠ '\r' := by
      rintro rfl
      rcases shape with rfl | rfl
      · exact noReturn member
      · exact noReturn (List.mem_append_left _ member)
    simp [isNewline, notFeed, notReturn]
  rcases shape with rfl | rfl
  · obtain ⟨last, body, has'⟩ := Reader.foldlM_has delimiter has inside
    exact ends has'.2 body
  · rw [List.length_append, List.length_singleton, Nat.add_comm body.length, ← Nat.add_assoc] at has
    obtain ⟨last, body, has'⟩ := Reader.foldlM_has delimiter has inside
    obtain ⟨fed, feed, bound⟩ := Reader.processChar_lineFeed delimiter has'
    refine ends bound ?_
    rw [List.map_append, List.foldlM_append, body]
    exact bind_eq_ok.mpr ⟨last, rfl, bind_eq_ok.mpr ⟨fed, feed, rfl⟩⟩

/-- A text without a carriage return that is not longer than a field is read. -/
theorem exists_read {delimiter : Char} {text : String} (noReturn : '\r' ∉ text.toList)
    (short : text.length ≤ fieldLimit) : ∃ rows, read delimiter text = .ok rows := by
  have loop (remaining : List (List Char)) (reader : Reader) (rows : List (List String))
      (has : reader.Has remaining.flatten.length) (all : ∀ line ∈ remaining, IsLine line)
      (free : '\r' ∉ remaining.flatten) :
      ∃ progress, remaining.foldlM (readLine delimiter) (reader, rows) = .ok progress := by
    induction remaining generalizing reader rows with
    | nil => exact ⟨_, rfl⟩
    | cons line others ih =>
        rw [List.flatten_cons, List.length_append, Nat.add_comm] at has
        rw [List.flatten_cons, List.mem_append, not_or] at free
        obtain ⟨isLine, later⟩ := List.forall_mem_cons.mp all
        obtain ⟨next, records, step, has'⟩ := readLine_has has isLine free.1
        obtain ⟨progress, rest⟩ := ih next records has' later free.2
        exact ⟨progress, by rw [List.foldlM_cons, step]; exact rest⟩
  obtain ⟨joined, all⟩ := lines_isLine text.toList
  have room : Reader.reset.Has (lines text.toList).flatten.length := by
    refine ⟨show State.startRecord ≠ .eatCrnl by decide, ?_⟩
    rw [joined, String.length_toList, Reader.reset, List.length_nil, Nat.zero_add]
    exact short
  obtain ⟨progress, done⟩ := loop _ _ [] room all (by rw [joined]; exact noReturn)
  by_cases unfinished : progress.1.field ≠ [] ∨ progress.1.state = .inQuotedField
  · exact ⟨_, bind_eq_ok.mpr ⟨progress, done, if_pos unfinished⟩⟩
  · exact ⟨_, bind_eq_ok.mpr ⟨progress, done, if_neg unfinished⟩⟩

end RssiService.Python.Csv
