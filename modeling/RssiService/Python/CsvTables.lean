import RssiService.Python.Csv
import RssiService.Python.Text

/-!
# Tables in CSV

`csv.DictReader` takes the names of the columns from the first record and gives
each later one as a dictionary; blank lines are passed over.  The records of a
text depend on what separates the cells and on where its lines end.
-/

namespace RssiService.Python.Csv

open Foundation.Outcome

/-! ## Lines -/

/-- The lines of a file opened with `newline=""`: a line feed, a carriage return or
both of them end a line, and stay at its end. -/
def universalLines : List Char → List (List Char)
  | [] => []
  | '\n' :: rest => ['\n'] :: universalLines rest
  | '\r' :: '\n' :: rest => ['\r', '\n'] :: universalLines rest
  | '\r' :: rest => ['\r'] :: universalLines rest
  | symbol :: rest =>
      match universalLines rest with
      | [] => [[symbol]]
      | line :: others => (symbol :: line) :: others

/-- `list(csv.reader(lines, delimiter=delimiter))`. -/
def readRecords (delimiter : Char) (lines : List (List Char)) :
    Except String (List (List String)) := do
  let progress ← lines.foldlM (readLine delimiter) (Reader.reset, [])
  if progress.1.field ≠ [] ∨ progress.1.state = .inQuotedField then
    return progress.2 ++ [(progress.1.saveField .startRecord).fields]
  else return progress.2

/-- The first record that the reader gives of some lines. -/
def firstRecord (delimiter : Char) (reader : Reader) :
    List (List Char) → Except String (Option (List String))
  | [] =>
      .ok <| if reader.field ≠ [] ∨ reader.state = .inQuotedField then
        some (reader.saveField .startRecord).fields
      else none
  | line :: rest => do
      let next ← (line.map some ++ [none]).foldlM (Reader.processChar delimiter) reader
      if next.state = .startRecord then return some next.fields
      else firstRecord delimiter next rest

theorem read_eq (delimiter : Char) (text : String) :
    read delimiter text = readRecords delimiter (lines text.toList) := rfl

/-- The characters that end a line for `str.splitlines`. -/
def isLineBreak (symbol : Char) : Bool :=
  let code := symbol.toNat
  (10 ≤ code && code ≤ 13) || (28 ≤ code && code ≤ 30) || code = 0x85 || code = 0x2028 ||
    code = 0x2029

/-- `text.splitlines()[0]`. -/
def firstLine (text : String) : List Char :=
  text.toList.takeWhile fun symbol => !isLineBreak symbol

/-! ## Rows -/

/-- A row: the names of the columns with its cells.  A short row has no cell for
the last names, and the cells beyond the last name have none. -/
structure Row where
  cells : List (String × Option String)
  deriving DecidableEq, Repr

/-- The names, each with the cell under it. -/
def underNames : List String → List String → List (String × Option String)
  | [], _ => []
  | name :: names, [] => (name, none) :: underNames names []
  | name :: names, cell :: cells => (name, some cell) :: underNames names cells

/-- `row.get(column)`; the last column of a name counts. -/
def Row.get (row : Row) (column : String) : Option String :=
  (row.cells.reverse.lookup column).join

/-- `row.get(column) or ""`. -/
def Row.cell (row : Row) (column : String) : String := (row.get column).getD ""

/-- `csv.DictReader`: the rows under the names of the first record. -/
def rows : List (List String) → List Row
  | [] => []
  | names :: records =>
      (records.filter fun record => record ≠ []).map fun record => ⟨underNames names record⟩

/-! ## Texts whose lines end with a line feed -/

/-- A character that ends no line. -/
theorem universalLines_cons {symbol : Char} {rest : List Char} (feed : symbol ≠ '\n')
    (ret : symbol ≠ '\r') : universalLines (symbol :: rest) =
      match universalLines rest with
      | [] => [[symbol]]
      | line :: others => (symbol :: line) :: others :=
  universalLines.eq_5 symbol rest feed (fun _ same => absurd same ret) ret

theorem universalLines_of_noReturn {text : List Char} (noReturn : '\r' ∉ text) :
    universalLines text = lines text := by
  induction text with
  | nil => rfl
  | cons symbol rest ih =>
      rw [List.mem_cons, not_or] at noReturn
      have later := ih noReturn.2
      by_cases feed : symbol = '\n'
      · subst feed
        rw [universalLines, lines, if_pos rfl, later]
      · rw [lines, if_neg feed, ← later]
        exact universalLines_cons feed fun same => noReturn.1 same.symm

/-- A line feed ends the first line. -/
theorem universalLines_line {line rest : List Char}
    (within : ∀ symbol ∈ line, symbol ≠ '\n' ∧ symbol ≠ '\r') :
    universalLines (line ++ '\n' :: rest) = (line ++ ['\n']) :: universalLines rest := by
  induction line with
  | nil => rfl
  | cons symbol line ih =>
      obtain ⟨⟨feed, ret⟩, later⟩ := List.forall_mem_cons.mp within
      rw [List.cons_append, universalLines_cons feed ret, ih later]
      rfl

/-! ## The first record -/

/-- The records that were read stay in front of the later ones. -/
theorem prefix_of_foldlM {delimiter : Char} {lines : List (List Char)}
    {progress last : Reader × List (List String)}
    (done : lines.foldlM (readLine delimiter) progress = .ok last) : progress.2 <+: last.2 := by
  induction lines generalizing progress with
  | nil =>
      cases done
      exact List.prefix_rfl
  | cons line rest ih =>
      rw [List.foldlM_cons] at done
      obtain ⟨next, step, later⟩ := bind_eq_ok.mp done
      refine List.IsPrefix.trans ?_ (ih later)
      obtain ⟨reader, _, kept⟩ := bind_eq_ok.mp step
      split at kept
      · cases kept
        exact List.prefix_append _ _
      · cases kept
        exact List.prefix_rfl

/-- The first of the records is the one that is read alone. -/
theorem firstRecord_of_readRecords {delimiter : Char} {lines : List (List Char)}
    {records : List (List String)} (read : readRecords delimiter lines = .ok records) :
    firstRecord delimiter .reset lines = .ok records.head? := by
  obtain ⟨last, done, whole⟩ := bind_eq_ok.mp read
  clear read
  generalize Reader.reset = reader at done ⊢
  induction lines generalizing reader with
  | nil =>
      cases done
      rw [firstRecord]
      split at whole
      · rename_i unfinished
        cases whole
        rw [if_pos unfinished]
        rfl
      · rename_i finished
        cases whole
        rw [if_neg finished]
        rfl
  | cons line rest ih =>
      rw [List.foldlM_cons] at done
      obtain ⟨next, step, later⟩ := bind_eq_ok.mp done
      obtain ⟨reached, read, kept⟩ := bind_eq_ok.mp step
      rw [firstRecord, read]
      split at kept
      · rename_i ended
        cases kept
        obtain ⟨others, same⟩ := prefix_of_foldlM later
        refine (if_pos ended).trans (congrArg Except.ok ?_)
        split at whole
        · cases whole
          rw [← same]
          rfl
        · cases whole
          rw [← same]
          rfl
      · rename_i unended
        cases kept
        exact (if_neg unended).trans (ih reached later)

end RssiService.Python.Csv
