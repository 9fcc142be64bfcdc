/-
Paths to single settings, and the merging of values into what is already there.

* **`KeyPath.parse?`** — a path as it is written: names between points, and numbers of list items in
  brackets.
* **`Value.merge`** — a value under a key; a table is merged entry by entry, all else takes the place
  of what was there. Keys count in lower case.
* **`KeyPath.put`** — a value at the end of a path; lists and tables on the way are made as needed.
-/
import Thumbnailer.Settings.Value
import Thumbnailer.Text.Number
import Thumbnailer.Text.Scan

namespace Thumbnailer.Settings

open Text (Scan)

/-- A character in lower case, as far as that is an ASCII letter: besides the ASCII capitals this is so
of the Kelvin sign alone. -/
def lowerChar (c : Char) : Char := if c = '\u212A' then 'k' else c.toLower

/-- A text in lower case, for comparison with names in ASCII letters. -/
def lower (s : String) : String := String.ofList (s.toList.map lowerChar)

inductive Step
  | name (key : String)
  /-- The item of a list, counted from the end if negative. -/
  | item (index : Int)
  deriving DecidableEq, Repr

/-- A path to a setting: a name, and further steps. -/
structure KeyPath where
  first : String
  steps : List Step
  deriving DecidableEq, Repr

namespace KeyPath

def isNameChar (c : Char) : Bool := c.isAlphanum || c == ' ' || c == '_' || c == '-'

def name : Scan String := .ofList <$> Scan.span1 isNameChar

def index : Scan Int := do
  let _ ← Scan.span fun c => c == ' ' || c == '\t'
  let negative := (← Scan.option (Scan.the '-')).isSome
  let n : Int := (← Scan.span1 Char.isDigit).foldl
    (fun n c => 10 * n + (Text.digitValue? c).getD 0) (0 : Nat)
  let n := if negative then -n else n
  let _ ← Scan.span fun c => c == ' ' || c == '\t'
  if -0x8000000000000000 ≤ n ∧ n < 0x8000000000000000 then pure n else Scan.refuse

def step : Scan Step :=
  (Step.name <$> (Scan.the '.' *> name)) <|>
    (Step.item <$> (Scan.the '[' *> index <* Scan.the ']'))

def parse? (s : String) : Option KeyPath :=
  Scan.whole? (KeyPath.mk <$> name <*> Scan.many step) s.toList

/-- Reads a path; a text that is none is a name. -/
def parse (s : String) : KeyPath := (parse? s).getD ⟨s, []⟩

end KeyPath

namespace Value

/-- The entries of a table, and the place it came from; all else counts as an empty table. -/
def asTable : Value → Option String × Entries
  | table origin? entries => (origin?, entries)
  | _ => (none, [])

/-- The items of a list, and the place it came from; all else counts as an empty list. -/
def asList : Value → Option String × List Value
  | list origin? items => (origin?, items)
  | _ => (none, [])

mutual

/-- The entries once a value is merged in under a key. -/
def mergeEntry (entries : Entries) (key : String) : Value → Entries
  | table _ incoming =>
    let target := (entries.get? (lower key)).getD (.table none [])
    entries.set (lower key) (mergeEntries target incoming)
  | scalar origin? s => entries.set (lower key) (scalar origin? s)
  | list origin? items => entries.set (lower key) (list origin? items)

/-- A value once entries are merged in; it becomes a table with the first of them. -/
def mergeEntries (target : Value) : Entries → Value
  | [] => target
  | (key, v) :: rest =>
    mergeEntries (.table target.asTable.1 (mergeEntry target.asTable.2 key v)) rest

end

/-- A value once another is merged in under a key. -/
def merge (target : Value) (key : String) (v : Value) : Value :=
  .table target.asTable.1 (mergeEntry target.asTable.2 key v)

/-- The position of an item in a list. -/
def position (index : Int) (length : Nat) : Nat :=
  if 0 ≤ index then index.toNat else length - (-index).toNat

/-- The items of a list that has a place for a position. -/
def lengthened (items : List Value) (position : Nat) : List Value :=
  items ++ List.replicate (position + 1 - items.length) (ofScalar .null)

/-- A value once another is put in at the end of some steps from it. -/
def put (v : Value) : List Step → Value → Value
  | [], _ => v
  | [.name key], target => target.merge key v
  | .name key :: steps, target =>
    let inner := (target.asTable.2.get? (lower key)).getD (ofScalar .null)
    .table target.asTable.1 (target.asTable.2.set (lower key) (put v steps inner))
  | .item index :: steps, target =>
    let i := position index target.asList.2.length
    let items := lengthened target.asList.2 i
    let inner := (items[i]?).getD (ofScalar .null)
    .list target.asList.1 (items.set i (put v steps inner))

end Value

/-- The merged settings once a value is put in at the end of a path. -/
def KeyPath.put (p : KeyPath) (v : Value) (root : Value) : Value :=
  Value.put v (.name p.first :: p.steps) root

end Thumbnailer.Settings
