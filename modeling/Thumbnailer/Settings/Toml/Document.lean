/-
Settings files in TOML.

* **`Toml.parse?`** — the entries that a text holds. Lists and inline tables are nested less than 80
  deep, and a key has less than 80 parts.
-/
import Thumbnailer.Settings.Toml.Scalar
import Thumbnailer.Settings.Toml.Tables

namespace Thumbnailer.Settings.Toml

open Text (Scan)

/-- The number of parts of a key, and the depth of values, that is too much. -/
def depthLimit : Nat := 80

/-! ### Keys and values -/

/-- Takes one part of a key. -/
def keyPart : Scan String :=
  basic <|> literal <|>
    (.ofList <$> Scan.span1 fun c => c.isAlphanum || c == '_' || c == '-')

/-- Takes a key: the parts before the last, and the last. -/
def key : Scan (List String × String) := do
  let parts ← Scan.separated (blanks *> keyPart <* blanks) (Scan.the '.')
  match parts.getLast? with
  | some last => if parts.length < depthLimit then pure (parts.dropLast, last) else Scan.refuse
  | none => Scan.refuse

/-- Takes white space, line ends and comments. -/
def gap : Scan Unit :=
  discard (Scan.many (discard (Scan.char isBlank) <|> discard lineEnd <|> comment))

/-- Takes a key and its value. -/
def pair (value : Scan Value) : Scan ((List String × String) × Value) := do
  let k ← key
  Scan.the '='
  blanks
  pure (k, ← value)

/-- Takes a list; a comma may stand behind the last item. -/
def list (value : Scan Value) : Scan Value := do
  Scan.the '['
  let items ← Scan.option (Scan.separated (gap *> value <* gap) (Scan.the ','))
  if items.isSome then discard (Scan.option (Scan.the ','))
  gap
  Scan.the ']'
  pure (.list none (items.getD []))

/-- Takes a table within a line. -/
def inline (value : Scan Value) : Scan Value := do
  Scan.the '\x7b'
  let pairs ← Scan.option (Scan.separated (pair value <* blanks) (Scan.the ','))
  blanks
  Scan.the '\x7d'
  match (pairs.getD []).foldlM (fun t ((dots, k), v) => Tables.insert? dots k v t) [] with
  | some t => pure (.table none (Tables.toEntries t))
  | none => Scan.refuse

/-- Takes a value whose parts are nested at most `depth` deep. -/
def value : Nat → Scan Value
  | 0 => Value.ofScalar <$> scalar
  | depth + 1 => (Value.ofScalar <$> scalar) <|> list (value depth) <|> inline (value depth)

/-! ### Lines -/

/-- What a line says. -/
inductive Line
  | blank
  | pair (dots : List String) (key : String) (v : Value)
  | table (parents : List String) (key : String)
  | element (parents : List String) (key : String)

/-- Takes what a line says. -/
def lineBody : Scan Line :=
  (do
    Scan.literal ['[', '[']
    let (parents, k) ← key
    Scan.literal [']', ']']
    blanks
    pure (.element parents k)) <|>
  (do
    Scan.the '['
    let (parents, k) ← key
    Scan.the ']'
    blanks
    pure (.table parents k)) <|>
  (do
    let ((dots, k), v) ← pair (value (depthLimit - 1))
    blanks
    pure (.pair dots k v)) <|>
  pure .blank

/-- Takes a line without its end. -/
def line : Scan Line := do
  blanks
  let l ← lineBody
  let _ ← Scan.option comment
  pure l

/-- The tables, and the path of the table that lines go to. -/
structure Document where
  tables : Tables
  header : List String

namespace Document

/-- The document with one more line. -/
def add? (d : Document) : Line → Option Document
  | .blank => some d
  | .pair dots k v => do some { d with tables := ← d.tables.insertAt? d.header dots k v }
  | .table parents k => do some ⟨← d.tables.open? parents k, parents ++ [k]⟩
  | .element parents k => do some ⟨← d.tables.append? parents k, parents ++ [k]⟩

end Document

/-- A byte order mark, which may stand before all else. -/
def byteOrderMark : Char := '\uFEFF'

/-- Takes all lines. -/
def lines : Scan (List Line) := do
  let _ ← Scan.option (Scan.the byteOrderMark)
  Scan.separated line lineEnd

/-- The entries that a text holds. -/
def parse? (s : List Char) : Option Entries := do
  let d ← (← Scan.whole? lines s).foldlM Document.add? ⟨[], []⟩
  some (Tables.toEntries d.tables)

end Thumbnailer.Settings.Toml
