/-
From values to settings: what counts as a number or a text, and the words for what does not.

* **`Mismatch`** — a value where another kind is due.
* **`Value.toWord`**, **`Value.toByte`**, **`Value.toText`** — the loose conversions: truth values and
  the words for them count as numbers, other numbers are rounded, and scalars have texts.
* **`Form`** — a section as the list of its fields; **`Form.read`** fills it from a table, by name, or
  from a list, in order. What is not there keeps its standard value.
-/
import Thumbnailer.Settings.KeyPath

namespace Thumbnailer.Settings

/-- A value that does not fit. -/
inductive Mismatch
  /-- Something else where a section with a title is due. -/
  | shape (found title : String)
  /-- A wrong value; the key is the way to it as far as it is known. -/
  | value (found expected key : String) (origin? : Option String)
  deriving DecidableEq, Repr

namespace Mismatch

/-- The mismatch as it is seen from the table or list around: a step is put before its key. -/
def behind (front : String) (m : Mismatch) : Mismatch :=
  match m with
  | shape found title => shape found title
  | value found expected key origin? =>
    let joined := if key.isEmpty || key.startsWith "[" then front ++ key else front ++ "." ++ key
    value found expected joined origin?

/-- The wording of a mismatch. -/
def message : Mismatch → String
  | shape found title => s!"invalid type: {found}, expected struct {title}"
  | value found expected key origin? =>
    let place := match origin? with
      | some origin => s!" in {origin}"
      | none => ""
    s!"invalid type: {found}, expected {expected} for key `{key}`{place}"

end Mismatch

namespace Value

/-- The numbers that words for truth values stand for. -/
def wordOfTruth? (s : String) : Option Nat :=
  if lower s ∈ ["true", "on", "yes"] then some 1
  else if lower s ∈ ["false", "off", "no"] then some 0
  else none

/-- A mismatch whose key is not known yet. -/
def mismatch {α : Type} (found expected : String) (origin? : Option String) : Except Mismatch α :=
  .error (.value found expected "" origin?)

/-- The number below `2 ^ 64` that a value stands for. -/
def toWord : Value → Except Mismatch Nat
  | scalar origin? (.integer n) =>
    if 0 ≤ n then .ok n.toNat
    else mismatch s!"64-bit integer `{n}`" "an unsigned 64 bit or less integer" origin?
  | scalar _ (.real x) => .ok x.toWord
  | scalar _ (.boolean b) => .ok (if b then 1 else 0)
  | scalar origin? (.text s) =>
    match wordOfTruth? s, Text.readNumber UInt64.size s.toList with
    | some n, _ => .ok n
    | none, .ok n => .ok n
    | none, .error _ => mismatch (Scalar.text s).described "an integer" origin?
  | scalar origin? .null => mismatch "unit value" "an integer" origin?
  | list origin? _ => mismatch "sequence" "an integer" origin?
  | table origin? _ => mismatch "map" "an integer" origin?

/-- The number of 64 binary digits that a value stands for. -/
def toWord64 (v : Value) : Except Mismatch UInt64 := UInt64.ofNat <$> v.toWord

/-- The number of eight binary digits that a value stands for. -/
def toByte (v : Value) : Except Mismatch UInt8 := do
  let n ← v.toWord
  if n < 256 then pure (.ofNat n)
  else mismatch s!"64-bit unsigned integer `{n}`" "an unsigned 8 bit integer" none

/-- The text that a value stands for. -/
def toText : Value → Except Mismatch String
  | scalar _ (.text s) => .ok s
  | scalar _ (.integer n) => .ok (toString n)
  | scalar _ (.real x) => .ok x.text
  | scalar _ (.boolean b) => .ok (Scalar.boolText b)
  | scalar origin? .null => mismatch "unit value" "a string" origin?
  | list origin? _ => mismatch "sequence" "a string" origin?
  | table origin? _ => mismatch "map" "a string" origin?

end Value

/-- A field of a section: its name, and how a value for it changes the section. -/
structure Field (σ : Type) where
  name : String
  put : Value → Except Mismatch (σ → σ)

/-- A section: its title, its fields in order, and their standard values. -/
structure Form (σ : Type) where
  title : String
  fields : List (Field σ)
  standard : σ

namespace Form

variable {σ : Type}

/-- Fills fields from the entries of a table. -/
def readEntries (entries : Entries) : List (Field σ) → σ → Except Mismatch σ
  | [], s => .ok s
  | f :: fields, s =>
    match entries.get? f.name with
    | none => readEntries entries fields s
    | some v =>
      match f.put v with
      | .ok change => readEntries entries fields (change s)
      | .error m => .error (m.behind f.name)

/-- Fills fields from the items of a list, the first of which has position `i`. -/
def readItems (i : Nat) : List Value → List (Field σ) → σ → Except Mismatch σ
  | v :: items, f :: fields, s =>
    match f.put v with
    | .ok change => readItems (i + 1) items fields (change s)
    | .error m => .error (m.behind s!"[{i}]")
  | _, _, s => .ok s

/-- The section that a value stands for. -/
def read (form : Form σ) : Value → Except Mismatch σ
  | .table _ entries => readEntries entries form.fields form.standard
  | .list _ items => readItems 0 items form.fields form.standard
  | .scalar _ s => .error (.shape s.described form.title)

end Form

end Thumbnailer.Settings
