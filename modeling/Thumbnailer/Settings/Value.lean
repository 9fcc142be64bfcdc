/-
The values that settings are made of, with the place that each came from.

* **`Scalar`** — a value without parts.
* **`Value`** — a scalar, a list or a table.
* **`Value.sourced`** — a value, all of whose parts came from one place.
* **`Value.described`** — how error messages name a value.
-/
import Thumbnailer.Double
import Thumbnailer.Text.Quoted

namespace Thumbnailer.Settings

/-- A value without parts. -/
inductive Scalar
  | null
  | boolean (b : Bool)
  | integer (n : Int)
  | real (x : Double)
  | text (s : String)
  deriving DecidableEq, Repr

/-- A value; each part has the name of the place that it came from, where there is one. -/
inductive Value
  | scalar (origin? : Option String) (s : Scalar)
  | list (origin? : Option String) (items : List Value)
  | table (origin? : Option String) (entries : List (String × Value))

abbrev Entries := List (String × Value)

namespace Scalar

def boolText (b : Bool) : String := if b then "true" else "false"

/-- How error messages name a scalar where a section is due. -/
def described : Scalar → String
  | null => "unit value"
  | boolean b => s!"boolean `{boolText b}`"
  | integer n => s!"integer `{n}`"
  | real x => s!"floating point `{x.pointedText}`"
  | text s => s!"string {Text.quoted s}"

end Scalar

namespace Value

/-- A value that belongs to no place yet. -/
def ofScalar (s : Scalar) : Value := scalar none s

mutual

/-- A value, all of whose parts came from one place. -/
def sourced (origin : String) : Value → Value
  | scalar _ s => scalar (some origin) s
  | list _ items => list (some origin) (sourcedItems origin items)
  | table _ entries => table (some origin) (sourcedEntries origin entries)

/-- Some values, all of whose parts came from one place. -/
def sourcedItems (origin : String) : List Value → List Value
  | [] => []
  | v :: rest => sourced origin v :: sourcedItems origin rest

/-- Some entries, all of whose parts came from one place. -/
def sourcedEntries (origin : String) : Entries → Entries
  | [] => []
  | (key, v) :: rest => (key, sourced origin v) :: sourcedEntries origin rest

end

end Value

namespace Entries

def get? (entries : Entries) (key : String) : Option Value :=
  (entries.find? (·.1 == key)).map (·.2)

/-- The entries once a key has a value; a new key goes to the end. -/
def set : Entries → String → Value → Entries
  | [], key, v => [(key, v)]
  | (k, old) :: rest, key, v =>
    if k = key then (key, v) :: rest else (k, old) :: set rest key v

end Entries

end Thumbnailer.Settings
