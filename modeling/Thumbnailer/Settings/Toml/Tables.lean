/-
The tables of a TOML file while it is read, which have to remember how they came about.

* **`Item`** — a value, a table or a series of tables.
* **`Tables`** — the items of a table by their keys.
* **`Tables.open?`**, **`Tables.append?`** — a header of a table, or of one more in a series.
* **`Tables.insert?`** — a key and its value. Nothing is defined twice, and a dotted key goes on only
  with tables that dotted keys made.
-/
import Thumbnailer.Settings.Value

namespace Thumbnailer.Settings.Toml

inductive Making
  /-- By a header of its own. -/
  | header
  /-- By a header of something in it. -/
  | implied
  /-- By a dotted key. -/
  | dotted
  deriving DecidableEq, Repr

/-- What a key of a table stands for. -/
inductive Item
  | value (v : Value)
  | table (making : Making) (items : List (String × Item))
  | series (tables : List (List (String × Item)))

abbrev Tables := List (String × Item)

namespace Tables

def get? (t : Tables) (key : String) : Option Item := (t.find? (·.1 == key)).map (·.2)

/-- The items once a key stands for an item. -/
def set : Tables → String → Item → Tables
  | [], key, item => [(key, item)]
  | (k, old) :: rest, key, item =>
    if k = key then (key, item) :: rest else (k, old) :: set rest key item

/-- Changes the table at the end of a path, making the tables on the way that are not there yet. Of a
series the last table counts. -/
def within (making : Making) (change : Making → Tables → Option Tables) :
    List String → Making → Tables → Option Tables
  | [], how, t => change how t
  | key :: path, _, t =>
    match t.get? key with
    | none => do
      let inner ← within making change path making []
      some (t.set key (.table making inner))
    | some (.value _) => none
    | some (.series tables) => do
      let last ← tables.getLast?
      let inner ← within making change path .header last
      some (t.set key (.series (tables.dropLast ++ [inner])))
    | some (.table how inner) =>
      if making = .dotted ∧ how = .header then none
      else do
        let inner ← within making change path how inner
        some (t.set key (.table how inner))

/-- Lets a key stand for a value, behind the dotted keys before it. -/
def insert? (dots : List String) (key : String) (v : Value) (t : Tables) : Option Tables :=
  within .dotted (fun how t =>
    if (how == .dotted) = dots.isEmpty then none
    else
      match t.get? key with
      | some _ => none
      | none => some (t.set key (.value v))) dots .header t

/-- Opens the table of a header. -/
def open? (parents : List String) (key : String) (t : Tables) : Option Tables :=
  within .implied (fun _ t =>
    match t.get? key with
    | none => some (t.set key (.table .header []))
    | some (.table .implied inner) => some (t.set key (.table .header inner))
    | some _ => none) parents .header t

/-- Opens one more table of a series. -/
def append? (parents : List String) (key : String) (t : Tables) : Option Tables :=
  within .implied (fun _ t =>
    match t.get? key with
    | none => some (t.set key (.series [[]]))
    | some (.series tables) => some (t.set key (.series (tables ++ [[]])))
    | some _ => none) parents .header t

/-- Lets a key stand for a value in the table that the last header opened. -/
def insertAt? (header : List String) (dots : List String) (key : String) (v : Value)
    (t : Tables) : Option Tables :=
  within .implied (fun _ => insert? dots key v) header .header t

end Tables

mutual

def Item.toValue : Item → Value
  | .value v => v
  | .table _ items => .table none (Tables.toEntries items)
  | .series tables => .list none (Tables.toValues tables)

/-- The entries of a finished table. -/
def Tables.toEntries : List (String × Item) → Entries
  | [] => []
  | (key, item) :: rest => (key, item.toValue) :: Tables.toEntries rest

/-- The values of a finished series. -/
def Tables.toValues : List (List (String × Item)) → List Value
  | [] => []
  | t :: rest => .table none (Tables.toEntries t) :: Tables.toValues rest

end

end Thumbnailer.Settings.Toml
