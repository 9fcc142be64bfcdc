/-
Numbers of double precision, as settings files hold them.

Each finite one is a whole multiple of the smallest positive one, which is `2 ^ (-1074)`.

* **`Double.ofRatio`** — the nearest double of a quotient, a tie going to the even one.
* **`Double.ofDecimal`** — the nearest double of a decimal number.
* **`Double.toWord`** — the nearest natural number below `2 ^ 64`, a half going up; what lies
  outside the range goes to its end.
* **`Double.text`** — the fewest decimal digits that read back, always in positional notation.
-/
import Thumbnailer.Ratio

namespace Thumbnailer

inductive Double
  | nan
  | infinite (negative : Bool)
  /-- So many times the smallest positive number. -/
  | finite (negative : Bool) (units : Nat)
  deriving DecidableEq, Repr

namespace Double

/-- How many units make 1. -/
def unitsOfOne : Nat := Nat.pow 2 1074

/-- The least number of units that no finite number has. -/
def unitsLimit : Nat := Nat.pow 2 2098

/-- A number of units with at most 53 significant binary digits, nearest to a quotient of units. -/
def roundUnits (num den : Nat) : Nat :=
  let bits := (num / den).log2 + 1
  if bits ≤ 53 then Ratio.roundEven num den
  else Ratio.roundEven num (den * Nat.pow 2 (bits - 53)) * Nat.pow 2 (bits - 53)

def ofRatio (negative : Bool) (num den : Nat) : Double :=
  let units := roundUnits (num * unitsOfOne) den
  if units < unitsLimit then finite negative units else infinite negative

/-- The double nearest to `digits * 10 ^ exponent`. -/
def ofDecimal (negative : Bool) (digits : Nat) (exponent : Int) : Double :=
  let places := (Nat.repr digits).length
  if digits = 0 ∨ exponent + places < -400 then finite negative 0
  else if 400 < exponent + places then infinite negative
  else ofRatio negative (digits * Nat.pow 10 exponent.toNat) (Nat.pow 10 (-exponent).toNat)

def product (negative : Bool) (a b : Nat) : Double := ofRatio negative (a * b) (unitsOfOne * unitsOfOne)

def quotient (negative : Bool) (a b : Nat) : Double := ofRatio negative a b

def maxWord : Nat := UInt64.size - 1

def toWord : Double → Nat
  | nan => 0
  | infinite negative => if negative then 0 else maxWord
  | finite negative units => if negative then 0 else min maxWord (Ratio.round ⟨units, unitsOfOne⟩)

/-! ### Digits -/

/-- The greatest exponent of ten that is at most a positive number of units. -/
def magnitude (units : Nat) : Int :=
  let estimate : Int := (Nat.repr units).length - (Nat.repr unitsOfOne).length
  if units * Nat.pow 10 (-estimate).toNat < unitsOfOne * Nat.pow 10 estimate.toNat then estimate - 1
  else estimate

/-- The decimal numbers with a last place `10 ^ place` next to a number of units, the nearer first,
of two as near the greater. -/
def neighbours (units : Nat) (place : Int) : List Nat :=
  let num := units * Nat.pow 10 (-place).toNat
  let den := unitsOfOne * Nat.pow 10 place.toNat
  let below := num / den
  if 2 * (num % den) < den then [below, below + 1] else [below + 1, below]

/-- The fewest digits that read back, and the place of the last, for a positive number of units; the
first `count - 1` digits are not enough, and `more` bounds how many more are tried. A power of ten has
one digit. -/
def shortestFrom (units count : Nat) : Nat → Nat × Int
  | 0 => (units, 0)
  | more + 1 =>
    let place := magnitude units + 1 - count
    match (neighbours units place).find? (ofDecimal false · place = finite false units) with
    | some digits => if digits = Nat.pow 10 count then (1, place + count) else (digits, place)
    | none => shortestFrom units (count + 1) more

/-- The fewest digits that read back, and the place of the last: seventeen are always enough. -/
def shortest (units : Nat) : Nat × Int := shortestFrom units 1 17

/-- A row of digits with the point in its place. -/
def positional (digits : Nat) (place : Int) : String :=
  let row := (Nat.repr digits).toList
  if 0 ≤ place then String.ofList (row ++ List.replicate place.toNat '0')
  else
    let behind := (-place).toNat
    let row := List.replicate (behind + 1 - row.length) '0' ++ row
    String.ofList (row.take (row.length - behind) ++ '.' :: row.drop (row.length - behind))

def unitsText (units : Nat) : String :=
  if units = 0 then "0"
  else
    let (digits, place) := shortest units
    positional digits place

def signed (negative : Bool) (text : String) : String := if negative then s!"-{text}" else text

def text : Double → String
  | nan => "NaN"
  | infinite negative => signed negative "inf"
  | finite negative units => signed negative (unitsText units)

/-- The shortest text of a double, with a point in every finite one. -/
def pointedText : Double → String
  | finite negative units =>
    let text := signed negative (unitsText units)
    if text.toList.contains '.' then text else s!"{text}.0"
  | x => x.text

end Double

end Thumbnailer
