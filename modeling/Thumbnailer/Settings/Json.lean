/-
Settings files in JSON.

* **`Json.parse?`** — the entries of the object that a text holds. Of two entries with one key the
  later wins; lists and objects are nested at most 127 deep.
* **`Json.Number`** — the digits of a number as they are read: as many as fit into 64 binary digits,
  and the exponent of ten that belongs to them. A number with a point or an exponent is rounded when
  its digits become a double and again when they are scaled.
-/
import Thumbnailer.Settings.Value
import Thumbnailer.Text.Number
import Thumbnailer.Text.Scan

namespace Thumbnailer.Settings.Json

open Text (Scan)

/-- White space between the parts of a file. -/
def isBlank (c : Char) : Bool := c == ' ' || c == '\t' || c == '\n' || c == '\r'

/-- Takes white space. -/
def blanks : Scan Unit := discard (Scan.span isBlank)

/-- Takes what a reader takes, and the white space behind it. -/
def token {α : Type} (p : Scan α) : Scan α := do
  let a ← p
  blanks
  pure a

/-! ### Numbers -/

/-- The digits of a number read so far. -/
structure Number where
  digits : Nat
  exponent : Int
  /-- Whether a digit found no room. -/
  full : Bool
  deriving DecidableEq, Repr

namespace Number

/-- Whether a number has room for one more digit. -/
def hasRoom (n : Number) (d : Nat) : Bool := !n.full && 10 * n.digits + d < UInt64.size

/-- One more digit before the point. -/
def pushWhole (n : Number) (c : Char) : Number :=
  let d := (Text.digitValue? c).getD 0
  if n.hasRoom d then { n with digits := 10 * n.digits + d }
  else { n with exponent := n.exponent + 1, full := true }

/-- One more digit behind the point. -/
def pushFraction (n : Number) (c : Char) : Number :=
  let d := (Text.digitValue? c).getD 0
  if n.hasRoom d then { n with digits := 10 * n.digits + d, exponent := n.exponent - 1 }
  else { n with full := true }

/-- The double of a number of units times a power of ten below `10 ^ 309`. -/
def scaleDown (negative : Bool) (x : Double) (places : Nat) : Double :=
  match x, Double.ofDecimal false 1 places with
  | .finite _ a, .finite _ b => Double.quotient negative a b
  | x, _ => x

/-- The double with a certain digit row; there is none where it would be infinite. -/
def toDouble? (negative : Bool) (digits : Nat) (exponent : Int) : Option Double :=
  let x := Double.ofRatio negative digits 1
  if 308 < exponent then if digits = 0 then some x else none
  else if 0 ≤ exponent then
    match x, Double.ofDecimal false 1 exponent with
    | .finite _ a, .finite _ b =>
      match Double.product negative a b with
      | .infinite _ => none
      | y => some y
    | _, _ => none
  else if -308 ≤ exponent then some (scaleDown negative x (-exponent).toNat)
  else if -616 ≤ exponent then
    some (scaleDown negative (scaleDown negative x 308) (-exponent - 308).toNat)
  else some (.finite negative 0)

/-- The value of a number without point and exponent. -/
def plain (negative : Bool) (n : Number) : Option Scalar :=
  if n.full then (toDouble? negative n.digits n.exponent).map .real
  else if negative then
    if 0 < n.digits ∧ n.digits ≤ 0x8000000000000000 then some (.integer (-n.digits))
    else some (.real (.ofRatio true n.digits 1))
  else if n.digits < 0x8000000000000000 then some (.integer n.digits)
  else some (.real (.ofRatio false n.digits 1))

/-- The value of a number with an exponent; one that 32 binary digits can not hold makes the number
zero or too large. -/
def raised (negative : Bool) (n : Number) (down : Bool) (exponent : Nat) : Option Scalar :=
  if 0x80000000 ≤ exponent then
    if n.digits = 0 ∨ down then some (.real (.finite negative 0)) else none
  else
    (toDouble? negative n.digits
      (if down then n.exponent - exponent else n.exponent + exponent)).map .real

end Number

/-- Takes the digits before the point: no zero stands before another digit. -/
def whole : Scan Number := do
  let digits ← Scan.span1 Char.isDigit
  match digits with
  | '0' :: _ :: _ => Scan.refuse
  | _ => pure (digits.foldl Number.pushWhole ⟨0, 0, false⟩)

/-- Takes the point and the digits behind it. -/
def fraction : Scan (List Char) := do
  Scan.the '.'
  Scan.span1 Char.isDigit

/-- Takes an exponent, and tells whether it is negative. -/
def exponent : Scan (Bool × Nat) := do
  let _ ← Scan.char fun c => c == 'e' || c == 'E'
  let sign ← Scan.option (Scan.char fun c => c == '+' || c == '-')
  let digits ← Scan.span1 Char.isDigit
  pure (sign == some '-', digits.foldl (fun n c => 10 * n + (Text.digitValue? c).getD 0) 0)

/-- Takes a number. -/
def number : Scan Scalar := do
  let negative := (← Scan.option (Scan.the '-')).isSome
  let n ← whole
  let behind ← Scan.option fraction
  let n := match behind with
    | some digits => digits.foldl Number.pushFraction { n with full := false }
    | none => n
  let result := match ← Scan.option exponent, behind with
    | some (down, e), _ => n.raised negative down e
    | none, some _ => (Number.toDouble? negative n.digits n.exponent).map .real
    | none, none => n.plain negative
  match result with
  | some s => pure s
  | none => Scan.refuse

/-! ### Texts -/

/-- Takes the number of a character; one from a surrogate pair is written with both. -/
def numbered : Scan Char := do
  let high ← Scan.hexNumber 4
  if 0xD800 ≤ high ∧ high < 0xDC00 then
    Scan.literal ['\\', 'u']
    let low ← Scan.hexNumber 4
    if 0xDC00 ≤ low ∧ low < 0xE000 then
      Scan.charOf (0x10000 + (high - 0xD800) * 0x400 + (low - 0xDC00))
    else Scan.refuse
  else Scan.charOf high

/-- Takes what follows a backslash. -/
def escape : Scan Char := do
  match ← Scan.char fun _ => true with
  | '"' => pure '"'
  | '\\' => pure '\\'
  | '/' => pure '/'
  | 'b' => pure '\x08'
  | 'f' => pure '\x0C'
  | 'n' => pure '\n'
  | 'r' => pure '\r'
  | 't' => pure '\t'
  | 'u' => numbered
  | _ => Scan.refuse

/-- Takes one character of a text. -/
def textChar : Scan Char := do
  match ← Scan.char fun c => c != '"' && ' ' ≤ c with
  | '\\' => escape
  | c => pure c

/-- Takes a text. -/
def text : Scan String := do
  Scan.the '"'
  let s ← Scan.many textChar
  Scan.the '"'
  pure (.ofList s)

/-! ### Values -/

/-- Takes a value without parts. -/
def scalar : Scan Scalar :=
  (.text <$> text) <|> number <|> (Scan.literal "null".toList *> pure .null) <|>
    (Scan.literal "true".toList *> pure (.boolean true)) <|>
    (Scan.literal "false".toList *> pure (.boolean false))

/-- Takes items between brackets, with commas between them. -/
def between {α : Type} (left right : Char) (item : Scan α) : Scan (List α) := do
  token (Scan.the left)
  let items ← Scan.option (Scan.separated (token item) (token (Scan.the ',')))
  Scan.the right
  pure (items.getD [])

/-- Takes an entry of an object. -/
def entry (value : Scan Value) : Scan (String × Value) := do
  let key ← token text
  token (Scan.the ':')
  pure (key, ← value)

/-- The entries of an object; of two with one key the later wins. -/
def collect (entries : List (String × Value)) : Entries :=
  entries.foldl (fun all (key, v) => Entries.set all key v) []

/-- Takes a value whose parts are nested at most `depth` deep. -/
def value : Nat → Scan Value
  | 0 => Value.ofScalar <$> scalar
  | depth + 1 =>
    (Value.ofScalar <$> scalar) <|> (Value.list none <$> between '[' ']' (value depth)) <|>
      ((fun entries => Value.table none (collect entries)) <$>
        between '\x7b' '\x7d' (entry (value depth)))

/-- The entries of the object that a text holds. -/
def parse? (s : List Char) : Option Entries :=
  match Scan.whole? (blanks *> token (value 127)) s with
  | some (.table _ entries) => some entries
  | _ => none

end Thumbnailer.Settings.Json
