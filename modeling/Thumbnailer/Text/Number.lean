/-
Unsigned decimal numbers below a limit, as people type them.

* **`readNumber limit s`** — the value of `s`, an optional plus sign and then one or more digits.
  Digits are taken from the left, so of a digit too many and a foreign character the one that
  comes first is reported.
-/
namespace Thumbnailer.Text

inductive NumberError
  | empty
  /-- A character is no ASCII digit, or there is a sign and nothing else. -/
  | invalidDigit
  /-- The digits read so far already reach the limit. -/
  | tooLarge
  deriving DecidableEq, Repr

namespace NumberError

def message : NumberError → String
  | empty => "cannot parse integer from empty string"
  | invalidDigit => "invalid digit found in string"
  | tooLarge => "number too large to fit in target type"

end NumberError

def digitValue? (c : Char) : Option Nat :=
  if '0' ≤ c ∧ c ≤ '9' then some (c.toNat - '0'.toNat) else none

/-- Appends one digit to the number read so far. -/
def pushDigit (limit value : Nat) (c : Char) : Except NumberError Nat :=
  match digitValue? c with
  | none => .error .invalidDigit
  | some d => if 10 * value + d < limit then .ok (10 * value + d) else .error .tooLarge

/-- The value of a row of digits that follow the ones worth `value`. -/
def readDigits (limit : Nat) : Nat → List Char → Except NumberError Nat
  | value, [] => .ok value
  | value, c :: rest =>
    match pushDigit limit value c with
    | .error e => .error e
    | .ok value' => readDigits limit value' rest

def readNumber (limit : Nat) : List Char → Except NumberError Nat
  | [] => .error .empty
  | ['+'] => .error .invalidDigit
  | '+' :: digits => readDigits limit 0 digits
  | digits => readDigits limit 0 digits

end Thumbnailer.Text
