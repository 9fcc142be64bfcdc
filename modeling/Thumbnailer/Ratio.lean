/-
Positive ratios of natural numbers, and the precision with which each quotient and product of them
is kept: exactly, or with 53 significant binary digits.
-/
namespace Thumbnailer

structure Ratio where
  num : Nat
  den : Nat
  deriving DecidableEq, Repr

namespace Ratio

def le (a b : Ratio) : Bool := a.num * b.den ≤ b.num * a.den

def min (a b : Ratio) : Ratio := if a.le b then a else b

def one : Ratio := ⟨1, 1⟩

def scale (r : Ratio) (n : Nat) : Ratio := ⟨n * r.num, r.den⟩

/-- The nearest natural number, a half going up. -/
def round (r : Ratio) : Nat := (2 * r.num + r.den) / (2 * r.den)

/-- The quotient to the nearest natural number, a tie going to the even one. -/
def roundEven (num den : Nat) : Nat :=
  let q := num / den
  let r := num % den
  if 2 * r < den then q
  else if den < 2 * r then q + 1
  else if q % 2 = 0 then q else q + 1

/-- How many binary places behind the point a ratio needs to show `bits` significant digits. -/
def places (bits : Nat) (r : Ratio) : Nat :=
  let k := bits + r.den.log2 - r.num.log2
  if r.num * Nat.pow 2 k < r.den * Nat.pow 2 bits then k else k - 1

/-- The nearest ratio with `bits` significant binary digits, for ratios below `2 ^ bits`. -/
def toBits (bits : Nat) (r : Ratio) : Ratio :=
  let k := r.places bits
  ⟨roundEven (r.num * Nat.pow 2 k) r.den, Nat.pow 2 k⟩

end Ratio

structure Precision where
  keep : Ratio → Ratio

namespace Precision

def exact : Precision := ⟨id⟩

def double : Precision := ⟨Ratio.toBits 53⟩

end Precision

end Thumbnailer
