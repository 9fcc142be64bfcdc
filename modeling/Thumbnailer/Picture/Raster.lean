/-
Pictures as rows of pixels in red, green and blue.

* **`Picture`** — width, height and three bytes for each pixel, row by row.
* **`Picture.ofFn`** — a picture from the colour of each pixel; `Picture.get` reads one back.
* **`Picture.crop`**, **`Picture.turn`** — parts of a picture, and its eight orientations.
-/
import Thumbnailer.Picture.Geometry

namespace Thumbnailer

/-- The colour of a pixel. -/
structure Colour where
  red : UInt8
  green : UInt8
  blue : UInt8
  deriving DecidableEq, Repr, Inhabited

/-- A picture. -/
structure Picture where
  width : Nat
  height : Nat
  /-- Red, green and blue of each pixel, row by row. -/
  bytes : ByteArray

namespace Picture

/-- Width and height of a picture. -/
def extent (p : Picture) : Extent := ⟨p.width, p.height⟩

/-- The byte at a place, 0 behind the end. -/
def byte (p : Picture) (i : Nat) : UInt8 := if h : i < p.bytes.size then p.bytes[i] else 0

/-- The colour of the pixel in column `x` of row `y`. -/
def get (p : Picture) (x y : Nat) : Colour :=
  let i := 3 * (y * p.width + x)
  ⟨p.byte i, p.byte (i + 1), p.byte (i + 2)⟩

/-- The colour of a pixel, if the picture has it. -/
def get? (p : Picture) (x y : Nat) : Option Colour :=
  if x < p.width ∧ y < p.height then some (p.get x y) else none

/-- Appends a pixel. -/
def push (bytes : ByteArray) (c : Colour) : ByteArray :=
  ((bytes.push c.red).push c.green).push c.blue

/-- The picture with given colours. -/
def ofFn (width height : Nat) (colour : Nat → Nat → Colour) : Picture :=
  ⟨width, height,
    height.fold (fun y _ bytes => width.fold (fun x _ bytes => push bytes (colour x y)) bytes)
      (ByteArray.emptyWithCapacity (3 * width * height))⟩

/-- The part of a picture inside a window. -/
def crop (p : Picture) (w : Geometry.Window) : Picture :=
  ofFn w.edge w.edge fun x y => p.get (w.left + x) (w.top + y)

/-- The ways to hold a picture, by what has to be done to see it upright. -/
inductive Orientation
  | upright
  | flipped
  | halfTurn
  | halfTurnFlipped
  | quarterTurnFlipped
  | quarterTurn
  | threeQuarterTurnFlipped
  | threeQuarterTurn
  deriving DecidableEq, Repr

namespace Orientation

/-- The orientation with a given tag; unknown tags change nothing. -/
def ofTag : Nat → Orientation
  | 2 => flipped
  | 3 => halfTurn
  | 4 => halfTurnFlipped
  | 5 => quarterTurnFlipped
  | 6 => quarterTurn
  | 7 => threeQuarterTurnFlipped
  | 8 => threeQuarterTurn
  | _ => upright

end Orientation

/-- The picture set upright. Turns go clockwise; a flip exchanges left and right, and comes after
the turn. -/
def turn (p : Picture) (o : Orientation) : Picture :=
  let w := p.width - 1
  let h := p.height - 1
  match o with
  | .upright => p
  | .flipped => ofFn p.width p.height fun x y => p.get (w - x) y
  | .halfTurn => ofFn p.width p.height fun x y => p.get (w - x) (h - y)
  | .halfTurnFlipped => ofFn p.width p.height fun x y => p.get x (h - y)
  | .quarterTurnFlipped => ofFn p.height p.width fun x y => p.get y x
  | .quarterTurn => ofFn p.height p.width fun x y => p.get y (h - x)
  | .threeQuarterTurnFlipped => ofFn p.height p.width fun x y => p.get (w - y) (h - x)
  | .threeQuarterTurn => ofFn p.height p.width fun x y => p.get (w - y) x

end Picture

end Thumbnailer
