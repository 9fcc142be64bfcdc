/-
The sizes that pictures are scaled to and the square that is cut out of them.

* **`fit`** — the size of a picture once it is scaled down into a box; it is never scaled up and
  never smaller than one pixel.
* **`window`** — the square cut out for a crop: the middle of a wide picture, and of a tall one a
  square whose centre lies a sixth of the height above the middle, where faces tend to be.
-/
import Thumbnailer.Ratio
import Thumbnailer.Size

namespace Thumbnailer

/-- Width and height of a picture in pixels. -/
structure Extent where
  width : Nat
  height : Nat
  deriving DecidableEq, Repr

namespace Extent

def pixels (e : Extent) : Nat := e.width * e.height

def within (e box : Extent) : Bool := e.width ≤ box.width && e.height ≤ box.height

def square (edge : Nat) : Extent := ⟨edge, edge⟩

end Extent

def Size.extent (s : Size) : Extent := ⟨s.width.toNat, s.height.toNat⟩

namespace Geometry

/-- The factor that scales a picture down into a box, at most 1. -/
def factor (p : Precision) (source box : Extent) : Ratio :=
  ((p.keep ⟨box.width, source.width⟩).min (p.keep ⟨box.height, source.height⟩)).min .one

/-- A length times a factor in whole pixels, at least one. -/
def scaled (p : Precision) (factor : Ratio) (length : Nat) : Nat :=
  max (p.keep (factor.scale length)).round 1

def fit (p : Precision) (source box : Extent) : Extent :=
  let f := factor p source box
  ⟨scaled p f source.width, scaled p f source.height⟩

/-- A square part of a picture: its top left corner and its edge. -/
structure Window where
  left : Nat
  top : Nat
  edge : Nat
  deriving DecidableEq, Repr

def window (source : Extent) : Window :=
  let edge := min source.width source.height
  if source.height ≤ source.width then ⟨(source.width - edge) / 2, 0, edge⟩
  else
    let centre := source.height / 2 - source.height / 6
    ⟨0, min (centre - edge / 2) (source.height - edge), edge⟩

end Geometry

end Thumbnailer
