/-
Scaling a picture to another size with a windowed sinc filter.

* **`taps`** — the places that go into one place of the result, with weights that add up to 1.
* **`Picture.resample`** — columns first, then rows. A picture that has the size already is
  left as it is.
-/
import Thumbnailer.Picture.Raster

namespace Thumbnailer

namespace Resample

def pi : Float := 3.14159265358979323846

/-- `sin (pi x) / (pi x)`, and 1 at 0. -/
def sinc (x : Float) : Float :=
  if x == 0 then 1 else Float.sin (pi * x) / (pi * x)

/-- How far the filter reaches on either side. -/
def reach : Float := 3

/-- The filter: sinc times a wider sinc, over three periods on either side. -/
def kernel (x : Float) : Float := if x.abs < reach then sinc x * sinc (x / reach) else 0

/-- The places that go into one place of a row: the first of them, and their weights. -/
structure Taps where
  start : Nat
  weights : FloatArray

/-- The taps for place `i` of a row of `target` places made from `source` ones. -/
def taps (source target i : Nat) : Taps :=
  let ratio := source.toFloat / target.toFloat
  let stretch := if ratio < 1 then 1 else ratio
  let support := reach * stretch
  let centre := (i.toFloat + 0.5) * ratio
  let start := min (centre - support).floor.toUInt64.toNat (source - 1)
  let stop := max (min (centre + support).ceil.toUInt64.toNat source) (start + 1)
  let count := stop - start
  let raw := count.fold (fun k _ (a : FloatArray) =>
    a.push (kernel (((start + k).toFloat - (centre - 0.5)) / stretch))) (FloatArray.emptyWithCapacity count)
  let sum := raw.foldl (· + ·) 0
  ⟨start, count.fold (fun k _ (a : FloatArray) => a.push (raw.get! k / sum))
    (FloatArray.emptyWithCapacity count)⟩

/-- The weighted sum of every `step`-th value from `base` on. -/
def weigh (values : FloatArray) (base step : Nat) (t : Taps) : Float :=
  t.weights.size.fold (fun k _ sum =>
    sum + t.weights.get! k * values.get! (base + (t.start + k) * step)) 0

def toByte (x : Float) : UInt8 := if x ≤ 0 then 0 else if 255 ≤ x then 255 else x.round.toUInt8

/-- The values of a picture, three for each pixel. -/
def values (p : Picture) : FloatArray :=
  p.bytes.foldl (fun a b => a.push b.toNat.toFloat) (FloatArray.emptyWithCapacity p.bytes.size)

/-- The values of a picture after its columns are scaled to `height` places. -/
def columns (p : Picture) (height : Nat) : FloatArray :=
  let all := values p
  let step := 3 * p.width
  height.fold (fun y _ out =>
    let t := taps p.height height y
    step.fold (fun i _ (out : FloatArray) => out.push (weigh all i step t)) out)
    (FloatArray.emptyWithCapacity (step * height))

/-- The bytes of a picture after its rows, given by `values` of a picture `source` wide, are scaled
to `width` places. -/
def rows (all : FloatArray) (source width height : Nat) : ByteArray :=
  let spread := (List.range width).map (taps source width) |>.toArray
  height.fold (fun y _ out =>
    spread.foldl (fun out t =>
      let base := 3 * source * y
      ((out.push (toByte (weigh all base 3 t))).push (toByte (weigh all (base + 1) 3 t))).push
        (toByte (weigh all (base + 2) 3 t))) out)
    (ByteArray.emptyWithCapacity (3 * width * height))

end Resample

def Picture.resample (p : Picture) (target : Extent) : Picture :=
  if p.extent = target then p
  else ⟨target.width, target.height,
    Resample.rows (Resample.columns p target.height) p.width target.width target.height⟩

end Thumbnailer
