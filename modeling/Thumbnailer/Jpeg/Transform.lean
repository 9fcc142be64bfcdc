/-
Blocks of eight by eight samples and their frequencies.

* **`brightness`**, **`blueness`**, **`redness`** — a colour as brightness and two differences.
* **`cosines`** — the cosine waves, each scaled so that the transform keeps lengths.
* **`frequencies`** — the block as a sum of cosine waves, rows first, then columns.
* **`quantised`** — the frequencies in the steps of a quantisation table.
-/
import Thumbnailer.Picture.Raster

namespace Thumbnailer.Jpeg

/-- Rounds a weighted sum with sixteen binary places. -/
def shifted (n : Int) : Int := (n + 32767) / 65536

def brightness (c : Colour) : Int :=
  shifted (19595 * c.red.toNat + 38469 * c.green.toNat + 7471 * c.blue.toNat)

/-- How far a colour leans to blue; 128 is not at all. -/
def blueness (c : Colour) : Int :=
  shifted (128 * 65536 - 11059 * c.red.toNat - 21709 * c.green.toNat + 32768 * c.blue.toNat)

/-- How far a colour leans to red; 128 is not at all. -/
def redness (c : Colour) : Int :=
  shifted (128 * 65536 + 32768 * c.red.toNat - 27439 * c.green.toNat - 5329 * c.blue.toNat)

/-- The eight cosine waves at eight places, wave by wave. -/
def cosines : FloatArray :=
  Nat.fold 64 (fun i _ (a : FloatArray) =>
    let u := (i / 8).toFloat
    let x := (i % 8).toFloat
    let scale : Float := if i < 8 then Float.sqrt 0.125 else 0.5
    a.push (scale * Float.cos ((2 * x + 1) * u * 3.14159265358979323846 / 16))) ⟨#[]⟩

/-- Transforms the rows of a block and writes the result by columns. -/
def pass (waves block : FloatArray) : FloatArray :=
  Nat.fold 64 (fun i _ (out : FloatArray) =>
    let u := 8 * (i / 8)
    let row := 8 * (i % 8)
    out.push (Nat.fold 8 (fun x _ sum => sum + waves.get! (u + x) * block.get! (row + x)) 0))
    (FloatArray.emptyWithCapacity 64)

def frequencies (waves block : FloatArray) : FloatArray := pass waves (pass waves block)

def nearest (x : Float) : Int :=
  if x < 0 then -(Int.ofNat ((-x).round.toUInt64.toNat)) else Int.ofNat x.round.toUInt64.toNat

/-- The frequencies of a block in the steps of a table, in the order of a file. A block of one value
has no waves. -/
def quantised (waves : FloatArray) (steps order : Array Nat) (samples : Array Int) : Array Int :=
  let first := samples.getD 0 0
  if samples.all (· == first) then
    #[nearest ((8 * Float.ofInt (first - 128)) / (steps.getD 0 1).toFloat)] ++
      Array.replicate 63 0
  else
    let block := samples.foldl (fun (a : FloatArray) v => a.push (Float.ofInt (v - 128)))
      (FloatArray.emptyWithCapacity 64)
    let all := frequencies waves block
    order.map fun k => nearest (all.get! k / (steps.getD k 1).toFloat)

end Thumbnailer.Jpeg
