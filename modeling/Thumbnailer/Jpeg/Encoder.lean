/-
Writing a picture as a JPEG file, and reading the head of such a file.

* **`encode`** — the file: markers and tables, then block after block of brightness and two
  differences of colour, in full resolution.
* **`Head.ofBytes?`** — size and quantisation tables of a file.
-/
import Thumbnailer.Error
import Thumbnailer.Jpeg.Huffman
import Thumbnailer.Jpeg.Quantisation
import Thumbnailer.Jpeg.Transform
import Thumbnailer.Task

namespace Thumbnailer.Jpeg

/-- The longest side of a picture that a file can hold. -/
def maxSide : Nat := 65535

/-- The two bytes of a number, the higher first. -/
def half (n : Nat) : List UInt8 := [.ofNat (n / 256), .ofNat n]

/-- A marker with its data, which follow their length. -/
def segment (marker : UInt8) (data : List UInt8) : List UInt8 :=
  [0xFF, marker] ++ half (data.length + 2) ++ data

/-- The segment of a quantisation table. -/
def tableSegment (number : UInt8) (table : List Nat) : List UInt8 :=
  segment 0xDB (number :: (inFileOrder table).map .ofNat)

/-- The segment of a prefix code. -/
def codeSegment (number : UInt8) (c : Code) : List UInt8 :=
  segment 0xC4 (number :: c.counts.map .ofNat ++ c.symbols)

/-- All that stands before the blocks. -/
def opening (width height : Nat) (lumaTable chromaTable : List Nat) : List UInt8 :=
  [0xFF, 0xD8] ++
  segment 0xE0 ([0x4A, 0x46, 0x49, 0x46, 0, 1, 2, 0, 0, 1, 0, 1, 0, 0]) ++
  segment 0xC0 ([8] ++ half height ++ half width ++
    [3, 1, 0x11, 0, 2, 0x11, 1, 3, 0x11, 1]) ++
  tableSegment 0 lumaTable ++ tableSegment 1 chromaTable ++
  codeSegment 0x00 .lumaMean ++ codeSegment 0x10 .lumaWaves ++
  codeSegment 0x01 .chromaMean ++ codeSegment 0x11 .chromaWaves ++
  segment 0xDA [3, 1, 0x00, 2, 0x11, 3, 0x11, 0, 63, 0]

/-- The number of bits of a magnitude. -/
def bitLength (n : Nat) : Nat := if n = 0 then 0 else n.log2 + 1

/-- Writes the low bits that tell numbers of one magnitude apart. -/
def putMagnitude (w : BitWriter) (n : Int) : BitWriter :=
  let size := bitLength n.natAbs
  w.put (.ofNat (if n < 0 then Nat.pow 2 size - 1 - n.natAbs else n.natAbs)) size

/-- Writes the waves of a block: each with the number of zeros before it, then an end mark unless
the last wave is there. -/
def putWaves (code : Array CodeWord) (w : BitWriter) (coefficients : Array Int) : BitWriter :=
  let (w, zeros) := (coefficients.toList.drop 1).foldl
    (fun (w, zeros) c =>
      if c = 0 then (w, zeros + 1)
      else
        let w := (zeros / 16).fold (fun _ _ (w : BitWriter) => w.putWord (code.getD 0xF0 default)) w
        let symbol := 16 * (zeros % 16) + bitLength c.natAbs
        (putMagnitude (w.putWord (code.getD symbol default)) c, 0)) (w, 0)
  if zeros = 0 then w else w.putWord (code.getD 0 default)

/-- One of the three parts of a picture: how a colour shows in it, its table and its codes. -/
structure Part where
  sample : Colour → Int
  steps : Array Nat
  mean : Array CodeWord
  waves : Array CodeWord

/-- The samples of the block with a given corner; behind the edges the last pixels go on. -/
def blockOf (p : Picture) (sample : Colour → Int) (left top : Nat) : Array Int :=
  Nat.fold 64 (fun i _ (a : Array Int) =>
    a.push (sample (p.get (min (left + i % 8) (p.width - 1)) (min (top + i / 8) (p.height - 1)))))
    (Array.emptyWithCapacity 64)

/-- Writes one block of a part, its mean as the difference to the one before. -/
def putBlock (cosines : FloatArray) (order : Array Nat) (p : Picture) (left top : Nat) (part : Part)
    (w : BitWriter) (before : Int) : BitWriter × Int :=
  let coefficients := quantised cosines part.steps order (blockOf p part.sample left top)
  let mean := coefficients.getD 0 0
  let difference := mean - before
  let w := w.putWord (part.mean.getD (bitLength difference.natAbs) default)
  (putWaves part.waves (putMagnitude w difference) coefficients, mean)

/-- Writes the blocks of all parts at one place. -/
def putPlace (cosines : FloatArray) (order : Array Nat) (p : Picture) (left top : Nat) :
    List Part → List Int → BitWriter → BitWriter × List Int
  | part :: parts, before :: befores, w =>
    let (w, mean) := putBlock cosines order p left top part w before
    let (w, means) := putPlace cosines order p left top parts befores w
    (w, mean :: means)
  | _, _, w => (w, [])

/-- The file of a picture at some quality. -/
def bytes (quality : Nat) (p : Picture) : ByteArray :=
  let lumaTable := table quality luma
  let chromaTable := table quality chroma
  let order := zigzag.toArray
  let waves := cosines
  let chromaPart (sample : Colour → Int) : Part :=
    ⟨sample, chromaTable.toArray, Code.chromaMean.words, Code.chromaWaves.words⟩
  let parts : List Part :=
    [⟨brightness, lumaTable.toArray, Code.lumaMean.words, Code.lumaWaves.words⟩,
      chromaPart blueness, chromaPart redness]
  let columns := (p.width + 7) / 8
  let places := columns * ((p.height + 7) / 8)
  let start := BitWriter.start ⟨(opening p.width p.height lumaTable chromaTable).toArray⟩
  let (w, _) := places.fold (fun i _ (w, means) =>
    putPlace waves order p (8 * (i % columns)) (8 * (i / columns)) parts means w)
    (start, [0, 0, 0])
  (w.finish.push 0xFF).push 0xD9

/-- The file of a picture at some quality, if the picture is neither empty nor too large. -/
def encode (quality : Nat) (p : Picture) : Except ImageError Image :=
  if p.width = 0 ∨ p.height = 0 ∨ maxSide < p.width ∨ maxSide < p.height then .error .unwritable
  else .ok (bytes quality p).toList

/-- What the head of a file tells. -/
structure Head where
  extent : Extent
  /-- The quantisation tables in the order of the file, by number. -/
  tables : List (Nat × List Nat)

namespace Head

/-- The number in two bytes, the higher first. -/
def number : List UInt8 → Nat
  | a :: b :: _ => 256 * a.toNat + b.toNat
  | _ => 0

/-- Goes through segments until the blocks start; `fuel` bounds their number. -/
def scan : Nat → List UInt8 → Head → Option Head
  | 0, _, _ => none
  | fuel + 1, 0xFF :: marker :: rest, head =>
    let data := (rest.take (number rest)).drop 2
    let next := rest.drop (number rest)
    if marker = 0xDA then some head
    else if marker = 0xDB then
      let entry := ((data.headD 0).toNat, (data.drop 1).map UInt8.toNat)
      scan fuel next { head with tables := head.tables ++ [entry] }
    else if marker = 0xC0 then
      scan fuel next { head with extent := ⟨number (data.drop 3), number (data.drop 1)⟩ }
    else scan fuel next head
  | _, _, _ => none

/-- The head of a file that `encode` wrote. -/
def ofBytes? : List UInt8 → Option Head
  | 0xFF :: 0xD8 :: rest => scan rest.length rest ⟨⟨0, 0⟩, []⟩
  | _ => none

end Head

end Thumbnailer.Jpeg
