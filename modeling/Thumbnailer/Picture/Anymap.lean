/-
Portable anymaps: bitmaps, greymaps and pixmaps, written as numbers or as bytes.

* **`Header.read?`** — the two letters that tell the kind, then width, height and, but for bitmaps,
  the value of full brightness. A comment goes from `#` to the end of its line and may stand
  anywhere, even inside a number.
* **`extent`**, **`decode`** — the size alone, and the whole picture.
-/
import Thumbnailer.Error
import Thumbnailer.Picture.Raster

namespace Thumbnailer.Anymap

/-- What the samples of a file are. -/
inductive Kind
  /-- One bit for each pixel, 1 being black. -/
  | bits
  /-- One number for each pixel. -/
  | greys
  /-- Three numbers for each pixel. -/
  | colours
  deriving DecidableEq, Repr

/-- What stands before the samples. -/
structure Header where
  kind : Kind
  /-- Whether the samples are written as numbers. -/
  plain : Bool
  width : Nat
  height : Nat
  /-- The value of full brightness. -/
  full : Nat
  deriving Repr

/-- The bytes that separate numbers. -/
def isSpace (b : UInt8) : Bool :=
  b == 9 || b == 10 || b == 11 || b == 12 || b == 13 || b == 32

/-- Whether a byte ends a comment. -/
def endsLine (b : UInt8) : Bool := b == 10 || b == 13

/-- Takes a word of the header off, with the one space behind it; `commented` tells whether a comment
is open, `word` holds what was read so far in reverse order. -/
def takeWord (commented : Bool) (word : List UInt8) :
    List UInt8 → Option (List UInt8 × List UInt8)
  | [] => if word.isEmpty then none else some (word.reverse, [])
  | b :: rest =>
    if commented then takeWord (!endsLine b) word rest
    else if b == 35 then takeWord true word rest
    else if isSpace b then
      if word.isEmpty then takeWord false word rest else some (word.reverse, rest)
    else if 128 ≤ b then none
    else takeWord false (b :: word) rest

/-- The number that some bytes write, below a limit. -/
def number? (limit : Nat) (bytes : List UInt8) : Option Nat :=
  (Text.readNumber limit (bytes.map fun b => Char.ofNat b.toNat)).toOption

/-- Takes a number of the header off. -/
def takeNumber (bytes : List UInt8) : Option (Nat × List UInt8) := do
  let (word, rest) ← takeWord false [] bytes
  let n ← number? UInt32.size word
  some (n, rest)

/-- The largest value of full brightness. -/
def maxFull : Nat := 65535

namespace Header

/-- Takes the numbers of a header off. -/
def readNumbers? (kind : Kind) (plain : Bool) (bytes : List UInt8) :
    Option (Header × List UInt8) := do
  let (width, bytes) ← takeNumber bytes
  let (height, bytes) ← takeNumber bytes
  let (full, bytes) ← if kind == .bits then some (1, bytes) else takeNumber bytes
  if full ≤ maxFull then some (⟨kind, plain, width, height, full⟩, bytes) else none

/-- Takes the header off a file. -/
def read? : List UInt8 → Option (Header × List UInt8)
  | 0x50 :: 0x31 :: rest => readNumbers? .bits true rest
  | 0x50 :: 0x32 :: rest => readNumbers? .greys true rest
  | 0x50 :: 0x33 :: rest => readNumbers? .colours true rest
  | 0x50 :: 0x34 :: rest => readNumbers? .bits false rest
  | 0x50 :: 0x35 :: rest => readNumbers? .greys false rest
  | 0x50 :: 0x36 :: rest => readNumbers? .colours false rest
  | _ => none

/-- The number of samples of a pixel. -/
def channels (h : Header) : Nat := if h.kind == .colours then 3 else 1

/-- The number of samples of the picture. -/
def samples (h : Header) : Nat := h.width * h.height * h.channels

/-- Whether a sample has two bytes. -/
def wide (h : Header) : Bool := 255 < h.full

end Header

/-- Takes `n` bits written as digits off; 1 is black. -/
def takeDigits : Nat → List UInt8 → Array UInt8 → Option (Array UInt8)
  | 0, _, out => some out
  | n + 1, bytes, out =>
    match bytes.dropWhile isSpace with
    | 48 :: rest => takeDigits n rest (out.push 255)
    | 49 :: rest => takeDigits n rest (out.push 0)
    | _ => none

/-- Takes `n` written numbers off, each below `limit`. -/
def takeNumbers (limit : Nat) : Nat → List UInt8 → Array Nat → Option (Array Nat)
  | 0, _, out => some out
  | n + 1, bytes, out =>
    let bytes := bytes.dropWhile isSpace
    match number? limit (bytes.takeWhile (!isSpace ·)) with
    | some value => takeNumbers limit n ((bytes.dropWhile (!isSpace ·)).drop 1) (out.push value)
    | none => none

/-- The samples in bytes, of one byte or two, the higher first. -/
def pairUp (wide : Bool) : List UInt8 → List Nat
  | a :: b :: rest =>
    if wide then (256 * a.toNat + b.toNat) :: pairUp wide rest
    else a.toNat :: pairUp wide (b :: rest)
  | [a] => [a.toNat]
  | [] => []

/-- The bits of the rows, each of which starts a new byte; 1 is black. -/
def unpack (width height : Nat) (bytes : Array UInt8) : Array UInt8 :=
  let row := (width + 7) / 8
  height.fold (fun y _ out => width.fold (fun x _ (out : Array UInt8) =>
    let b := bytes.getD (y * row + x / 8) 0
    out.push (if (b.toNat >>> (7 - x % 8)) % 2 == 1 then 0 else 255)) out) #[]

/-- A sample as a byte: full brightness is 255. -/
def toByte (h : Header) (v : Nat) : UInt8 :=
  let top : Nat := if h.wide then 65535 else 255
  let stretched : Nat :=
    if h.full == top then v
    else
      let x := (Float32.ofNat v * (Float32.ofNat top / Float32.ofNat h.full)).round
      if h.wide then x.toUInt16.toNat else x.toUInt8.toNat
  if h.wide then .ofNat ((stretched + 128) / 257) else .ofNat stretched

/-- The samples behind a header, as bytes. -/
def samples? (h : Header) (bytes : List UInt8) : Option (Array UInt8) :=
  match h.kind, h.plain with
  | .bits, true => takeDigits h.samples bytes #[]
  | .bits, false =>
    let need := (h.width + 7) / 8 * h.height
    let have_ := bytes.take need
    if have_.length < need then none else some (unpack h.width h.height have_.toArray)
  | _, true =>
    (takeNumbers (if h.wide then 65536 else 256) h.samples bytes #[]).map (·.map (toByte h))
  | _, false =>
    let need := h.samples * (if h.wide then 2 else 1)
    let have_ := bytes.take need
    if have_.length < need then none else some ((pairUp h.wide have_).toArray.map (toByte h))

/-- The picture with given samples. -/
def picture (h : Header) (samples : Array UInt8) : Picture :=
  .ofFn h.width h.height fun x y =>
    let i := (y * h.width + x) * h.channels
    if h.kind == .colours then
      ⟨samples.getD i 0, samples.getD (i + 1) 0, samples.getD (i + 2) 0⟩
    else let v := samples.getD i 0; ⟨v, v, v⟩

/-- The size of the picture in a file. -/
def extent (bytes : List UInt8) : Except ImageError Extent :=
  match Header.read? bytes with
  | some (h, _) => .ok ⟨h.width, h.height⟩
  | none => .error .undecodable

/-- The picture in a file, which must have at least one pixel. -/
def decode (bytes : List UInt8) : Except ImageError Picture :=
  match Header.read? bytes with
  | none => .error .undecodable
  | some (h, rest) =>
    if h.width = 0 ∨ h.height = 0 then .error .undecodable
    else
      match samples? h rest with
      | some samples => .ok (picture h samples)
      | none => .error .undecodable

end Thumbnailer.Anymap
