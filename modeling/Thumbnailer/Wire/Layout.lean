/-
The layouts that payloads are built of, each with its writer and its reader.

* **`Layout`** — words, byte strings, texts, paths, sizes and lists of any of these.
* **`Layout.write`** — the bytes of a value; words are big-endian, what has no fixed length starts
  with its length, a list with its count. Lengths and counts are words, so they are kept modulo
  2^32.
* **`Layout.read`** — takes one value off the front of a buffer. A failed read keeps what it had
  taken until then, and a list whose count the buffer can not hold is refused before its first
  element is read.
-/
import Thumbnailer.Error

namespace Thumbnailer.Wire

/-- Takes a value off the front of a buffer, or fails; either way says what is left. -/
abbrev Reader (α : Type) := List UInt8 → Except Malformed α × List UInt8

namespace Reader

/-- Goes on with what the first read took off. -/
def andThen {α β : Type} (r : Reader α) (f : α → Reader β) : Reader β := fun buffer =>
  match r buffer with
  | (.ok a, rest) => f a rest
  | (.error e, rest) => (.error e, rest)

/-- A read that takes nothing. -/
def done {α : Type} (a : α) : Reader α := fun buffer => (.ok a, buffer)

end Reader

/-- Fails unless the buffer has `needed` bytes left for `piece`. -/
def ensure (piece : Piece) (needed : Nat) : Reader Unit := fun buffer =>
  if needed ≤ buffer.length then (.ok (), buffer)
  else (.error (.shortPayload piece needed buffer.length), buffer)

/-- The number that bytes write, the highest first. -/
def bigEndian (bytes : List UInt8) : Nat := bytes.foldl (fun n b => 256 * n + b.toNat) 0

/-- The four bytes of a word, the highest first. -/
def writeWord (w : UInt32) : List UInt8 :=
  [.ofNat (w.toNat / 0x1000000), .ofNat (w.toNat / 0x10000), .ofNat (w.toNat / 0x100),
    .ofNat w.toNat]

/-- Takes four bytes as a word. -/
def readWord : Reader UInt32 :=
  (ensure .word 4).andThen fun _ buffer => (.ok (.ofNat (bigEndian (buffer.take 4))), buffer.drop 4)

/-- A byte string behind its length. -/
def writeBytes (bytes : List UInt8) : List UInt8 := writeWord (.ofNat bytes.length) ++ bytes

/-- Takes a length and as many bytes. -/
def readBytes : Reader (List UInt8) :=
  readWord.andThen fun n =>
    (ensure .byteString n.toNat).andThen fun _ buffer =>
      (.ok (buffer.take n.toNat), buffer.drop n.toNat)

/-- Takes a byte string that has to be UTF-8. -/
def readText : Reader String :=
  readBytes.andThen fun bytes buffer =>
    match Text.Utf8.toString? bytes with
    | .ok s => (.ok s, buffer)
    | .error e => (.error (.notUtf8 e), buffer)

/-- Takes the two words of a size. -/
def readSize : Reader Size :=
  readWord.andThen fun width => readWord.andThen fun height => Reader.done ⟨width, height⟩

/-- Takes `n` values one after another. -/
def readTimes {α : Type} (r : Reader α) : Nat → Reader (List α)
  | 0 => Reader.done []
  | n + 1 => r.andThen fun a => (readTimes r n).andThen fun as => Reader.done (a :: as)

/-- What a payload may be built of. -/
inductive Layout
  | word
  | bytes
  | text
  | path
  | size
  | list (item : Layout)
  deriving DecidableEq, Repr

namespace Layout

/-- The values of a layout. Paths are the bytes that the file system uses. -/
@[reducible] def Value : Layout → Type
  | word => UInt32
  | bytes => List UInt8
  | text => String
  | path => List UInt8
  | size => Size
  | list item => List item.Value

/-- The number of bytes that every value of a layout takes at least. -/
def minSize : Layout → Nat
  | word => 4
  | bytes => 4
  | text => 4
  | path => 4
  | size => 8
  | list _ => 4

/-- The bytes of a value. -/
def write : (l : Layout) → l.Value → List UInt8
  | word, w => writeWord w
  | bytes, b => writeBytes b
  | text, s => writeBytes (Text.Utf8.ofString s)
  | path, p => writeBytes p
  | size, s => writeWord s.width ++ writeWord s.height
  | list item, vs => writeWord (.ofNat (List.length vs)) ++ List.flatMap (write item) vs

/-- Takes a value of the layout off a buffer. -/
def read : (l : Layout) → Reader l.Value
  | word => readWord
  | bytes => readBytes
  | text => readText
  | path => readBytes
  | size => readSize
  | list item =>
    readWord.andThen fun count =>
      (ensure .sequence (count.toNat * item.minSize)).andThen fun _ =>
        readTimes (read item) count.toNat

end Layout

end Thumbnailer.Wire
