/-
The prefix codes of the reference tables, and the writer that packs code words into bytes.

* **`Code`** — how many words there are of each length, and their symbols in order.
* **`Code.words`** — the word of each symbol: counting up, one bit longer where a length ends.
* **`BitWriter`** — collects bits; a byte of ones is followed by an empty byte, so that it can not
  be taken for a marker.
-/
namespace Thumbnailer.Jpeg

/-- A prefix code: the number of words of each length from 1 to 16, and their symbols. -/
structure Code where
  counts : List Nat
  symbols : List UInt8

/-- A code word: its bits as a number, and how many there are. -/
structure CodeWord where
  bits : UInt32
  size : Nat
  deriving Inhabited

namespace Code

/-- The words in order, from the counts of lengths `size` and longer. -/
def wordsFrom (next size : Nat) : List Nat → List CodeWord
  | [] => []
  | n :: counts =>
    (List.range n).map (fun i => ⟨.ofNat (next + i), size⟩) ++
      wordsFrom (2 * (next + n)) (size + 1) counts

/-- The word of every symbol, found at the symbol's number. -/
def words (c : Code) : Array CodeWord :=
  ((wordsFrom 0 1 c.counts).zip c.symbols).foldl
    (fun table (word, symbol) => table.setIfInBounds symbol.toNat word)
    (Array.replicate 256 default)

/-- The code for the mean brightness of a block. -/
def lumaMean : Code := ⟨[0, 1, 5, 1, 1, 1, 1, 1, 1, 0, 0, 0, 0, 0, 0, 0],
  [0, 1, 2, 3, 4, 5, 6, 7, 8, 9, 10, 11]⟩

/-- The code for the mean colour of a block. -/
def chromaMean : Code := ⟨[0, 3, 1, 1, 1, 1, 1, 1, 1, 1, 1, 0, 0, 0, 0, 0],
  [0, 1, 2, 3, 4, 5, 6, 7, 8, 9, 10, 11]⟩

/-- The code for the waves of brightness in a block. -/
def lumaWaves : Code := ⟨[0, 2, 1, 3, 3, 2, 4, 3, 5, 5, 4, 4, 0, 0, 1, 125],
  [0x01, 0x02, 0x03, 0x00, 0x04, 0x11, 0x05, 0x12, 0x21, 0x31, 0x41, 0x06, 0x13, 0x51, 0x61, 0x07,
   0x22, 0x71, 0x14, 0x32, 0x81, 0x91, 0xA1, 0x08, 0x23, 0x42, 0xB1, 0xC1, 0x15, 0x52, 0xD1, 0xF0,
   0x24, 0x33, 0x62, 0x72, 0x82, 0x09, 0x0A, 0x16, 0x17, 0x18, 0x19, 0x1A, 0x25, 0x26, 0x27, 0x28,
   0x29, 0x2A, 0x34, 0x35, 0x36, 0x37, 0x38, 0x39, 0x3A, 0x43, 0x44, 0x45, 0x46, 0x47, 0x48, 0x49,
   0x4A, 0x53, 0x54, 0x55, 0x56, 0x57, 0x58, 0x59, 0x5A, 0x63, 0x64, 0x65, 0x66, 0x67, 0x68, 0x69,
   0x6A, 0x73, 0x74, 0x75, 0x76, 0x77, 0x78, 0x79, 0x7A, 0x83, 0x84, 0x85, 0x86, 0x87, 0x88, 0x89,
   0x8A, 0x92, 0x93, 0x94, 0x95, 0x96, 0x97, 0x98, 0x99, 0x9A, 0xA2, 0xA3, 0xA4, 0xA5, 0xA6, 0xA7,
   0xA8, 0xA9, 0xAA, 0xB2, 0xB3, 0xB4, 0xB5, 0xB6, 0xB7, 0xB8, 0xB9, 0xBA, 0xC2, 0xC3, 0xC4, 0xC5,
   0xC6, 0xC7, 0xC8, 0xC9, 0xCA, 0xD2, 0xD3, 0xD4, 0xD5, 0xD6, 0xD7, 0xD8, 0xD9, 0xDA, 0xE1, 0xE2,
   0xE3, 0xE4, 0xE5, 0xE6, 0xE7, 0xE8, 0xE9, 0xEA, 0xF1, 0xF2, 0xF3, 0xF4, 0xF5, 0xF6, 0xF7, 0xF8,
   0xF9, 0xFA]⟩

/-- The code for the waves of colour in a block. -/
def chromaWaves : Code := ⟨[0, 2, 1, 2, 4, 4, 3, 4, 7, 5, 4, 4, 0, 1, 2, 119],
  [0x00, 0x01, 0x02, 0x03, 0x11, 0x04, 0x05, 0x21, 0x31, 0x06, 0x12, 0x41, 0x51, 0x07, 0x61, 0x71,
   0x13, 0x22, 0x32, 0x81, 0x08, 0x14, 0x42, 0x91, 0xA1, 0xB1, 0xC1, 0x09, 0x23, 0x33, 0x52, 0xF0,
   0x15, 0x62, 0x72, 0xD1, 0x0A, 0x16, 0x24, 0x34, 0xE1, 0x25, 0xF1, 0x17, 0x18, 0x19, 0x1A, 0x26,
   0x27, 0x28, 0x29, 0x2A, 0x35, 0x36, 0x37, 0x38, 0x39, 0x3A, 0x43, 0x44, 0x45, 0x46, 0x47, 0x48,
   0x49, 0x4A, 0x53, 0x54, 0x55, 0x56, 0x57, 0x58, 0x59, 0x5A, 0x63, 0x64, 0x65, 0x66, 0x67, 0x68,
   0x69, 0x6A, 0x73, 0x74, 0x75, 0x76, 0x77, 0x78, 0x79, 0x7A, 0x82, 0x83, 0x84, 0x85, 0x86, 0x87,
   0x88, 0x89, 0x8A, 0x92, 0x93, 0x94, 0x95, 0x96, 0x97, 0x98, 0x99, 0x9A, 0xA2, 0xA3, 0xA4, 0xA5,
   0xA6, 0xA7, 0xA8, 0xA9, 0xAA, 0xB2, 0xB3, 0xB4, 0xB5, 0xB6, 0xB7, 0xB8, 0xB9, 0xBA, 0xC2, 0xC3,
   0xC4, 0xC5, 0xC6, 0xC7, 0xC8, 0xC9, 0xCA, 0xD2, 0xD3, 0xD4, 0xD5, 0xD6, 0xD7, 0xD8, 0xD9, 0xDA,
   0xE2, 0xE3, 0xE4, 0xE5, 0xE6, 0xE7, 0xE8, 0xE9, 0xEA, 0xF2, 0xF3, 0xF4, 0xF5, 0xF6, 0xF7, 0xF8,
   0xF9, 0xFA]⟩

end Code

/-- Bytes written so far, and the bits that do not fill a byte yet. -/
structure BitWriter where
  bytes : ByteArray
  pending : UInt32
  count : Nat

namespace BitWriter

/-- Writes on behind some bytes. -/
def start (bytes : ByteArray) : BitWriter := ⟨bytes, 0, 0⟩

/-- Moves the oldest eight bits into a byte, if there are so many. -/
def spill (w : BitWriter) : BitWriter :=
  if w.count < 8 then w
  else
    let rest := w.count - 8
    let b := (w.pending >>> rest.toUInt32).toUInt8
    let bytes := w.bytes.push b
    ⟨if b == 0xFF then bytes.push 0 else bytes, w.pending &&& ((1 <<< rest.toUInt32) - 1), rest⟩

/-- Writes the low `size` bits of a number, at most sixteen. -/
def put (w : BitWriter) (bits : UInt32) (size : Nat) : BitWriter :=
  spill (spill ⟨w.bytes, (w.pending <<< size.toUInt32) ||| bits, w.count + size⟩)

/-- Writes a code word. -/
def putWord (w : BitWriter) (c : CodeWord) : BitWriter := w.put c.bits c.size

/-- All bytes, the last one filled up with ones. -/
def finish (w : BitWriter) : ByteArray := (w.put 0x7F 7).bytes

end BitWriter

end Thumbnailer.Jpeg
