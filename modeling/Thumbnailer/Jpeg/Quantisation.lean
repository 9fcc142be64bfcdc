/-
Quantisation tables: how coarsely each frequency of a block is kept.

* **`luma`**, **`chroma`** — the reference tables for brightness and colour, row by row.
* **`factor`** — the percentage a quality scales them to; quality 50 keeps them.
* **`table`** — a reference table at some quality, each entry from 1 to 255.
* **`zigzag`** — the order in which a file lists the frequencies, the lowest first.
-/
namespace Thumbnailer.Jpeg

def luma : List Nat := [
  16, 11, 10, 16, 24, 40, 51, 61,
  12, 12, 14, 19, 26, 58, 60, 55,
  14, 13, 16, 24, 40, 57, 69, 56,
  14, 17, 22, 29, 51, 87, 80, 62,
  18, 22, 37, 56, 68, 109, 103, 77,
  24, 35, 55, 64, 81, 104, 113, 92,
  49, 64, 78, 87, 103, 121, 120, 101,
  72, 92, 95, 98, 112, 100, 103, 99]

def chroma : List Nat := [
  17, 18, 24, 47, 99, 99, 99, 99,
  18, 21, 26, 66, 99, 99, 99, 99,
  24, 26, 56, 99, 99, 99, 99, 99,
  47, 66, 99, 99, 99, 99, 99, 99,
  99, 99, 99, 99, 99, 99, 99, 99,
  99, 99, 99, 99, 99, 99, 99, 99,
  99, 99, 99, 99, 99, 99, 99, 99,
  99, 99, 99, 99, 99, 99, 99, 99]

/-- The frequencies of a block, by row and column in one number, in the order of a file. -/
def zigzag : List Nat := [
  0, 1, 8, 16, 9, 2, 3, 10, 17, 24, 32, 25, 18, 11, 4, 5,
  12, 19, 26, 33, 40, 48, 41, 34, 27, 20, 13, 6, 7, 14, 21, 28,
  35, 42, 49, 56, 57, 50, 43, 36, 29, 22, 15, 23, 30, 37, 44, 51,
  58, 59, 52, 45, 38, 31, 39, 46, 53, 60, 61, 54, 47, 55, 62, 63]

def clampQuality (quality : Nat) : Nat := max 1 (min quality 100)

/-- The percentage by which a quality scales the reference tables. -/
def factor (quality : Nat) : Nat :=
  let q := clampQuality quality
  if q < 50 then 5000 / q else 200 - 2 * q

def table (quality : Nat) (reference : List Nat) : List Nat :=
  reference.map fun n => max 1 (min 255 ((n * factor quality + 50) / 100))

/-- A table in the order of a file. -/
def inFileOrder (table : List Nat) : List Nat := zigzag.filterMap (table[·]?)

end Thumbnailer.Jpeg
