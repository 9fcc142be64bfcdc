/-
Where the square of a crop lies.

A wide picture is cut in the middle.  A tall one is cut so that the square has its centre near a third of
the height, or at the top if the square is too high for that.  The numbers are words of 32 bits, and
each quotient drops its remainder.

* **`aim`** — the row that the centre of a tall picture's square is meant for; **`aim_bounds`** says how
  near it is to a third of the height;
* **`window_of_wide`**, **`window_of_tall`** — the window in either case; the square of a tall picture
  never meets the lower edge, so it is never moved up from there;
* **`wordWindow?`** — the window worked out with words, where a difference may fail to be one;
  **`wordWindow?_eq`**: it never fails, and it is the window;
* **`framed_window`** — all that is to be said of the window of a picture.
-/
import Mathlib.Algebra.Order.Ring.Abs
import Mathlib.Data.Rat.Cast.Order
import Mathlib.Tactic.Linarith
import Thumbnailer.Picture.Raster

namespace Thumbnailer.Geometry

/-! ### Tall pictures -/

/-- The row that the centre of the square is meant for, in a picture that is higher than wide. -/
def aim (height : ℕ) : ℕ := height / 2 - height / 6

/-- Both quotients drop less than one, so the row is a third of the height up to two thirds of a row. -/
theorem aim_bounds (height : ℕ) : height ≤ 3 * aim height + 1 ∧ 3 * aim height ≤ height + 2 := by
  rw [aim]
  omega

theorem abs_aim_sub_third_lt (height : ℕ) : |(aim height : ℚ) - height / 3| < 1 := by
  obtain ⟨hlow, hhigh⟩ := aim_bounds height
  have hlow' : (height : ℚ) ≤ 3 * aim height + 1 := by exact_mod_cast hlow
  have hhigh' : 3 * (aim height : ℚ) ≤ height + 2 := by exact_mod_cast hhigh
  rw [abs_lt]
  constructor
  · linarith
  · linarith

/-- From the row of the centre down to the lower edge there is room for half of the square. -/
theorem aim_sub_le {width height : ℕ} (h : width < height) :
    aim height - width / 2 ≤ height - width := by
  rw [aim]
  omega

theorem window_of_wide {width height : ℕ} (h : height ≤ width) :
    window ⟨width, height⟩ = ⟨(width - height) / 2, 0, height⟩ := by
  have hedge : min width height = height := Nat.min_eq_right h
  show (if height ≤ width then (⟨(width - min width height) / 2, 0, min width height⟩ : Window)
    else _) = _
  rw [if_pos h, hedge]

theorem window_of_tall {width height : ℕ} (h : width < height) :
    window ⟨width, height⟩ = ⟨0, aim height - width / 2, width⟩ := by
  have hedge : min width height = width := Nat.min_eq_left h.le
  show (if height ≤ width then _ else (⟨0, min (aim height - min width height / 2)
    (height - min width height), min width height⟩ : Window)) = _
  -- the square does not reach the lower edge, so that bound is not met
  rw [if_neg (by omega), hedge, Nat.min_eq_left (aim_sub_le h)]

/-! ### Words -/

/-- The difference of two words, if that is a word. -/
def difference? (a b : UInt32) : Option UInt32 := if b ≤ a then some (a - b) else none

/-- The difference of two words, or 0 if that is no word. -/
def differenceOrZero (a b : UInt32) : UInt32 := if b ≤ a then a - b else 0

/-- The window of a picture, worked out with words. -/
def wordWindow? (width height : UInt32) : Option Window :=
  let edge := min width height
  if height ≤ width then
    (difference? width edge).map fun margins => ⟨(margins / 2).toNat, 0, edge.toNat⟩
  else
    (difference? (height / 2) (height / 6)).bind fun centre =>
      (difference? height edge).map fun lowest =>
        ⟨0, (min (differenceOrZero centre (edge / 2)) lowest).toNat, edge.toNat⟩

theorem exists_difference? {a b : UInt32} (h : b.toNat ≤ a.toNat) :
    ∃ d, difference? a b = some d ∧ d.toNat = a.toNat - b.toNat := by
  have hle : b ≤ a := UInt32.le_iff_toNat_le.mpr h
  exact ⟨a - b, if_pos hle, UInt32.toNat_sub_of_le a b hle⟩

theorem toNat_differenceOrZero (a b : UInt32) :
    (differenceOrZero a b).toNat = a.toNat - b.toNat := by
  rw [differenceOrZero]
  split
  · rename_i h
    exact UInt32.toNat_sub_of_le a b h
  · rename_i h
    rw [UInt32.le_iff_toNat_le] at h
    show 0 = _
    omega

theorem toNat_min_words (a b : UInt32) : (min a b).toNat = min a.toNat b.toNat := by
  show (if a ≤ b then a else b).toNat = _
  split
  · rename_i h
    exact (Nat.min_eq_left (UInt32.le_iff_toNat_le.mp h)).symm
  · rename_i h
    rw [UInt32.le_iff_toNat_le] at h
    exact (Nat.min_eq_right (by omega)).symm

/-- No difference fails to be a word, and what comes out is the window. -/
theorem wordWindow?_eq (width height : UInt32) :
    wordWindow? width height = some (window ⟨width.toNat, height.toNat⟩) := by
  rw [wordWindow?]
  by_cases h : height ≤ width
  · have hle : height.toNat ≤ width.toNat := UInt32.le_iff_toNat_le.mp h
    have hedge : (min width height).toNat = height.toNat := by
      rw [toNat_min_words, Nat.min_eq_right hle]
    obtain ⟨margins, hmargins, hvalue⟩ : ∃ d, difference? width (min width height) = some d ∧ _ :=
      exists_difference? (hedge ▸ hle)
    rw [if_pos h, hmargins, window_of_wide hle, Option.map_some, UInt32.toNat_div, hvalue, hedge]
    rfl
  · have hlt : width.toNat < height.toNat := by
      rw [UInt32.le_iff_toNat_le] at h
      omega
    have hedge : (min width height).toNat = width.toNat := by
      rw [toNat_min_words, Nat.min_eq_left hlt.le]
    have hhalf : (height / 2).toNat = height.toNat / 2 := UInt32.toNat_div height 2
    have hsixth : (height / 6).toNat = height.toNat / 6 := UInt32.toNat_div height 6
    have hwidth : (min width height / 2).toNat = width.toNat / 2 := by
      rw [UInt32.toNat_div, hedge]
      rfl
    obtain ⟨centre, hcentre, haim⟩ : ∃ d, difference? (height / 2) (height / 6) = some d ∧ _ :=
      exists_difference? (by rw [hhalf, hsixth]; omega)
    obtain ⟨lowest, hlowest, hroom⟩ : ∃ d, difference? height (min width height) = some d ∧ _ :=
      exists_difference? (by rw [hedge]; exact hlt.le)
    rw [hhalf, hsixth] at haim
    rw [hedge] at hroom
    rw [if_neg h, hcentre, hlowest, window_of_tall hlt, Option.bind_some, Option.map_some,
      toNat_min_words, toNat_differenceOrZero, haim, hroom, hwidth, hedge]
    show some (⟨0, min (aim height.toNat - width.toNat / 2) _, _⟩ : Window) = _
    rw [Nat.min_eq_left (aim_sub_le hlt)]

/-! ### The window of a picture -/

/-- What is to be said of the window of a picture with given numbers of columns and rows. -/
structure Framed (width height : ℕ) (w : Window) : Prop where
  edge_eq : w.edge = min width height
  edge_pos : 0 < w.edge
  /-- The square lies inside the picture. -/
  inside : w.left + w.edge ≤ width ∧ w.top + w.edge ≤ height
  /-- A wide picture is cut from top to bottom, with the same margin on either side, up to a column
  more on the right. -/
  wide : height ≤ width → w.top = 0 ∧ w.edge = height ∧
    w.left ≤ width - (w.left + w.edge) ∧ width - (w.left + w.edge) ≤ w.left + 1
  /-- A tall picture is cut from side to side, -/
  tall : width < height → w.left = 0 ∧ w.edge = width
  /-- with half of the square above the row that it is meant for, as far as the picture goes, -/
  top_eq : width < height → (w.top : ℤ) = max 0 (aim height - (w.edge / 2 : ℕ))
  /-- and the lower edge of the picture is never in the way. -/
  room : width < height →
    min (aim height - w.edge / 2) (height - w.edge) = aim height - w.edge / 2

theorem framed_of_wide {width height : ℕ} (hheight : 0 < height) (h : height ≤ width) :
    Framed width height (window ⟨width, height⟩) := by
  rw [window_of_wide h]
  exact {
    edge_eq := (Nat.min_eq_right h).symm
    edge_pos := hheight
    inside := by
      show (width - height) / 2 + height ≤ width ∧ 0 + height ≤ height
      omega
    wide := by
      intro _
      show 0 = 0 ∧ height = height ∧ (width - height) / 2 ≤ width - ((width - height) / 2 + height) ∧
        width - ((width - height) / 2 + height) ≤ (width - height) / 2 + 1
      omega
    tall := by omega
    top_eq := by omega
    room := by omega }

theorem framed_of_tall {width height : ℕ} (hwidth : 0 < width) (h : width < height) :
    Framed width height (window ⟨width, height⟩) := by
  have hroom := aim_sub_le h
  rw [window_of_tall h]
  exact {
    edge_eq := (Nat.min_eq_left h.le).symm
    edge_pos := hwidth
    inside := by
      show 0 + width ≤ width ∧ aim height - width / 2 + width ≤ height
      omega
    wide := by omega
    tall := fun _ => ⟨rfl, rfl⟩
    top_eq := by
      intro _
      show ((aim height - width / 2 : ℕ) : ℤ) = max 0 (aim height - (width / 2 : ℕ))
      omega
    room := fun _ => Nat.min_eq_left hroom }

/-- Whatever lies in the window is a pixel of the picture. -/
theorem Framed.isSome_get? {p : Picture} {w : Window} (h : Framed p.width p.height w) {x y : ℕ}
    (hx : x < w.edge) (hy : y < w.edge) : (p.get? (w.left + x) (w.top + y)).isSome = true := by
  obtain ⟨hleft, htop⟩ := h.inside
  rw [Picture.get?, if_pos ⟨by omega, by omega⟩]
  rfl

/-- **The square of a crop.**  In a picture whose columns and rows are counted by words, at least one of
each, the window is a square from edge to edge of the shorter side, and every place in it is a pixel of
the picture.  Worked out with words the same window comes out, and no difference falls below zero but
the one that is taken as zero then.  A wide picture is cut in the middle, up to half a column.  A tall one
has half of the square above a row that is less than one row away from a third of the height, or starts
at the top; and it is never the lower edge that decides. -/
theorem framed_window (width height : UInt32) (hwidth : 0 < width) (hheight : 0 < height) :
    wordWindow? width height = some (window ⟨width.toNat, height.toNat⟩) ∧
    Framed width.toNat height.toNat (window ⟨width.toNat, height.toNat⟩) ∧
    |(aim height.toNat : ℚ) - height.toNat / 3| < 1 ∧
    ∀ p : Picture, p.extent = ⟨width.toNat, height.toNat⟩ →
      ∀ x y, x < (window p.extent).edge → y < (window p.extent).edge →
        (p.get? ((window p.extent).left + x) ((window p.extent).top + y)).isSome = true := by
  have hwidth' : 0 < width.toNat := UInt32.lt_iff_toNat_lt.mp hwidth
  have hheight' : 0 < height.toNat := UInt32.lt_iff_toNat_lt.mp hheight
  have hframed : Framed width.toNat height.toNat (window ⟨width.toNat, height.toNat⟩) := by
    rcases Nat.lt_or_ge width.toNat height.toNat with h | h
    · exact framed_of_tall hwidth' h
    · exact framed_of_wide hheight' h
  refine ⟨wordWindow?_eq width height, hframed, abs_aim_sub_third_lt _, ?_⟩
  intro p hp x y hx hy
  obtain ⟨hcolumns, hrows⟩ := Extent.mk.inj hp
  rw [← hp, ← hcolumns, ← hrows] at hframed
  exact hframed.isSome_get? hx hy

/-- Two tall pictures: in the first one each quotient has a rest, and the square lies between the upper
and the lower edge; the second one is only just tall, and its square starts at the top. -/
theorem framed_window_tall :
    (0 < (5 : UInt32) ∧ 0 < (17 : UInt32) ∧ wordWindow? 5 17 = some ⟨0, 4, 5⟩ ∧
      Framed 5 17 ⟨0, 4, 5⟩ ∧ |(6 : ℚ) - 17 / 3| < 1) ∧
    0 < (10 : UInt32) ∧ 0 < (11 : UInt32) ∧ wordWindow? 10 11 = some ⟨0, 0, 10⟩ ∧
      Framed 10 11 ⟨0, 0, 10⟩ ∧ |(4 : ℚ) - 11 / 3| < 1 := by
  obtain ⟨hwords, hframed, haim, -⟩ := framed_window 5 17 (by decide) (by decide)
  obtain ⟨hwords', hframed', haim', -⟩ := framed_window 10 11 (by decide) (by decide)
  refine ⟨⟨by decide, by decide, hwords, hframed, ?_⟩, by decide, by decide, hwords', hframed', ?_⟩
  · simpa [aim] using haim
  · simpa [aim] using haim'

end Thumbnailer.Geometry
