/-
How large a picture is once it is scaled down into a box.

The sizes are worked out with exact quotients here.  Each length is then the nearest natural number
to a rational one, and at least 1.

* **`Ratio.value`** — a ratio as a rational number;
* **`nearest`** — the nearest natural number, a half going up;
* **`Inside`** — a picture that has pixels and is nowhere larger than another one;
* **`fit_exact`** — the size of a picture that is scaled down, in rational numbers;
* **`inside_fit`**, **`inside_fit_box`**, **`fit_touches`** — it is as large as the picture and the box
  allow;
* **`fit_eq_of_ratio`** — pictures of one ratio are scaled down to one size.
-/
import Mathlib.Algebra.Order.Floor.Semifield
import Mathlib.Data.Rat.Floor
import Mathlib.Tactic.FieldSimp
import Mathlib.Tactic.Linarith
import Mathlib.Tactic.Positivity
import Thumbnailer.Picture.Geometry

namespace Thumbnailer

/-! ### Ratios as numbers -/

namespace Ratio

variable {a b : Ratio}

/-- A ratio as a rational number. -/
def value (r : Ratio) : ℚ := r.num / r.den

theorem value_scale (r : Ratio) (n : ℕ) : (r.scale n).value = n * r.value := by
  rw [value, value, scale, Nat.cast_mul, mul_div_assoc]

theorem le_iff_value (ha : 0 < a.den) (hb : 0 < b.den) : a.le b = true ↔ a.value ≤ b.value := by
  have ha' : (0 : ℚ) < a.den := Nat.cast_pos.mpr ha
  have hb' : (0 : ℚ) < b.den := Nat.cast_pos.mpr hb
  rw [le, decide_eq_true_iff, value, value, div_le_div_iff₀ ha' hb']
  exact_mod_cast Iff.rfl

theorem value_min (ha : 0 < a.den) (hb : 0 < b.den) :
    (a.min b).value = Min.min a.value b.value := by
  rw [min]
  by_cases h : a.le b = true
  · rw [if_pos h, min_eq_left ((le_iff_value ha hb).mp h)]
  · have hle : b.value ≤ a.value := (not_le.mp (mt (le_iff_value ha hb).mpr h)).le
    rw [if_neg h, min_eq_right hle]

theorem den_min_pos (ha : 0 < a.den) (hb : 0 < b.den) : 0 < (a.min b).den := by
  rw [min]
  split
  · exact ha
  · exact hb

end Ratio

/-- The nearest natural number, a half going up. -/
def nearest (x : ℚ) : ℕ := ⌊x + 1 / 2⌋₊

theorem nearest_natCast (n : ℕ) : nearest n = n := by
  rw [nearest, Nat.floor_eq_iff (by positivity)]
  constructor
  · linarith
  · linarith

theorem nearest_le_nearest {x y : ℚ} (h : x ≤ y) : nearest x ≤ nearest y :=
  Nat.floor_mono (by linarith)

theorem nearest_le {x : ℚ} {n : ℕ} (h : x ≤ n) : nearest x ≤ n := by
  have hle := nearest_le_nearest h
  rwa [nearest_natCast] at hle

theorem Ratio.round_eq_nearest {r : Ratio} (h : 0 < r.den) : r.round = nearest r.value := by
  have hden : (r.den : ℚ) ≠ 0 := Nat.cast_ne_zero.mpr h.ne'
  have hvalue : r.value + 1 / 2 = ((2 * r.num + r.den : ℕ) : ℚ) / ((2 * r.den : ℕ) : ℚ) := by
    rw [value]
    push_cast
    field_simp
  rw [nearest, hvalue, Nat.floor_div_eq_div, round]

/-! ### Boxes -/

namespace Geometry

variable {source box basis : Extent}

/-- The factor that scales a picture down into a box, as a rational number. -/
def scale (source box : Extent) : ℚ :=
  min (min ((box.width : ℚ) / source.width) ((box.height : ℚ) / source.height)) 1

/-- The size of a picture that is scaled down. -/
theorem fit_exact (hwidth : 0 < source.width) (hheight : 0 < source.height) :
    fit .exact source box =
      ⟨max (nearest (source.width * scale source box)) 1,
        max (nearest (source.height * scale source box)) 1⟩ := by
  have hden : 0 < (factor .exact source box).den :=
    Ratio.den_min_pos (Ratio.den_min_pos hwidth hheight) Nat.one_pos
  have hvalue : (factor .exact source box).value = scale source box := by
    show (((⟨box.width, source.width⟩ : Ratio).min ⟨box.height, source.height⟩).min .one).value = _
    rw [Ratio.value_min (Ratio.den_min_pos hwidth hheight) Nat.one_pos,
      Ratio.value_min hwidth hheight, scale, Ratio.value, Ratio.value, Ratio.value]
    simp [Ratio.one]
  have hscaled : ∀ length : ℕ, scaled .exact (factor .exact source box) length
      = max (nearest (length * scale source box)) 1 := by
    intro length
    have hden' : 0 < ((factor .exact source box).scale length).den := hden
    show max ((factor .exact source box).scale length).round 1 = _
    rw [Ratio.round_eq_nearest hden', Ratio.value_scale, hvalue]
  rw [fit, hscaled, hscaled]

/-! ### A picture that is scaled down -/

/-- A picture that has pixels. -/
structure HasPixels (e : Extent) : Prop where
  width : 0 < e.width
  height : 0 < e.height

/-- A picture that has pixels and is nowhere larger than another one. -/
structure Inside (e other : Extent) : Prop extends HasPixels e where
  width_le : e.width ≤ other.width
  height_le : e.height ≤ other.height

theorem HasPixels.inside_self {e : Extent} (h : HasPixels e) : Inside e e :=
  { h with width_le := Nat.le_refl _, height_le := Nat.le_refl _ }

theorem Inside.trans {a b c : Extent} (hab : Inside a b) (hbc : Inside b c) : Inside a c :=
  { hab.toHasPixels with
    width_le := hab.width_le.trans hbc.width_le
    height_le := hab.height_le.trans hbc.height_le }

theorem Inside.eq {a b : Extent} (hab : Inside a b) (hba : b.within a = true) : a = b := by
  have hle : b.width ≤ a.width ∧ b.height ≤ a.height := by simpa [Extent.within] using hba
  cases a
  cases b
  exact congrArg₂ Extent.mk (le_antisymm hab.width_le hle.1) (le_antisymm hab.height_le hle.2)

theorem scale_le_one (source box : Extent) : scale source box ≤ 1 := min_le_right _ _

theorem mul_scale_le {length bound : ℕ} (hlength : 0 < length)
    (hle : scale source box ≤ bound / length) : length * scale source box ≤ bound := by
  have hlength' : (0 : ℚ) < length := Nat.cast_pos.mpr hlength
  calc length * scale source box
      ≤ length * (bound / length) := by gcongr
    _ = bound := mul_div_cancel₀ _ hlength'.ne'

theorem width_mul_scale_le (hs : HasPixels source) (box : Extent) :
    source.width * scale source box ≤ box.width :=
  mul_scale_le hs.width ((min_le_left _ _).trans (min_le_left _ _))

theorem height_mul_scale_le (hs : HasPixels source) (box : Extent) :
    source.height * scale source box ≤ box.height :=
  mul_scale_le hs.height ((min_le_left _ _).trans (min_le_right _ _))

/-- A picture is never scaled up. -/
theorem inside_fit (hs : HasPixels source) (box : Extent) :
    Inside (fit .exact source box) source := by
  have hle : ∀ n : ℕ, (n : ℚ) * scale source box ≤ n := fun n =>
    mul_le_of_le_one_right (Nat.cast_nonneg n) (scale_le_one source box)
  rw [fit_exact hs.width hs.height]
  exact {
    width := Nat.lt_of_lt_of_le Nat.one_pos (le_max_right _ _)
    height := Nat.lt_of_lt_of_le Nat.one_pos (le_max_right _ _)
    width_le := max_le (nearest_le (hle _)) hs.width
    height_le := max_le (nearest_le (hle _)) hs.height }

theorem inside_fit_box (hs : HasPixels source) (hb : HasPixels box) :
    Inside (fit .exact source box) box := by
  refine { (inside_fit hs box).toHasPixels with width_le := ?_, height_le := ?_ }
  · rw [fit_exact hs.width hs.height]
    exact max_le (nearest_le (width_mul_scale_le hs box)) hb.width
  · rw [fit_exact hs.width hs.height]
    exact max_le (nearest_le (height_mul_scale_le hs box)) hb.height

theorem within_iff {e other : Extent} :
    e.within other = true ↔ e.width ≤ other.width ∧ e.height ≤ other.height := by
  rw [Extent.within, Bool.and_eq_true, decide_eq_true_iff, decide_eq_true_iff]

theorem one_le_div_iff_le {m n : ℕ} (hn : 0 < n) : (1 : ℚ) ≤ m / n ↔ n ≤ m := by
  rw [one_le_div (Nat.cast_pos.mpr hn), Nat.cast_le]

theorem fit_of_within (hs : HasPixels source) (h : source.within box = true) :
    fit .exact source box = source := by
  obtain ⟨hwidth, hheight⟩ := within_iff.mp h
  have hone : scale source box = 1 := by
    refine min_eq_right (le_min ?_ ?_)
    · exact (one_le_div_iff_le hs.width).mpr hwidth
    · exact (one_le_div_iff_le hs.height).mpr hheight
  rw [fit_exact hs.width hs.height, hone, mul_one, mul_one, nearest_natCast, nearest_natCast,
    max_eq_left hs.width, max_eq_left hs.height]

/-- The factor of a picture that is too large for a box is the smaller one of its two sides. -/
theorem scale_of_not_within (hs : HasPixels source) (h : ¬ source.within box = true) :
    scale source box = min ((box.width : ℚ) / source.width) ((box.height : ℚ) / source.height) := by
  -- if neither side had a factor below 1, the picture would lie inside the box
  refine min_eq_left (le_of_lt ?_)
  by_contra hle
  obtain ⟨hwidth, hheight⟩ := le_min_iff.mp (not_lt.mp hle)
  exact h (within_iff.mpr
    ⟨(one_le_div_iff_le hs.width).mp hwidth, (one_le_div_iff_le hs.height).mp hheight⟩)

/-- The side with the smaller factor fills the box. -/
theorem fills_of_not_within (hs : HasPixels source) (h : ¬ source.within box = true) :
    source.width * scale source box = box.width ∨
      source.height * scale source box = box.height := by
  have hwidth : (0 : ℚ) < source.width := Nat.cast_pos.mpr hs.width
  have hheight : (0 : ℚ) < source.height := Nat.cast_pos.mpr hs.height
  rw [scale_of_not_within hs h]
  obtain hmin | hmin := min_choice ((box.width : ℚ) / source.width)
    ((box.height : ℚ) / source.height)
  · rw [hmin]
    exact .inl (mul_div_cancel₀ _ hwidth.ne')
  · rw [hmin]
    exact .inr (mul_div_cancel₀ _ hheight.ne')

theorem width_fit_of_fills (hs : HasPixels source)
    (h : source.width * scale source box = box.width) :
    (fit .exact source box).width = max box.width 1 := by
  rw [fit_exact hs.width hs.height, h, nearest_natCast]

theorem height_fit_of_fills (hs : HasPixels source)
    (h : source.height * scale source box = box.height) :
    (fit .exact source box).height = max box.height 1 := by
  rw [fit_exact hs.width hs.height, h, nearest_natCast]

/-- A picture that is too large for a box is made as large as the box allows. -/
theorem fit_touches (hs : HasPixels source) (hb : HasPixels box) (h : ¬ source.within box = true) :
    (fit .exact source box).width = box.width ∨ (fit .exact source box).height = box.height := by
  obtain hfills | hfills := fills_of_not_within hs h
  · left
    rw [width_fit_of_fills hs hfills, max_eq_left hb.width]
  · right
    rw [height_fit_of_fills hs hfills, max_eq_left hb.height]

/-! ### Pictures of one ratio -/

theorem exists_factor (hs : HasPixels source) (hb : HasPixels basis)
    (hratio : basis.width * source.height = basis.height * source.width) :
    ∃ t : ℚ, 0 < t ∧ (basis.width : ℚ) = t * source.width ∧
      (basis.height : ℚ) = t * source.height := by
  have hwidth : (0 : ℚ) < source.width := Nat.cast_pos.mpr hs.width
  have hbwidth : (0 : ℚ) < basis.width := Nat.cast_pos.mpr hb.width
  have hcast : (basis.width : ℚ) * source.height = basis.height * source.width := by
    exact_mod_cast hratio
  refine ⟨basis.width / source.width, div_pos hbwidth hwidth, ?_, ?_⟩
  · rw [div_mul_cancel₀ _ hwidth.ne']
  · rw [div_mul_eq_mul_div, hcast, mul_div_cancel_right₀ _ hwidth.ne']

section Factor

variable {t : ℚ} (hs : HasPixels source) (hw : (basis.width : ℚ) = t * source.width)
  (hh : (basis.height : ℚ) = t * source.height) (hnot : ¬ source.within box = true)

include hs hw hh hnot

/-- A picture that is large enough for a size lies between that size and the larger picture. -/
theorem scale_le_factor (hlarge : (fit .exact source box).within basis = true) :
    scale source box ≤ t := by
  have hwidth : (0 : ℚ) < source.width := Nat.cast_pos.mpr hs.width
  have hheight : (0 : ℚ) < source.height := Nat.cast_pos.mpr hs.height
  obtain ⟨hlw, hlh⟩ := within_iff.mp hlarge
  obtain hfills | hfills := fills_of_not_within hs hnot
  · rw [width_fit_of_fills hs hfills] at hlw
    have hbox : (box.width : ℚ) ≤ basis.width := Nat.cast_le.mpr ((le_max_left _ _).trans hlw)
    rw [← hfills, hw, mul_comm t] at hbox
    exact le_of_mul_le_mul_left hbox hwidth
  · rw [height_fit_of_fills hs hfills] at hlh
    have hbox : (box.height : ℚ) ≤ basis.height := Nat.cast_le.mpr ((le_max_left _ _).trans hlh)
    rw [← hfills, hh, mul_comm t] at hbox
    exact le_of_mul_le_mul_left hbox hheight

theorem scale_eq_div (hpos : 0 < t) (hle : scale source box ≤ t) :
    scale basis box = scale source box / t := by
  have hmin : min ((box.width : ℚ) / basis.width) ((box.height : ℚ) / basis.height)
      = scale source box / t := by
    rw [scale_of_not_within hs hnot, ← min_div_div_right hpos.le, hw, hh, div_div, div_div,
      mul_comm t, mul_comm t]
  rw [scale, hmin, min_eq_left ((div_le_one hpos).mpr hle)]

end Factor

/-- Two pictures of one ratio are scaled down to one size, if the smaller one is large enough. -/
theorem fit_eq_of_ratio (hs : HasPixels source) (hb : Inside basis source)
    (hratio : basis.width * source.height = basis.height * source.width)
    (hlarge : (fit .exact source box).within basis = true) :
    fit .exact basis box = fit .exact source box := by
  by_cases hwithin : source.within box = true
  · -- the larger picture is left as it is, so the smaller one is as large
    rw [fit_of_within hs hwithin] at hlarge
    have hsame : basis = source := hb.eq hlarge
    rw [hsame]
  · obtain ⟨t, hpos, hw, hh⟩ := exists_factor hs hb.toHasPixels hratio
    have hle : scale source box ≤ t := scale_le_factor hs hw hh hwithin hlarge
    have hscale : scale basis box = scale source box / t := scale_eq_div hs hw hh hwithin hpos hle
    -- what the picture is smaller by, it is scaled down less
    have hcancel : ∀ x : ℚ, t * x * (scale source box / t) = x * scale source box := by
      intro x
      field_simp
    rw [fit_exact hb.width hb.height, fit_exact hs.width hs.height, hscale, hw, hh, hcancel, hcancel]

/-- A picture that is not higher than wide fills a square from side to side. -/
theorem fit_square {width height edge : ℕ} (hheight : 0 < height) (hle : height ≤ width)
    (hedge : 0 < edge) (hsmall : edge ≤ width) :
    fit .exact ⟨width, height⟩ ⟨edge, edge⟩
      = ⟨edge, max (nearest (height * (edge / width))) 1⟩ := by
  have hwidth : 0 < width := hheight.trans_le hle
  have hwidth' : (0 : ℚ) < width := Nat.cast_pos.mpr hwidth
  have hscale : scale ⟨width, height⟩ ⟨edge, edge⟩ = edge / width := by
    have hother : (edge : ℚ) / width ≤ edge / height := by
      have hheight' : (0 : ℚ) < height := Nat.cast_pos.mpr hheight
      gcongr
    have hone : (edge : ℚ) / width ≤ 1 := by
      rw [div_le_one hwidth']
      exact_mod_cast hsmall
    rw [scale, min_eq_left hother, min_eq_left hone]
  rw [fit_exact hwidth hheight, hscale, mul_div_cancel₀ _ hwidth'.ne', nearest_natCast,
    max_eq_left hedge]

end Geometry

end Thumbnailer
