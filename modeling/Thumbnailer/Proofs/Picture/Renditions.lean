/-
How large the renditions of a picture are.

A box is filled from the picture or, if that is large enough, from the box rendition before it.  The
lengths of a rendition are whole numbers, so its ratio is not quite the picture's, and neither is
what is made from it.

* **`Studio.Exact`** — a studio that works sizes out exactly, and makes pictures as large as asked for;
* **`lastBox`** — the box rendition before a size;
* **`getElem?_renditionsFrom`** — a box is filled from it or from the picture;
* **`Filled`** — what this comes to for the size of a rendition;
* **`renditions_drift`** — a rendition of a rendition of a rendition can be twice as high as it should;
* **`filled_generate`** — each box rendition is filled so; it has the size that it would have without
  the others just if filling its box from the rendition before it makes no difference.
-/
import Mathlib.Data.List.Forall2
import Thumbnailer.Proofs.Attempt
import Thumbnailer.Proofs.Picture.Geometry
import Thumbnailer.Renditions

namespace Thumbnailer

open Thumbnailer.Geometry (fit HasPixels Inside)

/-- The box rendition that comes last among some renditions. -/
def lastBox {π : Type} (sizes : List Size) (renditions : List π) : Option π :=
  ((sizes.zip renditions).filter fun x => !x.1.isSquareCrop).getLast?.map Prod.snd

/-! ### The size of a rendition -/

/-- What a box is filled from, if `basis` is the size of the box rendition before it: that one, if it is
large enough, or the whole picture. -/
def filledFrom (whole : Extent) (basis : Option Extent) (box : Extent) : Extent :=
  match basis with
  | none => whole
  | some b => if (fit .exact whole box).within b then b else whole

/-- What is to be said of the size `e` of a rendition that fills a box of a picture. -/
structure Filled (whole : Extent) (basis : Option Extent) (box e : Extent) : Prop where
  inside_box : Inside e box
  inside_whole : Inside e whole
  /-- The box allows no larger one, unless this is the picture as it is. -/
  fills : e.width = box.width ∨ e.height = box.height ∨ e = whole
  /-- A rendition that is made from the one before it has its ratio. -/
  derived : ∀ b ∈ basis, (fit .exact whole box).within b = true → e = fit .exact b box
  /-- The one before it does no harm just if its ratio leads to the same size. -/
  alone_iff : e = fit .exact whole box ↔
    ∀ b ∈ basis, (fit .exact whole box).within b = true → fit .exact b box = fit .exact whole box
  /-- This is so if it has the ratio of the picture. -/
  of_ratio : (∀ b ∈ basis, b.width * whole.height = b.height * whole.width) → e = fit .exact whole box

section Filled

variable {whole box : Extent} {basis : Option Extent}

theorem filledFrom_of_within {b : Extent} (h : (fit .exact whole box).within b = true) :
    filledFrom whole (some b) box = b := if_pos h

theorem filledFrom_of_not_within (h : ∀ b ∈ basis, ¬ (fit .exact whole box).within b = true) :
    filledFrom whole basis box = whole := by
  cases basis with
  | none => rfl
  | some b => exact if_neg (h b rfl)

/-- A box is filled from the rendition before it, if that is large enough, or from the picture. -/
theorem filledFrom_cases (whole : Extent) (basis : Option Extent) (box : Extent) :
    (∃ b, basis = some b ∧ (fit .exact whole box).within b = true) ∨
      ∀ b ∈ basis, ¬ (fit .exact whole box).within b = true := by
  by_cases h : ∃ b, basis = some b ∧ (fit .exact whole box).within b = true
  · exact .inl h
  · exact .inr fun b hb hlarge => h ⟨b, hb, hlarge⟩

theorem inside_filledFrom (hw : HasPixels whole) (hb : ∀ b ∈ basis, Inside b whole) :
    Inside (filledFrom whole basis box) whole := by
  obtain ⟨b, rfl, hlarge⟩ | hsmall := filledFrom_cases whole basis box
  · rw [filledFrom_of_within hlarge]
    exact hb b rfl
  · rw [filledFrom_of_not_within hsmall]
    exact hw.inside_self

/-- What is made from the picture is of the size that it has without the others. -/
theorem filled_of_not_within (hw : HasPixels whole) (hbox : HasPixels box)
    (h : ∀ b ∈ basis, ¬ (fit .exact whole box).within b = true) :
    Filled whole basis box (fit .exact whole box) where
  inside_box := Geometry.inside_fit_box hw hbox
  inside_whole := Geometry.inside_fit hw box
  fills := by
    by_cases hwithin : whole.within box = true
    · exact .inr (.inr (Geometry.fit_of_within hw hwithin))
    · exact or_assoc.mp (.inl (Geometry.fit_touches hw hbox hwithin))
  derived b hb hlarge := absurd hlarge (h b hb)
  alone_iff := ⟨fun _ b hb hlarge => absurd hlarge (h b hb), fun _ => rfl⟩
  of_ratio _ := rfl

/-- What is made from the rendition before it fills the box as well. -/
theorem filled_of_within {b : Extent} (hw : HasPixels whole) (hbox : HasPixels box)
    (hb : Inside b whole) (hlarge : (fit .exact whole box).within b = true) :
    Filled whole (some b) box (fit .exact b box) where
  inside_box := Geometry.inside_fit_box hb.toHasPixels hbox
  inside_whole := (Geometry.inside_fit hb.toHasPixels box).trans hb
  fills := by
    by_cases hbasis : b.within box = true
    · rw [Geometry.fit_of_within hb.toHasPixels hbasis]
      obtain ⟨hwidth, hheight⟩ := Geometry.within_iff.mp hbasis
      obtain ⟨hlw, hlh⟩ := Geometry.within_iff.mp hlarge
      by_cases hwithin : whole.within box = true
      · rw [Geometry.fit_of_within hw hwithin] at hlarge
        exact .inr (.inr (hb.eq hlarge))
      · -- what the picture alone would fill, the rendition before it fills as well
        obtain htouch | htouch := Geometry.fit_touches hw hbox hwithin
        · exact .inl (by omega)
        · exact .inr (.inl (by omega))
    · exact or_assoc.mp (.inl (Geometry.fit_touches hb.toHasPixels hbox hbasis))
  derived b' hb' _ := by
    obtain rfl := Option.some.inj hb'
    rfl
  alone_iff := by
    constructor
    · intro heq b' hb' _
      obtain rfl := Option.some.inj hb'
      exact heq
    · intro h
      exact h b rfl hlarge
  of_ratio hratio := Geometry.fit_eq_of_ratio hw hb (hratio b rfl) hlarge

theorem hasPixels_extent {size : Size} (hbox : size.isSquareCrop = false)
    (hheight : size.height ≠ 0) : HasPixels size.extent := by
  have hwidth : size.width ≠ 0 := by simpa [Size.isSquareCrop] using hbox
  exact {
    width := Nat.pos_of_ne_zero fun h => hwidth (UInt32.toNat_inj.mp h)
    height := Nat.pos_of_ne_zero fun h => hheight (UInt32.toNat_inj.mp h) }

theorem filled_fit (hw : HasPixels whole) (hbox : HasPixels box) (hb : ∀ b ∈ basis, Inside b whole) :
    Filled whole basis box (fit .exact (filledFrom whole basis box) box) := by
  obtain ⟨b, rfl, hlarge⟩ | hsmall := filledFrom_cases whole basis box
  · rw [filledFrom_of_within hlarge]
    exact filled_of_within hw hbox (hb b rfl) hlarge
  · rw [filledFrom_of_not_within hsmall]
    exact filled_of_not_within hw hbox hsmall

end Filled

namespace Studio

variable {σ π : Type} {s : Studio σ π} {picture : π} {basis : Option π} {size : Size}
  {sizes : List Size} {k : ℕ}

/-- A studio that works sizes out exactly, and makes pictures as large as asked for. -/
structure Exact (s : Studio σ π) : Prop where
  precision : s.precision = .exact
  extent_resize : ∀ (p : π) (e : Extent), s.extent (s.resize p e) = e

/-- The studio that makes pictures is exact but for the precision it works with. -/
theorem exact_pictureStudio (settings : PictureSettings) :
    Exact { pictureStudio settings with precision := .exact } where
  precision := rfl
  extent_resize p e := by
    show (Picture.resample p e).extent = e
    rw [Picture.resample]
    split
    · assumption
    · rfl

/-! ### What a box is filled from -/

theorem lastBox_cons (size : Size) (sizes : List Size) (r : π) (rs : List π) :
    lastBox (size :: sizes) (r :: rs) =
      (lastBox sizes rs).or (if size.isSquareCrop then none else some r) := by
  rw [lastBox, lastBox, List.zip_cons_cons, List.filter_cons]
  by_cases hcrop : size.isSquareCrop = true
  · simp [hcrop]
  · simp only [hcrop, Bool.not_false, if_true, Bool.false_eq_true, if_false, List.getLast?_cons]
    cases ((sizes.zip rs).filter fun x => !x.1.isSquareCrop).getLast? with
    | none => rfl
    | some x => rfl

/-- A box is filled from the picture or from the box rendition before it. -/
theorem getElem?_renditionsFrom (s : Studio σ π) (picture : π) (basis : Option π)
    (hk : sizes[k]? = some size) (hbox : size.isSquareCrop = false) :
    (s.renditionsFrom picture basis sizes)[k]? =
      some (s.fitInside
        (s.source picture
          ((lastBox (sizes.take k) (s.renditionsFrom picture basis sizes)).or basis) size.extent)
        size.extent) := by
  -- a crop leaves the basis to the sizes behind it, a box rendition takes its place
  induction sizes generalizing basis k with
  | nil => cases hk
  | cons first sizes ih =>
    cases k with
    | zero =>
      obtain rfl : first = size := Option.some.inj hk
      rw [renditionsFrom, hbox]
      rfl
    | succ k =>
      have hrest : sizes[k]? = some size := hk
      rw [renditionsFrom]
      by_cases hcrop : first.isSquareCrop = true
      · rw [if_pos hcrop, List.take_succ_cons, lastBox_cons, if_pos hcrop, Option.or_none]
        exact ih basis hrest
      · rw [if_neg hcrop, List.take_succ_cons, lastBox_cons, if_neg hcrop, Option.or_assoc]
        exact ih _ hrest

theorem extent_fitInside (hs : s.Exact) {p : π} (hp : HasPixels (s.extent p)) (box : Extent) :
    s.extent (s.fitInside p box) = fit .exact (s.extent p) box := by
  rw [fitInside]
  by_cases h : (s.extent p).within box = true
  · rw [if_pos h, Geometry.fit_of_within hp h]
  · rw [if_neg h, hs.extent_resize, hs.precision]

/-- What a box is filled from, told by the sizes alone. -/
theorem extent_source (hs : s.Exact) (picture : π) (basis : Option π) (box : Extent) :
    s.extent (s.source picture basis box) =
      filledFrom (s.extent picture) (basis.map s.extent) box := by
  cases basis with
  | none => rfl
  | some b =>
    rw [source, Option.map_some, filledFrom, hs.precision]
    split
    · rfl
    · rfl

section Inside

variable (hs : s.Exact) (hp : HasPixels (s.extent picture))

include hs hp

theorem extent_fitInside_source
    (hbasis : ∀ e ∈ basis.map s.extent, Inside e (s.extent picture)) (box : Extent) :
    s.extent (s.fitInside (s.source picture basis box) box) =
      fit .exact (filledFrom (s.extent picture) (basis.map s.extent) box) box := by
  have hfrom : Inside (filledFrom (s.extent picture) (basis.map s.extent) box) (s.extent picture) :=
    inside_filledFrom hp hbasis
  rw [← extent_source hs] at hfrom ⊢
  exact extent_fitInside hs hfrom.toHasPixels box

/-- No box rendition is larger than the picture. -/
theorem inside_lastBox (sizes : List Size)
    (hbasis : ∀ e ∈ basis.map s.extent, Inside e (s.extent picture)) (k : ℕ) :
    ∀ e ∈ ((lastBox (sizes.take k) (s.renditionsFrom picture basis sizes)).or basis).map s.extent,
      Inside e (s.extent picture) := by
  induction sizes generalizing basis k with
  | nil => simpa [lastBox] using hbasis
  | cons first sizes ih =>
    cases k with
    | zero => simpa [lastBox] using hbasis
    | succ k =>
      rw [renditionsFrom]
      by_cases hcrop : first.isSquareCrop = true
      · rw [if_pos hcrop, List.take_succ_cons, lastBox_cons, if_pos hcrop, Option.or_none]
        exact ih hbasis k
      · rw [if_neg hcrop, List.take_succ_cons, lastBox_cons, if_neg hcrop, Option.or_assoc]
        refine ih ?_ k
        intro e he
        obtain rfl := Option.some.inj he
        have hfrom : Inside (filledFrom (s.extent picture) (basis.map s.extent) first.extent)
            (s.extent picture) := inside_filledFrom hp hbasis
        rw [extent_fitInside_source hs hp hbasis]
        exact (Geometry.inside_fit hfrom.toHasPixels _).trans hfrom

theorem filled_renditions (hk : sizes[k]? = some size) (hbox : size.isSquareCrop = false)
    (hheight : size.height ≠ 0) :
    ∃ r, (s.renditions picture sizes)[k]? = some r ∧
      Filled (s.extent picture)
        ((lastBox (sizes.take k) (s.renditions picture sizes)).map s.extent) size.extent
        (s.extent r) := by
  have hnone : ∀ e ∈ (none : Option π).map s.extent, Inside e (s.extent picture) := by simp
  have hbasis := inside_lastBox hs hp sizes hnone k
  rw [Option.or_none] at hbasis
  refine ⟨_, getElem?_renditionsFrom s picture none hk hbox, ?_⟩
  rw [Option.or_none, extent_fitInside_source hs hp hbasis]
  exact filled_fit hp (hasPixels_extent hbox hheight) hbasis

end Inside

/-! ### Renditions of renditions -/

theorem lastBox_take_succ {rs : List π} {r : π} (hk : sizes[k]? = some size)
    (hbox : size.isSquareCrop = false) (hr : rs[k]? = some r) :
    lastBox (sizes.take (k + 1)) rs = some r := by
  induction sizes generalizing k rs with
  | nil => cases hk
  | cons first sizes ih =>
    cases rs with
    | nil => cases hr
    | cons r' rs =>
      rw [List.take_succ_cons, lastBox_cons]
      cases k with
      | zero =>
        obtain rfl : first = size := Option.some.inj hk
        obtain rfl : r' = r := Option.some.inj hr
        rw [hbox]
        rfl
      | succ k =>
        rw [ih hk hr]
        rfl

/-- Squares, each of them narrower by one than the one before it. -/
def shrinking (edge count : ℕ) : List Size :=
  (List.range count).map fun i => ⟨.ofNat (edge - 1 - i), .ofNat (edge - 1 - i)⟩

theorem nearest_mul_div {height edge width : ℕ} (hheight : 0 < height) (hwidth : 0 < width)
    (hstep : edge + 1 = width) (hsmall : 2 * height ≤ width) :
    max (nearest (height * ((edge : ℚ) / width))) 1 = height := by
  have hwidth' : (0 : ℚ) < width := Nat.cast_pos.mpr hwidth
  have hlost : (height : ℚ) * (edge / width) = height - height / width := by
    have hedge : (edge : ℚ) = width - 1 := by
      rw [← hstep]
      push_cast
      ring
    rw [hedge]
    field_simp
  -- what is lost is no more than half a pixel, and a half goes up
  have hhalf : (height : ℚ) / width ≤ 1 / 2 := by
    have hsmall' : (2 : ℚ) * height ≤ width := by exact_mod_cast hsmall
    rw [div_le_div_iff₀ hwidth' two_pos]
    linarith
  have hpos : (0 : ℚ) < height / width := div_pos (Nat.cast_pos.mpr hheight) hwidth'
  have hnearest : nearest (height * ((edge : ℚ) / width)) = height := by
    rw [hlost, nearest, Nat.floor_eq_iff (by linarith)]
    constructor
    · linarith
    · linarith
  rw [hnearest, max_eq_left hheight]

section Shrinking

variable {n : ℕ}

theorem getElem?_shrinking {edge count : ℕ} (hword : edge ≤ 2 ^ 32) (hcount : count < edge)
    (hk : k < count) :
    ∃ size, (shrinking edge count)[k]? = some size ∧ size.isSquareCrop = false ∧
      size.height ≠ 0 ∧ size.extent = ⟨edge - 1 - k, edge - 1 - k⟩ := by
  have hedge : (UInt32.ofNat (edge - 1 - k)).toNat = edge - 1 - k :=
    UInt32.toNat_ofNat_of_lt' (by show _ < 2 ^ 32; omega)
  have hne : UInt32.ofNat (edge - 1 - k) ≠ 0 := by
    intro hzero
    have hnone : 0 = edge - 1 - k := by rwa [hzero] at hedge
    omega
  refine ⟨⟨.ofNat (edge - 1 - k), .ofNat (edge - 1 - k)⟩, ?_, ?_, hne, ?_⟩
  · rw [shrinking, List.getElem?_map, List.getElem?_range hk]
    rfl
  · simpa [Size.isSquareCrop] using hne
  · rw [Size.extent, hedge]

/-- A picture is four times as wide as high, and squares are filled from it that get narrower by one.
Each of them is filled from the one before it, and what is lost of the height is rounded away each
time: at half the width the picture is as high as it was. -/
theorem renditions_shrinking (hs : s.Exact) (hn : 0 < n) (hword : 8 * n ≤ 2 ^ 32)
    (hextent : s.extent picture = ⟨8 * n, 2 * n⟩) (hk : k < 4 * n) :
    ∃ r, (s.renditions picture (shrinking (8 * n) (4 * n)))[k]? = some r ∧
      s.extent r = ⟨8 * n - 1 - k, 2 * n⟩ := by
  have hwhole : HasPixels ⟨8 * n, 2 * n⟩ := ⟨Nat.mul_pos (by decide) hn, Nat.mul_pos (by decide) hn⟩
  have hp : HasPixels (s.extent picture) := hextent ▸ hwhole
  -- each square is filled from the one before it, by induction as high as the picture
  induction k with
  | zero =>
    obtain ⟨size, hsize, hbox, hheight, hedge⟩ := getElem?_shrinking hword (by omega) hk
    obtain ⟨r, hr, hfilled⟩ := filled_renditions hs hp hsize hbox hheight
    rw [hextent, hedge] at hfilled
    refine ⟨r, hr, ?_⟩
    rw [hfilled.alone_iff.mpr (by simp [lastBox]), Geometry.fit_square (by omega) (by omega)
      (by omega) (by omega), nearest_mul_div (by omega) (by omega) (by omega) (by omega)]
  | succ k ih =>
    obtain ⟨before, hbefore, hbasis⟩ := ih (by omega)
    obtain ⟨first, hfirst, hfirstBox, -, -⟩ := getElem?_shrinking hword (by omega)
      (Nat.lt_of_succ_lt hk)
    obtain ⟨size, hsize, hbox, hheight, hedge⟩ := getElem?_shrinking hword (by omega) hk
    obtain ⟨r, hr, hfilled⟩ := filled_renditions hs hp hsize hbox hheight
    rw [lastBox_take_succ hfirst hfirstBox hbefore, Option.map_some, hbasis, hextent, hedge] at hfilled
    -- the square before this one is wide enough, and it is as high as the picture
    have hlarge : (fit .exact ⟨8 * n, 2 * n⟩ ⟨8 * n - 1 - (k + 1), 8 * n - 1 - (k + 1)⟩).within
        ⟨8 * n - 1 - k, 2 * n⟩ = true := by
      have hedge : 0 < 8 * n - 1 - (k + 1) := by omega
      have hnarrower : 8 * n - 1 - (k + 1) ≤ 8 * n - 1 - k := by omega
      refine Geometry.within_iff.mpr ⟨?_, (Geometry.inside_fit hwhole _).height_le⟩
      exact (Geometry.inside_fit_box hwhole ⟨hedge, hedge⟩).width_le.trans hnarrower
    refine ⟨r, hr, ?_⟩
    rw [hfilled.derived _ rfl hlarge, Geometry.fit_square (by omega) (by omega) (by omega)
      (by omega), nearest_mul_div (by omega) (by omega) (by omega) (by omega)]

/-- **Renditions of renditions drift.**  Of the squares above, the last one is filled by a picture that
is twice as high as it would be without the others. -/
theorem renditions_drift (hs : s.Exact) (hn : 0 < n) (hword : 8 * n ≤ 2 ^ 32)
    (hextent : s.extent picture = ⟨8 * n, 2 * n⟩) :
    ∃ size last alone, (shrinking (8 * n) (4 * n))[4 * n - 1]? = some size ∧
      (s.renditions picture (shrinking (8 * n) (4 * n)))[4 * n - 1]? = some last ∧
      s.extent last = ⟨4 * n, 2 * n⟩ ∧
      s.renditions picture [size] = [alone] ∧ s.extent alone = ⟨4 * n, n⟩ := by
  have hwhole : HasPixels ⟨8 * n, 2 * n⟩ := ⟨Nat.mul_pos (by decide) hn, Nat.mul_pos (by decide) hn⟩
  have hp : HasPixels (s.extent picture) := hextent ▸ hwhole
  have hhalf : 8 * n - 1 - (4 * n - 1) = 4 * n := by omega
  obtain ⟨last, hlast, hlastExtent⟩ :=
    renditions_shrinking hs hn hword hextent (Nat.sub_one_lt (by omega))
  obtain ⟨size, hsize, hbox, -, hedge⟩ :=
    getElem?_shrinking hword (show 4 * n < 8 * n by omega) (Nat.sub_one_lt (by omega))
  rw [hhalf] at hlastExtent hedge
  refine ⟨size, last, s.fitInside picture size.extent, hsize, hlast, hlastExtent, ?_, ?_⟩
  · rw [renditions, renditionsFrom, hbox]
    rfl
  · have hquarter : ((2 * n : ℕ) : ℚ) * ((4 * n : ℕ) / (8 * n : ℕ)) = n := by
      have hn' : (n : ℚ) ≠ 0 := Nat.cast_ne_zero.mpr hn.ne'
      push_cast
      field_simp
      norm_num
    rw [extent_fitInside hs hp, hextent, hedge, Geometry.fit_square (by omega) (by omega) (by omega)
      (by omega), hquarter, nearest_natCast, max_eq_left hn]

end Shrinking

/-! ### Whole calls -/

theorem forall₂_of_mapM {ε α β : Type} {f : α → Except ε β} {as : List α} {bs : List β}
    (h : as.mapM f = .ok bs) : List.Forall₂ (fun a b => f a = .ok b) as bs := by
  induction as generalizing bs with
  | nil =>
    obtain rfl : [] = bs := Except.ok.inj h
    exact .nil
  | cons a as ih =>
    rw [List.mapM_cons, bind_eq_ok_iff] at h
    obtain ⟨b, hb, h⟩ := h
    obtain ⟨rest, hrest, h⟩ := bind_eq_ok_iff.mp h
    obtain rfl : b :: rest = bs := Except.ok.inj h
    exact .cons hb (ih hrest)

theorem height_ne_zero_of_checkSizes {limit : ℕ} (h : checkSizes limit sizes = .ok ()) :
    ∀ size ∈ sizes, size.height ≠ 0 := by
  rw [checkSizes] at h
  cases hfind : sizes.find? (·.height == 0) with
  | some bad =>
    rw [hfind] at h
    cases h
  | none =>
    intro size hmem hzero
    have hnot := List.find?_eq_none.mp hfind size hmem
    exact hnot (beq_iff_eq.mpr hzero)

/-- A call that is answered has opened the picture and encoded its renditions; and all sizes have a
height. -/
theorem of_generate_eq_ok {limit : ℕ} {read : Path → Except IoError σ} {path : Path}
    {images : List Image} (h : s.generate limit read path sizes = .ok images) :
    (∀ size ∈ sizes, size.height ≠ 0) ∧ ∃ file picture, read path = .ok file ∧
      s.open? limit file = .ok picture ∧
      List.Forall₂ (fun r image => s.encode r = .ok image) (s.renditions picture sizes) images := by
  rw [generate, bind_eq_ok_iff] at h
  obtain ⟨⟨⟩, hsizes, h⟩ := h
  obtain ⟨file, hread, h⟩ := bind_eq_ok_iff.mp h
  obtain ⟨picture, hopen, h⟩ := bind_eq_ok_iff.mp h
  refine ⟨height_ne_zero_of_checkSizes hsizes, file, picture, mapError_eq_ok_iff.mp hread, hopen, ?_⟩
  exact (forall₂_of_mapM h).imp fun _ _ hencode => mapError_eq_ok_iff.mp hencode

/-- **When the size of a rendition depends on the others.**  Let a call be answered whose picture has
pixels, by a studio that works sizes out exactly.  Then the picture at each place shows a rendition for
the size at this place, and a box rendition fills its box.  It has the size that it would have if it
were the only one just if there is no box rendition before it, or the last of those is smaller than
that, or filling the box from that one makes no difference, as is the case if it has the very ratio of
the picture.  Nothing else that was asked for makes a difference. -/
theorem filled_generate (hs : s.Exact) {limit : ℕ} {read : Path → Except IoError σ} {path : Path}
    {images : List Image} (h : s.generate limit read path sizes = .ok images) :
    ∃ file picture, read path = .ok file ∧ s.open? limit file = .ok picture ∧
      List.Forall₂ (fun r image => s.encode r = .ok image) (s.renditions picture sizes) images ∧
      (HasPixels (s.extent picture) → ∀ k size, sizes[k]? = some size → size.isSquareCrop = false →
        ∃ r, (s.renditions picture sizes)[k]? = some r ∧
          Filled (s.extent picture)
            ((lastBox (sizes.take k) (s.renditions picture sizes)).map s.extent) size.extent
            (s.extent r)) := by
  obtain ⟨hheights, file, picture, hread, hopen, hencoded⟩ := of_generate_eq_ok h
  refine ⟨file, picture, hread, hopen, hencoded, ?_⟩
  intro hp k size hk hbox
  exact filled_renditions hs hp hk hbox (hheights size (List.mem_of_getElem? hk))

/-- A studio for pictures of which nothing but the size counts. -/
def sketch : Studio Extent Extent where
  head := .ok
  decode := .ok
  extent := id
  crop _ w := .square w.edge
  resize _ e := e
  encode e := .ok [.ofNat e.width, .ofNat e.height]
  precision := .exact

/-- A picture of 4x3 fills a box of 2x2 whole, but not if one of 3x3 is filled before: that rendition
is 3x2, and so the next one is 2x1. -/
theorem filled_generate_broken :
    sketch.generate 100 (fun _ => .ok ⟨4, 3⟩) [] [⟨3, 3⟩, ⟨2, 2⟩] = .ok [[3, 2], [2, 1]] ∧
      ∃ r, (sketch.renditions ⟨4, 3⟩ [⟨3, 3⟩, ⟨2, 2⟩])[1]? = some r ∧
        sketch.extent r ≠ fit .exact ⟨4, 3⟩ ⟨2, 2⟩ := by
  have hcall : sketch.generate 100 (fun _ => .ok ⟨4, 3⟩) [] [⟨3, 3⟩, ⟨2, 2⟩]
      = .ok [[3, 2], [2, 1]] := by rfl
  refine ⟨hcall, ?_⟩
  obtain ⟨file, picture, hread, hopen, -, hfilled⟩ := filled_generate ⟨rfl, fun _ _ => rfl⟩ hcall
  obtain rfl := Except.ok.inj hread
  obtain rfl : (⟨4, 3⟩ : Extent) = picture := Except.ok.inj hopen
  obtain ⟨r, hr, hsize⟩ := hfilled ⟨by decide, by decide⟩ 1 ⟨2, 2⟩ rfl rfl
  refine ⟨r, hr, fun heq => ?_⟩
  -- the rendition before it is large enough, and its ratio leads elsewhere
  have hsame := hsize.alone_iff.mp heq ⟨3, 2⟩ rfl (by decide)
  exact absurd hsame (by decide)

end Studio

end Thumbnailer
