/-
How large a rendition may be.

A box rendition is made from the picture or from another box rendition.  The second one is no larger
than the picture, so whatever it is made from, it stays inside the picture as well as inside its box.

* **`Bounded`** — what a size and a picture say of the size of a rendition;
* **`forall₂_renditionsFrom`** — the renditions of a picture, one for each size, are so;
* **`bounded_generate`** — and so are those of every call that is answered.
-/
import Thumbnailer.Proofs.Picture.Calls

namespace Thumbnailer

open Thumbnailer.Geometry (fit HasPixels Inside)

/-- What is to be said of the size `e` of the rendition that a picture has for a size. -/
structure Bounded (whole : Extent) (size : Size) (e : Extent) : Prop where
  /-- A crop is the square that was asked for. -/
  crop : size.isSquareCrop = true → e = .square size.height.toNat
  /-- A box rendition has pixels, and fits into its box. -/
  inside_box : size.isSquareCrop = false → Inside e size.extent
  /-- It is nowhere larger than the picture. -/
  inside_whole : size.isSquareCrop = false → Inside e whole
  /-- A picture that fits into the box is not scaled at all. -/
  whole_of_within : size.isSquareCrop = false → whole.within size.extent = true → e = whole

section Filled

variable {whole box e : Extent} {basis : Option Extent} {size : Size}

/-- A picture that fits into a box is what the box shows, also if it is filled from the rendition
before it. -/
theorem Filled.eq_whole (h : Filled whole basis box e) (hw : HasPixels whole)
    (hb : ∀ b ∈ basis, Inside b whole) (hwithin : whole.within box = true) : e = whole := by
  have hfit : fit .exact whole box = whole := Geometry.fit_of_within hw hwithin
  have halone : e = fit .exact whole box := by
    refine h.alone_iff.mpr fun b hmem hlarge => ?_
    -- a rendition that is large enough here is as large as the picture
    rw [hfit] at hlarge
    rw [(hb b hmem).eq hlarge]
  rw [halone, hfit]

theorem Bounded.of_filled (h : Filled whole basis size.extent e) (hw : HasPixels whole)
    (hb : ∀ b ∈ basis, Inside b whole) (hbox : size.isSquareCrop = false) :
    Bounded whole size e where
  crop hcrop := by
    rw [hbox] at hcrop
    cases hcrop
  inside_box _ := h.inside_box
  inside_whole _ := h.inside_whole
  whole_of_within _ hwithin := h.eq_whole hw hb hwithin

end Filled

namespace Studio

variable {σ π : Type} {s : Studio σ π} {picture : π} {basis : Option π} {sizes : List Size}
  {limit : ℕ} {read : Path → Except IoError σ} {path : Path} {images : List Image}

theorem extent_squareCrop (hs : s.Exact) (picture : π) (edge : ℕ) :
    s.extent (s.squareCrop picture edge) = .square edge :=
  hs.extent_resize _ _

/-- The renditions of a picture stand in the order of the sizes. -/
theorem forall₂_renditionsFrom (hs : s.Exact) (hp : HasPixels (s.extent picture))
    (hbasis : ∀ e ∈ basis.map s.extent, Inside e (s.extent picture))
    (hheights : ∀ size ∈ sizes, size.height ≠ 0) :
    List.Forall₂ (fun size r => Bounded (s.extent picture) size (s.extent r)) sizes
      (s.renditionsFrom picture basis sizes) := by
  -- the basis stays inside the picture, by induction on the sizes
  induction sizes generalizing basis with
  | nil => exact .nil
  | cons size sizes ih =>
    obtain ⟨hheight, hheights⟩ := List.forall_mem_cons.mp hheights
    rw [renditionsFrom]
    by_cases hcrop : size.isSquareCrop = true
    · rw [if_pos hcrop]
      refine .cons ?_ (ih hbasis hheights)
      have hbox : ¬ size.isSquareCrop = false := by simp [hcrop]
      exact {
        crop := fun _ => extent_squareCrop hs _ _
        inside_box := fun h => absurd h hbox
        inside_whole := fun h => absurd h hbox
        whole_of_within := fun h => absurd h hbox }
    · have hbox : size.isSquareCrop = false := eq_false_of_ne_true hcrop
      have hfilled := filled_fit hp (hasPixels_extent hbox hheight) hbasis
      rw [← extent_fitInside_source hs hp hbasis] at hfilled
      rw [if_neg hcrop]
      refine .cons (.of_filled hfilled hp hbasis hbox) (ih ?_ hheights)
      intro e he
      obtain rfl := Option.some.inj he
      exact hfilled.inside_whole

theorem forall₂_renditions (hs : s.Exact) (hp : HasPixels (s.extent picture))
    (hheights : ∀ size ∈ sizes, size.height ≠ 0) :
    List.Forall₂ (fun size r => Bounded (s.extent picture) size (s.extent r)) sizes
      (s.renditions picture sizes) :=
  forall₂_renditionsFrom hs hp (by simp) hheights

/-- **Renditions stay inside their box and inside the picture.**  A call that is answered shows one
rendition for each size, in the order of the sizes, by a studio that works sizes out exactly.  A crop is
the square that was asked for.  A box rendition of a picture that has pixels has pixels itself, is
nowhere larger than its box and nowhere larger than the picture, whatever it is made from; and a picture
that fits into the box has its own size there. -/
theorem bounded_generate (hs : s.Exact) (h : s.generate limit read path sizes = .ok images) :
    images.length = sizes.length ∧
    ∃ file picture, read path = .ok file ∧ s.decode file = .ok picture ∧
      List.Forall₂ (fun r image => s.encode r = .ok image) (s.renditions picture sizes) images ∧
      (HasPixels (s.extent picture) →
        List.Forall₂ (fun size r => Bounded (s.extent picture) size (s.extent r)) sizes
          (s.renditions picture sizes)) := by
  obtain ⟨hallowed, file, picture, hread, hopen, hencoded⟩ := generate_eq_ok_iff.mp h
  obtain ⟨-, -, -, hdecode⟩ := open?_eq_ok_iff.mp hopen
  refine ⟨?_, file, picture, hread, hdecode, hencoded, fun hp => ?_⟩
  · rw [← hencoded.length_eq, renditions, length_renditionsFrom]
  · exact forall₂_renditions hs hp fun size hmem => (hallowed size hmem).height

/-- A box that the picture fits into, two that are filled one from the other, of which the second is
narrow, and a crop that is larger than the picture. -/
theorem bounded_generate_derived :
    sketch.generate 2500 (fun _ => .ok ⟨40, 20⟩) []
        [⟨100, 30⟩, ⟨21, 21⟩, ⟨0, 50⟩, ⟨7, 20⟩] = .ok [[40, 20], [21, 11], [50, 50], [7, 4]] ∧
      ∃ r, (sketch.renditions ⟨40, 20⟩ [⟨100, 30⟩, ⟨21, 21⟩, ⟨0, 50⟩, ⟨7, 20⟩])[3]? = some r ∧
        Inside (sketch.extent r) ⟨7, 20⟩ ∧ Inside (sketch.extent r) ⟨40, 20⟩ := by
  have hcall : sketch.generate 2500 (fun _ => .ok ⟨40, 20⟩) []
      [⟨100, 30⟩, ⟨21, 21⟩, ⟨0, 50⟩, ⟨7, 20⟩] = .ok [[40, 20], [21, 11], [50, 50], [7, 4]] := by
    rfl
  refine ⟨hcall, ?_⟩
  obtain ⟨-, file, picture, hread, hdecode, -, hbounded⟩ :=
    bounded_generate ⟨rfl, fun _ _ => rfl⟩ hcall
  obtain rfl := Except.ok.inj hread
  obtain rfl : (⟨40, 20⟩ : Extent) = picture := Except.ok.inj hdecode
  have hbounded := hbounded ⟨by decide, by decide⟩
  have hlast := hbounded.get (i := 3) (by decide) (by decide)
  exact ⟨_, rfl, hlast.inside_box rfl, hlast.inside_whole rfl⟩

end Studio

end Thumbnailer
