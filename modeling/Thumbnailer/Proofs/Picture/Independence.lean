/-
Crops and boxes do not influence each other.

Boxes are filled one from another, but crops are always cut from the picture, and no box is filled
from a crop.  So of an answered call either kind could have been asked for alone, with the same images.

* **`chosen`** — what stands at the places of some of the sizes;
* **`renditionsFrom_boxes`**, **`renditionsFrom_crops`** — the renditions of either kind are those of a
  list without the other;
* **`Separate`** — what this means for the images of a call;
* **`separate_generate`** — it holds of every call that is answered, by any studio.
-/
import Thumbnailer.Proofs.Picture.Calls

namespace Thumbnailer

/-- Whether a size asks for a picture scaled down into a box. -/
def Size.isBox (size : Size) : Bool := !size.isSquareCrop

/-- What stands at the places of the sizes that are kept. -/
def chosen {α : Type} (keep : Size → Bool) (sizes : List Size) (l : List α) : List α :=
  ((sizes.zip l).filter fun x => keep x.1).map Prod.snd

section Chosen

variable {α β : Type} {keep : Size → Bool} {size : Size} {sizes : List Size}

theorem chosen_cons_of_pos (h : keep size = true) (a : α) (l : List α) :
    chosen keep (size :: sizes) (a :: l) = a :: chosen keep sizes l := by
  rw [chosen, List.zip_cons_cons, List.filter_cons, if_pos h]
  rfl

theorem chosen_cons_of_neg (h : ¬ keep size = true) (a : α) (l : List α) :
    chosen keep (size :: sizes) (a :: l) = chosen keep sizes l := by
  rw [chosen, List.zip_cons_cons, List.filter_cons, if_neg h]
  rfl

/-- Lists that correspond still do where some of the sizes are. -/
theorem forall₂_chosen {r : α → β → Prop} {as : List α} {bs : List β} (h : List.Forall₂ r as bs)
    (keep : Size → Bool) (sizes : List Size) :
    List.Forall₂ r (chosen keep sizes as) (chosen keep sizes bs) := by
  induction h generalizing sizes with
  | nil =>
    rw [chosen, chosen, List.zip_nil_right, List.zip_nil_right]
    exact .nil
  | cons hab _ ih =>
    cases sizes with
    | nil => exact .nil
    | cons size sizes =>
      by_cases hkeep : keep size = true
      · rw [chosen_cons_of_pos hkeep, chosen_cons_of_pos hkeep]
        exact .cons hab (ih sizes)
      · rw [chosen_cons_of_neg hkeep, chosen_cons_of_neg hkeep]
        exact ih sizes

end Chosen

namespace Studio

variable {σ π : Type} {s : Studio σ π} {limit : ℕ} {read : Path → Except IoError σ} {path : Path}
  {sizes : List Size} {size : Size} {images : List Image} {k : ℕ}

/-! ### Renditions -/

theorem renditionsFrom_crop (hcrop : size.isSquareCrop = true) (s : Studio σ π) (picture : π)
    (basis : Option π) (sizes : List Size) :
    s.renditionsFrom picture basis (size :: sizes) =
      s.squareCrop picture size.height.toNat :: s.renditionsFrom picture basis sizes := by
  rw [renditionsFrom, if_pos hcrop]

theorem renditionsFrom_box (hbox : ¬ size.isSquareCrop = true) (s : Studio σ π) (picture : π)
    (basis : Option π) (sizes : List Size) :
    s.renditionsFrom picture basis (size :: sizes) =
      s.fitInside (s.source picture basis size.extent) size.extent ::
        s.renditionsFrom picture
          (some (s.fitInside (s.source picture basis size.extent) size.extent)) sizes := by
  rw [renditionsFrom, if_neg hbox]

/-- A crop is no basis, so boxes are filled as if there were no crops between them. -/
theorem renditionsFrom_boxes (s : Studio σ π) (picture : π) (basis : Option π)
    (sizes : List Size) :
    s.renditionsFrom picture basis (sizes.filter Size.isBox) =
      chosen Size.isBox sizes (s.renditionsFrom picture basis sizes) := by
  induction sizes generalizing basis with
  | nil => rfl
  | cons size sizes ih =>
    by_cases hcrop : size.isSquareCrop = true
    · have hdrop : ¬ size.isBox = true := by simp [Size.isBox, hcrop]
      rw [List.filter_cons_of_neg hdrop, renditionsFrom_crop hcrop, chosen_cons_of_neg hdrop]
      exact ih basis
    · have hkeep : size.isBox = true := by simp [Size.isBox, hcrop]
      rw [List.filter_cons_of_pos hkeep, renditionsFrom_box hcrop, renditionsFrom_box hcrop,
        chosen_cons_of_pos hkeep, ih]

/-- Crops need no basis, so it makes no difference which one the boxes between them leave. -/
theorem renditionsFrom_crops (s : Studio σ π) (picture : π) (basis other : Option π)
    (sizes : List Size) :
    s.renditionsFrom picture other (sizes.filter Size.isSquareCrop) =
      chosen Size.isSquareCrop sizes (s.renditionsFrom picture basis sizes) := by
  induction sizes generalizing basis with
  | nil => rfl
  | cons size sizes ih =>
    by_cases hcrop : size.isSquareCrop = true
    · rw [List.filter_cons_of_pos hcrop, renditionsFrom_crop hcrop, renditionsFrom_crop hcrop,
        chosen_cons_of_pos hcrop, ih basis]
    · rw [List.filter_cons_of_neg hcrop, renditionsFrom_box hcrop, chosen_cons_of_neg hcrop]
      exact ih _

theorem getElem?_renditionsFrom_crop (s : Studio σ π) (picture : π) (basis : Option π)
    (hk : sizes[k]? = some size) (hcrop : size.isSquareCrop = true) :
    (s.renditionsFrom picture basis sizes)[k]? = some (s.squareCrop picture size.height.toNat) := by
  induction sizes generalizing basis k with
  | nil => cases hk
  | cons first sizes ih =>
    cases k with
    | zero =>
      obtain rfl : first = size := Option.some.inj hk
      rw [renditionsFrom_crop hcrop]
      rfl
    | succ k =>
      by_cases hfirst : first.isSquareCrop = true
      · rw [renditionsFrom_crop hfirst]
        exact ih basis hk
      · rw [renditionsFrom_box hfirst]
        exact ih _ hk

/-! ### Calls -/

/-- What is to be said of the images that a call has for some sizes: those of either kind are what it
has for these sizes alone, in the same order, and a crop is what it has for this one size. -/
structure Separate (call : List Size → Except Error (List Image)) (sizes : List Size)
    (images : List Image) : Prop where
  length_eq : images.length = sizes.length
  boxes : call (sizes.filter Size.isBox) = .ok (chosen Size.isBox sizes images)
  crops : call (sizes.filter Size.isSquareCrop) = .ok (chosen Size.isSquareCrop sizes images)
  alone : ∀ (k : ℕ) size image, sizes[k]? = some size → images[k]? = some image →
    size.isSquareCrop = true → call [size] = .ok [image]

/-- **Crops and boxes do not influence each other.**  Let a call be answered, by any studio.  Without
its crops it is answered with the same images for the boxes, and without its boxes with the same images
for the crops, in the same order.  And a call for any of the crops alone is answered with the image that
this one has, wherever it stands. -/
theorem separate_generate (h : s.generate limit read path sizes = .ok images) :
    Separate (s.generate limit read path) sizes images := by
  obtain ⟨hsizes, file, picture, hread, hopen, hencoded⟩ := generate_eq_ok_iff.mp h
  -- a call for some of the sizes, for which the same is made of the same picture
  have hanswer : ∀ some someImages, some ⊆ sizes →
      List.Forall₂ (fun r image => s.encode r = .ok image) (s.renditions picture some) someImages →
      s.generate limit read path some = .ok someImages := by
    intro some someImages hsub hmade
    exact generate_eq_ok_iff.mpr
      ⟨fun size hmem => hsizes size (hsub hmem), file, picture, hread, hopen, hmade⟩
  refine {
    length_eq := ?_
    boxes := hanswer _ _ (List.filter_subset_self sizes) ?_
    crops := hanswer _ _ (List.filter_subset_self sizes) ?_
    alone := fun k size image hk himage hcrop => hanswer _ _ ?_ ?_ }
  · rw [← hencoded.length_eq, renditions, length_renditionsFrom]
  · rw [renditions, renditionsFrom_boxes]
    exact forall₂_chosen hencoded _ sizes
  · rw [renditions, renditionsFrom_crops s picture none]
    exact forall₂_chosen hencoded _ sizes
  · simpa using List.mem_of_getElem? hk
  · have hr := getElem?_renditionsFrom_crop s picture none hk hcrop
    obtain ⟨hlt, hr⟩ := List.getElem?_eq_some_iff.mp hr
    obtain ⟨hlt', himage⟩ := List.getElem?_eq_some_iff.mp himage
    have hone := hencoded.get hlt hlt'
    rw [List.get_eq_getElem, List.get_eq_getElem] at hone
    rw [renditions, renditionsFrom_crop hcrop]
    refine .cons ?_ .nil
    rw [← hr, ← himage]
    exact hone

/-- Two crops with boxes before, between and behind them, of which the second is filled from the
first. -/
theorem separate_generate_mixed :
    sketch.generate 100 (fun _ => .ok ⟨4, 3⟩) [] [⟨3, 3⟩, ⟨0, 2⟩, ⟨2, 2⟩, ⟨0, 5⟩, ⟨9, 9⟩]
        = .ok [[3, 2], [2, 2], [2, 1], [5, 5], [4, 3]] ∧
      sketch.generate 100 (fun _ => .ok ⟨4, 3⟩) [] [⟨3, 3⟩, ⟨2, 2⟩, ⟨9, 9⟩]
        = .ok [[3, 2], [2, 1], [4, 3]] ∧
      sketch.generate 100 (fun _ => .ok ⟨4, 3⟩) [] [⟨0, 2⟩, ⟨0, 5⟩] = .ok [[2, 2], [5, 5]] ∧
      sketch.generate 100 (fun _ => .ok ⟨4, 3⟩) [] [⟨0, 5⟩] = .ok [[5, 5]] := by
  have hcall : sketch.generate 100 (fun _ => .ok ⟨4, 3⟩) []
      [⟨3, 3⟩, ⟨0, 2⟩, ⟨2, 2⟩, ⟨0, 5⟩, ⟨9, 9⟩] = .ok [[3, 2], [2, 2], [2, 1], [5, 5], [4, 3]] := by
    rfl
  have hseparate := separate_generate hcall
  exact ⟨hcall, hseparate.boxes, hseparate.crops, hseparate.alone 3 ⟨0, 5⟩ _ rfl rfl rfl⟩

end Studio

end Thumbnailer
