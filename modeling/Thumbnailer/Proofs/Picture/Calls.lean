/-
How a call for renditions ends.

The sizes are looked at before the file is read: first for one without height, then for crops that are
too large.  So what is wrong with them is told whatever the file is, and in this order.

* **`Allowed`** — a size that a call does not refuse;
* **`checkSizes_of_no_height`**, **`checkSizes_of_large_crop`** — the first size at fault is the one that
  is told;
* **`generate_of_checkSizes`** — sizes at fault keep the file from being read;
* **`generate_eq_ok_iff`** — what it takes for a call to be answered, and what the answer is.
-/
import Thumbnailer.Proofs.Picture.Renditions

namespace Thumbnailer.Studio

variable {σ π : Type} {s : Studio σ π} {limit : ℕ} {read : Path → Except IoError σ} {path : Path}
  {sizes before after : List Size} {size : Size} {images : List Image}

/-! ### Sizes that are refused -/

/-- A size that a call does not refuse: it has a height, and as a crop it is not too large. -/
structure Allowed (limit : ℕ) (size : Size) : Prop where
  height : size.height ≠ 0
  crop : size.isSquareCrop = true → (Extent.square size.height.toNat).pixels ≤ limit

theorem checkPixels_eq_ok_iff {e : Extent} : checkPixels limit e = .ok () ↔ e.pixels ≤ limit := by
  rw [checkPixels]
  split
  · rename_i hle
    exact iff_of_true rfl hle
  · rename_i hlarge
    exact iff_of_false (fun h => by cases h) hlarge

theorem checkPixels_of_lt {e : Extent} (h : limit < e.pixels) :
    checkPixels limit e = .error (.limit (.pixels e.width e.height limit)) :=
  if_neg (Nat.not_le.mpr h)

theorem find?_height_eq_none_iff :
    sizes.find? (·.height == 0) = none ↔ ∀ size ∈ sizes, size.height ≠ 0 := by
  simp [List.find?_eq_none]

theorem checkSizes_of_height (h : ∀ size ∈ sizes, size.height ≠ 0) :
    checkSizes limit sizes =
      (sizes.filter Size.isSquareCrop).forM fun z => checkPixels limit (.square z.height.toNat) := by
  rw [checkSizes, find?_height_eq_none_iff.mpr h]

/-- The first size without height is told, wherever it stands. -/
theorem checkSizes_of_no_height (hbefore : ∀ size ∈ before, size.height ≠ 0)
    (hsize : size.height = 0) :
    checkSizes limit (before ++ size :: after) = .error (.invalidValue (.noHeight size)) := by
  have hfind : (before ++ size :: after).find? (·.height == 0) = some size := by
    rw [List.find?_append, find?_height_eq_none_iff.mpr hbefore, Option.none_or]
    exact List.find?_cons_of_pos (beq_iff_eq.mpr hsize)
  rw [checkSizes, hfind]

/-- Checks one after another, up to the first one that fails. -/
theorem forM_append_of_error {ε α : Type} {f : α → Except ε Unit} {as bs : List α} {a : α} {e : ε}
    (has : ∀ b ∈ as, f b = .ok ()) (ha : f a = .error e) : (as ++ a :: bs).forM f = .error e := by
  induction as with
  | nil =>
    show (f a >>= fun _ => bs.forM f) = _
    rw [ha]
    rfl
  | cons b as ih =>
    obtain ⟨hb, has⟩ := List.forall_mem_cons.mp has
    show (f b >>= fun _ => (as ++ a :: bs).forM f) = _
    rw [hb]
    exact ih has

/-- The first crop that is too large is told, wherever it stands, if all sizes have a height. -/
theorem checkSizes_of_large_crop (hheights : ∀ z ∈ before ++ size :: after, z.height ≠ 0)
    (hbefore : ∀ z ∈ before, Allowed limit z) (hcrop : size.isSquareCrop = true)
    (hlarge : limit < (Extent.square size.height.toNat).pixels) :
    checkSizes limit (before ++ size :: after) =
      .error (.limit (.pixels size.height.toNat size.height.toNat limit)) := by
  rw [checkSizes_of_height hheights, List.filter_append, List.filter_cons_of_pos hcrop]
  refine forM_append_of_error (fun z hz => ?_) (checkPixels_of_lt hlarge)
  obtain ⟨hmem, hzcrop⟩ := List.mem_filter.mp hz
  exact checkPixels_eq_ok_iff.mpr ((hbefore z hmem).crop hzcrop)

theorem checkSizes_eq_ok_iff :
    checkSizes limit sizes = .ok () ↔ ∀ size ∈ sizes, Allowed limit size := by
  constructor
  · intro h size hmem
    have hheights := height_ne_zero_of_checkSizes h
    rw [checkSizes_of_height hheights, forM_eq_ok_iff] at h
    exact ⟨hheights size hmem, fun hcrop =>
      checkPixels_eq_ok_iff.mp (h size (List.mem_filter.mpr ⟨hmem, hcrop⟩))⟩
  · intro h
    rw [checkSizes_of_height fun size hmem => (h size hmem).height, forM_eq_ok_iff]
    intro size hmem
    obtain ⟨hmem, hcrop⟩ := List.mem_filter.mp hmem
    exact checkPixels_eq_ok_iff.mpr ((h size hmem).crop hcrop)

/-! ### Calls -/

theorem length_renditionsFrom (s : Studio σ π) (picture : π) (basis : Option π)
    (sizes : List Size) : (s.renditionsFrom picture basis sizes).length = sizes.length := by
  induction sizes generalizing basis with
  | nil => rfl
  | cons size sizes ih =>
    rw [renditionsFrom]
    split
    · rw [List.length_cons, List.length_cons, ih]
    · rw [List.length_cons, List.length_cons, ih]

/-- A picture is opened if its head tells that it is not too large, and it can be decoded. -/
theorem open?_eq_ok_iff {file : σ} {picture : π} : s.open? limit file = .ok picture ↔
    ∃ e, s.head file = .ok e ∧ e.pixels ≤ limit ∧ s.decode file = .ok picture := by
  rw [open?, bind_eq_ok_iff]
  constructor
  · rintro ⟨e, hhead, h⟩
    obtain ⟨⟨⟩, hpixels, h⟩ := bind_eq_ok_iff.mp h
    exact ⟨e, mapError_eq_ok_iff.mp hhead, checkPixels_eq_ok_iff.mp hpixels,
      mapError_eq_ok_iff.mp h⟩
  · rintro ⟨e, hhead, hpixels, h⟩
    exact ⟨e, mapError_eq_ok_iff.mpr hhead, bind_eq_ok_iff.mpr
      ⟨(), checkPixels_eq_ok_iff.mpr hpixels, mapError_eq_ok_iff.mpr h⟩⟩

theorem open?_of_large {file : σ} {e : Extent} (hhead : s.head file = .ok e)
    (hlarge : limit < e.pixels) :
    s.open? limit file = .error (.limit (.pixels e.width e.height limit)) := by
  rw [open?, hhead]
  show (checkPixels limit e >>= fun _ => (s.decode file).mapError Error.image) = _
  rw [checkPixels_of_lt hlarge]
  rfl

/-- Sizes at fault keep the file from being read: whatever `read` makes of it, the call fails. -/
theorem generate_of_checkSizes {cause : Error} (h : checkSizes limit sizes = .error cause)
    (s : Studio σ π) (read : Path → Except IoError σ) (path : Path) :
    s.generate limit read path sizes = .error cause := by
  rw [generate, h]
  rfl

section Allowed

variable (h : ∀ size ∈ sizes, Allowed limit size)

include h

/-- With sizes that are allowed, the file counts. -/
theorem generate_of_allowed (s : Studio σ π) (read : Path → Except IoError σ) (path : Path) :
    s.generate limit read path sizes =
      ((read path).mapError .io >>= fun file => s.open? limit file >>= fun picture =>
        (s.renditions picture sizes).mapM fun r => (s.encode r).mapError .image) := by
  rw [generate, checkSizes_eq_ok_iff.mpr h]
  rfl

/-- A picture that is too large fails the call, and only its head counts for that. -/
theorem generate_of_large_picture {file : σ} {e : Extent} (hread : read path = .ok file)
    (hhead : s.head file = .ok e) (hlarge : limit < e.pixels) :
    s.generate limit read path sizes = .error (.limit (.pixels e.width e.height limit)) := by
  rw [generate_of_allowed h, hread]
  show (s.open? limit file >>= fun picture =>
    (s.renditions picture sizes).mapM fun r => (s.encode r).mapError Error.image) = _
  rw [open?_of_large hhead hlarge]
  rfl

end Allowed

theorem mapM_eq_ok_iff {ε α β : Type} {f : α → Except ε β} {as : List α} {bs : List β} :
    as.mapM f = .ok bs ↔ List.Forall₂ (fun a b => f a = .ok b) as bs := by
  refine ⟨forall₂_of_mapM, fun h => ?_⟩
  induction h with
  | nil => rfl
  | cons ha _ ih =>
    rw [List.mapM_cons]
    exact bind_eq_ok_iff.mpr ⟨_, ha, bind_eq_ok_iff.mpr ⟨_, ih, rfl⟩⟩

/-- A call is answered just if all sizes are allowed, the picture can be opened and each of its
renditions can be encoded; and these make the answer. -/
theorem generate_eq_ok_iff : s.generate limit read path sizes = .ok images ↔
    (∀ size ∈ sizes, Allowed limit size) ∧
    ∃ file picture, read path = .ok file ∧ s.open? limit file = .ok picture ∧
      List.Forall₂ (fun r image => s.encode r = .ok image) (s.renditions picture sizes) images := by
  constructor
  · intro h
    obtain ⟨-, hcall⟩ := of_generate_eq_ok h
    rw [generate, bind_eq_ok_iff] at h
    obtain ⟨⟨⟩, hsizes, -⟩ := h
    exact ⟨checkSizes_eq_ok_iff.mp hsizes, hcall⟩
  · rintro ⟨hsizes, file, picture, hread, hopen, hencoded⟩
    rw [generate_of_allowed hsizes, bind_eq_ok_iff]
    refine ⟨file, mapError_eq_ok_iff.mpr hread, bind_eq_ok_iff.mpr ⟨picture, hopen, ?_⟩⟩
    exact mapM_eq_ok_iff.mpr (hencoded.imp fun _ _ h => mapError_eq_ok_iff.mpr h)

end Thumbnailer.Studio
