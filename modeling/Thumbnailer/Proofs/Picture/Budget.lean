/-
How many pixels a call for renditions can come to.

Pixels are counted twice: those of the crops before the file is read, and those of the picture before
it is decoded.  Nothing is counted after that, and nothing has to be.  To set a picture upright
exchanges its sides at most, and a box rendition is no larger than the picture, also if it is made from
another one.

* **`Studio.Upright`** — a studio whose files hold pictures as large as their heads tell, however they
  are held;
* **`Extent.pixels64`** — the count as a word of 64 bits holds it, which is exact;
* **`Budget`** — what a limit on pixels means for a call;
* **`budget_generate`** — it means this for every call.
-/
import Thumbnailer.Proofs.Picture.Bounds

namespace Thumbnailer

open Thumbnailer.Geometry (HasPixels Inside)

namespace Extent

variable {e other : Extent}

/-- The number of pixels as a word of 64 bits counts them. -/
def pixels64 (e : Extent) : UInt64 := .ofNat e.width * .ofNat e.height

/-- The count is exact: it does not overflow. -/
def Counted (e : Extent) : Prop := e.pixels64.toNat = e.pixels

/-- Width and height each fit into a word of 32 bits. -/
structure Short (e : Extent) : Prop where
  width : e.width < 2 ^ 32
  height : e.height < 2 ^ 32

theorem Short.pixels_lt (h : e.Short) : e.pixels < 2 ^ 64 :=
  calc e.width * e.height ≤ (2 ^ 32 - 1) * (2 ^ 32 - 1) :=
        Nat.mul_le_mul (Nat.le_sub_one_of_lt h.width) (Nat.le_sub_one_of_lt h.height)
    _ < 2 ^ 64 := by decide

theorem Short.counted (h : e.Short) : e.Counted := by
  have hwidth : (UInt64.ofNat e.width).toNat = e.width :=
    UInt64.toNat_ofNat_of_lt' (h.width.trans (by decide))
  have hheight : (UInt64.ofNat e.height).toNat = e.height :=
    UInt64.toNat_ofNat_of_lt' (h.height.trans (by decide))
  rw [Counted, pixels64, UInt64.toNat_mul, hwidth, hheight]
  exact Nat.mod_eq_of_lt h.pixels_lt

theorem short_square (edge : UInt32) : (square edge.toNat).Short :=
  ⟨edge.toNat_lt, edge.toNat_lt⟩

end Extent

theorem Geometry.Inside.pixels_le {e other : Extent} (h : Inside e other) :
    e.pixels ≤ other.pixels :=
  Nat.mul_le_mul h.width_le h.height_le

theorem Geometry.Inside.short {e other : Extent} (h : Inside e other) (ho : other.Short) : e.Short :=
  ⟨h.width_le.trans_lt ho.width, h.height_le.trans_lt ho.height⟩

/-! ### Orientation -/

namespace Picture

/-- Set upright, a picture has the sides that it had, or these exchanged. -/
theorem extent_turn (p : Picture) (o : Orientation) :
    (p.turn o).extent = p.extent ∨ (p.turn o).extent = ⟨p.height, p.width⟩ := by
  cases o with
  | upright | flipped | halfTurn | halfTurnFlipped => exact .inl rfl
  | quarterTurnFlipped | quarterTurn | threeQuarterTurnFlipped | threeQuarterTurn => exact .inr rfl

section Turn

variable {p : Picture} (o : Orientation)

theorem pixels_turn : (p.turn o).extent.pixels = p.extent.pixels := by
  obtain h | h := extent_turn p o
  · rw [h]
  · rw [h]
    exact Nat.mul_comm _ _

theorem hasPixels_turn (h : HasPixels p.extent) : HasPixels (p.turn o).extent := by
  obtain heq | heq := extent_turn p o
  · rwa [heq]
  · rw [heq]
    exact ⟨h.height, h.width⟩

theorem short_turn (h : p.extent.Short) : (p.turn o).extent.Short := by
  obtain heq | heq := extent_turn p o
  · rwa [heq]
  · rw [heq]
    exact ⟨h.height, h.width⟩

end Turn

end Picture

/-! ### Files -/

theorem Stored.exists_turn_of_decode {stored : Stored} {picture : Picture}
    (h : stored.decode = .ok picture) : ∃ (p : Picture) (o : Picture.Orientation),
      stored.extent = .ok p.extent ∧ picture = p.turn o := by
  rw [decode] at h
  cases hhead : stored.extent with
  | error e =>
    rw [hhead] at h
    cases h
  | ok e =>
    rw [hhead] at h
    -- a head that can be read tells the size as stored
    have he : (⟨stored.width, stored.height⟩ : Extent) = e := by
      rw [extent] at hhead
      split at hhead
      · cases hhead
      · split at hhead
        · cases hhead
        · exact Except.ok.inj hhead
    by_cases hcut : stored.cut.isSome = true
    · rw [if_pos hcut] at h
      cases h
    · rw [if_neg hcut] at h
      refine ⟨.ofFn stored.width stored.height stored.colour,
        if stored.container.tagged then .ofTag stored.orientation else .upright, ?_, ?_⟩
      · rw [← he]
        rfl
      · rw [← Except.ok.inj h]
        split
        · rfl
        · rfl

theorem Anymap.extent_of_decode {bytes : List UInt8} {picture : Picture}
    (h : decode bytes = .ok picture) : extent bytes = .ok picture.extent := by
  rw [decode] at h
  rw [extent]
  cases hread : Header.read? bytes with
  | none =>
    rw [hread] at h
    cases h
  | some found =>
    obtain ⟨header, rest⟩ := found
    rw [hread] at h
    dsimp only at h
    by_cases hempty : header.width = 0 ∨ header.height = 0
    · rw [if_pos hempty] at h
      cases h
    · rw [if_neg hempty] at h
      cases hsamples : samples? header rest with
      | none =>
        rw [hsamples] at h
        cases h
      | some samples =>
        rw [hsamples] at h
        rw [← Except.ok.inj h]
        rfl

/-- A picture is as large as the head of its file tells, but that it may have been turned. -/
theorem Source.exists_turn_of_decode {file : Source} {picture : Picture}
    (h : file.decode = .ok picture) : ∃ (p : Picture) (o : Picture.Orientation),
      file.extent = .ok p.extent ∧ picture = p.turn o := by
  cases file with
  | stored stored => exact Stored.exists_turn_of_decode h
  | bytes b =>
    rw [decode] at h
    by_cases hmap : isAnymap b = true
    · rw [if_pos hmap] at h
      refine ⟨picture, .upright, ?_, rfl⟩
      rw [extent, if_pos hmap]
      exact Anymap.extent_of_decode h
    · rw [if_neg hmap] at h
      cases h

/-! ### Calls -/

namespace Studio

variable {σ : Type} {s : Studio σ Picture} {limit : ℕ} {sizes : List Size}
  {read : Path → Except IoError σ} {path : Path} {images : List Image}

/-- A studio whose files hold pictures as large as their heads tell, and that sets them upright. -/
structure Upright (s : Studio σ Picture) : Prop where
  extent : s.extent = Picture.extent
  decode : ∀ file picture, s.decode file = .ok picture →
    ∃ (stored : Picture) (o : Picture.Orientation),
      s.head file = .ok stored.extent ∧ picture = stored.turn o

theorem Upright.of_source {s : Studio Source Picture} (hhead : s.head = Source.extent)
    (hdecode : s.decode = Source.decode) (hextent : s.extent = Picture.extent) : s.Upright where
  extent := hextent
  decode file picture h := by
    rw [hdecode] at h
    rw [hhead]
    exact Source.exists_turn_of_decode h

theorem upright_pictureStudio (settings : PictureSettings) : (pictureStudio settings).Upright :=
  .of_source rfl rfl rfl

/-- What is to be said of an answered call for some sizes and of the picture in its file, which is
stored as `stored` and held in orientation `o`. -/
structure Afforded (s : Studio σ Picture) (limit : ℕ) (sizes : List Size) (images : List Image)
    (stored : Picture) (o : Picture.Orientation) : Prop where
  /-- The images are the renditions of the picture, set upright. -/
  encoded : List.Forall₂ (fun r image => s.encode r = .ok image)
    (s.renditions (stored.turn o) sizes) images
  stored_le : stored.extent.pixels ≤ limit
  picture_le : (stored.turn o).extent.pixels ≤ limit
  rendition_le : HasPixels stored.extent →
    ∀ r ∈ s.renditions (stored.turn o) sizes, r.extent.pixels ≤ limit
  /-- The pixels of the picture and of its renditions can be counted in a word. -/
  counted : HasPixels stored.extent → stored.extent.Short →
    stored.extent.Counted ∧ (stored.turn o).extent.Counted ∧
      ∀ r ∈ s.renditions (stored.turn o) sizes, r.extent.Counted

/-- What a limit on pixels means for a call for some sizes. -/
structure Budget (s : Studio σ Picture) (limit : ℕ) (sizes : List Size) : Prop where
  /-- The first size without height fails the call, whatever the file is. -/
  no_height : (∃ size ∈ sizes, size.height = 0) → ∃ before size after,
    sizes = before ++ size :: after ∧ (∀ z ∈ before, z.height ≠ 0) ∧ size.height = 0 ∧
      ∀ read path, s.generate limit read path sizes = .error (.invalidValue (.noHeight size))
  /-- Else the first crop that is too large fails it, whatever the file is. -/
  large_crop : (∀ size ∈ sizes, size.height ≠ 0) →
    (∃ size ∈ sizes, size.isSquareCrop = true ∧ limit < size.height.toNat * size.height.toNat) →
    ∃ before size after, sizes = before ++ size :: after ∧
      (∀ z ∈ before, z.isSquareCrop = true → z.height.toNat * z.height.toNat ≤ limit) ∧
      size.isSquareCrop = true ∧ limit < size.height.toNat * size.height.toNat ∧
      ∀ read path, s.generate limit read path sizes =
        .error (.limit (.pixels size.height.toNat size.height.toNat limit))
  /-- The pixels of a crop can be counted in a word. -/
  crop_counted : ∀ size ∈ sizes, (Extent.square size.height.toNat).Counted
  /-- Else a picture that is too large fails it, and what can be decoded of it does not count. -/
  large_picture : (∀ size ∈ sizes, Allowed limit size) → ∀ read path file e,
    read path = .ok file → s.head file = .ok e → limit < e.pixels →
      s.generate limit read path sizes = .error (.limit (.pixels e.width e.height limit))
  /-- A call that is answered keeps to the limit. -/
  answered : ∀ read path images, s.generate limit read path sizes = .ok images →
    ∃ file stored o, read path = .ok file ∧ s.head file = .ok (Picture.extent stored) ∧
      s.decode file = .ok (stored.turn o) ∧ Afforded s limit sizes images stored o

/-- The first of some sizes for which something holds. -/
theorem exists_first {p : Size → Prop} [DecidablePred p] (h : ∃ size ∈ sizes, p size) :
    ∃ before size after, sizes = before ++ size :: after ∧ (∀ z ∈ before, ¬ p z) ∧ p size := by
  have hsome : (sizes.find? fun z => decide (p z)).isSome := by simpa using h
  obtain ⟨size, hfind⟩ := Option.isSome_iff_exists.mp hsome
  obtain ⟨hsize, before, after, hsplit, hbefore⟩ := List.find?_eq_some_iff_append.mp hfind
  refine ⟨before, size, after, hsplit, fun z hz => ?_, of_decide_eq_true hsize⟩
  simpa using hbefore z hz

/-- The renditions of a picture have no more pixels than it has itself, or than a crop may have. -/
theorem pixels_le_of_bounded {whole e : Extent} {size : Size} (h : Bounded whole size e)
    (hwhole : whole.pixels ≤ limit) (hsize : Allowed limit size) : e.pixels ≤ limit := by
  by_cases hcrop : size.isSquareCrop = true
  · rw [h.crop hcrop]
    exact hsize.crop hcrop
  · exact (h.inside_whole (eq_false_of_ne_true hcrop)).pixels_le.trans hwhole

theorem short_of_bounded {whole e : Extent} {size : Size} (h : Bounded whole size e)
    (hwhole : whole.Short) : e.Short := by
  by_cases hcrop : size.isSquareCrop = true
  · rw [h.crop hcrop]
    exact Extent.short_square size.height
  · exact (h.inside_whole (eq_false_of_ne_true hcrop)).short hwhole

theorem exists_bounded_of_mem {stored : Picture} {o : Picture.Orientation} (hs : s.Exact)
    (hu : s.Upright) (hp : HasPixels stored.extent) (hsizes : ∀ size ∈ sizes, Allowed limit size)
    {r : Picture} (hr : r ∈ s.renditions (stored.turn o) sizes) :
    ∃ size, Allowed limit size ∧ Bounded (stored.turn o).extent size r.extent := by
  have hturn : HasPixels (s.extent (stored.turn o)) := by
    rw [hu.extent]
    exact Picture.hasPixels_turn o hp
  have hbounded := forall₂_renditions hs hturn fun size hmem => (hsizes size hmem).height
  rw [hu.extent] at hbounded
  obtain ⟨k, hk, rfl⟩ := List.getElem_of_mem hr
  have hk' : k < sizes.length := hbounded.length_eq.symm ▸ hk
  exact ⟨sizes[k], hsizes _ (List.getElem_mem hk'), hbounded.get hk' hk⟩

theorem exists_afforded_of_generate (hs : s.Exact) (hu : s.Upright)
    (h : s.generate limit read path sizes = .ok images) :
    ∃ file stored o, read path = .ok file ∧ s.head file = .ok (Picture.extent stored) ∧
      s.decode file = .ok (stored.turn o) ∧ Afforded s limit sizes images stored o := by
  obtain ⟨hsizes, file, picture, hread, hopen, hencoded⟩ := generate_eq_ok_iff.mp h
  obtain ⟨e, hhead, hlimit, hdecode⟩ := open?_eq_ok_iff.mp hopen
  obtain ⟨stored, o, hstored, rfl⟩ := hu.decode file picture hdecode
  obtain rfl : e = stored.extent := Except.ok.inj (hhead.symm.trans hstored)
  have hpicture : (stored.turn o).extent.pixels ≤ limit := by
    rw [Picture.pixels_turn]
    exact hlimit
  refine ⟨file, stored, o, hread, hhead, hdecode, {
    encoded := hencoded
    stored_le := hlimit
    picture_le := hpicture
    rendition_le := fun hp r hr => ?_
    counted := fun hp hshort => ⟨hshort.counted, (Picture.short_turn o hshort).counted,
      fun r hr => ?_⟩ }⟩
  · obtain ⟨size, hsize, hbounded⟩ := exists_bounded_of_mem hs hu hp hsizes hr
    exact pixels_le_of_bounded hbounded hpicture hsize
  · obtain ⟨size, -, hbounded⟩ := exists_bounded_of_mem hs hu hp hsizes hr
    exact (short_of_bounded hbounded (Picture.short_turn o hshort)).counted

/-- **The limit on pixels holds for all that is made.**  In every call, the first size without height
is told before anything else, and then the first crop that is too large, wherever it stands and
whatever the file is; after these a picture that is too large, whatever else is in its file.  Of a call
that is answered, by a studio that works sizes out exactly and whose pictures are as large as the heads
of their files tell, the picture keeps to the limit as it is stored and set upright, and so does each
rendition of a picture that has pixels.  And no count overflows. -/
theorem budget_generate (hs : s.Exact) (hu : s.Upright) (limit : ℕ) (sizes : List Size) :
    Budget s limit sizes where
  no_height h := by
    obtain ⟨before, size, after, rfl, hbefore, hsize⟩ := exists_first h
    exact ⟨before, size, after, rfl, hbefore, hsize, fun read path =>
      generate_of_checkSizes (checkSizes_of_no_height hbefore hsize) s read path⟩
  large_crop hheights h := by
    obtain ⟨before, size, after, rfl, hbefore, hcrop, hlarge⟩ := exists_first h
    have hfit : ∀ z ∈ before, z.isSquareCrop = true → z.height.toNat * z.height.toNat ≤ limit :=
      fun z hz hzcrop => Nat.not_lt.mp fun hzlarge => hbefore z hz ⟨hzcrop, hzlarge⟩
    refine ⟨before, size, after, rfl, hfit, hcrop, hlarge, fun read path => ?_⟩
    have hallowed : ∀ z ∈ before, Allowed limit z := fun z hz =>
      ⟨hheights z (List.mem_append_left _ hz), hfit z hz⟩
    exact generate_of_checkSizes (checkSizes_of_large_crop hheights hallowed hcrop hlarge) s read path
  crop_counted size _ := (Extent.short_square size.height).counted
  large_picture hsizes _ _ _ _ hread hhead hlarge :=
    generate_of_large_picture hsizes hread hhead hlarge
  answered _ _ _ h := exists_afforded_of_generate hs hu h

/-- A studio that reads picture files, but makes empty pictures of the right size. -/
def outline : Studio Source Picture where
  head := Source.extent
  decode := Source.decode
  extent := Picture.extent
  crop _ w := ⟨w.edge, w.edge, .empty⟩
  resize _ e := ⟨e.width, e.height, .empty⟩
  encode p := .ok [.ofNat p.width, .ofNat p.height]
  precision := .exact

/-- A picture of 4x3 that lies on its side. -/
def lying : Source := .stored ⟨.jpeg, 4, 3, 6, fun _ _ => default, none⟩

/-- For that picture 12 pixels are enough, also with a crop of 3x3 and with a box that is much larger;
but a crop of 4x4 behind these fails the call. -/
theorem budget_generate_lying :
    outline.generate 12 (fun _ => .ok lying) [] [⟨900, 900⟩, ⟨0, 3⟩, ⟨2, 2⟩]
        = .ok [[3, 4], [3, 3], [2, 2]] ∧
      (∃ picture, lying.decode = .ok picture ∧ picture.extent.pixels ≤ 12 ∧
        ∀ r ∈ outline.renditions picture [⟨900, 900⟩, ⟨0, 3⟩, ⟨2, 2⟩], r.extent.pixels ≤ 12) ∧
      ∀ read path, outline.generate 12 read path [⟨900, 900⟩, ⟨0, 3⟩, ⟨0, 4⟩]
        = .error (.limit (.pixels 4 4 12)) := by
  have hs : outline.Exact := ⟨rfl, fun _ _ => rfl⟩
  have hu : outline.Upright := .of_source rfl rfl rfl
  have hcall : outline.generate 12 (fun _ => .ok lying) [] [⟨900, 900⟩, ⟨0, 3⟩, ⟨2, 2⟩]
      = .ok [[3, 4], [3, 3], [2, 2]] := by rfl
  refine ⟨hcall, ?_, fun read path => ?_⟩
  · obtain ⟨file, stored, o, hread, hhead, hdecode, hafforded⟩ :=
      (budget_generate hs hu 12 [⟨900, 900⟩, ⟨0, 3⟩, ⟨2, 2⟩]).answered _ _ _ hcall
    obtain rfl : lying = file := Except.ok.inj hread
    have hextent : (⟨4, 3⟩ : Extent) = stored.extent := Except.ok.inj hhead
    have hpixels : HasPixels stored.extent := hextent ▸ ⟨by decide, by decide⟩
    exact ⟨stored.turn o, hdecode, hafforded.picture_le, hafforded.rendition_le hpixels⟩
  · obtain ⟨before, size, after, hsplit, -, hcrop, hlarge, herror⟩ :=
      (budget_generate hs hu 12 [⟨900, 900⟩, ⟨0, 3⟩, ⟨0, 4⟩]).large_crop (by decide) (by decide)
    have hmem : size ∈ [(⟨900, 900⟩ : Size), ⟨0, 3⟩, ⟨0, 4⟩] := by
      rw [hsplit]
      exact List.mem_append_right _ List.mem_cons_self
    simp only [List.mem_cons, List.not_mem_nil, or_false] at hmem
    obtain rfl | rfl | rfl := hmem
    · exact absurd hcrop (by decide)
    · exact absurd hlarge (by decide)
    · exact herror read path

end Studio

end Thumbnailer
