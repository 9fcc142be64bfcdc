/-
Every picture in the place of its size.

* **`byWidth`** — the sizes of a task with their positions, in the order in which they are rendered;
* **`filter_byWidth`**, **`pairwise_byWidth`** — wider sizes come first, equally wide ones as asked;
* **`map_getElem?_scatter`** — each picture is put back at the position its size came from;
* **`Provider.exists_order_process`** — the provider is asked once, in this order, and its pictures
  come back in the order of the request.
-/
import Mathlib.Data.List.Basic
import Thumbnailer.Rendering

namespace Thumbnailer

variable {sizes : List Size}

/-! ### The order in which sizes are rendered -/

/-- The sizes of a task with their positions, in the order in which they are rendered. -/
def byWidth (sizes : List Size) : List (Size × Nat) :=
  sizes.zipIdx.mergeSort fun a b => b.1.width ≤ a.1.width

/-- A size that is rendered before another: it is wider, or as wide and asked for before. -/
def Precedes (a b : Size × Nat) : Prop :=
  b.1.width < a.1.width ∨ a.1.width = b.1.width ∧ a.2 < b.2

instance : DecidableRel Precedes := fun a b =>
  inferInstanceAs (Decidable (b.1.width < a.1.width ∨ a.1.width = b.1.width ∧ a.2 < b.2))

theorem Precedes.asymm {a b : Size × Nat} (h : Precedes a b) : ¬ Precedes b a := by
  rintro (hba | ⟨hwidth, hba⟩)
  · obtain hab | ⟨hwidth, -⟩ := h
    · exact UInt32.lt_asymm hab hba
    · exact UInt32.lt_irrefl _ (hwidth ▸ hba)
  · obtain hab | ⟨-, hab⟩ := h
    · exact UInt32.lt_irrefl _ (hwidth ▸ hab)
    · omega

theorem byWidth_perm (sizes : List Size) : (byWidth sizes).Perm sizes.zipIdx :=
  List.mergeSort_perm _ _

theorem mem_byWidth {a : Size × Nat} : a ∈ byWidth sizes ↔ sizes[a.2]? = some a.1 := by
  rw [(byWidth_perm sizes).mem_iff, List.mem_zipIdx_iff_getElem?]

theorem length_byWidth (sizes : List Size) : (byWidth sizes).length = sizes.length := by
  rw [(byWidth_perm sizes).length_eq, List.length_zipIdx]

/-- The comparison of widths is a preorder, and any two widths can be compared. -/
theorem width_trans (a b c : Size × Nat) :
    decide (b.1.width ≤ a.1.width) = true → decide (c.1.width ≤ b.1.width) = true →
      decide (c.1.width ≤ a.1.width) = true := by
  simp only [decide_eq_true_eq]
  exact fun hab hbc => UInt32.le_trans hbc hab

theorem width_total (a b : Size × Nat) :
    (decide (b.1.width ≤ a.1.width) || decide (a.1.width ≤ b.1.width)) = true := by
  simp only [Bool.or_eq_true, decide_eq_true_eq]
  exact UInt32.le_total _ _

theorem byWidth_descending (sizes : List Size) :
    (byWidth sizes).Pairwise fun a b => b.1.width ≤ a.1.width :=
  (List.pairwise_mergeSort width_trans width_total sizes.zipIdx).imp of_decide_eq_true

/-- Sizes of one width are rendered in the order in which they were asked for. -/
theorem filter_byWidth (sizes : List Size) (width : UInt32) :
    (byWidth sizes).filter (·.1.width == width) = sizes.zipIdx.filter (·.1.width == width) := by
  have hequal : (sizes.zipIdx.filter (·.1.width == width)).Pairwise
      fun a b => decide (b.1.width ≤ a.1.width) = true := by
    refine List.pairwise_filter.mpr (List.pairwise_of_forall fun a b => ?_)
    simp only [beq_iff_eq, decide_eq_true_eq]
    rintro rfl hb
    exact hb ▸ UInt32.le_refl _
  -- the sort keeps a row that is sorted already
  have hsub := (List.sublist_mergeSort width_trans width_total hequal List.filter_sublist).filter
    (·.1.width == width)
  simp only [List.filter_filter, Bool.and_self] at hsub
  exact (hsub.eq_of_length ((byWidth_perm sizes).filter _).length_eq.symm).symm

theorem pairwise_byWidth (sizes : List Size) : (byWidth sizes).Pairwise Precedes := by
  have hasked : sizes.zipIdx.Pairwise fun a b => a.2 < b.2 := by
    rw [← List.pairwise_map (f := Prod.snd), List.zipIdx_map_snd]
    exact List.pairwise_lt_range'
  rw [List.pairwise_iff_forall_sublist]
  intro a b hab
  have hle := List.pairwise_iff_forall_sublist.mp (byWidth_descending sizes) hab
  obtain hlt | heq := UInt32.lt_or_eq_of_le hle
  · exact .inl hlt
  · -- among sizes of one width the order is the one of the request
    have hfilter := hab.filter (·.1.width == a.1.width)
    rw [filter_byWidth] at hfilter
    simp only [heq, List.filter_cons, beq_self_eq_true, if_true, List.filter_nil] at hfilter
    exact .inr ⟨heq.symm, List.pairwise_iff_forall_sublist.mp hasked
      (hfilter.trans List.filter_sublist)⟩

/-- There is only one such order. -/
theorem eq_byWidth {order : List (Size × Nat)} (hperm : order.Perm sizes.zipIdx)
    (horder : order.Pairwise Precedes) : order = byWidth sizes :=
  List.Perm.eq_of_pairwise (fun _ _ _ _ hab hba => absurd hba hab.asymm) horder
    (pairwise_byWidth sizes) (hperm.trans (byWidth_perm sizes).symm)

theorem nodup_widestFirst (sizes : List Size) : (widestFirst sizes).Nodup := by
  have hperm := (byWidth_perm sizes).map Prod.snd
  rw [List.zipIdx_map_snd] at hperm
  exact hperm.nodup_iff.mpr List.nodup_range'

theorem pick_widestFirst (sizes : List Size) :
    pick sizes (widestFirst sizes) = (byWidth sizes).map Prod.fst := by
  rw [pick, show widestFirst sizes = (byWidth sizes).map Prod.snd from rfl, List.filterMap_map]
  exact List.filterMap_eq_map_iff_forall_eq_some.mpr fun a ha => mem_byWidth.mp ha

/-! ### Pictures put back in place -/

section Scatter

variable {α : Type} {updates : List (Nat × α)} {row : Array α} {i : Nat}

theorem size_foldl_set (updates : List (Nat × α)) (row : Array α) :
    (updates.foldl (fun row (i, a) => row.setIfInBounds i a) row).size = row.size := by
  induction updates generalizing row with
  | nil => rfl
  | cons u updates ih => rw [List.foldl_cons, ih, Array.size_setIfInBounds]

theorem getElem?_foldl_set_of_not_mem (h : i ∉ updates.map Prod.fst) :
    (updates.foldl (fun row (i, a) => row.setIfInBounds i a) row)[i]? = row[i]? := by
  induction updates generalizing row with
  | nil => rfl
  | cons u updates ih =>
    rw [List.map_cons, List.mem_cons, not_or] at h
    rw [List.foldl_cons, ih h.2, Array.getElem?_setIfInBounds_ne (Ne.symm h.1)]

/-- What is put at a position that is set once stays there. -/
theorem getElem?_foldl_set_of_mem {a : α} (hnodup : (updates.map Prod.fst).Nodup)
    (hmem : (i, a) ∈ updates) (hi : i < row.size) :
    (updates.foldl (fun row (i, a) => row.setIfInBounds i a) row)[i]? = some a := by
  induction updates generalizing row with
  | nil => cases hmem
  | cons u updates ih =>
    rw [List.map_cons, List.nodup_cons] at hnodup
    rw [List.foldl_cons]
    obtain rfl | hlater := List.mem_cons.mp hmem
    · rw [getElem?_foldl_set_of_not_mem hnodup.1, Array.getElem?_setIfInBounds_self, if_pos hi]
    · exact ih hnodup.2 hlater (by rw [Array.size_setIfInBounds]; exact hi)

end Scatter

variable {positions : List Nat} {images : List Image} {count : Nat}

theorem length_scatter : (scatter count positions images).length = count := by
  rw [scatter, Array.length_toList, size_foldl_set, Array.size_replicate]

/-- Each picture stands at its position. -/
theorem map_getElem?_scatter (hnodup : positions.Nodup) (hbound : ∀ i ∈ positions, i < count)
    (hlength : images.length = positions.length) :
    positions.map ((scatter count positions images)[·]?) = images.map some := by
  have hfst : (positions.zip images).map Prod.fst = positions :=
    List.map_fst_zip (Nat.le_of_eq hlength.symm)
  have hsnd : (positions.zip images).map Prod.snd = images :=
    List.map_snd_zip (Nat.le_of_eq hlength)
  conv =>
    lhs
    rw [← hfst]
  conv =>
    rhs
    rw [← hsnd]
  rw [List.map_map, List.map_map]
  refine List.map_congr_left fun u hu => ?_
  have hi : u.1 < count := hbound _ (hfst ▸ List.mem_map_of_mem hu)
  rw [Function.comp_apply, Function.comp_apply, scatter, hfst, Array.getElem?_toList]
  exact getElem?_foldl_set_of_mem (hfst.symm ▸ hnodup) hu (by rw [Array.size_replicate]; exact hi)

/-! ### Whole tasks -/

namespace Provider

variable {p : Provider} {task : Task}

/-- What becomes of a task that asks for something. -/
theorem process_of_ne_nil (h : task.sizes ≠ []) :
    p.process task =
      ⟨(judge task (widestFirst task.sizes)
          (p.render task.path ((byWidth task.sizes).map Prod.fst))).1,
        [(byWidth task.sizes).map Prod.fst],
        (judge task (widestFirst task.sizes)
          (p.render task.path ((byWidth task.sizes).map Prod.fst))).2⟩ := by
  have hne : ¬ task.sizes.isEmpty = true := by rwa [List.isEmpty_iff]
  simp only [process, if_neg hne, pick_widestFirst]

theorem length_widestFirst (sizes : List Size) : (widestFirst sizes).length = sizes.length := by
  rw [widestFirst, List.length_map, ← byWidth, length_byWidth]

/-- Each picture is put where its size stands in the task. -/
theorem map_getElem?_scatter_widestFirst {images : List Image}
    (hlength : images.length = sizes.length) :
    (byWidth sizes).map (fun a => (scatter sizes.length (widestFirst sizes) images)[a.2]?)
      = images.map some := by
  have hcount : images.length = (widestFirst sizes).length := by
    rw [hlength, length_widestFirst]
  rw [← map_getElem?_scatter (nodup_widestFirst _) _ hcount, widestFirst, List.map_map]
  · rfl
  · intro i hi
    obtain ⟨a, ha, rfl⟩ := List.mem_map.mp hi
    exact (List.getElem?_eq_some_iff.mp (mem_byWidth.mp ha)).1

/-- A provider that makes as many pictures as it is asked for has each put in its place. -/
theorem exists_success_of_images {images : List Image} (h : task.sizes ≠ [])
    (himages : p.render task.path ((byWidth task.sizes).map Prod.fst) = .images images)
    (hlength : images.length = task.sizes.length) :
    ∃ row, (p.process task).result = .ok (.success row) ∧ row.length = task.sizes.length ∧
      (byWidth task.sizes).map (fun a => row[a.2]?) = images.map some := by
  have hcount : images.length = (widestFirst task.sizes).length := by
    rw [hlength, length_widestFirst]
  refine ⟨scatter task.sizes.length (widestFirst task.sizes) images, ?_, length_scatter,
    map_getElem?_scatter_widestFirst hlength⟩
  rw [process_of_ne_nil h, himages, judge, if_pos hcount]

/-- A row is told by what stands at the position of each size. -/
theorem eq_map_of_getElem? {f : Size → Image} {row : List Image}
    (hlength : row.length = sizes.length)
    (hrow : (byWidth sizes).map (fun a => row[a.2]?) = (byWidth sizes).map fun a => some (f a.1)) :
    row = sizes.map f := by
  refine List.ext_getElem? fun i => ?_
  rw [List.getElem?_map]
  cases hi : sizes[i]? with
  | none =>
    rw [List.getElem?_eq_none_iff] at hi
    rw [List.getElem?_eq_none (by omega)]
    rfl
  | some size =>
    have hmem : (size, i) ∈ byWidth sizes := mem_byWidth.mpr hi
    exact List.map_inj_left.mp hrow _ hmem

/-- **The widest size is rendered first, and each picture comes back in its place.**  A task with
sizes asks the provider once, for all of its sizes from the widest to the narrowest, equally wide
ones in the order of the request.  If the provider makes as many pictures as there are sizes, the
task succeeds, and at the position of the size that comes `k`-th in that order stands the
`k`-th picture; each position is one size's.  So a provider that tells each picture from its size
alone has the pictures come back in the order of the request. -/
theorem exists_order_process (p : Provider) (task : Task) (h : task.sizes ≠ []) :
    ∃ order : List (Size × Nat),
      order.Perm task.sizes.zipIdx ∧ order.Pairwise Precedes ∧
      (p.process task).asked = [order.map Prod.fst] ∧
      (∀ images, p.render task.path (order.map Prod.fst) = .images images →
        images.length = task.sizes.length →
          ∃ row, (p.process task).result = .ok (.success row) ∧
            row.length = task.sizes.length ∧
            order.map (fun a => row[a.2]?) = images.map some) ∧
      ∀ f : Size → Image,
        p.render task.path (order.map Prod.fst) = .images ((order.map Prod.fst).map f) →
          (p.process task).result = .ok (.success (task.sizes.map f)) := by
  refine ⟨byWidth task.sizes, byWidth_perm _, pairwise_byWidth _, ?_, ?_, ?_⟩
  · rw [process_of_ne_nil h]
  · intro images himages hlength
    exact exists_success_of_images h himages hlength
  · intro f hf
    obtain ⟨row, hresult, hlength, hrow⟩ := exists_success_of_images h hf
      (by rw [List.length_map, List.length_map, length_byWidth])
    rw [List.map_map, List.map_map] at hrow
    rw [hresult, eq_map_of_getElem? hlength hrow]

/-- Sizes whose order is not its own inverse, two pairs of them equally wide. -/
theorem exists_order_process_five :
    ∃ r : Rendering,
      Provider.process ⟨fun _ sizes => .images (sizes.map fun s => [.ofNat s.height.toNat]), none,
        none⟩ ⟨[], [⟨10, 1⟩, ⟨30, 2⟩, ⟨20, 3⟩, ⟨10, 4⟩, ⟨30, 5⟩]⟩ = r ∧
      r.asked = [[⟨30, 2⟩, ⟨30, 5⟩, ⟨20, 3⟩, ⟨10, 1⟩, ⟨10, 4⟩]] ∧
      r.result = .ok (.success [[1], [2], [3], [4], [5]]) := by
  have horder : [((⟨30, 2⟩ : Size), 1), (⟨30, 5⟩, 4), (⟨20, 3⟩, 2), (⟨10, 1⟩, 0), (⟨10, 4⟩, 3)]
      = byWidth [⟨10, 1⟩, ⟨30, 2⟩, ⟨20, 3⟩, ⟨10, 4⟩, ⟨30, 5⟩] :=
    eq_byWidth (by decide) (by decide)
  obtain ⟨order, hperm, hprecedes, hasked, -, hsizes⟩ := exists_order_process
    ⟨fun _ sizes => .images (sizes.map fun s => [.ofNat s.height.toNat]), none, none⟩
    ⟨[], [⟨10, 1⟩, ⟨30, 2⟩, ⟨20, 3⟩, ⟨10, 4⟩, ⟨30, 5⟩]⟩ (List.cons_ne_nil _ _)
  refine ⟨_, rfl, ?_, hsizes (fun s => [.ofNat s.height.toNat]) rfl⟩
  rw [hasked, eq_byWidth hperm hprecedes, ← horder]
  rfl

end Provider

end Thumbnailer
