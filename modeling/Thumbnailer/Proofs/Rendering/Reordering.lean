/-
A task whose sizes are listed in another order.

Nobody but the caller sees the order, as long as equally wide sizes keep theirs.

* **`Reorders`** — one list is another under a permutation of the positions;
* **`Reorders.map_byWidth`** — the sizes are rendered in the same order, each for its new position;
* **`Provider.reordered_process`** — the provider is asked for the same, and its pictures come back
  under the same permutation.
-/
import Mathlib.Data.List.FinRange
import Thumbnailer.Proofs.Rendering.Order

namespace Thumbnailer

variable {α : Type} {n : Nat} {σ : Equiv.Perm (Fin n)} {as bs : List α} {sizes sizes' : List Size}

/-- The item that `bs` has at a position stands in `as` where `σ` sends the position. -/
structure Reorders (σ : Equiv.Perm (Fin n)) (as bs : List α) : Prop where
  length_old : as.length = n
  length_new : bs.length = n
  getElem? : ∀ i : Fin n, bs[(i : Nat)]? = as[(σ i : Nat)]?

/-- Equally wide sizes of the list come from positions that are ordered as theirs. -/
def KeepsTies (σ : Equiv.Perm (Fin n)) (sizes' : List Size) : Prop :=
  ∀ i j : Fin n, i < j →
    sizes'[(i : Nat)]?.map Size.width = sizes'[(j : Nat)]?.map Size.width → σ i < σ j

instance (σ : Equiv.Perm (Fin n)) (sizes' : List Size) : Decidable (KeepsTies σ sizes') :=
  inferInstanceAs (Decidable (∀ i j : Fin n, i < j →
    sizes'[(i : Nat)]?.map Size.width = sizes'[(j : Nat)]?.map Size.width → σ i < σ j))

/-- Where an item comes from. -/
def origin (σ : Equiv.Perm (Fin n)) (i : Nat) : Nat :=
  if h : i < n then σ ⟨i, h⟩ else i

@[simp]
theorem origin_val (σ : Equiv.Perm (Fin n)) (i : Fin n) : origin σ i = σ i :=
  dif_pos i.isLt

theorem reorders_replicate (σ : Equiv.Perm (Fin n)) (a : α) :
    Reorders σ (List.replicate n a) (List.replicate n a) := by
  refine ⟨List.length_replicate, List.length_replicate, fun i => ?_⟩
  rw [List.getElem?_replicate_of_lt i.isLt, List.getElem?_replicate_of_lt (σ i).isLt]

/-! ### The order in which the sizes are rendered -/

namespace Reorders

theorem perm_zipIdx (h : Reorders σ as bs) :
    (bs.zipIdx.map fun b => (b.1, origin σ b.2)).Perm as.zipIdx := by
  obtain ⟨rfl, hnew, hget⟩ := h
  have hold : as.zipIdx = List.ofFn fun i : Fin as.length => (as[i], (i : Nat)) := by
    refine List.ext_getElem (by rw [List.length_zipIdx, List.length_ofFn]) fun i _ _ => ?_
    rw [List.getElem_zipIdx, List.getElem_ofFn, Nat.zero_add]
    rfl
  have hmoved : (bs.zipIdx.map fun b => (b.1, origin σ b.2))
      = List.ofFn ((fun i : Fin as.length => (as[i], (i : Nat))) ∘ σ) := by
    refine List.ext_getElem (by rw [List.length_map, List.length_zipIdx, List.length_ofFn, hnew])
      fun i hi hi' => ?_
    rw [List.length_map, List.length_zipIdx] at hi
    rw [List.length_ofFn] at hi'
    have hitem := hget ⟨i, hi'⟩
    rw [List.getElem?_eq_getElem hi, List.getElem?_eq_getElem (σ ⟨i, hi'⟩).isLt] at hitem
    rw [List.getElem_map, List.getElem_zipIdx, List.getElem_ofFn, Nat.zero_add, origin, dif_pos hi',
      Option.some.inj hitem]
    rfl
  rw [hold, hmoved]
  exact σ.ofFn_comp_perm _

/-- The sizes are rendered in one order for both lists; only their positions differ. -/
theorem map_byWidth (h : Reorders σ sizes sizes') (hties : KeepsTies σ sizes') :
    ((byWidth sizes').map fun a => (a.1, origin σ a.2)) = byWidth sizes := by
  refine eq_byWidth (((byWidth_perm sizes').map _).trans h.perm_zipIdx) ?_
  refine List.pairwise_map.mpr ((pairwise_byWidth sizes').imp_of_mem ?_)
  intro a b ha hb hab
  obtain hwider | ⟨hwidth, hbefore⟩ := hab
  · exact .inl hwider
  · -- the permutation keeps the order of the two
    rw [mem_byWidth] at ha hb
    have hbn : b.2 < n := h.length_new ▸ (List.getElem?_eq_some_iff.mp hb).1
    have han : a.2 < n := Nat.lt_trans hbefore hbn
    have hkept : σ ⟨a.2, han⟩ < σ ⟨b.2, hbn⟩ := by
      refine hties _ _ hbefore ?_
      rw [ha, hb, Option.map_some, Option.map_some, hwidth]
    refine .inr ⟨hwidth, ?_⟩
    rw [origin, origin, dif_pos han, dif_pos hbn]
    exact hkept

theorem map_fst_byWidth (h : Reorders σ sizes sizes') (hties : KeepsTies σ sizes') :
    (byWidth sizes').map Prod.fst = (byWidth sizes).map Prod.fst := by
  rw [← h.map_byWidth hties, List.map_map]
  rfl

/-- Pictures that are made in one order for both lists are put back as the sizes stand in them. -/
theorem scatter {images : List Image} (h : Reorders σ sizes sizes') (hties : KeepsTies σ sizes')
    (hcount : images.length = n) :
    Reorders σ (scatter n (widestFirst sizes) images) (scatter n (widestFirst sizes') images) := by
  have hrow := Provider.map_getElem?_scatter_widestFirst (hcount.trans h.length_old.symm)
  have hrow' := Provider.map_getElem?_scatter_widestFirst (hcount.trans h.length_new.symm)
  rw [h.length_old, ← h.map_byWidth hties, List.map_map] at hrow
  rw [h.length_new] at hrow'
  refine ⟨length_scatter, length_scatter, fun i => ?_⟩
  have hi : (i : Nat) < sizes'.length := h.length_new ▸ i.isLt
  have hmem : (sizes'[i], (i : Nat)) ∈ byWidth sizes' :=
    mem_byWidth.mpr (List.getElem?_eq_getElem hi)
  have hplace := List.map_inj_left.mp (hrow'.trans hrow.symm) _ hmem
  rwa [Function.comp_apply, origin_val] at hplace

end Reorders

/-! ### Whole tasks -/

/-- What becomes of a task before and after its sizes are reordered. -/
structure Alike (σ : Equiv.Perm (Fin n)) (before after : Rendering) : Prop where
  asked : after.asked = before.asked
  notices : after.notices = before.notices
  panicked : ∀ cause, before.result = .error cause → after.result = .error cause
  answered : ∀ outcome, before.result = .ok outcome →
    ∃ outcome', after.result = .ok outcome' ∧ outcome'.status = outcome.status ∧
      Reorders σ outcome.images outcome'.images

namespace Alike

variable {asked : List (List Size)} {notices : List Notice}

theorem of_ok {outcome outcome' : Outcome} (hstatus : outcome'.status = outcome.status)
    (himages : Reorders σ outcome.images outcome'.images) :
    Alike σ ⟨.ok outcome, asked, notices⟩ ⟨.ok outcome', asked, notices⟩ where
  asked := rfl
  notices := rfl
  panicked _ h := nomatch h
  answered o h := by
    obtain rfl : outcome = o := Except.ok.inj h
    exact ⟨outcome', rfl, hstatus, himages⟩

theorem of_failure (σ : Equiv.Perm (Fin n)) :
    Alike σ ⟨.ok (.failure n), asked, notices⟩ ⟨.ok (.failure n), asked, notices⟩ :=
  of_ok rfl (reorders_replicate σ [])

theorem of_error (σ : Equiv.Perm (Fin n)) (cause : Panic) :
    Alike σ ⟨.error cause, asked, notices⟩ ⟨.error cause, asked, notices⟩ where
  asked := rfl
  notices := rfl
  panicked _ h := h
  answered _ h := nomatch h

end Alike

namespace Provider

/-- **Reordering a request only reorders its answer.**  Let the sizes of a task be reordered such
that equally wide ones keep their order.  Then the provider, whatever it is, is asked for the same
sizes in the same order, the task has the same status, or the provider breaks down in the same way,
and the pictures are those of the first task under the same permutation. -/
theorem reordered_process (p : Provider) (path : Path) (σ : Equiv.Perm (Fin n))
    (h : Reorders σ sizes sizes') (hties : KeepsTies σ sizes') :
    Alike σ (p.process ⟨path, sizes⟩) (p.process ⟨path, sizes'⟩) := by
  have hold := h.length_old
  have hnew := h.length_new
  by_cases hsizes : sizes = []
  · obtain rfl : sizes' = [] := by
      rw [hsizes, List.length_nil] at hold
      exact List.length_eq_zero_iff.mp (hnew.trans hold.symm)
    obtain rfl := hsizes
    obtain rfl : 0 = n := hnew
    exact .of_failure σ
  · have hsizes' : sizes' ≠ [] := by
      rintro rfl
      exact hsizes (List.length_eq_zero_iff.mp (hold.trans hnew.symm))
    rw [process_of_ne_nil hsizes, process_of_ne_nil hsizes', h.map_fst_byWidth hties]
    cases p.render path ((byWidth sizes).map Prod.fst) with
    | panicked cause => exact .of_error σ cause
    | failed cause =>
      simp only [judge, hold, hnew]
      exact .of_failure σ
    | images images =>
      simp only [judge, length_widestFirst, hold, hnew]
      by_cases hcount : images.length = n
      · rw [if_pos hcount, if_pos hcount]
        exact .of_ok rfl (h.scatter hties hcount)
      · rw [if_neg hcount, if_neg hcount]
        exact .of_failure σ

/-- Two pairs of equally wide sizes, and pictures that tell how many were made before them. -/
theorem reordered_process_five :
    ∃ before after : Rendering,
      Provider.process ⟨fun _ sizes => .images (sizes.zipIdx.map fun a =>
          [.ofNat a.1.height.toNat, .ofNat a.2]), none, none⟩
        ⟨[], [⟨10, 1⟩, ⟨30, 2⟩, ⟨20, 3⟩, ⟨10, 4⟩, ⟨30, 5⟩]⟩ = before ∧
      Provider.process ⟨fun _ sizes => .images (sizes.zipIdx.map fun a =>
          [.ofNat a.1.height.toNat, .ofNat a.2]), none, none⟩
        ⟨[], [⟨30, 2⟩, ⟨10, 1⟩, ⟨30, 5⟩, ⟨10, 4⟩, ⟨20, 3⟩]⟩ = after ∧
      before.result = .ok (.success [[1, 3], [2, 0], [3, 2], [4, 4], [5, 1]]) ∧
      after.asked = [[⟨30, 2⟩, ⟨30, 5⟩, ⟨20, 3⟩, ⟨10, 1⟩, ⟨10, 4⟩]] ∧
      Alike ((Equiv.swap 0 1).trans (Equiv.swap 2 4) : Equiv.Perm (Fin 5)) before after := by
  have horder : byWidth [⟨10, 1⟩, ⟨30, 2⟩, ⟨20, 3⟩, ⟨10, 4⟩, ⟨30, 5⟩]
      = [((⟨30, 2⟩ : Size), 1), (⟨30, 5⟩, 4), (⟨20, 3⟩, 2), (⟨10, 1⟩, 0), (⟨10, 4⟩, 3)] :=
    (eq_byWidth (by decide) (by decide)).symm
  have hreorders : Reorders ((Equiv.swap 0 1).trans (Equiv.swap 2 4) : Equiv.Perm (Fin 5))
      ([⟨10, 1⟩, ⟨30, 2⟩, ⟨20, 3⟩, ⟨10, 4⟩, ⟨30, 5⟩] : List Size)
      [⟨30, 2⟩, ⟨10, 1⟩, ⟨30, 5⟩, ⟨10, 4⟩, ⟨20, 3⟩] := ⟨rfl, rfl, by decide⟩
  have halike := reordered_process
    ⟨fun _ sizes => .images (sizes.zipIdx.map fun a => [.ofNat a.1.height.toNat, .ofNat a.2]),
      none, none⟩ [] _ hreorders (by decide)
  refine ⟨_, _, rfl, rfl, ?_, ?_, halike⟩
  · rw [process_of_ne_nil (List.cons_ne_nil _ _), widestFirst, ← byWidth, horder]
    rfl
  · rw [halike.asked, process_of_ne_nil (List.cons_ne_nil _ _), horder]
    rfl

end Provider

end Thumbnailer
