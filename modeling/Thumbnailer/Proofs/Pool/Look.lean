/-
What one look of the monitor does, and where a round is between two looks.

The list of workers changes under the round: whoever left is taken off, and the last worker moves to
the place that is looked at next.  The workers looked at so far, followed by those from the position
on, are nevertheless those of the beginning, in some order:

* **`lookAt_eq`** — a look leaves of a worker what `Worker.tended` says, and goes on behind that;
* **`activityOf_tended`**, **`count_restarted`** — what is left of some workers, and how often a worker
  is replaced, if each of them is looked at once;
* **`Halfway`** — what holds between two looks; **`Halfway.look`** and **`Halfway.meanwhile`** — a look
  keeps it, and so does whatever happens until the next.
-/
import Thumbnailer.Proofs.Pool.Replacement
import Mathlib.Data.List.Forall2

namespace Thumbnailer.Pool

variable {τ : Type}

/-! ### One look -/

/-- What a look leaves of what a worker does: nothing if it left, and a fresh worker if it broke down. -/
def Activity.tended : Activity τ → Option (Activity τ)
  | gone => none
  | panicked _ => some idle
  | a => some a

namespace Worker

/-- What a look leaves of a worker. -/
def tended (w : Worker τ) : Option (Worker τ) := w.activity.tended.map fun a => ⟨w.id, a⟩

/-- What the operator is told about a worker. -/
def told (w : Worker τ) : List Notice :=
  match w.activity with
  | .panicked cause => [.workerPanicked w.id cause, .workerRestarted w.id]
  | _ => []

end Worker

section
variable {ws : List (Worker τ)} {i : Nat}

theorem lookAt_eq (hi : i < ws.length) :
    lookAt ws i = match ws[i].tended with
      | none => (swapRemove ws i, i, ws[i].told)
      | some v => (ws.set i v, i + 1, ws[i].told) := by
  have hsame : ws.set i ws[i] = ws := List.set_getElem_self hi
  simp only [lookAt, List.getElem?_eq_getElem hi]
  rcases hw : ws[i] with ⟨id, a⟩
  rw [hw] at hsame
  cases a with
  | gone => rfl
  | panicked cause => rfl
  | idle => simp [Worker.tended, Worker.told, Activity.tended, hsame]
  | running task => simp [Worker.tended, Worker.told, Activity.tended, hsame]

theorem take_swapRemove {α : Type} {l : List α} (hi : i < l.length) :
    (swapRemove l i).take i = l.take i := by
  have hne : l ≠ [] := List.ne_nil_of_length_pos (by omega)
  rw [swapRemove, List.getLast?_eq_some_getLast hne]
  show (l.set i _).dropLast.take i = l.take i
  rw [List.dropLast_eq_take, List.take_take, List.length_set, Nat.min_eq_left (by omega),
    List.take_set_of_le (Nat.le_refl i)]

/-- The last one moves to the front of those that are still due. -/
theorem drop_swapRemove_perm {α : Type} {l : List α} (hi : i < l.length) :
    ((swapRemove l i).drop i).Perm (l.drop (i + 1)) := by
  have hperm : (l.take i ++ l[i] :: l.drop (i + 1)).Perm
      (l[i] :: (l.take i ++ (swapRemove l i).drop i)) := by
    rw [List.getElem_cons_drop, List.take_append_drop, ← take_swapRemove hi,
      List.take_append_drop]
    exact perm_swapRemove hi
  have hrest := (List.perm_middle.symm.trans hperm).cons_inv
  exact ((List.perm_append_left_iff _).mp hrest).symm

theorem position_lookAt (hi : i < ws.length) :
    (lookAt ws i).2.1 = i + ws[i].tended.toList.length := by
  rw [lookAt_eq hi]
  cases ws[i].tended <;> rfl

theorem told_lookAt (hi : i < ws.length) : (lookAt ws i).2.2 = ws[i].told := by
  rw [lookAt_eq hi]
  cases ws[i].tended <;> rfl

theorem take_lookAt (hi : i < ws.length) :
    (lookAt ws i).1.take (lookAt ws i).2.1 = ws.take i ++ ws[i].tended.toList := by
  rw [lookAt_eq hi]
  cases ws[i].tended with
  | none =>
    show (swapRemove ws i).take i = ws.take i ++ []
    rw [take_swapRemove hi, List.append_nil]
  | some v =>
    show (ws.set i v).take (i + 1) = ws.take i ++ [v]
    rw [List.take_succ_eq_append_getElem (by simpa using hi), List.getElem_set_self,
      List.take_set_of_le (Nat.le_refl i)]

theorem drop_lookAt_perm (hi : i < ws.length) :
    ((lookAt ws i).1.drop (lookAt ws i).2.1).Perm (ws.drop (i + 1)) := by
  rw [lookAt_eq hi]
  cases ws[i].tended with
  | none => exact drop_swapRemove_perm hi
  | some v =>
    show ((ws.set i v).drop (i + 1)).Perm (ws.drop (i + 1))
    rw [List.drop_set_of_lt (Nat.lt_succ_self i)]

end

/-! ### What is left of some workers -/

section
variable {ws seen : List (Worker τ)}

theorem tended_eq_some_iff {w : Worker τ} {id : Nat} {b : Activity τ} :
    w.tended = some ⟨id, b⟩ ↔ w.id = id ∧ w.activity.tended = some b := by
  rw [Worker.tended, Option.map_eq_some_iff]
  constructor
  · rintro ⟨a, ha, hw⟩
    cases hw
    exact ⟨rfl, ha⟩
  · rintro ⟨rfl, ha⟩
    exact ⟨b, ha, rfl⟩

theorem mem_tended {id : Nat} {b : Activity τ} :
    ⟨id, b⟩ ∈ ws.filterMap Worker.tended ↔ ∃ a, ⟨id, a⟩ ∈ ws ∧ a.tended = some b := by
  simp only [List.mem_filterMap, tended_eq_some_iff]
  constructor
  · rintro ⟨w, hw, rfl, ha⟩
    exact ⟨w.activity, hw, ha⟩
  · rintro ⟨a, hw, ha⟩
    exact ⟨_, hw, rfl, ha⟩

theorem Activity.isLive_of_tended {a b : Activity τ} (h : a.tended = some b) : b.isLive = true := by
  cases a with
  | gone => cases h
  | idle =>
    cases h
    rfl
  | running task =>
    cases h
    rfl
  | panicked cause =>
    cases h
    rfl

theorem ids_tended_sublist (ws : List (Worker τ)) :
    ((ws.filterMap Worker.tended).map (·.id)).Sublist (ws.map (·.id)) := by
  induction ws with
  | nil => simp
  | cons w ws ih =>
    rcases ht : w.tended with _ | ⟨id, b⟩
    · rw [List.filterMap_cons_none ht]
      exact ih.cons _
    · obtain ⟨rfl, -⟩ := tended_eq_some_iff.mp ht
      rw [List.filterMap_cons_some ht]
      exact ih.cons_cons _

theorem Distinct.tended (hd : Distinct ws) : Distinct (ws.filterMap Worker.tended) :=
  hd.sublist (ids_tended_sublist ws)

theorem Distinct.perm (hd : Distinct ws) (h : seen.Perm ws) : Distinct seen :=
  (h.map _).nodup_iff.mpr hd

theorem activityOf_tended (hd : Distinct ws) (id : Nat) :
    activityOf (ws.filterMap Worker.tended) id = (activityOf ws id).bind Activity.tended := by
  refine Option.ext fun b => ?_
  rw [activityOf_eq_some_iff hd.tended, mem_tended, Option.bind_eq_some_iff]
  simp only [activityOf_eq_some_iff hd]

theorem count_restarted_eq_zero {id : Nat} (h : id ∉ ws.map (·.id)) :
    (ws.flatMap Worker.told).count (.workerRestarted id) = 0 := by
  rw [List.count_eq_zero, List.mem_flatMap]
  rintro ⟨w, hw, hid⟩
  rw [Worker.told] at hid
  split at hid
  · have hw' : id = w.id := by simpa using hid
    exact h (hw' ▸ List.mem_map_of_mem hw)
  · cases hid

/-- A worker is replaced once if it broke down, and never if it did not. -/
theorem count_restarted (hd : Distinct ws) (id : Nat) :
    (ws.flatMap Worker.told).count (.workerRestarted id)
      = if (activityOf ws id).any (·.isBroken) then 1 else 0 := by
  induction ws with
  | nil => rfl
  | cons w ws ih =>
    have hw : w.id ∉ ws.map (·.id) ∧ Distinct ws := List.nodup_cons.mp hd
    rw [List.flatMap_cons, List.count_append]
    by_cases hid : w.id = id
    · subst hid
      rw [count_restarted_eq_zero hw.1, activityOf, List.find?_cons_of_pos (by simp)]
      cases ha : w.activity <;> simp [Worker.told, ha, Activity.isBroken]
    · have hnone : w.told.count (.workerRestarted id) = 0 := by
        have hne : id ∉ [w].map (·.id) := by simpa using Ne.symm hid
        simpa using count_restarted_eq_zero hne
      have hfind : activityOf (w :: ws) id = activityOf ws id := by
        rw [activityOf, List.find?_cons_of_neg (by simpa using hid), activityOf]
      rw [hnone, ih hw.2, hfind, Nat.zero_add]

end

/-! ### Between two looks -/

/-- Between two looks of a round over `ws`: the monitor has looked at the workers in `seen`, as they
were then, and looks at position `i` of `now` next.  `R` says what may become of a worker without the
monitor. -/
structure Halfway (R : Worker τ → Worker τ → Prop) (ws seen now : List (Worker τ)) (i : Nat) :
    Prop where
  within : i ≤ now.length
  /-- Before the position stands what the looks have left. -/
  behind : List.Forall₂ R (seen.filterMap Worker.tended) (now.take i)
  /-- The workers seen and those still due are those of the beginning, rearranged. -/
  once : ∃ grown, List.Forall₂ R ws grown ∧ grown.Perm (seen ++ now.drop i)

section
variable {R : Worker τ → Worker τ → Prop} {ws seen now later : List (Worker τ)} {i : Nat}

theorem forall₂_trans [IsTrans (Worker τ) R] {a b c : List (Worker τ)}
    (h : List.Forall₂ R a b) (h' : List.Forall₂ R b c) : List.Forall₂ R a c := by
  induction h generalizing c with
  | nil => exact h'
  | cons hab _ ih =>
    obtain _ | ⟨hbc, hrest⟩ := h'
    exact .cons (IsTrans.trans _ _ _ hab hbc) (ih hrest)

theorem Halfway.length (h : Halfway R ws seen now i) :
    seen.length + (now.length - i) = ws.length := by
  obtain ⟨grown, hws, hperm⟩ := h.once
  rw [hws.length_eq, hperm.length_eq, List.length_append, List.length_drop]

theorem halfway_begin [Std.Refl R] (ws : List (Worker τ)) : Halfway R ws [] ws 0 where
  within := Nat.zero_le _
  behind := .nil
  once := ⟨ws, List.forall₂_refl ws, .rfl⟩

/-- While nobody looks, every worker stands where it stood. -/
theorem Halfway.meanwhile [Std.Refl R] [IsTrans (Worker τ) R] (h : Halfway R ws seen now i)
    (hl : List.Forall₂ R now later) : Halfway R ws seen later i where
  within := hl.length_eq ▸ h.within
  behind := forall₂_trans h.behind (List.forall₂_take i hl)
  once := by
    obtain ⟨grown, hws, hperm⟩ := h.once
    have hdue : List.Forall₂ R (seen ++ now.drop i) (seen ++ later.drop i) :=
      List.rel_append (List.forall₂_refl seen) (List.forall₂_drop i hl)
    obtain ⟨grown', hgrown, hperm'⟩ := List.perm_comp_forall₂ hperm hdue
    exact ⟨grown', forall₂_trans hws hgrown, hperm'⟩

/-- A look moves one worker from those that are due to those that were seen. -/
theorem Halfway.look [Std.Refl R] (h : Halfway R ws seen now i) (hi : i < now.length) :
    Halfway R ws (seen ++ [now[i]]) (lookAt now i).1 (lookAt now i).2.1 where
  within := by
    have htake := congrArg List.length (take_lookAt hi)
    rw [List.length_take, List.length_append, List.length_take,
      Nat.min_eq_left (Nat.le_of_lt hi), ← position_lookAt hi] at htake
    omega
  behind := by
    have hone : [now[i]].filterMap Worker.tended = now[i].tended.toList := by
      cases ht : now[i].tended <;> simp [ht]
    rw [take_lookAt hi, List.filterMap_append, hone]
    exact List.rel_append h.behind (List.forall₂_refl _)
  once := by
    obtain ⟨grown, hws, hperm⟩ := h.once
    refine ⟨grown, hws, ?_⟩
    calc grown
      _ |>.Perm (seen ++ now.drop i) := hperm
      _ |>.Perm (seen ++ [now[i]] ++ now.drop (i + 1)) := by
        rw [List.append_assoc, List.singleton_append, List.getElem_cons_drop]
      _ |>.Perm (seen ++ [now[i]] ++ (lookAt now i).1.drop (lookAt now i).2.1) :=
        (drop_lookAt_perm hi).symm.append_left _

end

end Thumbnailer.Pool
