/-
What happens to the workers of a pool.

An event changes what one worker does, or lets the monitor look at one worker.  As long as no two
workers have the same number, both change the list of workers in a single place:

* **`exists_split`** — where the worker of a given activity stands, and what the list is once it
  does something else;
* **`Tended`**, **`tended_lookAt`** — the three things that a look may do; **`lookAt_cases`** also
  says what it tells the operator;
* **`sweep_induction`** — what every look preserves holds after a whole round.
-/
import Thumbnailer.Pool.Basic
import Mathlib.Data.List.Perm.Basic

namespace Thumbnailer.Pool

variable {τ : Type}

/-- No two workers have the same number. -/
def Distinct (workers : List (Worker τ)) : Prop := (workers.map (·.id)).Nodup

/-- The tasks that some workers run. -/
def tasksOf (workers : List (Worker τ)) : List τ := workers.filterMap (·.activity.task?)

theorem running_eq (p : Pool τ) : p.running = tasksOf p.workers := rfl

theorem tasksOf_split (l r : List (Worker τ)) (w : Worker τ) :
    tasksOf (l ++ w :: r) = tasksOf l ++ w.activity.task?.toList ++ tasksOf r := by
  cases h : w.activity.task? <;> simp [tasksOf, h]

/-- The worker of a given activity, and the workers once it does something else. -/
theorem exists_split {p : Pool τ} {worker : Nat} {a : Activity τ} (hd : Distinct p.workers)
    (h : p.activity? worker = some a) :
    ∃ l r, p.workers = l ++ ⟨worker, a⟩ :: r ∧
      ∀ b, (p.setActivity worker b).workers = l ++ ⟨worker, b⟩ :: r := by
  obtain ⟨w, hw, rfl⟩ := Option.map_eq_some_iff.mp h
  obtain ⟨hid, l, r, hs, hl⟩ := List.find?_eq_some_iff_append.mp hw
  have hid : w.id = worker := by simpa using hid
  subst hid
  refine ⟨l, r, hs, fun b => ?_⟩
  have hl : ∀ x ∈ l, x.id ≠ w.id := fun x hx => by simpa using hl x hx
  have hr : ∀ x ∈ r, x.id ≠ w.id := by
    rw [Distinct, hs, List.map_append, List.map_cons] at hd
    intro x hx hxw
    exact (List.nodup_cons.mp (List.nodup_append.mp hd).2.1).1
      (hxw ▸ List.mem_map_of_mem (f := (·.id)) hx)
  have hkeep : ∀ ws : List (Worker τ), (∀ x ∈ ws, x.id ≠ w.id) →
      ws.map (fun x => if x.id == w.id then ⟨x.id, b⟩ else x) = ws := by
    intro ws hws
    conv_rhs => rw [← List.map_id ws]
    exact List.map_congr_left fun x hx => by simp [hws x hx]
  simp only [setActivity, hs, List.map_append, List.map_cons, hkeep l hl, hkeep r hr,
    beq_self_eq_true, if_true]

theorem distinct_setActivity {p : Pool τ} (worker : Nat) (b : Activity τ)
    (hd : Distinct p.workers) : Distinct (p.setActivity worker b).workers := by
  have hids : (p.setActivity worker b).workers.map (·.id) = p.workers.map (·.id) := by
    simp only [setActivity, List.map_map]
    refine List.map_congr_left fun x _ => ?_
    by_cases hx : x.id = worker <;> simp [hx]
  rw [Distinct, hids]
  exact hd

/-- The tasks that run, once a worker does something else. -/
theorem running_setActivity {p : Pool τ} {worker : Nat} {a : Activity τ}
    (hd : Distinct p.workers) (h : p.activity? worker = some a) (b : Activity τ) :
    (a.task?.toList ++ (p.setActivity worker b).running).Perm (b.task?.toList ++ p.running) := by
  obtain ⟨l, r, hs, hb⟩ := exists_split hd h
  rw [running_eq, running_eq, hs, hb, tasksOf_split, tasksOf_split]
  classical
  rw [List.perm_iff_count]
  intro t
  simp only [List.count_append]
  omega

/-! ### The monitor -/

/-- What a look of the monitor may do to the workers. -/
inductive Tended : List (Worker τ) → List (Worker τ) → Prop
  /-- A worker that takes tasks or runs one stays as it is. -/
  | kept (workers : List (Worker τ)) : Tended workers workers
  /-- One that left is taken off the list. -/
  | removed {workers rest : List (Worker τ)} (id : Nat) :
    workers.Perm (⟨id, .gone⟩ :: rest) → Tended workers rest
  /-- One that broke down is replaced. -/
  | replaced (l r : List (Worker τ)) (id : Nat) (cause : Panic) :
    Tended (l ++ ⟨id, .panicked cause⟩ :: r) (l ++ ⟨id, .idle⟩ :: r)

theorem perm_swapRemove {α : Type} {l : List α} {i : Nat} (h : i < l.length) :
    l.Perm (l[i] :: swapRemove l i) := by
  obtain ⟨init, last, rfl⟩ : ∃ init last, l = init ++ [last] :=
    ⟨l.dropLast, l.getLast (List.ne_nil_of_length_pos (by omega)),
      (List.dropLast_append_getLast _).symm⟩
  have hlast : (init ++ [last]).Perm (last :: init) := List.perm_append_singleton last init
  by_cases hi : i < init.length
  · have hswap : swapRemove (init ++ [last]) i = init.set i last := by
      simp [swapRemove, hi]
    rw [hswap, List.getElem_append_left hi]
    calc (init ++ [last]).Perm (last :: init) := hlast
      _ |>.Perm (last :: init[i] :: init.eraseIdx i) :=
        (List.getElem_cons_eraseIdx_perm hi).symm.cons last
      _ |>.Perm (init[i] :: last :: init.eraseIdx i) := List.Perm.swap _ _ _
      _ |>.Perm (init[i] :: init.set i last) :=
        (List.set_perm_cons_eraseIdx hi last).symm.cons _
  · have hi : i = init.length := by
      simp only [List.length_append, List.length_singleton] at h
      omega
    subst hi
    have hswap : swapRemove (init ++ [last]) init.length = init := by simp [swapRemove]
    rw [hswap]
    simp

/-- What a look does to the workers, and what it tells the operator. -/
theorem lookAt_cases (workers : List (Worker τ)) (i : Nat) :
    (lookAt workers i).1 = workers ∧ (lookAt workers i).2.2 = [] ∨
    (∃ id, workers.Perm (⟨id, .gone⟩ :: (lookAt workers i).1) ∧ (lookAt workers i).2.2 = []) ∨
    ∃ l r id cause, workers = l ++ ⟨id, .panicked cause⟩ :: r ∧
      (lookAt workers i).1 = l ++ ⟨id, .idle⟩ :: r ∧
      (lookAt workers i).2.2 = [.workerPanicked id cause, .workerRestarted id] := by
  unfold lookAt
  split
  · exact .inl ⟨rfl, rfl⟩
  · rename_i w hw
    obtain ⟨hi, rfl⟩ := List.getElem?_eq_some_iff.mp hw
    split
    · rename_i ha
      refine .inr (.inl ⟨workers[i].id, ?_, rfl⟩)
      have hgone : workers[i] = ⟨workers[i].id, .gone⟩ := by rw [← ha]
      rw [← hgone]
      exact perm_swapRemove hi
    · rename_i cause ha
      have hw : workers[i] = ⟨workers[i].id, .panicked cause⟩ := by rw [← ha]
      refine .inr (.inr ⟨workers.take i, workers.drop (i + 1), workers[i].id, cause, ?_, ?_, rfl⟩)
      · rw [← hw, List.getElem_cons_drop, List.take_append_drop]
      · exact List.set_eq_take_cons_drop _ hi
    · exact .inl ⟨rfl, rfl⟩

theorem tended_lookAt (workers : List (Worker τ)) (i : Nat) :
    Tended workers (lookAt workers i).1 := by
  obtain ⟨hkept, -⟩ | ⟨id, hperm, -⟩ | ⟨l, r, id, cause, hbefore, hafter, -⟩ :=
    lookAt_cases workers i
  · rw [hkept]
    exact .kept workers
  · exact .removed id hperm
  · have ht := Tended.replaced l r id cause
    rw [← hbefore, ← hafter] at ht
    exact ht

/-- What every look preserves holds after a whole round. -/
theorem sweep_induction {P : List (Worker τ) → Prop}
    (hP : ∀ {ws ws'}, Tended ws ws' → P ws → P ws') {workers : List (Worker τ)} (h : P workers) :
    P (sweep workers).1 := by
  have hfrom : ∀ ws i, P ws → P (sweepFrom ws i).1 := by
    intro ws i
    induction ws, i using sweepFrom.induct with
    | case1 ws i hi _ _ _ ih =>
      intro hws
      rw [sweepFrom, if_pos hi]
      exact ih (hP (tended_lookAt ws i) hws)
    | case2 ws i hi =>
      intro hws
      rw [sweepFrom, if_neg hi]
      exact hws
  exact hfrom workers 0 h

theorem Tended.distinct {ws ws' : List (Worker τ)} (h : Tended ws ws') (hd : Distinct ws) :
    Distinct ws' := by
  cases h with
  | kept => exact hd
  | removed id hp => exact (List.nodup_cons.mp ((hp.map _).nodup_iff.mp hd)).2
  | replaced l r id cause => simpa [Distinct] using hd

theorem Tended.tasksOf_perm {ws ws' : List (Worker τ)} (h : Tended ws ws') :
    (tasksOf ws').Perm (tasksOf ws) := by
  cases h with
  | kept => exact .rfl
  | removed id hp =>
    have hgone : tasksOf (⟨id, .gone⟩ :: ws') = tasksOf ws' := by simp [tasksOf, Activity.task?]
    rw [← hgone]
    exact (List.Perm.filterMap (fun w => w.activity.task?) hp).symm
  | replaced l r id cause => simp [tasksOf_split, Activity.task?]

end Thumbnailer.Pool
