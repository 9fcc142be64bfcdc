/-
The slots of a pool.

A push that has waited its turn gets a slot.  The slot stays with the task while it is queued and
while it runs, and goes back when the task is finished or breaks down; a push that is refused or
given up after it got a slot gives it back at once.

* **`held`** — the tasks that hold a slot;
* **`held_step`**, **`free_step`** — an event moves as many tasks in and out of `held` as it takes
  and gives back slots;
* **`free_add_held`** — in every reachable state the free slots and the tasks that hold one add up
  to the slots of the pool, and whoever holds one finds room in the queue.
-/
import Thumbnailer.Proofs.Pool.Drain

namespace Thumbnailer.Pool

variable {τ : Type} {s : Settings} {p q : Pool τ} {e : Event τ}

/-- The tasks that hold a slot: their push got one, or they are queued, or they run. -/
def held (p : Pool τ) : List τ := p.granted ++ p.queue ++ p.running

/-- The tasks whose push gets a slot with an event. -/
def granting (p : Pool τ) : Event τ → List τ
  | .grant => p.waiting.take 1
  | _ => []

/-- The tasks whose push ends with an event after it got a slot. -/
@[simp] def Event.withdrawn : Event τ → List τ
  | .abandon .granted task => [task]
  | .refuse .granted task => [task]
  | _ => []

/-- The tasks that give their slot back with an event. -/
def releasing (p : Pool τ) (e : Event τ) : List τ :=
  p.finishing e ++ p.panicking e ++ e.withdrawn

/-! ### What an event does to the slots -/

theorem granting_grant {task : τ} {rest : List τ} (hw : p.waiting = task :: rest) :
    p.granting .grant = [task] := by
  simp [granting, hw]

variable [DecidableEq τ]

theorem granted_step (h : Step p e q) :
    (e.accepted ++ e.withdrawn ++ q.granted).Perm (p.granting e ++ p.granted) := by
  cases h with
  | grant hw _ _ =>
    rw [granting_grant hw]
    exact List.perm_append_singleton _ _
  | enqueue hm _ _ => exact (List.perm_cons_erase hm).symm
  | @abandon stage task hm =>
    cases stage with
    | waiting => exact .rfl
    | granted => exact (List.perm_cons_erase hm).symm
  | @refuse stage task hm _ =>
    cases stage with
    | waiting => exact .rfl
    | granted => exact (List.perm_cons_erase hm).symm
  | _ => exact .rfl

/-- The tasks that hold a slot after an event, together with those that gave theirs back, are those
that held one and those that got one. -/
theorem held_step (hd : Distinct p.workers) (h : Step p e q) :
    (p.releasing e ++ q.held).Perm (p.granting e ++ p.held) := by
  have hgranted := granted_step h
  have hqueue := queue_step h
  have hrunning := running_step hd h
  -- what leaves the pushes enters the queue, and what leaves the queue begins to run
  rw [List.perm_iff_count] at hgranted hrunning ⊢
  intro task
  have hgranted := hgranted task
  have hqueue := congrArg (List.count task) hqueue
  have hrunning := hrunning task
  simp only [held, releasing, List.count_append] at hgranted hqueue hrunning ⊢
  omega

/-- Each slot that is taken or given back is taken or given back once. -/
theorem free_step (h : Step p e q) :
    q.free + (p.granting e).length = p.free + (p.releasing e).length := by
  cases h with
  | grant hw _ hf =>
    rw [granting_grant hw]
    show p.free - 1 + 1 = p.free
    omega
  | @abandon stage task _ => cases stage <;> rfl
  | @refuse stage task _ _ => cases stage <;> rfl
  | finish ha =>
    rw [releasing, finishing_finish ha]
    rfl
  | panic ha =>
    rw [releasing, panicking_panic ha]
    rfl
  | _ => rfl

theorem Reachable.free_eq (h : Reachable s p) : p.free + p.held.length = s.slots := by
  refine h.invariant (P := fun p => p.free + p.held.length = s.slots) ?_ ?_
  · simp [held, running, Pool.start, Activity.task?]
  · intro p e q hr he hp
    have hfree := free_step he
    have hheld := (held_step hr.accounted.distinct he).length_eq
    simp only [List.length_append] at hheld
    omega

/-! ### Who holds a slot -/

/-- Every push is in line, or holds a slot, or has ended in one of four ways. -/
theorem Accounted.pushed_perm (h : Accounted p) :
    p.pushed.Perm (p.waiting ++ p.held ++
      (p.finished ++ p.panicked ++ p.refused ++ p.abandoned)) := by
  have hpushed := h.pushed
  have hstarted := h.started
  rw [List.perm_iff_count] at hpushed hstarted ⊢
  intro task
  have hpushed := hpushed task
  have haccepted := congrArg (List.count task) h.accepted
  have hstarted := hstarted task
  simp only [held, underWay, List.count_append] at hpushed haccepted hstarted ⊢
  omega

/-- A push that got a slot finds room in the queue. -/
theorem Reachable.length_queue_lt (h : Reachable s p) {task : τ} (ht : task ∈ p.granted) :
    p.queue.length < s.slots := by
  have hfree := h.free_eq
  have hpos := List.length_pos_of_mem ht
  simp only [held, List.length_append] at hfree
  omega

/-- A push that got a slot does not wait: its task enters the queue, or it is refused. -/
theorem Reachable.enqueue_or_refuse (h : Reachable s p) {task : τ} (ht : task ∈ p.granted) :
    ∃ q, p.step? (if p.isOpen then .enqueue task else .refuse .granted task) = some q := by
  cases ho : p.isOpen with
  | true =>
    have hroom : p.queue.length < p.settings.slots := by
      rw [h.staffed.settings]
      exact h.length_queue_lt ht
    exact ⟨_, step?_eq_some_iff.mpr (.enqueue ht ho hroom)⟩
  | false =>
    have hr : p.refuses .granted = true := by simp [Pool.refuses, ho]
    exact ⟨_, step?_eq_some_iff.mpr (.refuse ht hr)⟩

/-- **The slots add up.**  Free slots and tasks that hold one are together the slots of the pool, so
that queued and running tasks never outnumber them.  Every push that got its turn holds a slot until
its task is finished or breaks down, or the push itself is refused or given up; with that the slot
goes back, once, and nothing else moves it.  Whoever holds a slot finds room in the queue, so
putting the task there never waits. -/
theorem free_add_held (h : Reachable s p) :
    p.free + (p.granted ++ p.queue ++ p.running).length = s.slots ∧
    p.queue.length + p.running.length ≤ s.slots ∧
    p.pushed.Perm (p.waiting ++ (p.granted ++ p.queue ++ p.running) ++
      (p.finished ++ p.panicked ++ p.refused ++ p.abandoned)) ∧
    (∀ e q, p.step? e = some q →
      q.free + (p.granting e).length = p.free + (p.releasing e).length) ∧
    (∀ worker q, p.step? (.finish worker) = some q → q.free = p.free + 1) ∧
    (∀ worker cause q, p.step? (.panic worker cause) = some q → q.free = p.free + 1) ∧
    ∀ task ∈ p.granted, p.queue.length < s.slots ∧
      ∃ q, p.step? (if p.isOpen then .enqueue task else .refuse .granted task) = some q := by
  have hfree : p.free + (p.granted ++ p.queue ++ p.running).length = s.slots := h.free_eq
  refine ⟨hfree, ?_, h.accounted.pushed_perm, fun e q he => free_step (.of_step? he), ?_, ?_,
    fun task ht => ⟨h.length_queue_lt ht, h.enqueue_or_refuse ht⟩⟩
  · simp only [List.length_append] at hfree
    omega
  · intro worker q he
    cases Step.of_step? he with
    | finish _ => rfl
  · intro worker cause q he
    cases Step.of_step? he with
    | panic _ => rfl

/-- The only worker runs task 2 in the place of one that broke down with task 1, tasks 3 and 4 have
the other slots, and task 5 is in line when the pool is told to close. -/
theorem free_add_held_closing :
    ∃ p : Pool Nat, Reachable ⟨1, 3, 5⟩ p ∧ p.panicked = [1] ∧ p.running = [2] ∧ p.queue = [3] ∧
      p.granted = [4] ∧ p.waiting = [5] ∧ p.closing = true ∧ p.free = 0 ∧
      p.queue.length < 3 ∧ (∃ q, p.step? (.enqueue 4) = some q) ∧
      ∀ worker q, p.step? (.finish worker) = some q → q.free = 1 := by
  obtain ⟨p, hp, hf⟩ := exists_reachable (s := ⟨1, 3, 5⟩)
    (a := ([[1], [2], [3], [4], [5]], true, true))
    (fun p : Pool Nat =>
      ([p.panicked, p.running, p.queue, p.granted, p.waiting], p.closing, p.isOpen))
    [.push 1, .grant, .enqueue 1, .push 2, .grant, .enqueue 2, .push 3, .grant, .enqueue 3, .watch,
      .take 0, .panic 0 .value, .round, .take 0, .push 4, .push 5, .grant, .closeSlots]
    (by decide +kernel)
  simp only [Prod.mk.injEq, List.cons.injEq, and_true] at hf
  obtain ⟨⟨hpanicked, hrunning, hqueue, hgranted, hwaiting⟩, hclosing, hopen⟩ := hf
  obtain ⟨hfree, -, -, -, hfinish, -, hroom⟩ := free_add_held hp
  have hnone : p.free = 0 := by
    rw [hgranted, hqueue, hrunning] at hfree
    exact Nat.add_right_cancel hfree
  obtain ⟨hlt, henqueue⟩ := hroom 4 (by rw [hgranted]; exact List.mem_singleton_self 4)
  rw [hopen, if_pos rfl] at henqueue
  refine ⟨p, hp, hpanicked, hrunning, hqueue, hgranted, hwaiting, hclosing, hnone, hlt, henqueue,
    fun worker q he => ?_⟩
  rw [hfinish worker q he, hnone]

end Thumbnailer.Pool
