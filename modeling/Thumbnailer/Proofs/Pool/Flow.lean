/-
The way of a task through a pool.

A push begins; its task enters the queue, or the push is refused or abandoned; a queued task is
taken by a worker; a task that runs is finished or panics.  For each place on that way this module
says which tasks an event brings there and which it takes away.

* **`underWay_step`**, **`queue_step`**, **`running_step`** — the places themselves;
* **`tasksAt_step`** — the same for all places at once;
* **`Accounted`** — the balance: no task is lost, doubled or overtaken;
* **`started_append_queue`** — in every reachable state the tasks that were started, followed by
  those in the queue, are the tasks that were accepted, in the same order.
-/
import Thumbnailer.Proofs.Pool.Step
import Thumbnailer.Proofs.Pool.Workers
import Mathlib.Data.List.Nodup

namespace Thumbnailer.Pool

variable {τ : Type} {p q : Pool τ} {e : Event τ}

/-! ### What comes and goes with an event -/

namespace Event

/-- The tasks whose push begins. -/
@[simp] def pushed : Event τ → List τ
  | push task => [task]
  | _ => []

/-- The tasks that enter the queue. -/
@[simp] def accepted : Event τ → List τ
  | enqueue task => [task]
  | _ => []

/-- The tasks whose push is refused. -/
@[simp] def refused : Event τ → List τ
  | refuse _ task => [task]
  | _ => []

/-- The tasks whose push is abandoned. -/
@[simp] def abandoned : Event τ → List τ
  | abandon _ task => [task]
  | _ => []

end Event

/-- The pushes that are under way. -/
def underWay (p : Pool τ) : List τ := p.waiting ++ p.granted

/-- The tasks that an event takes out of the queue. -/
def taken (p : Pool τ) : Event τ → List τ
  | .take _ => p.queue.take 1
  | _ => []

/-- The tasks that an event finishes. -/
def finishing (p : Pool τ) : Event τ → List τ
  | .finish worker => ((p.activity? worker).bind (·.task?)).toList
  | _ => []

/-- The tasks that panic with an event. -/
def panicking (p : Pool τ) : Event τ → List τ
  | .panic worker _ => ((p.activity? worker).bind (·.task?)).toList
  | _ => []

theorem taken_take {worker : Nat} {task : τ} {rest : List τ} (hq : p.queue = task :: rest) :
    p.taken (.take worker) = [task] := by
  simp [taken, hq]

theorem finishing_finish {worker : Nat} {task : τ}
    (ha : p.activity? worker = some (.running task)) : p.finishing (.finish worker) = [task] := by
  simp [finishing, ha, Activity.task?]

theorem panicking_panic {worker : Nat} {task : τ} {cause : Panic}
    (ha : p.activity? worker = some (.running task)) :
    p.panicking (.panic worker cause) = [task] := by
  simp [panicking, ha, Activity.task?]

theorem mem_underWay_of_mem_pushes {stage : Stage} {task : τ} (h : task ∈ p.pushes stage) :
    task ∈ p.underWay := by
  cases stage with
  | waiting => exact List.mem_append_left _ h
  | granted => exact List.mem_append_right _ h

variable [DecidableEq τ] {s : Settings}

theorem underWay_withdraw {task : τ} (stage : Stage) (h : task ∈ p.pushes stage) :
    p.underWay.Perm (task :: (p.withdraw task stage).underWay) := by
  cases stage with
  | waiting => exact (List.perm_cons_erase h).append_right p.granted
  | granted =>
    calc p.waiting ++ p.granted
      _ |>.Perm (p.waiting ++ task :: p.granted.erase task) :=
        (List.perm_cons_erase h).append_left p.waiting
      _ |>.Perm (task :: (p.waiting ++ p.granted.erase task)) := List.perm_middle

theorem underWay_step (h : Step p e q) :
    (e.accepted ++ e.refused ++ e.abandoned ++ q.underWay).Perm (e.pushed ++ p.underWay) := by
  cases h with
  | push _ =>
    simp only [Event.accepted, Event.refused, Event.abandoned, Event.pushed, underWay,
      List.nil_append, List.append_assoc]
    exact List.perm_middle
  | abandon hm => exact (underWay_withdraw _ hm).symm
  | refuse hm => exact (underWay_withdraw _ hm).symm
  | enqueue hm _ _ => exact (underWay_withdraw .granted hm).symm
  | grant hw _ _ =>
    simp only [Event.accepted, Event.refused, Event.abandoned, Event.pushed, underWay, hw,
      List.nil_append]
    rw [← List.append_assoc]
    exact List.perm_append_singleton _ _
  | _ => exact .rfl

theorem queue_step (h : Step p e q) : p.taken e ++ q.queue = p.queue ++ e.accepted := by
  cases h with
  | enqueue _ _ _ => rfl
  | take _ hq => simp [taken_take hq, hq]
  | _ => simp [taken, withdraw, setActivity]

theorem running_step (hd : Distinct p.workers) (h : Step p e q) :
    (p.finishing e ++ p.panicking e ++ q.running).Perm (p.taken e ++ p.running) := by
  cases h with
  | take ha hq =>
    rw [taken_take hq]
    exact running_setActivity hd ha _
  | finish ha =>
    rw [finishing_finish ha]
    exact running_setActivity hd ha _
  | panic ha =>
    rw [panicking_panic ha]
    exact running_setActivity hd ha _
  | leave ha _ _ => exact running_setActivity hd ha _
  | round _ =>
    exact sweep_induction (P := fun ws => (tasksOf ws).Perm p.running)
      (fun ht hp => ht.tasksOf_perm.trans hp) .rfl
  | look _ _ => exact (tended_lookAt _ _).tasksOf_perm
  | _ => exact .rfl

theorem pushed_step (h : Step p e q) : q.pushed = p.pushed ++ e.pushed := by
  cases h <;> simp [withdraw, setActivity]

theorem accepted_step (h : Step p e q) : q.accepted = p.accepted ++ e.accepted := by
  cases h <;> simp [withdraw, setActivity]

theorem refused_step (h : Step p e q) : q.refused = p.refused ++ e.refused := by
  cases h <;> simp [withdraw, setActivity]

theorem abandoned_step (h : Step p e q) : q.abandoned = p.abandoned ++ e.abandoned := by
  cases h <;> simp [withdraw, setActivity]

theorem started_step (h : Step p e q) : q.started = p.started ++ p.taken e := by
  cases h with
  | take _ hq => rw [taken_take hq]
  | _ => simp [taken, withdraw, setActivity]

theorem finished_step (h : Step p e q) : q.finished = p.finished ++ p.finishing e := by
  cases h with
  | finish ha => rw [finishing_finish ha]
  | _ => simp [finishing, withdraw, setActivity]

theorem panicked_step (h : Step p e q) : q.panicked = p.panicked ++ p.panicking e := by
  cases h with
  | panic ha => rw [panicking_panic ha]
  | _ => simp [panicking, withdraw, setActivity]

theorem distinct_step (hd : Distinct p.workers) (h : Step p e q) : Distinct q.workers := by
  cases h with
  | take _ _ => exact distinct_setActivity _ _ hd
  | finish _ => exact distinct_setActivity _ _ hd
  | panic _ => exact distinct_setActivity _ _ hd
  | leave _ _ _ => exact distinct_setActivity _ _ hd
  | round _ => exact sweep_induction Tended.distinct hd
  | look _ _ => exact (tended_lookAt _ _).distinct hd
  | _ => exact hd

/-! ### The places of a task -/

/-- Where the tasks of a pool are, or have been. -/
inductive Place
  | underWay
  | refused
  | accepted
  | queue
  | running
  deriving DecidableEq

/-- The tasks at a place. -/
@[simp] def tasksAt (p : Pool τ) : Place → List τ
  | .underWay => p.underWay
  | .refused => p.refused
  | .accepted => p.accepted
  | .queue => p.queue
  | .running => p.running

/-- The tasks that an event brings to a place. -/
@[simp] def joining (p : Pool τ) (e : Event τ) : Place → List τ
  | .underWay => e.pushed
  | .refused => e.refused
  | .accepted => e.accepted
  | .queue => e.accepted
  | .running => p.taken e

/-- The tasks that an event takes away from a place. -/
@[simp] def leaving (p : Pool τ) (e : Event τ) : Place → List τ
  | .underWay => e.accepted ++ e.refused ++ e.abandoned
  | .refused => []
  | .accepted => []
  | .queue => p.taken e
  | .running => p.finishing e ++ p.panicking e

/-- What is at a place after an event, together with what left it, is what was there and what
came. -/
theorem tasksAt_step (hd : Distinct p.workers) (h : Step p e q) (place : Place) :
    (p.leaving e place ++ q.tasksAt place).Perm (p.joining e place ++ p.tasksAt place) := by
  cases place with
  | underWay => exact underWay_step h
  | refused =>
    show q.refused.Perm (e.refused ++ p.refused)
    rw [refused_step h]
    exact List.perm_append_comm
  | accepted =>
    show q.accepted.Perm (e.accepted ++ p.accepted)
    rw [accepted_step h]
    exact List.perm_append_comm
  | queue =>
    show (p.taken e ++ q.queue).Perm (e.accepted ++ p.queue)
    rw [queue_step h]
    exact List.perm_append_comm
  | running => exact running_step hd h

/-! ### The balance -/

/-- The balance of a pool's tasks. -/
structure Accounted (p : Pool τ) : Prop where
  distinct : Distinct p.workers
  /-- Every push is at one place, or has ended in one way. -/
  pushed : p.pushed.Perm (p.accepted ++ p.refused ++ p.abandoned ++ p.underWay)
  /-- The queue hands its tasks out in order, and nothing else is handed out. -/
  accepted : p.started ++ p.queue = p.accepted
  /-- Every task that was started runs, or has ended in one way. -/
  started : p.started.Perm (p.running ++ p.finished ++ p.panicked)

omit [DecidableEq τ] in
theorem accounted_start : Accounted (start s : Pool τ) where
  distinct := by simp [Distinct, start, Function.comp_def, List.nodup_range]
  pushed := .rfl
  accepted := rfl
  started := by simp [running, start, Activity.task?]

theorem Accounted.step (hp : Accounted p) (h : Step p e q) : Accounted q where
  distinct := distinct_step hp.distinct h
  pushed := by
    have hflow := underWay_step h
    have hpushed := hp.pushed
    rw [pushed_step h, accepted_step h, refused_step h, abandoned_step h]
    -- what leaves the pushes under way is what the three records gain
    simp only [List.perm_iff_count, List.count_append] at hflow hpushed ⊢
    intro task
    have hflow := hflow task
    have hpushed := hpushed task
    omega
  accepted := by
    calc q.started ++ q.queue
      _ = p.started ++ (p.taken e ++ q.queue) := by rw [started_step h, List.append_assoc]
      _ = p.started ++ p.queue ++ e.accepted := by rw [queue_step h, List.append_assoc]
      _ = q.accepted := by rw [hp.accepted, accepted_step h]
  started := by
    have hflow := running_step hp.distinct h
    have hstarted := hp.started
    rw [started_step h, finished_step h, panicked_step h]
    -- what leaves the running tasks is what the two records gain
    simp only [List.perm_iff_count, List.count_append] at hflow hstarted ⊢
    intro task
    have hflow := hflow task
    have hstarted := hstarted task
    omega

theorem Reachable.accounted (h : Reachable s p) : Accounted p :=
  h.invariant accounted_start fun _ he hp => hp.step he

/-- **No task is lost, doubled or overtaken.**  The tasks that were started, followed by those in
the queue, are the tasks that were accepted, in the same order.  A push that is refused, abandoned
or still under way counts for no start: each task is started at most as often as its pushes were
accepted, and if all pushed tasks are different, it is started at most once. -/
theorem started_append_queue (h : Reachable s p) :
    p.started ++ p.queue = p.accepted ∧
      p.started.Perm (p.running ++ p.finished ++ p.panicked) ∧
      (∀ task, p.started.count task + p.refused.count task + p.abandoned.count task +
        p.underWay.count task ≤ p.pushed.count task) ∧
      (p.pushed.Nodup → p.started.Nodup ∧
        ∀ task ∈ p.started, task ∉ p.refused ∧ task ∉ p.abandoned ∧ task ∉ p.underWay) := by
  have hp := h.accounted
  have hcount : ∀ task, p.started.count task + p.refused.count task + p.abandoned.count task +
      p.underWay.count task ≤ p.pushed.count task := by
    intro task
    have hpushed := hp.pushed.count_eq task
    have haccepted := congrArg (List.count task) hp.accepted
    simp only [List.count_append] at hpushed haccepted
    omega
  -- no task is pushed twice, so its one push ended in one way
  refine ⟨hp.accepted, hp.started, hcount, fun hn => ⟨?_, ?_⟩⟩
  · refine List.nodup_iff_count_le_one.mpr fun task => ?_
    have hone := List.nodup_iff_count_le_one.mp hn task
    have htask := hcount task
    omega
  · intro task hs
    have hone := List.nodup_iff_count_le_one.mp hn task
    have htask := hcount task
    have hs := List.count_pos_iff.mpr hs
    refine ⟨?_, ?_, ?_⟩ <;>
    · rw [← List.count_eq_zero]
      omega

/-- The only worker of a pool breaks down with task 1 and is replaced, a push gives up in line, and
another comes too late. -/
theorem started_append_queue_restarted :
    ∃ p : Pool Nat, Reachable ⟨1, 2, 5⟩ p ∧ p.pushed = [1, 2, 3, 4] ∧ p.panicked = [1] ∧
      p.abandoned = [3] ∧ p.refused = [4] ∧ p.started = [1, 2] ∧
      p.started ++ p.queue = p.accepted ∧ p.started.Nodup := by
  obtain ⟨p, hp, hf⟩ := exists_reachable (s := ⟨1, 2, 5⟩)
    (a := ([1, 2, 3, 4], [1], [3], [4], [1, 2]))
    (fun p : Pool Nat => (p.pushed, p.panicked, p.abandoned, p.refused, p.started))
    [.push 1, .grant, .enqueue 1, .push 2, .grant, .push 3, .enqueue 2, .watch, .take 0,
      .panic 0 .value, .look, .abandon .waiting 3, .look, .take 0, .look, .closeSlots, .push 4,
      .refuse .waiting 4, .close, .finish 0] (by decide +kernel)
  simp only [Prod.mk.injEq] at hf
  obtain ⟨hpushed, hpanicked, habandoned, hrefused, hstarted⟩ := hf
  obtain ⟨haccepted, -, -, honce⟩ := started_append_queue hp
  exact ⟨p, hp, hpushed, hpanicked, habandoned, hrefused, hstarted, haccepted,
    (honce (by rw [hpushed]; decide)).1⟩

end Thumbnailer.Pool
