/-
How a pool comes to its end.

A worker leaves only when the queue is empty and no task can enter it any more, so the first worker
that leaves finds everything done.  What a drained pool leaves behind, it leaves because no worker
left: the monitor ended, and each of the workers broke down without being replaced.

* **`IsDeserted`** — the monitor ended, and all workers broke down and were not replaced;
* **`IsDeserted.after?`** — nobody ever takes a task out of the queue of a deserted pool;
* **`Staffed`** — the invariant: who left, who may still come, and why pushes are refused;
* **`drained_left_queue`** — a drained pool has run everything, unless it is deserted;
* **`refuse_iff`** — a push is refused only by a pool that was told to close, or is deserted.
-/
import Thumbnailer.Proofs.Pool.Flow

namespace Thumbnailer.Pool

variable {τ : Type} {s : Settings} {p q : Pool τ} {e : Event τ}

/-- The monitor ended, and all workers of the pool broke down. -/
def IsDeserted (p : Pool τ) : Prop :=
  p.monitor = .ended ∧ p.workers.length = p.settings.workers ∧
    ∀ w ∈ p.workers, w.activity.isBroken = true

instance : Decidable p.IsDeserted := inferInstanceAs (Decidable (_ ∧ _ ∧ _))

/-- Some of `count` workers left. -/
def SomeLeft (count : Nat) (workers : List (Worker τ)) : Prop :=
  workers.length < count ∨ ∃ w ∈ workers, w.activity = .gone

/-! ### Who is left -/

theorem mem_workers_of_activity? {worker : Nat} {a : Activity τ}
    (h : p.activity? worker = some a) : ∃ w ∈ p.workers, w.activity = a := by
  obtain ⟨w, hw, ha⟩ := Option.map_eq_some_iff.mp h
  exact ⟨w, List.mem_of_find?_eq_some hw, ha⟩

theorem hasTakers_eq_false_iff :
    p.hasTakers = false ↔ p.monitor = .ended ∧ ∀ w ∈ p.workers, w.activity.isLive = false := by
  rw [hasTakers, Bool.or_eq_false_iff, bne_eq_false_iff_eq, and_comm, Bool.not_eq_false',
    List.isEmpty_iff, live, List.filter_eq_nil_iff]
  simp only [Bool.not_eq_true]

theorem IsDeserted.hasTakers (h : p.IsDeserted) : p.hasTakers = false := by
  refine hasTakers_eq_false_iff.mpr ⟨h.1, fun w hw => ?_⟩
  have hb := h.2.2 w hw
  cases ha : w.activity <;> simp_all [Activity.isBroken, Activity.isLive]

theorem IsDeserted.isDrained (h : p.IsDeserted) : p.isDrained = true := by
  rw [Pool.isDrained, h.hasTakers, Bool.not_false]

theorem IsDeserted.isBroken {worker : Nat} {a : Activity τ} (h : p.IsDeserted)
    (ha : p.activity? worker = some a) : a.isBroken = true := by
  obtain ⟨w, hw, rfl⟩ := mem_workers_of_activity? ha
  exact h.2.2 w hw

theorem IsDeserted.refuses (h : p.IsDeserted) : p.refuses .granted = true := by
  simp [Pool.refuses, isOpen, h.hasTakers]

theorem running_of_hasTakers (h : p.hasTakers = false) : p.running = [] := by
  refine List.filterMap_eq_nil_iff.mpr fun w hw => ?_
  have hl := (hasTakers_eq_false_iff.mp h).2 w hw
  cases ha : w.activity <;> simp_all [Activity.task?, Activity.isLive]

/-- A pool without takers from which no worker left is deserted. -/
theorem isDeserted_of_hasTakers (hsize : p.workers.length ≤ p.settings.workers)
    (hleft : ¬ SomeLeft p.settings.workers p.workers) (h : p.hasTakers = false) :
    p.IsDeserted := by
  obtain ⟨hm, hl⟩ := hasTakers_eq_false_iff.mp h
  simp only [SomeLeft, not_or, not_exists, not_and] at hleft
  refine ⟨hm, by omega, fun w hw => ?_⟩
  have hlive := hl w hw
  have hgone := hleft.2 w hw
  cases ha : w.activity <;> simp_all [Activity.isBroken, Activity.isLive]

theorem Tended.length_le {ws ws' : List (Worker τ)} (h : Tended ws ws') :
    ws'.length ≤ ws.length := by
  cases h with
  | kept => exact Nat.le_refl _
  | removed id hp => simp [hp.length_eq]
  | replaced l r id cause => simp

/-- A look of the monitor hides no worker that left. -/
theorem Tended.someLeft {count : Nat} {ws ws' : List (Worker τ)} (h : Tended ws ws')
    (hl : SomeLeft count ws') : SomeLeft count ws := by
  cases h with
  | kept => exact hl
  | removed id hp => exact .inr ⟨⟨id, .gone⟩, hp.mem_iff.mpr List.mem_cons_self, rfl⟩
  | replaced l r id cause =>
    obtain hl | ⟨w, hw, hg⟩ := hl
    · exact .inl (by simpa using hl)
    · refine .inr ⟨w, ?_, hg⟩
      simp only [List.mem_append, List.mem_cons] at hw ⊢
      obtain hw | rfl | hw := hw
      · exact .inl hw
      · cases hg
      · exact .inr (.inr hw)

/-- A worker that does something else and does not leave hides no worker that left. -/
theorem someLeft_setActivity {count worker : Nat} {a b : Activity τ} (hd : Distinct p.workers)
    (ha : p.activity? worker = some a) (hb : b ≠ .gone)
    (hl : SomeLeft count (p.setActivity worker b).workers) : SomeLeft count p.workers := by
  obtain ⟨l, r, hs, hset⟩ := exists_split hd ha
  rw [hset] at hl
  rw [hs]
  obtain hl | ⟨w, hw, hg⟩ := hl
  · exact .inl (by simpa using hl)
  · refine .inr ⟨w, ?_, hg⟩
    simp only [List.mem_append, List.mem_cons] at hw ⊢
    obtain hw | rfl | hw := hw
    · exact .inl hw
    · exact absurd hg hb
    · exact .inr (.inr hw)

theorem length_setActivity (worker : Nat) (b : Activity τ) :
    (p.setActivity worker b).workers.length = p.workers.length := by
  simp [setActivity]

/-! ### The invariant -/

/-- Who left, who may still come, and why pushes are refused. -/
structure Staffed (s : Settings) (p : Pool τ) : Prop where
  settings : p.settings = s
  closed : p.closed = true → p.closing = true
  dropped : p.dropped = true → p.underWay = []
  size : p.workers.length ≤ s.workers
  /-- A worker leaves an empty queue, which stays empty. -/
  left : SomeLeft s.workers p.workers → p.queue = [] ∧ (p.closed = true ∨ p.dropped = true)
  ended : p.monitor = .ended → p.signalled = true ∨ s.interval = 0
  refused : p.refused ≠ [] → p.closing = true ∨ p.IsDeserted

theorem staffed_start : Staffed s (start s : Pool τ) where
  settings := rfl
  closed := by simp [start]
  dropped := by simp [start]
  size := by simp [start]
  left := by simp [start, SomeLeft]
  ended := by simp [start]
  refused := by simp [start]

/-- Why a push is refused. -/
theorem Staffed.refuses (hp : Staffed s p) {stage : Stage} {task : τ}
    (hm : task ∈ p.pushes stage) (hr : p.refuses stage = true) :
    p.closing = true ∨ stage = .granted ∧ p.IsDeserted := by
  cases hc : p.closing with
  | true => exact .inl rfl
  | false =>
    have hclosed : p.closed = false := by
      by_contra h
      simp [hp.closed (by simpa using h)] at hc
    have hdropped : p.dropped = false := by
      by_contra h
      simpa [hp.dropped (by simpa using h)] using mem_underWay_of_mem_pushes hm
    cases stage with
    | waiting => simp [Pool.refuses, hc] at hr
    | granted =>
      -- the queue is closed neither way, so nobody is left to take tasks, and nobody left
      simp only [Pool.refuses, hc, isOpen, hclosed, hdropped, Bool.not_false, Bool.true_and,
        Bool.false_or, Bool.not_eq_true'] at hr
      refine .inr ⟨rfl, isDeserted_of_hasTakers (hp.settings ▸ hp.size) (fun hl => ?_) hr⟩
      have hleft := (hp.left (hp.settings ▸ hl)).2
      simp [hclosed, hdropped] at hleft

variable [DecidableEq τ]

theorem settings_step (h : Step p e q) : q.settings = p.settings := by
  cases h <;> rfl

theorem length_step (h : Step p e q) : q.workers.length ≤ p.workers.length := by
  cases h with
  | take _ _ => exact Nat.le_of_eq (length_setActivity _ _)
  | finish _ => exact Nat.le_of_eq (length_setActivity _ _)
  | panic _ => exact Nat.le_of_eq (length_setActivity _ _)
  | leave _ _ _ => exact Nat.le_of_eq (length_setActivity _ _)
  | round _ =>
    exact sweep_induction (P := fun ws => ws.length ≤ p.workers.length)
      (fun ht hle => Nat.le_trans ht.length_le hle) (Nat.le_refl _)
  | look _ _ => exact (tended_lookAt _ _).length_le
  | _ => exact Nat.le_refl _

/-- Once the monitor ended and all workers broke down, it stays so. -/
theorem IsDeserted.step (hp : p.IsDeserted) (h : Step p e q) : q.IsDeserted := by
  have hm := hp.1
  -- a worker that acts is not broken, and a monitor that acts did not end
  cases h with
  | take ha _ => cases hp.isBroken ha
  | finish ha => cases hp.isBroken ha
  | panic ha => cases hp.isBroken ha
  | leave ha _ _ => cases hp.isBroken ha
  | watch hm' => cases hm.symm.trans hm'
  | round hm' => cases hm.symm.trans hm'
  | beginRound hm' => cases hm.symm.trans hm'
  | look hm' _ => cases hm.symm.trans hm'
  | endRound hm' _ => cases hm.symm.trans hm'
  | dismiss hm' _ => cases hm.symm.trans hm'
  | _ => exact hp

theorem IsDeserted.queue_step (hp : p.IsDeserted) (h : Step p e q) :
    q.queue = p.queue ∧ q.started = p.started := by
  cases h with
  | enqueue _ ho _ => simp [isOpen, hp.hasTakers] at ho
  | take ha _ => cases hp.isBroken ha
  | _ => exact ⟨rfl, rfl⟩

/-- Nobody ever takes a task out of the queue of a deserted pool. -/
theorem IsDeserted.after? {events : List (Event τ)} (hp : p.IsDeserted)
    (h : p.after? events = some q) :
    q.IsDeserted ∧ q.queue = p.queue ∧ q.started = p.started := by
  refine after?_induction (P := fun r => r.IsDeserted ∧ r.queue = p.queue ∧ r.started = p.started)
    (fun hstep hr => ?_) h ⟨hp, rfl, rfl⟩
  obtain ⟨hd, hqueue, hstarted⟩ := hr
  have hkept := hd.queue_step hstep
  exact ⟨hd.step hstep, hkept.1.trans hqueue, hkept.2.trans hstarted⟩

theorem left_step (hd : Distinct p.workers) (hp : Staffed s p) (h : Step p e q)
    (hl : SomeLeft s.workers q.workers) : q.queue = [] ∧ (q.closed = true ∨ q.dropped = true) := by
  cases h with
  | enqueue _ ho _ =>
    -- the queue is closed once somebody left
    have hleft := (hp.left hl).2
    simp only [isOpen, Bool.and_eq_true, Bool.not_eq_true'] at ho
    simp [ho.1] at hleft
  | take ha hq =>
    -- and empty, so there is nothing to take
    have hleft := (hp.left (someLeft_setActivity hd ha (by simp) hl)).1
    simp [hq] at hleft
  | finish ha => exact hp.left (someLeft_setActivity hd ha (by simp) hl)
  | panic ha => exact hp.left (someLeft_setActivity hd ha (by simp) hl)
  | leave _ hq hc => exact ⟨hq, hc⟩
  | round _ =>
    have hsweep : SomeLeft s.workers (sweep p.workers).1 → SomeLeft s.workers p.workers :=
      sweep_induction (P := fun ws => SomeLeft s.workers ws → SomeLeft s.workers p.workers)
        (fun ht hws hl => hws (ht.someLeft hl)) id
    exact hp.left (hsweep hl)
  | look _ _ => exact hp.left ((tended_lookAt _ _).someLeft hl)
  | close _ => exact ⟨(hp.left hl).1, .inl rfl⟩
  | drop _ _ _ => exact ⟨(hp.left hl).1, .inr rfl⟩
  | _ => exact hp.left hl

theorem dropped_step (hp : Staffed s p) (h : Step p e q) (hd : q.dropped = true) :
    q.underWay = [] := by
  have hflow := underWay_step h
  cases h with
  | push hd' => cases hd'.symm.trans hd
  | drop hw hg _ => simp [underWay, hw, hg]
  | _ =>
    rw [hp.dropped hd] at hflow
    exact (List.append_eq_nil_iff.mp (List.perm_nil.mp hflow)).2

theorem closing_step (h : Step p e q) (hc : p.closing = true) : q.closing = true := by
  cases h with
  | closeSlots _ => rfl
  | close _ => rfl
  | _ => exact hc

theorem ended_step (hp : Staffed s p) (h : Step p e q) (hm : q.monitor = .ended) :
    q.signalled = true ∨ s.interval = 0 := by
  cases h with
  | watch _ =>
    refine .inr ?_
    rw [← hp.settings]
    by_contra hi
    simp [hi] at hm
  | signal => exact .inl rfl
  | dismiss _ hs => exact .inl hs
  | beginRound _ => cases hm
  | look _ _ => cases hm
  | endRound _ _ => cases hm
  | _ => exact hp.ended hm

theorem refused_after (hp : Staffed s p) (h : Step p e q) (hr : q.refused ≠ []) :
    q.closing = true ∨ q.IsDeserted := by
  have hkeep : p.closing = true ∨ p.IsDeserted → q.closing = true ∨ q.IsDeserted :=
    Or.imp (closing_step h) (·.step h)
  cases h with
  | refuse hm hr' => exact hkeep ((hp.refuses hm hr').imp_right (·.2))
  | _ => exact hkeep (hp.refused hr)

theorem Staffed.step (hd : Distinct p.workers) (hp : Staffed s p) (h : Step p e q) :
    Staffed s q where
  settings := (settings_step h).trans hp.settings
  closed := by
    cases h with
    | closeSlots _ => exact fun _ => rfl
    | close _ => exact fun _ => rfl
    | _ => exact hp.closed
  dropped := dropped_step hp h
  size := Nat.le_trans (length_step h) hp.size
  left := left_step hd hp h
  ended := ended_step hp h
  refused := refused_after hp h

theorem Reachable.staffed (h : Reachable s p) : Staffed s p :=
  h.invariant staffed_start fun hr he hp => hp.step hr.accounted.distinct he

/-- A drained pool has nothing left to run, unless it is deserted. -/
theorem Reachable.queue_of_isDrained (h : Reachable s p) (hd : p.isDrained = true) :
    p.running = [] ∧ (p.queue = [] ∨ p.IsDeserted) := by
  have hs := h.staffed
  have ht : p.hasTakers = false := by simpa [isDrained] using hd
  refine ⟨running_of_hasTakers ht, ?_⟩
  by_cases hl : SomeLeft p.settings.workers p.workers
  · exact .inl (hs.left (hs.settings ▸ hl)).1
  · exact .inr (isDeserted_of_hasTakers (hs.settings ▸ hs.size) hl ht)

/-- **What a drained pool leaves behind.**  Once the monitor and all workers are gone, no task
runs, and each task that was started is finished or broke down.  All accepted tasks were started,
unless the pool is deserted: its monitor ended, at the signal or for want of an interval, and each
of its workers broke down.  A deserted pool is drained, and the tasks in its queue are never
started. -/
theorem drained_left_queue (h : Reachable s p) :
    (p.isDrained = true →
      p.running = [] ∧ p.started ++ p.queue = p.accepted ∧
        p.started.Perm (p.finished ++ p.panicked) ∧
        (p.queue = [] ∧ p.started = p.accepted ∨
          p.IsDeserted ∧ (p.signalled = true ∨ s.interval = 0))) ∧
    (p.IsDeserted → p.isDrained = true ∧ ∀ events q, p.after? events = some q →
      q.IsDeserted ∧ q.queue = p.queue ∧ q.started = p.started) := by
  have ha := h.accounted
  have hs := h.staffed
  refine ⟨fun hd => ?_, fun hp => ⟨hp.isDrained, fun _ _ => hp.after?⟩⟩
  have ht : p.hasTakers = false := by simpa [isDrained] using hd
  have hrun := running_of_hasTakers ht
  have hstarted := ha.started
  rw [hrun, List.nil_append] at hstarted
  refine ⟨hrun, ha.accepted, hstarted, ?_⟩
  -- whoever left saw the queue empty and closed; if nobody did, all broke down
  by_cases hl : SomeLeft p.settings.workers p.workers
  · have hq := (hs.left (hs.settings ▸ hl)).1
    refine .inl ⟨hq, ?_⟩
    rw [← ha.accepted, hq, List.append_nil]
  · have hp := isDeserted_of_hasTakers (hs.settings ▸ hs.size) hl ht
    exact .inr ⟨hp, hs.ended hp.1⟩

/-- The pool is told to close and to stop while its only worker runs task 1; the worker breaks
down, and task 2 is left. -/
theorem drained_left_queue_broken :
    ∃ p : Pool Nat, Reachable ⟨1, 2, 5⟩ p ∧ p.closed = true ∧ p.isDrained = true ∧
      p.accepted = [1, 2] ∧ p.panicked = [1] ∧ p.queue = [2] ∧ p.running = [] ∧ p.IsDeserted := by
  obtain ⟨p, hp, hf⟩ := exists_reachable (s := ⟨1, 2, 5⟩) (a := (true, true, [1, 2], [1], [2]))
    (fun p : Pool Nat => (p.closed, p.isDrained, p.accepted, p.panicked, p.queue))
    [.push 1, .grant, .enqueue 1, .push 2, .grant, .enqueue 2, .watch, .take 0, .closeSlots, .close,
      .signal, .dismiss, .panic 0 .value] (by decide +kernel)
  simp only [Prod.mk.injEq] at hf
  obtain ⟨hclosed, hdrained, haccepted, hpanicked, hqueue⟩ := hf
  obtain ⟨hrunning, -, -, hrest⟩ := (drained_left_queue hp).1 hdrained
  refine ⟨p, hp, hclosed, hdrained, haccepted, hpanicked, hqueue, hrunning, ?_⟩
  obtain ⟨hempty, -⟩ | ⟨hdeserted, -⟩ := hrest
  · cases hqueue.symm.trans hempty
  · exact hdeserted

/-- While all slots of an open pool are taken, a push stays in line until it is abandoned. -/
theorem waiting_step {task : τ} (hc : p.closing = false) (hf : p.free = 0) (ht : task ∈ p.waiting)
    (h : Step p e q) (hne : e ≠ .abandon .waiting task) : task ∈ q.waiting := by
  cases h with
  | push _ => exact List.mem_append_left _ ht
  | @abandon stage task' _ =>
    cases stage with
    | waiting =>
      have hother : task ≠ task' := fun heq => hne (by rw [heq])
      exact (List.mem_erase_of_ne hother).mpr ht
    | granted => exact ht
  | grant _ _ hpos => omega
  | @refuse stage _ _ hr =>
    cases stage with
    | waiting => simp [Pool.refuses, hc] at hr
    | granted => exact ht
  | _ => exact ht

/-- **Who is refused.**  A push in line is refused just when the pool was told to close, and one
that has a slot just when the pool was told to close or is deserted.  So if any push failed, the
pool was told to close before or is deserted, and while all slots of an open pool are taken, a
push stays in line until it is abandoned. -/
theorem refuse_iff (h : Reachable s p) :
    (∀ stage task, (∃ q, p.step? (.refuse stage task) = some q) ↔
      task ∈ p.pushes stage ∧ (p.closing = true ∨ stage = .granted ∧ p.IsDeserted)) ∧
    (p.refused ≠ [] → p.closing = true ∨
      p.IsDeserted ∧ (p.signalled = true ∨ s.interval = 0)) ∧
    (p.closing = false → p.free = 0 → ∀ task ∈ p.waiting, ∀ e q, p.step? e = some q →
      e ≠ .abandon .waiting task → task ∈ q.waiting) := by
  have hs := h.staffed
  refine ⟨fun stage task => ⟨?_, ?_⟩, fun hr => ?_,
    fun hc hf task ht e q he => waiting_step hc hf ht (.of_step? he)⟩
  · rintro ⟨q, hq⟩
    cases Step.of_step? hq with
    | refuse hm hr => exact ⟨hm, hs.refuses hm hr⟩
  · rintro ⟨hm, hr⟩
    refine ⟨_, step?_eq_some_iff.mpr (.refuse hm ?_)⟩
    obtain hc | ⟨rfl, hd⟩ := hr
    · cases stage <;> simp [Pool.refuses, hc]
    · exact hd.refuses
  · exact (hs.refused hr).imp_right fun hd => ⟨hd, hs.ended hd.1⟩

/-- Nobody told the pool to close, but after the signal its only worker breaks down, and the next
push is refused. -/
theorem refuse_iff_broken :
    ∃ p : Pool Nat, Reachable ⟨1, 2, 5⟩ p ∧ p.closing = false ∧ p.refused = [2] ∧ p.IsDeserted := by
  obtain ⟨p, hp, hf⟩ := exists_reachable (s := ⟨1, 2, 5⟩) (a := (false, [2]))
    (fun p : Pool Nat => (p.closing, p.refused))
    [.watch, .signal, .dismiss, .push 1, .grant, .enqueue 1, .take 0, .panic 0 .value, .push 2,
      .grant, .refuse .granted 2] (by decide +kernel)
  simp only [Prod.mk.injEq] at hf
  obtain ⟨hclosing, hrefused⟩ := hf
  refine ⟨p, hp, hclosing, hrefused, ?_⟩
  obtain hc | ⟨hd, -⟩ := (refuse_iff hp).2.1 (by rw [hrefused]; exact List.cons_ne_nil _ _)
  · cases hclosing.symm.trans hc
  · exact hd

end Thumbnailer.Pool
