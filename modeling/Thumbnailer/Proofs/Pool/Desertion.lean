/-
Pools that lose all their workers.

The workers of a pool may break down one after another before the monitor looks at them, and the
signal may end the monitor first.  So whatever its size, a pool can be deserted, with tasks in its
queue or with a push that is refused although nobody told the pool to close.

* **`Worn`** — the first workers of an otherwise idle pool broke down;
* **`exists_drained_queue`** — a pool that was told to close may drain with a task left;
* **`exists_refused_open`** — a pool that nobody told to close may refuse a push.
-/
import Thumbnailer.Proofs.Pool.Drain

namespace Thumbnailer.Pool

variable {τ : Type} {s : Settings} {p q : Pool τ}

theorem activity?_range {n k : Nat} (f : Nat → Activity τ)
    (hw : p.workers = (List.range n).map fun i => ⟨i, f i⟩) (hk : k < n) :
    p.activity? k = some (f k) := by
  have hfind : (List.range n).find? (· == k) = some k := by
    rw [List.find?_range_eq_some]
    refine ⟨by simp, List.mem_range.mpr hk, fun j hj => ?_⟩
    simp only [Bool.not_eq_true', beq_eq_false_iff_ne]
    omega
  simp only [activity?, hw, List.find?_map, Function.comp_def, hfind, Option.map_some]

theorem setActivity_range {n : Nat} (f : Nat → Activity τ)
    (hw : p.workers = (List.range n).map fun i => ⟨i, f i⟩) (k : Nat) (b : Activity τ) :
    (p.setActivity k b).workers
      = (List.range n).map fun i => ⟨i, if i = k then b else f i⟩ := by
  rw [setActivity, hw, List.map_map]
  refine List.map_congr_left fun i _ => ?_
  by_cases hi : i = k <;> simp [hi]

variable [DecidableEq τ]

/-- A pool without pushes under way, in which the first `k` workers broke down before the monitor
began to watch, and the others wait for a task. -/
structure Worn (s : Settings) (k : Nat) (p : Pool τ) : Prop where
  reachable : Reachable s p
  free : p.free = s.slots
  waiting : p.waiting = []
  granted : p.granted = []
  queue : p.queue = []
  workers : p.workers = (List.range s.workers).map fun i =>
    ⟨i, if i < k then .panicked .value else .idle⟩
  monitor : p.monitor = .starting
  closing : p.closing = false
  closed : p.closed = false
  dropped : p.dropped = false
  refused : p.refused = []

/-- A task goes straight into the queue of an open pool that has a slot for it. -/
theorem Reachable.accept (h : Reachable s p) (task : τ) (hw : p.waiting = [])
    (hg : p.granted = []) (hf : 0 < p.free) (hc : p.closing = false) (ho : p.isOpen = true)
    (hr : p.queue.length < p.settings.slots) :
    Reachable s { p with
      pushed := p.pushed ++ [task], free := p.free - 1, queue := p.queue ++ [task]
      accepted := p.accepted ++ [task] } := by
  have hd : p.dropped = false := by
    simp only [isOpen, Bool.and_eq_true, Bool.not_eq_true'] at ho
    exact ho.1.2
  have hpush := h.step (@Step.push τ _ _ task hd)
  rw [hw, List.nil_append] at hpush
  have hgrant := hpush.step (.grant rfl hc hf)
  rw [hg, List.nil_append] at hgrant
  have hqueue := hgrant.step (.enqueue (List.mem_singleton.mpr rfl) ho hr)
  simpa [hw, hg] using hqueue

theorem worn_start : Worn s 0 (start s : Pool τ) where
  reachable := .start
  free := rfl
  waiting := rfl
  granted := rfl
  queue := rfl
  workers := by simp [start]
  monitor := rfl
  closing := rfl
  closed := rfl
  dropped := rfl
  refused := rfl

theorem Worn.isOpen {k : Nat} (hp : Worn s k p) : p.isOpen = true := by
  simp [Pool.isOpen, hasTakers, hp.closed, hp.dropped, hp.monitor]

/-- The next worker takes a task and breaks down with it. -/
theorem Worn.next {k : Nat} (hp : Worn s k p) (hs : 0 < s.slots) (hk : k < s.workers) (task : τ) :
    ∃ q : Pool τ, Worn s (k + 1) q := by
  have hsettings := hp.reachable.staffed.settings
  have hqueued := hp.reachable.accept task hp.waiting hp.granted (by rw [hp.free]; exact hs)
    hp.closing hp.isOpen (by rw [hp.queue, hsettings]; exact hs)
  rw [hp.queue, List.nil_append] at hqueued
  have hidle : p.activity? k = some .idle := by
    rw [activity?_range _ hp.workers hk, if_neg (Nat.lt_irrefl k)]
  have htaken := hqueued.step (.take hidle rfl)
  have hwtaken := setActivity_range _ hp.workers k (.running task)
  have hrunning := (activity?_range _ hwtaken hk).trans (by rw [if_pos rfl])
  have hbroken := htaken.step (@Step.panic τ _ _ k .value task hrunning)
  have hwbroken := setActivity_range _ hwtaken k (.panicked .value)
  refine ⟨_, {
    reachable := hbroken
    free := ?_
    waiting := hp.waiting
    granted := hp.granted
    queue := rfl
    workers := ?_
    monitor := hp.monitor
    closing := hp.closing
    closed := hp.closed
    dropped := hp.dropped
    refused := hp.refused }⟩
  · show p.free - 1 + 1 = s.slots
    rw [hp.free]
    omega
  · -- the workers before it are as they were, and so are those behind it
    refine hwbroken.trans (List.map_congr_left fun i _ => ?_)
    obtain hi | rfl | hi := Nat.lt_trichotomy i k
    · simp [hi, Nat.ne_of_lt hi, Nat.lt_succ_of_lt hi]
    · simp
    · have hle : ¬ i ≤ k := by omega
      have hlt : ¬ i < k + 1 := by omega
      simp [hlt, Nat.ne_of_gt hi, Nat.not_lt_of_gt hi]

theorem exists_worn (hs : 0 < s.slots) (task : τ) {k : Nat} (hk : k ≤ s.workers) :
    ∃ p : Pool τ, Worn s k p := by
  induction k with
  | zero => exact ⟨start s, worn_start⟩
  | succ k ih =>
    obtain ⟨p, hp⟩ := ih (by omega)
    exact hp.next hs hk task

/-- Once all workers broke down, the pool lacks only the end of its monitor to be deserted. -/
theorem Worn.isDeserted (hp : Worn s s.workers p) (hw : q.workers = p.workers)
    (hq : q.settings = s) (hm : q.monitor = .ended) : q.IsDeserted := by
  refine ⟨hm, by simp [hw, hp.workers, hq], fun w hmem => ?_⟩
  rw [hw, hp.workers] at hmem
  obtain ⟨i, hi, rfl⟩ := List.mem_map.mp hmem
  simp [List.mem_range.mp hi, Activity.isBroken]

/-- The signal ends a monitor that did not begin to watch. -/
theorem Reachable.dismiss (h : Reachable s p) (hm : p.monitor = .starting) :
    Reachable s { p with signalled := true, monitor := .ended } := by
  have hwatch := (h.step .signal).step (.watch hm)
  by_cases hi : p.settings.interval = 0
  · simpa [hi] using hwatch
  · simp only [hi, if_false] at hwatch
    exact hwatch.step (.dismiss rfl rfl)

/-- Every pool that has a slot may drain with a task left in its queue. -/
theorem exists_drained_queue (hs : 0 < s.slots) (task : τ) :
    ∃ p : Pool τ, Reachable s p ∧ p.closing = true ∧ p.isDrained = true ∧ p.queue = [task] := by
  obtain ⟨p, hp⟩ := exists_worn hs task (Nat.le_refl s.workers)
  have hsettings := hp.reachable.staffed.settings
  -- the task is queued while the monitor is still there, which then ends
  have hqueued := hp.reachable.accept task hp.waiting hp.granted (by rw [hp.free]; exact hs)
    hp.closing hp.isOpen (by rw [hp.queue, hsettings]; exact hs)
  rw [hp.queue, List.nil_append] at hqueued
  refine ⟨_, (hqueued.step (.close hp.dropped)).dismiss hp.monitor, rfl, ?_, rfl⟩
  exact IsDeserted.isDrained (hp.isDeserted rfl hsettings rfl)

/-- Every pool that has a slot may refuse a push although nobody told it to close. -/
theorem exists_refused_open (hs : 0 < s.slots) (task : τ) :
    ∃ p : Pool τ, Reachable s p ∧ p.closing = false ∧ p.refused = [task] := by
  obtain ⟨p, hp⟩ := exists_worn hs task (Nat.le_refl s.workers)
  have hsettings := hp.reachable.staffed.settings
  -- the monitor ends first, so the push finds the queue closed
  have hpushed := (hp.reachable.dismiss hp.monitor).step (@Step.push τ _ _ task hp.dropped)
  rw [hp.waiting, List.nil_append] at hpushed
  have hgranted := hpushed.step (.grant rfl hp.closing (by rw [hp.free]; exact hs))
  rw [hp.granted, List.nil_append] at hgranted
  have hrefused := hgranted.step
    (.refuse (List.mem_singleton.mpr rfl) (IsDeserted.refuses (hp.isDeserted rfl hsettings rfl)))
  exact ⟨_, hrefused, hp.closing, congrArg (· ++ [task]) hp.refused⟩

end Thumbnailer.Pool
