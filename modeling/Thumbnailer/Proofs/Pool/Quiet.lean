/-
Nothing in a pool waits for what is there.

Slots are given, tasks are taken, and pushes learn that the pool closed, without anybody outside and
without time.  A pool in which no such thing can happen is quiet: it waits for a task to end, for the
monitor's next round, or for somebody to push, to give up or to close it.  Whoever waits in a quiet
pool waits with reason, and a pool always becomes quiet, since each thing that happens on its own
leaves less to happen.

* **`isOwn`**, **`IsQuiet`** — what happens on its own, and the pools in which nothing does;
* **`isQuiet_iff`** — these are the pools for which `next?` has no answer, between two rounds;
* **`unrest`**, **`unrest_lt`** — how much can happen on its own at most, and that it becomes less;
* **`Reachable.exists_isQuiet`** — every pool becomes quiet;
* **`IsQuiet.waiting`**, **`IsQuiet.running`** — why a push waits, and why a task does;
* **`quiet_busy`** — nothing waits in a quiet pool while a slot or a worker is free.
-/
import Mathlib.Algebra.GroupWithZero.Nat
import Mathlib.Logic.Relation
import Thumbnailer.Proofs.Pool.Replacement
import Thumbnailer.Proofs.Pool.Slots

namespace Thumbnailer.Pool

open Relation (ReflTransGen)

variable {τ : Type} {s : Settings} {p q : Pool τ} {e : Event τ}

/-! ### What happens on its own -/

/-- Whether an event needs neither time nor anybody outside.  A round of the monitor needs time to
begin; once it began, it goes on. -/
def isOwn (p : Pool τ) : Event τ → Bool
  | .grant => true
  | .enqueue _ => true
  | .refuse _ _ => true
  | .take _ => true
  | .leave _ => true
  | .watch => true
  | .dismiss => true
  | .look => p.monitor != .watching
  | _ => false

section
variable [DecidableEq τ]

/-- Something happens on its own. -/
def Stirs (p q : Pool τ) : Prop := ∃ e, p.isOwn e = true ∧ p.step? e = some q

/-- Nothing can happen on its own. -/
def IsQuiet (p : Pool τ) : Prop := ∀ e, p.isOwn e = true → p.step? e = none

theorem IsQuiet.not_step (hq : p.IsQuiet) (he : p.isOwn e = true) : ¬ Step p e q := by
  intro h
  have hsome := step?_eq_some_iff.mpr h
  rw [hq e he] at hsome
  cases hsome

/-! ### The events that are tried -/

theorem next?_eq_none_iff : p.next? = none ↔ ∀ f ∈ p.internal, p.step? f = none := by
  rw [next?, List.findSome?_eq_none_iff]
  simp only [Option.map_eq_none_iff]

omit [DecidableEq τ] in
theorem isOwn_of_mem (h : e ∈ p.internal) : p.isOwn e = true := by
  simp only [internal, List.mem_append, List.mem_cons, List.mem_map, List.mem_flatMap,
    List.not_mem_nil, or_false] at h
  obtain (((((rfl | rfl) | ⟨_, _, rfl⟩) | ⟨_, _, rfl⟩) | rfl) | ⟨_, _, rfl⟩) | ⟨_, _, rfl | rfl⟩ := h <;>
    rfl

omit [DecidableEq τ] in
theorem mem_internal_of_idle {worker : Nat} (ha : p.activity? worker = some .idle) :
    .take worker ∈ p.internal ∧ .leave worker ∈ p.internal := by
  obtain ⟨w, hw, hidle⟩ := Option.map_eq_some_iff.mp ha
  have hid : w.id = worker := by simpa using List.find?_some hw
  have hmem : w ∈ p.live.filter (·.activity.task?.isNone) := by
    simp [live, List.mem_of_find?_eq_some hw, hidle, Activity.isLive, Activity.task?]
  constructor <;>
  · refine List.mem_append_right _ (List.mem_flatMap.mpr ⟨w, hmem, ?_⟩)
    simp [hid]

/-- If anything but a look can happen on its own, then something that is tried. -/
theorem exists_mem_internal (h : Step p e q) (he : p.isOwn e = true) (hlook : e ≠ .look) :
    ∃ f ∈ p.internal, ∃ r, Step p f r := by
  cases h with
  | grant hw hc hf => exact ⟨.grant, by simp [internal], _, .grant hw hc hf⟩
  | @enqueue task hm ho hr =>
    -- the first that has a slot can put its task into the queue as well
    obtain ⟨first, rest, hg⟩ := List.exists_cons_of_ne_nil (List.ne_nil_of_mem hm)
    exact ⟨.enqueue first, by simp [internal, hg], _, .enqueue (by simp [hg]) ho hr⟩
  | @refuse stage task hm hr =>
    obtain ⟨first, rest, hg⟩ := List.exists_cons_of_ne_nil (List.ne_nil_of_mem hm)
    refine ⟨.refuse stage first, ?_, _, .refuse (by simp [hg]) hr⟩
    cases stage with
    | waiting =>
      have hg : p.waiting = first :: rest := hg
      simp [internal, hg]
    | granted =>
      have hg : p.granted = first :: rest := hg
      simp [internal, hg]
  | take ha hq => exact ⟨_, (mem_internal_of_idle ha).1, _, .take ha hq⟩
  | leave ha hq hc => exact ⟨_, (mem_internal_of_idle ha).2, _, .leave ha hq hc⟩
  | watch hm => exact ⟨.watch, by simp [internal], _, .watch hm⟩
  | dismiss hm hs => exact ⟨.dismiss, by simp [internal], _, .dismiss hm hs⟩
  | beginRound _ => exact absurd rfl hlook
  | look _ _ => exact absurd rfl hlook
  | endRound _ _ => exact absurd rfl hlook
  | _ => cases he

/-- A pool is quiet if the events that are tried one after another can not happen, and no round is
under way. -/
theorem isQuiet_iff : p.IsQuiet ↔ p.next? = none ∧ ∀ i, p.monitor ≠ .looking i := by
  rw [next?_eq_none_iff]
  constructor
  · intro hq
    refine ⟨fun f hf => hq f (isOwn_of_mem hf), fun i hm => ?_⟩
    have he : p.isOwn .look = true := by simp [isOwn, hm]
    by_cases hi : i < p.workers.length
    · exact hq.not_step he (.look hm hi)
    · exact hq.not_step he (.endRound hm (Nat.not_lt.mp hi))
  · rintro ⟨hnone, hm⟩ e he
    by_contra hsome
    obtain ⟨q, hq⟩ := Option.ne_none_iff_exists'.mp hsome
    have hstep := Step.of_step? hq
    by_cases hlook : e = .look
    · subst hlook
      cases hstep with
      | beginRound hw => simp [isOwn, hw] at he
      | look hl _ => exact hm _ hl
      | endRound hl _ => exact hm _ hl
    · obtain ⟨f, hf, r, hr⟩ := exists_mem_internal hstep he hlook
      have hsome := step?_eq_some_iff.mpr hr
      rw [hnone f hf] at hsome
      cases hsome

end

/-! ### Becoming quiet -/

/-- How much a worker can do on its own: take a task or leave, or be replaced and do so. -/
def Activity.unrest : Activity τ → Nat
  | idle => 1
  | panicked _ => 1
  | _ => 0

/-- How much the monitor can do on its own: begin to watch, finish its round, and end. -/
def Monitor.unrest (workers : Nat) : Monitor → Nat
  | starting => 2
  | watching => 1
  | looking i => workers - i + 2
  | ended => 0

def workersUnrest (workers : List (Worker τ)) : Nat := (workers.map (·.activity.unrest)).sum

/-- How much can happen on its own at most: a push gets a slot, its task enters the queue and is
taken. -/
def unrest (p : Pool τ) : Nat :=
  3 * p.waiting.length + 2 * p.granted.length + p.queue.length + workersUnrest p.workers +
    p.monitor.unrest p.workers.length

theorem workersUnrest_split (l r : List (Worker τ)) (w : Worker τ) :
    workersUnrest (l ++ w :: r) = workersUnrest l + w.activity.unrest + workersUnrest r := by
  simp only [workersUnrest, List.map_append, List.map_cons, List.sum_append, List.sum_cons]
  omega

theorem workersUnrest_setActivity {worker : Nat} {b : Activity τ} (hd : Distinct p.workers)
    (ha : p.activity? worker = some .idle) (hb : b.unrest = 0) :
    workersUnrest (p.setActivity worker b).workers + 1 = workersUnrest p.workers := by
  obtain ⟨l, r, hs, hset⟩ := exists_split hd ha
  rw [hset, hs, workersUnrest_split, workersUnrest_split, hb]
  show _ + 0 + _ + 1 = _ + 1 + _
  omega

theorem Tended.workersUnrest_le {ws ws' : List (Worker τ)} (h : Tended ws ws') :
    workersUnrest ws' ≤ workersUnrest ws := by
  cases h with
  | kept => exact Nat.le_refl _
  | removed id hp =>
    rw [workersUnrest, workersUnrest, (hp.map _).sum_nat, List.map_cons, List.sum_cons]
    exact Nat.le_add_left _ _
  | replaced l r id cause =>
    rw [workersUnrest_split, workersUnrest_split]
    exact Nat.le_refl _

section
variable [DecidableEq τ]

/-- Each thing that happens on its own leaves less to happen. -/
theorem unrest_lt (hd : Distinct p.workers) (h : p.Stirs q) : q.unrest < p.unrest := by
  obtain ⟨e, he, hq⟩ := h
  cases Step.of_step? hq with
  | grant hw _ _ =>
    simp only [unrest, hw, List.length_append, List.length_cons, List.length_nil]
    omega
  | enqueue hm _ _ =>
    have hpos := List.length_pos_of_mem hm
    simp only [unrest, List.length_append, List.length_cons, List.length_nil,
      List.length_erase_of_mem hm]
    omega
  | @refuse stage task hm _ =>
    have hpos := List.length_pos_of_mem hm
    have hone := List.length_erase_of_mem hm
    cases stage with
    | waiting =>
      simp only [pushes] at hpos hone
      simp only [unrest, withdraw, if_true, reduceCtorEq, if_false, hone]
      omega
    | granted =>
      simp only [pushes] at hpos hone
      simp only [unrest, withdraw, if_true, reduceCtorEq, if_false, hone]
      omega
  | @take worker task rest ha hqueue =>
    have hworkers := workersUnrest_setActivity (b := .running task) hd ha rfl
    have hlength := length_setActivity (p := p) worker (.running task)
    simp only [unrest, hqueue, List.length_cons, hlength]
    show 3 * p.waiting.length + 2 * p.granted.length + _ + _ + p.monitor.unrest _ < _
    omega
  | @leave worker ha hqueue _ =>
    have hworkers := workersUnrest_setActivity (b := .gone) hd ha rfl
    have hlength := length_setActivity (p := p) worker .gone
    simp only [unrest, hlength]
    show 3 * p.waiting.length + 2 * p.granted.length + p.queue.length + _ + p.monitor.unrest _ < _
    omega
  | watch hm =>
    have hless : (if p.settings.interval = 0 then Monitor.ended else .watching).unrest
        p.workers.length < p.monitor.unrest p.workers.length := by
      rw [hm]
      split <;> simp [Monitor.unrest]
    simp only [unrest]
    omega
  | dismiss hm _ =>
    simp only [unrest, hm, Monitor.unrest]
    omega
  | beginRound hm => simp [isOwn, hm] at he
  | @look i hm hi =>
    have hworkers := (tended_lookAt p.workers i).workersUnrest_le
    have hnearer := lookAt_decreases hi
    simp only [unrest, hm, Monitor.unrest]
    omega
  | endRound hm _ =>
    simp only [unrest, hm, Monitor.unrest]
    omega
  | _ => cases he

theorem Stirs.reachable (h : Reachable s p) (hpq : p.Stirs q) : Reachable s q := by
  obtain ⟨e, -, he⟩ := hpq
  exact h.next e he

/-- Every pool becomes quiet. -/
theorem Reachable.exists_isQuiet (h : Reachable s p) :
    ∃ q : Pool τ, ReflTransGen Stirs p q ∧ q.IsQuiet := by
  induction hn : p.unrest using Nat.strongRecOn generalizing p with
  | ind n ih =>
    by_cases hquiet : p.IsQuiet
    · exact ⟨p, .refl, hquiet⟩
    · simp only [IsQuiet, not_forall] at hquiet
      obtain ⟨e, he, hsome⟩ := hquiet
      obtain ⟨q, hq⟩ := Option.ne_none_iff_exists'.mp hsome
      have hpq : p.Stirs q := ⟨e, he, hq⟩
      have hless := unrest_lt h.accounted.distinct hpq
      obtain ⟨r, hqr, hr⟩ := ih q.unrest (hn ▸ hless) (hpq.reachable h) rfl
      exact ⟨r, .head hpq hqr, hr⟩

/-! ### Who waits in a quiet pool -/

/-- Whoever has a slot has something to do. -/
theorem IsQuiet.granted_eq_nil (hq : p.IsQuiet) (h : Reachable s p) : p.granted = [] := by
  by_contra hne
  obtain ⟨task, ht⟩ := List.exists_mem_of_ne_nil _ hne
  obtain ⟨q, hstep⟩ := h.enqueue_or_refuse ht
  rw [hq] at hstep
  · cases hstep
  · split <;> rfl

/-- A push waits for a slot of an open pool, and all of them are taken. -/
theorem IsQuiet.waiting (hq : p.IsQuiet) (h : Reachable s p) (hw : p.waiting ≠ []) :
    p.closing = false ∧ (p.queue ++ p.running).length = s.slots := by
  obtain ⟨task, rest, hw⟩ := List.exists_cons_of_ne_nil hw
  have hclosing : p.closing = false := by
    cases hc : p.closing with
    | false => rfl
    | true =>
      have hm : task ∈ p.pushes .waiting := by simp [pushes, hw]
      exact (hq.not_step rfl (.refuse hm hc)).elim
  have hfree : ¬ 0 < p.free := fun hf => hq.not_step rfl (.grant hw hclosing hf)
  have hslots := h.free_eq
  rw [held, hq.granted_eq_nil h, List.nil_append] at hslots
  exact ⟨hclosing, by omega⟩

/-- A task waits for a worker, and all of them are busy. -/
theorem IsQuiet.running (hq : p.IsQuiet) (h : Reachable s p) (hqueue : p.queue ≠ [])
    {w : Worker τ} (hw : w ∈ p.live) : ∃ task, w.activity = .running task := by
  obtain ⟨task, rest, hqueue⟩ := List.exists_cons_of_ne_nil hqueue
  obtain ⟨hmem, hlive⟩ := List.mem_filter.mp hw
  cases ha : w.activity with
  | running task => exact ⟨task, rfl⟩
  | idle =>
    have hidle : p.activity? w.id = some .idle :=
      (activityOf_eq_some_iff h.accounted.distinct).mpr (ha ▸ hmem)
    exact (hq.not_step rfl (.take hidle hqueue)).elim
  | gone => simp [ha, Activity.isLive] at hlive
  | panicked cause => simp [ha, Activity.isLive] at hlive

/-- **Nothing waits for what is there.**  In a quiet pool, a push waits only for a slot: the pool was
not told to close, and all its slots are held by tasks that are queued or run.  A task waits in its
queue only for a worker: every one that lives runs another task.  From any state, the pool becomes
quiet if only what happens on its own happens, in whatever order, since each such event leaves less
to happen; and it is quiet just if nothing that is tried can happen and no round is under way. -/
theorem quiet_busy (h : Reachable s p) :
    (p.IsQuiet →
      (p.waiting ++ p.granted ≠ [] → p.closing = false ∧ p.closed = false ∧
        (p.queue ++ p.running).length = s.slots) ∧
      (p.queue ≠ [] → ∀ w ∈ p.live, ∃ task, w.activity = .running task)) ∧
    (∃ q : Pool τ, ReflTransGen Stirs p q ∧ q.IsQuiet) ∧
    (∀ q, p.Stirs q → q.unrest < p.unrest) ∧
    (p.IsQuiet ↔ p.next? = none ∧ ∀ i, p.monitor ≠ .looking i) := by
  refine ⟨fun hq => ⟨fun hw => ?_, fun hqueue w hw => hq.running h hqueue hw⟩, h.exists_isQuiet,
    fun q => unrest_lt h.accounted.distinct, isQuiet_iff⟩
  rw [hq.granted_eq_nil h, List.append_nil] at hw
  obtain ⟨hclosing, hslots⟩ := hq.waiting h hw
  refine ⟨hclosing, ?_, hslots⟩
  cases hc : p.closed with
  | false => rfl
  | true => cases hclosing.symm.trans (h.staffed.closed hc)

/-- The worker that came for the one that broke down with task 1 runs task 2, task 3 has the other
slot, and task 5 is first in line since the push of task 4 was given up with a slot in hand. -/
theorem quiet_busy_replaced :
    ∃ p : Pool Nat, Reachable ⟨1, 2, 5⟩ p ∧ p.IsQuiet ∧ p.panicked = [1] ∧ p.abandoned = [4] ∧
      p.waiting = [5] ∧ p.queue = [3] ∧ (p.queue ++ p.running).length = 2 ∧
      ∀ w ∈ p.live, ∃ task, w.activity = .running task := by
  obtain ⟨p, hp, hf⟩ := exists_reachable (s := ⟨1, 2, 5⟩)
    (a := ([[1], [4], [5], [3]], Monitor.watching, true))
    (fun p : Pool Nat =>
      ([p.panicked, p.abandoned, p.waiting, p.queue], p.monitor, p.next?.isNone))
    [.push 1, .grant, .enqueue 1, .push 2, .grant, .enqueue 2, .watch, .take 0, .panic 0 .value,
      .push 4, .grant, .abandon .granted 4, .push 3, .grant, .enqueue 3, .push 5, .round, .take 0]
    (by decide +kernel)
  simp only [Prod.mk.injEq, List.cons.injEq, and_true] at hf
  obtain ⟨⟨hpanicked, habandoned, hwaiting, hqueue⟩, hmonitor, hnext⟩ := hf
  obtain ⟨hbusy, -, -, hquiet⟩ := quiet_busy hp
  have hq : p.IsQuiet :=
    hquiet.mpr ⟨Option.isNone_iff_eq_none.mp hnext, fun i hi => by cases hmonitor.symm.trans hi⟩
  obtain ⟨hslots, hworkers⟩ := hbusy hq
  exact ⟨p, hp, hq, hpanicked, habandoned, hwaiting, hqueue, (hslots (by simp [hwaiting])).2.2,
    hworkers (by simp [hqueue])⟩

end

end Thumbnailer.Pool
