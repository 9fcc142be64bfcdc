/-
Which workers a pool has, and whom the monitor replaces.

The workers are numbered, and every number is taken at most once.  A worker takes a task, is done
with it or breaks down with it, or leaves; the monitor takes those that left off the list and puts a
fresh worker in the place of one that broke down.

* **`Tending`**, **`Turn`** — what the monitor, and what any event, may do to the worker of a number;
* **`Step.turn`**, **`Step.tending`** — an event does nothing else;
* **`HasLeft.after?`** — whoever left does not come back;
* **`Reachable.countP_restarts`** — there are as many replacements as breakdowns, less the broken
  workers that the monitor has not looked at yet;
* **`live_numbered`** — in every reachable state the live workers have different numbers below the
  size of the pool, and run one task each at most.
-/
import Thumbnailer.Proofs.Pool.Drain

namespace Thumbnailer.Pool

variable {τ : Type} {s : Settings} {p q : Pool τ} {e : Event τ}

/-! ### The worker of a number -/

/-- What the worker of a number does, among some workers. -/
def activityOf (workers : List (Worker τ)) (id : Nat) : Option (Activity τ) :=
  (workers.find? (·.id == id)).map (·.activity)

theorem activityOf_eq_some_iff {ws : List (Worker τ)} {id : Nat} {a : Activity τ}
    (hd : Distinct ws) : activityOf ws id = some a ↔ ⟨id, a⟩ ∈ ws := by
  constructor
  · intro h
    obtain ⟨w, hw, rfl⟩ := Option.map_eq_some_iff.mp h
    have hid : w.id = id := by simpa using List.find?_some hw
    subst hid
    exact List.mem_of_find?_eq_some hw
  · intro h
    cases hf : ws.find? (·.id == id) with
    | none =>
      have hne := List.find?_eq_none.mp hf _ h
      simp at hne
    | some w =>
      have hid : w.id = id := by simpa using List.find?_some hf
      -- two workers of one number are one worker
      have heq : w = ⟨id, a⟩ :=
        List.inj_on_of_nodup_map hd (List.mem_of_find?_eq_some hf) h hid
      rw [activityOf, hf, heq, Option.map_some]

theorem activityOf_eq_none {ws : List (Worker τ)} {id : Nat} (h : id ∉ ws.map (·.id)) :
    activityOf ws id = none := by
  rw [activityOf, Option.map_eq_none_iff, List.find?_eq_none]
  intro w hw hid
  exact h (beq_iff_eq.mp hid ▸ List.mem_map_of_mem hw)

/-- Lists with the same workers of a number agree on what it does. -/
theorem activityOf_congr {ws ws' : List (Worker τ)} {id : Nat} (hd : Distinct ws)
    (hd' : Distinct ws') (h : ∀ a, ⟨id, a⟩ ∈ ws ↔ ⟨id, a⟩ ∈ ws') :
    activityOf ws id = activityOf ws' id := by
  refine Option.ext fun a => ?_
  rw [activityOf_eq_some_iff hd, activityOf_eq_some_iff hd']
  exact h a

theorem activity?_setActivity {worker : Nat} {a : Activity τ} (h : p.activity? worker = some a)
    (b : Activity τ) (id : Nat) :
    (p.setActivity worker b).activity? id = if id = worker then some b else p.activity? id := by
  have hfind : (p.setActivity worker b).workers.find? (·.id == id)
      = (p.workers.find? (·.id == id)).map fun w =>
          if w.id == worker then ⟨w.id, b⟩ else w := by
    rw [setActivity, List.find?_map]
    congr 2
    funext w
    by_cases hw : w.id = worker <;> simp [hw]
  rw [activity?, hfind, Option.map_map]
  by_cases hid : id = worker
  · subst hid
    obtain ⟨w, hw, -⟩ := Option.map_eq_some_iff.mp h
    have hwid : w.id = id := by simpa using List.find?_some hw
    rw [if_pos rfl, hw]
    simp [hwid]
  · rw [if_neg hid, activity?]
    cases hf : p.workers.find? (·.id == id) with
    | none => rfl
    | some w =>
      have hwid : w.id = id := by simpa using List.find?_some hf
      simp [hwid, hid]

/-! ### What becomes of a worker -/

/-- What the monitor may do to the worker of a number: nothing, or take it off the list after it left,
or replace it after it broke down. -/
inductive Tending : Option (Activity τ) → Option (Activity τ) → Prop
  | same (a : Option (Activity τ)) : Tending a a
  | removed : Tending (some .gone) none
  | replaced (cause : Panic) : Tending (some (.panicked cause)) (some .idle)

/-- What may become of the worker of a number with one event. -/
inductive Turn : Option (Activity τ) → Option (Activity τ) → Prop
  | tended {a b : Option (Activity τ)} : Tending a b → Turn a b
  | taken (task : τ) : Turn (some .idle) (some (.running task))
  | finished (task : τ) : Turn (some (.running task)) (some .idle)
  | broken (task : τ) (cause : Panic) : Turn (some (.running task)) (some (.panicked cause))
  | left : Turn (some .idle) (some .gone)

theorem Tending.trans {a b c : Option (Activity τ)} (h : Tending a b) (h' : Tending b c) :
    Tending a c := by
  cases h with
  | same => exact h'
  | removed =>
    cases h'
    exact .removed
  | replaced cause =>
    cases h'
    exact .replaced cause

theorem Tended.tending {ws ws' : List (Worker τ)} (h : Tended ws ws') (hd : Distinct ws)
    (id : Nat) : Tending (activityOf ws id) (activityOf ws' id) := by
  have hd' := h.distinct hd
  cases h with
  | kept => exact .same _
  | removed i hp =>
    by_cases hi : id = i
    · subst hi
      have hgone : activityOf ws id = some .gone :=
        (activityOf_eq_some_iff hd).mpr (hp.mem_iff.mpr List.mem_cons_self)
      have hnone : activityOf ws' id = none :=
        activityOf_eq_none (List.nodup_cons.mp ((hp.map _).nodup_iff.mp hd)).1
      rw [hgone, hnone]
      exact .removed
    · have hsame : activityOf ws id = activityOf ws' id := by
        refine activityOf_congr hd hd' fun a => ?_
        rw [hp.mem_iff, List.mem_cons, Worker.mk.injEq]
        simp [hi]
      rw [hsame]
      exact .same _
  | replaced l r i cause =>
    by_cases hi : id = i
    · subst hi
      have hbroken : activityOf (l ++ ⟨id, .panicked cause⟩ :: r) id = some (.panicked cause) :=
        (activityOf_eq_some_iff hd).mpr (by simp)
      have hidle : activityOf (l ++ ⟨id, .idle⟩ :: r) id = some .idle :=
        (activityOf_eq_some_iff hd').mpr (by simp)
      rw [hbroken, hidle]
      exact .replaced cause
    · have hsame : activityOf (l ++ ⟨i, .panicked cause⟩ :: r) id
          = activityOf (l ++ ⟨i, .idle⟩ :: r) id :=
        activityOf_congr hd hd' fun a => by simp [hi]
      rw [hsame]
      exact .same _

theorem tending_sweep {ws : List (Worker τ)} (hd : Distinct ws) (id : Nat) :
    Tending (activityOf ws id) (activityOf (sweep ws).1 id) := by
  have hboth : Distinct (sweep ws).1 ∧ Tending (activityOf ws id) (activityOf (sweep ws).1 id) :=
    sweep_induction (P := fun ws' => Distinct ws' ∧ Tending (activityOf ws id) (activityOf ws' id))
      (fun ht hp => ⟨ht.distinct hp.1, hp.2.trans (ht.tending hp.1 id)⟩) ⟨hd, .same _⟩
  exact hboth.2

/-- Whether an event is the monitor's. -/
def Event.isMonitors : Event τ → Bool
  | .watch => true
  | .round => true
  | .look => true
  | .dismiss => true
  | _ => false

section
variable [DecidableEq τ]

/-- The monitor replaces only workers that broke down, and removes only workers that left. -/
theorem Step.tending (hd : Distinct p.workers) (h : Step p e q) (he : e.isMonitors = true)
    (id : Nat) : Tending (p.activity? id) (q.activity? id) := by
  cases h with
  | watch _ => exact .same _
  | round _ => exact tending_sweep hd id
  | beginRound _ => exact .same _
  | look _ _ => exact (tended_lookAt _ _).tending hd id
  | endRound _ _ => exact .same _
  | dismiss _ _ => exact .same _
  | _ => cases he

omit [DecidableEq τ] in
theorem turn_setActivity {worker : Nat} {a b : Activity τ} (ha : p.activity? worker = some a)
    (hab : Turn (some a) (some b)) (id : Nat) :
    Turn (p.activity? id) ((p.setActivity worker b).activity? id) := by
  rw [activity?_setActivity ha]
  by_cases hid : id = worker
  · subst hid
    rw [if_pos rfl, ha]
    exact hab
  · rw [if_neg hid]
    exact .tended (.same _)

theorem Step.turn (hd : Distinct p.workers) (h : Step p e q) (id : Nat) :
    Turn (p.activity? id) (q.activity? id) := by
  cases h with
  | take ha _ => exact turn_setActivity ha (.taken _) id
  | finish ha => exact turn_setActivity ha (.finished _) id
  | panic ha => exact turn_setActivity ha (.broken _ _) id
  | leave ha _ _ => exact turn_setActivity ha .left id
  | round _ => exact .tended (tending_sweep hd id)
  | look _ _ => exact .tended ((tended_lookAt _ _).tending hd id)
  | _ => exact .tended (.same _)

end

/-- The worker of a number left: it is still on the list as such, or it is not there any more. -/
def HasLeft (p : Pool τ) (id : Nat) : Prop := p.activity? id = some .gone ∨ p.activity? id = none

theorem HasLeft.of_turn {id : Nat} (h : p.HasLeft id)
    (ht : Turn (p.activity? id) (q.activity? id)) : q.HasLeft id := by
  obtain hgone | hnone := h
  · rw [hgone] at ht
    generalize hb : q.activity? id = b at ht
    cases ht with
    | tended ht =>
      cases ht with
      | same => exact .inl hb
      | removed => exact .inr hb
  · rw [hnone] at ht
    generalize hb : q.activity? id = b at ht
    cases ht with
    | tended ht =>
      cases ht with
      | same => exact .inr hb

section
variable [DecidableEq τ]

/-- Whoever left does not come back, whatever happens. -/
theorem HasLeft.after? {id : Nat} {events : List (Event τ)} (hd : Distinct p.workers)
    (h : p.HasLeft id) (hq : p.after? events = some q) : q.HasLeft id := by
  have hboth : Distinct q.workers ∧ q.HasLeft id :=
    after?_induction (P := fun r => Distinct r.workers ∧ r.HasLeft id)
      (fun he hr => ⟨distinct_step hr.1 he, hr.2.of_turn (he.turn hr.1 id)⟩) hq ⟨hd, h⟩
  exact hboth.2

end

/-! ### How many workers there are -/

/-- The numbers of some workers are different and below `count`. -/
def Numbered (count : Nat) (workers : List (Worker τ)) : Prop :=
  Distinct workers ∧ ∀ w ∈ workers, w.id < count

theorem numbered_iff {count : Nat} {ws : List (Worker τ)} :
    Numbered count ws ↔ Distinct ws ∧ ws.map (·.id) ⊆ List.range count := by
  refine and_congr_right fun _ => ?_
  rw [List.subset_def]
  simp

theorem Numbered.length_le {count : Nat} {ws : List (Worker τ)} (h : Numbered count ws) :
    ws.length ≤ count := by
  obtain ⟨hd, hsub⟩ := numbered_iff.mp h
  have hle := (List.subperm_of_subset hd hsub).length_le
  rwa [List.length_map, List.length_range] at hle

theorem Numbered.sublist {count : Nat} {ws ws' : List (Worker τ)} (h : Numbered count ws)
    (hs : ws'.Sublist ws) : Numbered count ws' :=
  ⟨h.1.sublist (hs.map _), fun w hw => h.2 w (hs.subset hw)⟩

theorem Tended.ids_subset {ws ws' : List (Worker τ)} (h : Tended ws ws') :
    ws'.map (·.id) ⊆ ws.map (·.id) := by
  cases h with
  | kept => exact List.Subset.refl _
  | removed id hp =>
    intro i hi
    rw [(hp.map _).mem_iff]
    exact List.mem_cons_of_mem _ hi
  | replaced l r id cause => simp

theorem Tended.numbered {count : Nat} {ws ws' : List (Worker τ)} (h : Tended ws ws')
    (hn : Numbered count ws) : Numbered count ws' := by
  rw [numbered_iff] at hn ⊢
  exact ⟨h.distinct hn.1, List.Subset.trans h.ids_subset hn.2⟩

theorem numbered_setActivity {count : Nat} (worker : Nat) (b : Activity τ)
    (hn : Numbered count p.workers) : Numbered count (p.setActivity worker b).workers := by
  refine ⟨distinct_setActivity worker b hn.1, fun w hw => ?_⟩
  obtain ⟨v, hv, rfl⟩ := List.mem_map.mp hw
  have hlt := hn.2 v hv
  split <;> exact hlt

theorem length_tasksOf_le (ws : List (Worker τ)) :
    (tasksOf ws).length ≤ (ws.filter (·.activity.isLive)).length := by
  induction ws with
  | nil => simp [tasksOf]
  | cons w ws ih =>
    cases ha : w.activity with
    | running task => simpa [tasksOf, ha, Activity.task?, Activity.isLive] using ih
    | idle =>
      have hle := Nat.le_succ_of_le ih
      simpa [tasksOf, ha, Activity.task?, Activity.isLive] using hle
    | gone => simpa [tasksOf, ha, Activity.task?, Activity.isLive] using ih
    | panicked cause => simpa [tasksOf, ha, Activity.task?, Activity.isLive] using ih

/-- A number stands for one worker at most, and so for one task at most. -/
theorem Distinct.length_tasksOf_filter {ws : List (Worker τ)} (hd : Distinct ws) (id : Nat) :
    (tasksOf (ws.filter (·.id == id))).length ≤ 1 := by
  have hone : (ws.filter (·.id == id)).length ≤ 1 := by
    have hcount := List.nodup_iff_count_le_one.mp hd id
    rwa [List.count, List.countP_map, List.countP_eq_length_filter] at hcount
  exact Nat.le_trans (List.length_filterMap_le _ _) hone

/-! ### How many workers were replaced -/

/-- Whether a notice tells that a worker is replaced. -/
def isRestart : Notice → Bool
  | .workerRestarted _ => true
  | _ => false

/-- A look tells of as many replacements as there are broken workers less after it. -/
theorem countP_restarts_lookAt (ws : List (Worker τ)) (i : Nat) :
    (lookAt ws i).2.2.countP isRestart + (lookAt ws i).1.countP (·.activity.isBroken)
      = ws.countP (·.activity.isBroken) := by
  obtain ⟨hkept, hnone⟩ | ⟨id, hperm, hnone⟩ | ⟨l, r, id, cause, hbefore, hafter, htold⟩ :=
    lookAt_cases ws i
  · rw [hkept, hnone]
    simp
  · rw [hnone, hperm.countP_eq]
    simp [Activity.isBroken]
  · rw [htold, hafter]
    conv_rhs => rw [hbefore]
    simp only [List.countP_append, List.countP_cons, List.countP_nil, isRestart,
      Activity.isBroken]
    simp only [Bool.false_eq_true, if_false, if_true]
    omega

theorem countP_restarts_sweep (ws : List (Worker τ)) :
    (sweep ws).2.countP isRestart + (sweep ws).1.countP (·.activity.isBroken)
      = ws.countP (·.activity.isBroken) := by
  have hfrom : ∀ ws : List (Worker τ), ∀ i,
      (sweepFrom ws i).2.countP isRestart + (sweepFrom ws i).1.countP (·.activity.isBroken)
        = ws.countP (·.activity.isBroken) := by
    intro ws i
    induction ws, i using sweepFrom.induct with
    | case1 ws i hi rest notices _ ih =>
      have hlook := countP_restarts_lookAt ws i
      rw [sweepFrom, if_pos hi]
      simp only [List.countP_append]
      omega
    | case2 ws i hi =>
      rw [sweepFrom, if_neg hi]
      simp
  exact hfrom ws 0

theorem countP_broken_setActivity {worker : Nat} {a b : Activity τ} (hd : Distinct p.workers)
    (ha : p.activity? worker = some a) (hna : a.isBroken = false) :
    (p.setActivity worker b).workers.countP (·.activity.isBroken)
      = p.workers.countP (·.activity.isBroken) + b.isBroken.toNat := by
  obtain ⟨l, r, hs, hb⟩ := exists_split hd ha
  rw [hb, hs]
  have hone : b.isBroken.toNat = if b.isBroken = true then 1 else 0 := by cases b.isBroken <;> rfl
  simp only [List.countP_append, List.countP_cons, hna, hone, Bool.false_eq_true, if_false]
  omega

section
variable [DecidableEq τ]

theorem numbered_step {count : Nat} (h : Step p e q) (hn : Numbered count p.workers) :
    Numbered count q.workers := by
  cases h with
  | take _ _ => exact numbered_setActivity _ _ hn
  | finish _ => exact numbered_setActivity _ _ hn
  | panic _ => exact numbered_setActivity _ _ hn
  | leave _ _ _ => exact numbered_setActivity _ _ hn
  | round _ => exact sweep_induction Tended.numbered hn
  | look _ _ => exact (tended_lookAt _ _).numbered hn
  | _ => exact hn

theorem Reachable.numbered (h : Reachable s p) : Numbered s.workers p.workers := by
  refine h.invariant (P := fun p => Numbered s.workers p.workers) ?_ fun _ he hn =>
    numbered_step he hn
  refine ⟨accounted_start.distinct, fun w hw => ?_⟩
  obtain ⟨id, hid, rfl⟩ := List.mem_map.mp hw
  exact List.mem_range.mp hid

theorem countP_restarts_step (hd : Distinct p.workers) (h : Step p e q) :
    q.notices.countP isRestart + q.workers.countP (·.activity.isBroken) + p.panicked.length
      = p.notices.countP isRestart + p.workers.countP (·.activity.isBroken)
        + q.panicked.length := by
  -- a breakdown makes one worker broken, and of the monitor's doings the broken ones make up for
  -- the replacements
  cases h with
  | @take worker task _ ha _ =>
    have hkept := countP_broken_setActivity (b := .running task) hd ha rfl
    exact congrArg (p.notices.countP isRestart + · + p.panicked.length) hkept
  | finish ha =>
    have hkept := countP_broken_setActivity (b := .idle) hd ha rfl
    exact congrArg (p.notices.countP isRestart + · + p.panicked.length) hkept
  | leave ha _ _ =>
    have hkept := countP_broken_setActivity (b := .gone) hd ha rfl
    exact congrArg (p.notices.countP isRestart + · + p.panicked.length) hkept
  | @panic worker cause task ha =>
    have hmore := countP_broken_setActivity (b := .panicked cause) hd ha rfl
    show p.notices.countP isRestart
        + (p.setActivity worker (.panicked cause)).workers.countP (·.activity.isBroken)
        + p.panicked.length = _ + (p.panicked ++ [task]).length
    rw [hmore, List.length_append, List.length_singleton]
    show _ + (_ + 1) + _ = _
    omega
  | round _ =>
    have hsweep := countP_restarts_sweep p.workers
    simp only [List.countP_append]
    omega
  | @look i _ _ =>
    have hlook := countP_restarts_lookAt p.workers i
    simp only [List.countP_append]
    omega
  | _ => rfl

theorem Reachable.countP_restarts (h : Reachable s p) :
    p.notices.countP isRestart + p.workers.countP (·.activity.isBroken) = p.panicked.length := by
  refine h.invariant (P := fun p => p.notices.countP isRestart
    + p.workers.countP (·.activity.isBroken) = p.panicked.length) ?_ ?_
  · simp [Pool.start, Activity.isBroken]
  · intro p e q hr he hp
    have hstep := countP_restarts_step hr.accounted.distinct he
    omega

/-- **Different numbers, one task each.**  The live workers have different numbers below the size of
the pool, and under each number runs one task at most, so that the tasks that run never outnumber
the workers that the pool was made with.  What the monitor does leaves every worker that lives as it
is, and of the others it replaces only those that broke down: a number whose worker left is never
given to another one, and there are as many replacements as breakdowns, less the broken workers that
still stand on the list. -/
theorem live_numbered (h : Reachable s p) :
    (p.live.map (·.id)).Nodup ∧ (∀ w ∈ p.live, w.id < s.workers) ∧
    (∀ id, (tasksOf (p.workers.filter (·.id == id))).length ≤ 1) ∧
    p.running.length ≤ p.live.length ∧ p.live.length ≤ s.workers ∧
    (∀ e q, e.isMonitors = true → p.step? e = some q → ∀ id,
      Tending (p.activity? id) (q.activity? id)) ∧
    (∀ id, p.HasLeft id → ∀ events q, p.after? events = some q → q.HasLeft id) ∧
    p.notices.countP isRestart + p.workers.countP (·.activity.isBroken) = p.panicked.length := by
  have hd := h.accounted.distinct
  have hlive : Numbered s.workers p.live := h.numbered.sublist List.filter_sublist
  refine ⟨hlive.1, hlive.2, fun id => hd.length_tasksOf_filter id, length_tasksOf_le p.workers,
    hlive.length_le, ?_, fun id hl events q hq => hl.after? hd hq, h.countP_restarts⟩
  intro e q he hq id
  exact (Step.of_step? hq).tending hd he id

end

/-- Worker 0 runs task 3 in the place of one that broke down with task 1, and worker 1 left when the
monitor is about to look at it: the look leaves worker 0 as it is, and worker 1 does not come
back. -/
theorem live_numbered_replaced :
    ∃ p : Pool Nat, Reachable ⟨2, 3, 5⟩ p ∧ p.panicked = [1] ∧ p.running = [3] ∧
      p.activity? 0 = some (.running 3) ∧ p.activity? 1 = some .gone ∧
      p.notices.countP isRestart = 1 ∧
      ∃ q, p.step? .look = some q ∧ q.activity? 0 = some (.running 3) ∧ q.HasLeft 1 := by
  obtain ⟨p, hp, hf⟩ := exists_reachable (s := ⟨2, 3, 5⟩)
    (a := ([[1], [3]], [some (.running 3), some .gone], 0, true))
    (fun p : Pool Nat => ([p.panicked, p.running], [p.activity? 0, p.activity? 1],
      p.workers.countP (·.activity.isBroken), (p.step? .look).isSome))
    [.push 1, .grant, .enqueue 1, .push 2, .grant, .enqueue 2, .watch, .take 0, .take 1,
      .panic 0 .value, .look, .look, .push 3, .grant, .enqueue 3, .take 0, .closeSlots, .close,
      .finish 1, .leave 1] (by decide +kernel)
  simp only [Prod.mk.injEq, List.cons.injEq, and_true] at hf
  obtain ⟨⟨hpanicked, hrunning⟩, ⟨hfirst, hsecond⟩, hbroken, hlook⟩ := hf
  obtain ⟨q, hq⟩ := Option.isSome_iff_exists.mp hlook
  obtain ⟨-, -, -, -, -, htending, hleft, hcount⟩ := live_numbered hp
  rw [hbroken, hpanicked, Nat.add_zero, List.length_singleton] at hcount
  have hkept := htending .look q rfl hq 0
  rw [hfirst] at hkept
  refine ⟨p, hp, hpanicked, hrunning, hfirst, hsecond, hcount, q, hq, ?_,
    hleft 1 (.inl hsecond) [.look] q ?_⟩
  · generalize hb : q.activity? 0 = b at hkept
    cases hkept
    rfl
  · rw [Pool.after?, List.foldlM_cons, hq]
    rfl

end Thumbnailer.Pool
