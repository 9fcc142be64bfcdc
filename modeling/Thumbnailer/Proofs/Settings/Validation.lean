/-
What validated settings promise to the worker pool, and what they do not.

Validation refuses an empty queue, frames that hold no header, and a quality that is none.  So every
pool that is set up from validated settings has a worker and a slot.  It looks neither at how large
the queue is nor at the time between the monitor's rounds: with too large a queue no pool is made, and
with no time between its rounds the monitor ends before the first one, so that no worker that breaks
down is ever replaced.

* **`validate_eq_ok_iff`** — the settings that are accepted;
* **`Pool.unusable?_eq_none_iff`** — the sizes of which a pool can be made;
* **`Pool.Reachable.unwatched`** — a pool without time between rounds is never looked after;
* **`Pool.Reachable.isDeserted_of_unwatched`** — and deserted once each of its workers broke down;
* **`pool_of_validate`** — what holds of the pool of validated settings.
-/
import Thumbnailer.Proofs.Pool.Replacement
import Thumbnailer.Settings.Basic

namespace Thumbnailer

namespace Pool

variable {τ : Type} {s : Settings} {p : Pool τ}

theorem unusable?_eq_none_iff : s.unusable? = none ↔ 0 < s.slots ∧ s.slots ≤ Settings.maxSlots := by
  unfold Settings.unusable?
  constructor
  · intro h
    split at h
    · cases h
    · split at h
      · cases h
      · omega
  · rintro ⟨hpos, hle⟩
    rw [if_neg (by omega), if_neg (by omega)]

/-! ### Pools without time between rounds -/

section
variable [DecidableEq τ]

/-- The monitor that has no time between its rounds makes none. -/
theorem Reachable.unwatched (h : Reachable s p) (hi : s.interval = 0) :
    (p.monitor = .starting ∨ p.monitor = .ended) ∧ p.notices = [] := by
  refine h.invariant (P := fun p => (p.monitor = .starting ∨ p.monitor = .ended) ∧ p.notices = [])
    ⟨.inl rfl, rfl⟩ ?_
  intro p e q hr he hp
  -- whatever the monitor does but for its first step, it does in a round or between two
  have hidle : ∀ m, p.monitor = m → m = .starting ∨ m = .ended := by
    rintro m rfl
    exact hp.1
  cases he with
  | watch _ =>
    rw [hr.staffed.settings, hi]
    exact ⟨.inr rfl, hp.2⟩
  | round hm => simpa using hidle _ hm
  | beginRound hm => simpa using hidle _ hm
  | look hm _ => simpa using hidle _ hm
  | endRound hm _ => simpa using hidle _ hm
  | dismiss hm _ => simpa using hidle _ hm
  | _ => exact hp

/-- Each breakdown costs a pool that nobody looks after one of its workers, until none is left. -/
theorem Reachable.isDeserted_of_unwatched (h : Reachable s p) (hi : s.interval = 0)
    (hm : p.monitor = .ended) (hall : p.panicked.length = s.workers) : p.IsDeserted := by
  have hcount := h.countP_restarts
  rw [(h.unwatched hi).2, List.countP_nil, Nat.zero_add, hall] at hcount
  have hsize : p.workers.length = s.workers :=
    Nat.le_antisymm h.staffed.size (hcount ▸ List.countP_le_length)
  refine ⟨hm, hsize.trans (congrArg _ h.staffed.settings.symm), ?_⟩
  exact List.countP_eq_length.mp (hcount.trans hsize.symm)

/-- A monitor ends by itself just if it has no time between its rounds. -/
theorem exists_ended_iff :
    (∃ p : Pool τ, Reachable s p ∧ p.monitor = .ended ∧ p.signalled = false) ↔ s.interval = 0 := by
  constructor
  · rintro ⟨p, h, hm, hs⟩
    obtain hsignal | hi := h.staffed.ended hm
    · cases hs.symm.trans hsignal
    · exact hi
  · intro hi
    refine ⟨_, Reachable.start.step (.watch rfl), ?_, rfl⟩
    exact if_pos hi

end

end Pool

namespace Settings

variable {τ : Type} {s : Settings} {processors : Nat}

/-- The settings that are accepted. -/
theorem validate_eq_ok_iff :
    s.validate = .ok () ↔ s.workerPool.maxQueueSize ≠ 0 ∧
      Wire.Header.size ≤ s.network.maxFrameSize.toNat ∧ s.pictures.jpegQuality ≠ 0 ∧
      s.pictures.jpegQuality ≤ 100 := by
  unfold validate
  constructor
  · intro h
    split at h
    · cases h
    · rename_i hqueue
      split at h
      · cases h
      · rename_i hframe
        split at h
        · cases h
        · rename_i hquality
          rw [not_or, UInt8.not_lt] at hquality
          exact ⟨hqueue, Nat.not_lt.mp hframe, hquality⟩
  · rintro ⟨hqueue, hframe, hzero, hhundred⟩
    rw [if_neg hqueue, if_neg (Nat.not_lt.mpr hframe),
      if_neg (not_or.mpr ⟨hzero, UInt8.not_lt.mpr hhundred⟩)]

/-- Other settings of the pool are accepted as well, as long as its queue is not empty. -/
theorem validate_workerPool (hv : s.validate = .ok ()) (pool : WorkerPool)
    (hqueue : pool.maxQueueSize ≠ 0) : { s with workerPool := pool }.validate = .ok () :=
  validate_eq_ok_iff.mpr ⟨hqueue, (validate_eq_ok_iff.mp hv).2⟩

theorem workers_pool_pos (hp : 0 < processors) : 0 < (s.pool processors).workers := by
  unfold pool
  by_cases hzero : s.workerPool.threadCount = 0
  · simp only [if_pos hzero]
    exact hp
  · simp only [if_neg hzero]
    exact Nat.pos_of_ne_zero fun h => hzero (UInt64.toNat_inj.mp h)

variable [DecidableEq τ]

/-- **What validation promises to the pool.**  A pool that is set up from validated settings has a
worker and a slot, if the machine has a processor.  Its size is within the limits just if its queue is
not larger than slots can be counted, and its monitor may end before it is told to just if there is no
time between its rounds: then no worker is ever replaced, and the pool is deserted as soon as each of
them broke down.  Validation looks at neither: whatever the size of the queue and the time between
rounds are changed to, the settings are still accepted, unless the queue is empty. -/
theorem pool_of_validate (hv : s.validate = .ok ()) (hp : 0 < processors) :
    1 ≤ (s.pool processors).workers ∧ 1 ≤ (s.pool processors).slots ∧
    ((s.pool processors).unusable? = none ↔
      s.workerPool.maxQueueSize.toNat ≤ Pool.Settings.maxSlots) ∧
    ((∃ p : Pool τ, Pool.Reachable (s.pool processors) p ∧ p.monitor = .ended ∧
      p.signalled = false) ↔ s.workerPool.monitorInterval = 0) ∧
    (s.workerPool.monitorInterval = 0 → ∀ p : Pool τ, Pool.Reachable (s.pool processors) p →
      p.notices = [] ∧ (p.monitor = .ended →
        p.panicked.length = (s.pool processors).workers → p.IsDeserted)) ∧
    ∀ slots interval, slots ≠ 0 → { s with workerPool :=
      ⟨s.workerPool.threadCount, slots, interval⟩ }.validate = .ok () := by
  have hslots : 0 < (s.pool processors).slots :=
    Nat.pos_of_ne_zero fun h => (validate_eq_ok_iff.mp hv).1 (UInt64.toNat_inj.mp h)
  have hinterval : (s.pool processors).interval = 0 ↔ s.workerPool.monitorInterval = 0 :=
    UInt64.toNat_inj (b := 0)
  refine ⟨workers_pool_pos hp, hslots, ?_, Pool.exists_ended_iff.trans hinterval,
    fun hi p h => ?_, fun slots interval hne => validate_workerPool hv _ hne⟩
  · rw [Pool.unusable?_eq_none_iff, and_iff_right hslots]
    exact Iff.rfl
  · have hi := hinterval.mpr hi
    exact ⟨(h.unwatched hi).2, h.isDeserted_of_unwatched hi⟩

/-- Settings without time between rounds, whose monitor ends by itself, and settings with a queue of
which no pool can be made. -/
theorem pool_of_validate_still :
    (∃ p : Pool Nat, Pool.Reachable ({ standard with workerPool := ⟨0, 64, 0⟩ }.pool 4) p ∧
      p.monitor = .ended ∧ p.signalled = false) ∧
    ({ standard with workerPool := ⟨0, 0x2000000000000000, 5000⟩ }.pool 4).unusable? ≠ none := by
  have hstandard : standard.validate = .ok () := by decide +kernel
  constructor
  · have hstill := validate_workerPool hstandard ⟨0, 64, 0⟩ (by decide)
    exact (pool_of_validate hstill (by decide)).2.2.2.1.mpr rfl
  · have hlarge := validate_workerPool hstandard ⟨0, 0x2000000000000000, 5000⟩ (by decide)
    intro hnone
    exact absurd ((pool_of_validate (τ := Nat) hlarge (by decide)).2.2.1.mp hnone) (by decide)

end Settings

end Thumbnailer
