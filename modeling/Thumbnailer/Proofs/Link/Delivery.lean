/-
Writing a message in time.

How a writing ends, and when, is told by how many bytes the reader has at which time: the writing is
over as soon as those that are missing find room in the pipe.

* **`demandsBefore`**, **`leaving?`** — what a reader does by some time, and when it leaves;
* **`readBy`** — the bytes that the reader has at some moment;
* **`Verdict`** — what a writing with a deadline comes to; **`verdict_course`**: each one comes to it;
* **`run_in_time`** — what this says of the frame, the reader and the deadline.
-/
import Mathlib.Order.Bounds.Basic
import Thumbnailer.Proofs.Link.Course

namespace Thumbnailer.Link

variable {demands rest : List Demand} {a : Demand} {t u : Nat}

/-! ### What a reader does, and when -/

/-- What a reader does before some time has passed. -/
def demandsBefore (time : Nat) : List Demand → List Demand
  | [] => []
  | a :: rest => if a.wait < time then a :: demandsBefore (time - a.wait) rest else []

/-- How many bytes a reader wants by some moment. -/
def wantedBy (demands : List Demand) (time : Nat) : Nat :=
  wanted (demandsBefore (time + 1) demands)

/-- When a reader leaves, if it does. -/
def leaving? : List Demand → Option Nat
  | [] => none
  | a :: rest => if a.leaves then some a.wait else (leaving? rest).map (a.wait + ·)

theorem demandsBefore_cons_of_lt (h : a.wait < t) :
    demandsBefore t (a :: rest) = a :: demandsBefore (t - a.wait) rest := by
  rw [demandsBefore, if_pos h]

theorem demandsBefore_cons_of_le (h : t ≤ a.wait) : demandsBefore t (a :: rest) = [] := by
  rw [demandsBefore, if_neg (Nat.not_lt.mpr h)]

theorem prefix_demandsBefore (t : Nat) (demands : List Demand) :
    demandsBefore t demands <+: demands := by
  induction demands generalizing t with
  | nil => exact List.prefix_rfl
  | cons a rest ih =>
    rw [demandsBefore]
    split
    · exact (List.prefix_cons_inj a).mpr (ih _)
    · exact List.nil_prefix

theorem demandsBefore_demandsBefore (t u : Nat) (demands : List Demand) :
    demandsBefore t (demandsBefore u demands) = demandsBefore (min t u) demands := by
  induction demands generalizing t u with
  | nil => rfl
  | cons a rest ih =>
    by_cases hu : a.wait < u
    · rw [demandsBefore_cons_of_lt hu]
      by_cases ht : a.wait < t
      · rw [demandsBefore_cons_of_lt ht, demandsBefore_cons_of_lt (by omega), ih]
        congr 2
        omega
      · rw [demandsBefore_cons_of_le (by omega), demandsBefore_cons_of_le (by omega)]
    · rw [demandsBefore_cons_of_le (by omega), demandsBefore_cons_of_le (by omega)]
      rfl

theorem exists_demandsBefore_eq (demands : List Demand) :
    ∃ t, ∀ u, t ≤ u → demandsBefore (u + 1) demands = demands := by
  induction demands with
  | nil => exact ⟨0, fun _ _ => rfl⟩
  | cons a rest ih =>
    obtain ⟨t, ht⟩ := ih
    refine ⟨a.wait + t, fun u hu => ?_⟩
    rw [demandsBefore_cons_of_lt (by omega), show u + 1 - a.wait = u - a.wait + 1 by omega,
      ht _ (by omega)]

theorem wanted_cons_of_stays (h : a.leaves = false) : wanted (a :: rest) = a.count + wanted rest := by
  rw [wanted, h, if_neg Bool.false_ne_true]

theorem wanted_cons_of_leaves (h : a.leaves = true) : wanted (a :: rest) = a.count := by
  rw [wanted, if_pos h, Nat.add_zero]

theorem wanted_le_of_prefix {l l' : List Demand} (h : l <+: l') : wanted l ≤ wanted l' := by
  induction l generalizing l' with
  | nil => exact Nat.zero_le _
  | cons a l ih =>
    obtain ⟨rest, rfl, hrest⟩ := List.cons_prefix_iff.mp h
    cases hleaves : a.leaves with
    | true => rw [wanted_cons_of_leaves hleaves, wanted_cons_of_leaves hleaves]
    | false =>
      rw [wanted_cons_of_stays hleaves, wanted_cons_of_stays hleaves]
      exact Nat.add_le_add_left (ih hrest) _

theorem wanted_demandsBefore_le (h : t ≤ u) (demands : List Demand) :
    wanted (demandsBefore t demands) ≤ wanted (demandsBefore u demands) := by
  rw [← Nat.min_eq_left h, ← demandsBefore_demandsBefore]
  exact wanted_le_of_prefix (prefix_demandsBefore _ _)

theorem wantedBy_cons_of_lt (h : t < a.wait) : wantedBy (a :: rest) t = 0 := by
  rw [wantedBy, demandsBefore_cons_of_le h]
  rfl

theorem wantedBy_cons_add (h : a.leaves = false) (t : Nat) :
    wantedBy (a :: rest) (a.wait + t) = a.count + wantedBy rest t := by
  rw [wantedBy, demandsBefore_cons_of_lt (by omega), wanted_cons_of_stays h,
    show a.wait + t + 1 - a.wait = t + 1 by omega]
  rfl

theorem leaving?_cons_of_stays (h : a.leaves = false) :
    leaving? (a :: rest) = (leaving? rest).map (a.wait + ·) := by
  rw [leaving?, h, if_neg Bool.false_ne_true]

theorem wait_le_leaving? (h : leaving? (a :: rest) = some t) : a.wait ≤ t := by
  cases hleaves : a.leaves with
  | true =>
    rw [leaving?, if_pos hleaves] at h
    exact Nat.le_of_eq (Option.some.inj h)
  | false =>
    rw [leaving?_cons_of_stays hleaves] at h
    obtain ⟨u, -, rfl⟩ := Option.map_eq_some_iff.mp h
    exact Nat.le_add_right _ _

theorem Parting.leaving_pos (h : Parting demands) (ht : leaving? demands = some t) : 0 < t := by
  induction demands generalizing t with
  | nil => cases ht
  | cons a rest ih =>
    cases hleaves : a.leaves with
    | true => exact Nat.lt_of_lt_of_le (h a List.mem_cons_self hleaves).2 (wait_le_leaving? ht)
    | false =>
      rw [leaving?_cons_of_stays hleaves] at ht
      obtain ⟨u, hu, rfl⟩ := Option.map_eq_some_iff.mp ht
      exact Nat.add_pos_right _ (ih (fun b hb => h b (List.mem_cons_of_mem _ hb)) hu)

namespace Delivery

variable {frame : List UInt8} {size capacity timeout budget n : Nat} {result result' : Except Error Unit}

theorem Gone.demandsBefore (h : Gone demands) (t : Nat) : Gone (demandsBefore (t + 1) demands) := by
  obtain ⟨rest, rfl⟩ := List.head?_eq_some_iff.mp h
  exact congrArg List.head? (demandsBefore_cons_of_lt (Nat.succ_pos t))

theorem wanted_of_gone (h : Gone demands) : wanted demands = 0 := by
  obtain ⟨rest, rfl⟩ := List.head?_eq_some_iff.mp h
  rfl

/-! ### The bytes that the reader has -/

theorem read_course (hparting : Parting demands) :
    (course frame capacity budget n demands).read
      = frame.take (n + min (wanted demands)
          (wanted (demandsBefore budget demands) + capacity)) := by
  induction demands generalizing n budget with
  | nil =>
    by_cases hmore : frame.length ≤ n + capacity
    · rw [course_of_le hmore, take_add_min (by omega)]
    · rw [course_nil hmore, wanted, Nat.zero_min, Nat.add_zero]
  | cons a rest ih =>
    by_cases hmore : frame.length ≤ n + capacity
    · rw [course_of_le hmore, take_add_min (by omega)]
    · by_cases hwait : a.wait < budget
      · cases hleaves : a.leaves with
        | true =>
          rw [course_leaves hmore hwait hleaves, wanted_cons_of_leaves hleaves,
            (hparting a List.mem_cons_self hleaves).1, Nat.zero_min, Nat.add_zero]
        | false =>
          rw [course_cons hmore hwait hleaves, demandsBefore_cons_of_lt hwait,
            wanted_cons_of_stays hleaves, wanted_cons_of_stays hleaves, Nat.add_assoc a.count,
            Nat.add_min_add_left, ← Nat.add_assoc]
          exact ih fun b hb => hparting b (List.mem_cons_of_mem _ hb)
      · rw [course_late hmore hwait, demandsBefore_cons_of_le (by omega), wanted.eq_def [],
          Nat.zero_add]

theorem read_run (hcapacity : 0 < capacity) (hleaves : Gone demands ∨ Parting demands)
    (timeout : Nat) (frame : List UInt8) :
    (run capacity timeout frame demands).read
      = frame.take (min (wanted demands) (wanted (demandsBefore timeout demands) + capacity)) := by
  by_cases hgone : Gone demands
  · rw [run_of_gone hgone, wanted_of_gone hgone, Nat.zero_min]
    rfl
  · have hparting := hleaves.resolve_left hgone
    rw [run_eq_course hgone hcapacity hparting, read_course hparting, Nat.zero_add]

/-- The bytes that the reader has at some moment: all that it gets if it wants no more after that. -/
def readBy (capacity timeout : Nat) (frame : List UInt8) (demands : List Demand) (time : Nat) :
    List UInt8 :=
  (run capacity timeout frame (demandsBefore (time + 1) demands)).read

section ReadBy

variable (hcapacity : 0 < capacity) (hleaves : Gone demands ∨ Parting demands)

include hcapacity hleaves

theorem readBy_eq (timeout : Nat) (frame : List UInt8) (t : Nat) :
    readBy capacity timeout frame demands t
      = frame.take (min (wantedBy demands t)
          (wanted (demandsBefore (min timeout (t + 1)) demands) + capacity)) := by
  have hfirst : Gone (demandsBefore (t + 1) demands) ∨ Parting (demandsBefore (t + 1) demands) :=
    hleaves.imp (fun h => h.demandsBefore t)
      fun h b hb => h b ((prefix_demandsBefore _ _).subset hb)
  rw [readBy, read_run hcapacity hfirst, demandsBefore_demandsBefore]
  rfl

theorem readBy_of_lt (h : t < timeout) (frame : List UInt8) :
    readBy capacity timeout frame demands t = frame.take (wantedBy demands t) := by
  rw [readBy_eq hcapacity hleaves, Nat.min_eq_right (show t + 1 ≤ timeout from h), ← wantedBy,
    Nat.min_eq_left (Nat.le_add_right _ _)]

theorem prefix_readBy (timeout : Nat) (frame : List UInt8) (t : Nat) :
    readBy capacity timeout frame demands t <+: frame := by
  rw [readBy_eq hcapacity hleaves]
  exact List.take_prefix _ _

theorem prefix_readBy_readBy (timeout : Nat) (frame : List UInt8) (h : t ≤ u) :
    readBy capacity timeout frame demands t <+: readBy capacity timeout frame demands u := by
  have hwanted : wantedBy demands t ≤ wantedBy demands u :=
    wanted_demandsBefore_le (Nat.succ_le_succ h) demands
  have hput : wanted (demandsBefore (min timeout (t + 1)) demands)
      ≤ wanted (demandsBefore (min timeout (u + 1)) demands) :=
    wanted_demandsBefore_le (by omega) demands
  rw [readBy_eq hcapacity hleaves, readBy_eq hcapacity hleaves]
  exact List.take_prefix_take_left (by omega)

/-- As long as it matters, the frame is in the pipe once what the reader wants leaves room for the
rest. -/
theorem length_le_readBy_iff (h : t < timeout ∨ frame.length ≤ capacity) :
    frame.length ≤ (readBy capacity timeout frame demands t).length + capacity ↔
      frame.length ≤ wantedBy demands t + capacity := by
  obtain hlt | hfits := h
  · rw [readBy_of_lt hcapacity hleaves hlt, List.length_take]
    omega
  · constructor
    · intro _
      omega
    · intro _
      omega

end ReadBy

/-! ### How a writing ends -/

/-- What a writing comes to, and when, once the reader has `n` of the `size` bytes of the frame. -/
inductive Verdict (size capacity n budget : Nat) (demands : List Demand) :
    Except Error Unit → Nat → Prop
  | sent {t : Nat} (hat : IsLeast {t | size ≤ n + wantedBy demands t + capacity} t)
      (hin : t < budget ∨ size ≤ n + capacity) (hstays : ∀ d ∈ leaving? demands, t < d) :
      Verdict size capacity n budget demands (.ok ()) t
  | gone {t : Nat} (hleaves : leaving? demands = some t) (hin : t < budget)
      (hmissing : ∀ u < t, n + wantedBy demands u + capacity < size) :
      Verdict size capacity n budget demands (.error (.io .pipeBroken)) t
  | late (hmore : n + capacity < size)
      (hmissing : ∀ u < budget, n + wantedBy demands u + capacity < size)
      (hstays : ∀ d ∈ leaving? demands, budget ≤ d) :
      Verdict size capacity n budget demands (.error (.late (.writing size))) budget

/-- Before the first demand nothing is read, and later what the rest asks for comes on top. -/
theorem missing_cons (hmore : ¬ size ≤ n + capacity) (hstays : a.leaves = false)
    (h : ∀ u < t, n + a.count + wantedBy rest u + capacity < size) :
    ∀ u < a.wait + t, n + wantedBy (a :: rest) u + capacity < size := by
  intro u hu
  by_cases hwaits : a.wait ≤ u
  · obtain ⟨v, rfl⟩ := Nat.exists_eq_add_of_le hwaits
    rw [wantedBy_cons_add hstays, ← Nat.add_assoc]
    exact h v (Nat.lt_of_add_lt_add_left hu)
  · rw [wantedBy_cons_of_lt (Nat.not_le.mp hwaits)]
    omega

theorem Verdict.cons (hmore : ¬ size ≤ n + capacity) (hwait : a.wait < budget)
    (hstays : a.leaves = false)
    (h : Verdict size capacity (n + a.count) (budget - a.wait) rest result t) :
    Verdict size capacity n budget (a :: rest) result (a.wait + t) := by
  cases h with
  | sent hat hin hlater =>
    refine .sent ⟨?_, ?_⟩ ?_ ?_
    · show size ≤ n + wantedBy (a :: rest) (a.wait + t) + capacity
      rw [wantedBy_cons_add hstays, ← Nat.add_assoc]
      exact hat.1
    · intro u hu
      have hbefore : ∀ v < t, n + a.count + wantedBy rest v + capacity < size := fun v hv =>
        Nat.not_le.mp fun hle => absurd (hat.2 hle) (Nat.not_le.mpr hv)
      by_contra hlt
      exact absurd hu (Nat.not_le.mpr (missing_cons hmore hstays hbefore u (Nat.not_le.mp hlt)))
    · obtain hin | hfits := hin
      · exact .inl (by omega)
      · -- what is there at once is there before the deadline
        have hle : t ≤ 0 := hat.2 (show size ≤ n + a.count + wantedBy rest 0 + capacity by omega)
        exact .inl (by omega)
    · rw [leaving?_cons_of_stays hstays, Option.forall_mem_map]
      intro d hd
      exact Nat.add_lt_add_left (hlater d hd) _
  | gone hleaves hin hmissing =>
    refine .gone ?_ (by omega) (missing_cons hmore hstays hmissing)
    rw [leaving?_cons_of_stays hstays, hleaves]
    rfl
  | late _ hmissing hlater =>
    have hmissing' := missing_cons hmore hstays hmissing
    rw [Nat.add_sub_cancel' hwait.le] at hmissing' ⊢
    refine .late (by omega) hmissing' ?_
    rw [leaving?_cons_of_stays hstays, Option.forall_mem_map]
    intro d hd
    have hle := hlater d hd
    omega

theorem verdict_of_le (hparting : Parting demands) (hmore : size ≤ n + capacity) :
    Verdict size capacity n budget demands (.ok ()) 0 := by
  refine .sent ⟨?_, fun _ _ => Nat.zero_le _⟩ (.inr hmore) fun d hd => hparting.leaving_pos hd
  show size ≤ n + wantedBy demands 0 + capacity
  omega

theorem verdict_course (hparting : Parting demands) :
    Verdict frame.length capacity n budget demands
      (course frame capacity budget n demands).result
      (course frame capacity budget n demands).elapsed := by
  induction demands generalizing n budget with
  | nil =>
    by_cases hmore : frame.length ≤ n + capacity
    · rw [course_of_le hmore]
      exact verdict_of_le hparting hmore
    · rw [course_nil hmore]
      exact .late (by omega) (fun u _ => Nat.not_le.mp hmore) (fun d hd => by cases hd)
  | cons a rest ih =>
    by_cases hmore : frame.length ≤ n + capacity
    · rw [course_of_le hmore]
      exact verdict_of_le hparting hmore
    · by_cases hwait : a.wait < budget
      · cases hleaves : a.leaves with
        | true =>
          rw [course_leaves hmore hwait hleaves]
          refine .gone ?_ hwait fun u hu => ?_
          · rw [leaving?, if_pos hleaves]
          · rw [wantedBy_cons_of_lt hu]
            omega
        | false =>
          rw [course_cons hmore hwait hleaves]
          exact .cons hmore hwait hleaves (ih fun b hb => hparting b (List.mem_cons_of_mem _ hb))
      · rw [course_late hmore hwait]
        refine .late (by omega) (fun u hu => ?_) fun d hd => ?_
        · rw [wantedBy_cons_of_lt (by omega)]
          omega
        · exact (Nat.not_lt.mp hwait).trans (wait_le_leaving? hd)

/-- What a writing comes to, and when, told by the bytes that the reader has. -/
inductive Ends (capacity timeout : Nat) (frame : List UInt8) (demands : List Demand) :
    Except Error Unit → Nat → Prop
  /-- What the reader does not have yet finds room in the pipe, for the first time, before the
  deadline and before the reader leaves. A frame that finds room as a whole needs no time. -/
  | sent {t : Nat}
      (hat : IsLeast
        {t | frame.length ≤ (readBy capacity timeout frame demands t).length + capacity} t)
      (hin : t < timeout ∨ frame.length ≤ capacity) (hstays : ∀ d ∈ leaving? demands, t < d) :
      Ends capacity timeout frame demands (.ok ()) t
  /-- The reader leaves before that, and before the deadline. -/
  | gone {t : Nat} (hleaves : leaving? demands = some t) (hin : t < timeout ∨ t = 0)
      (hmissing : ∀ u < t,
        (readBy capacity timeout frame demands u).length + capacity < frame.length) :
      Ends capacity timeout frame demands (.error (.io .pipeBroken)) t
  /-- Neither happens before the deadline. -/
  | late (hmore : capacity < frame.length)
      (hmissing : ∀ u < timeout,
        (readBy capacity timeout frame demands u).length + capacity < frame.length)
      (hstays : ∀ d ∈ leaving? demands, d ≠ 0 ∧ timeout ≤ d) :
      Ends capacity timeout frame demands (.error (.late (.writing frame.length))) timeout

theorem Ends.le (h : Ends capacity timeout frame demands result t) : t ≤ timeout := by
  cases h with
  | sent hat hin _ =>
    obtain hlt | hfits := hin
    · exact hlt.le
    · have hle : t ≤ 0 := hat.2 (hfits.trans (Nat.le_add_left _ _))
      omega
  | gone _ hin _ => omega
  | late => exact Nat.le_refl _

/-- A writing comes to one thing only. -/
theorem Ends.eq (h : Ends capacity timeout frame demands result t)
    (h' : Ends capacity timeout frame demands result' u) : result = result' ∧ t = u := by
  -- all there is to compare: sent or not, and when the reader leaves
  have hsent : ∀ {t u : Nat},
      frame.length ≤ (readBy capacity timeout frame demands t).length + capacity →
      (∀ v < u, (readBy capacity timeout frame demands v).length + capacity < frame.length) →
      u ≤ t := by
    intro t u ht hu
    by_contra hlt
    exact absurd ht (Nat.not_le.mpr (hu t (Nat.not_le.mp hlt)))
  cases h with
  | sent hat hin hstays =>
    cases h' with
    | sent hat' _ _ => exact ⟨rfl, hat.unique hat'⟩
    | gone hleaves _ hmissing =>
      have hlt := hstays _ hleaves
      have hle := hsent hat.1 hmissing
      omega
    | late hmore hmissing _ =>
      have hle := hsent hat.1 hmissing
      omega
  | gone hleaves hin hmissing =>
    cases h' with
    | sent hat hin' hstays =>
      have hlt := hstays _ hleaves
      have hle := hsent hat.1 hmissing
      omega
    | gone hleaves' _ _ =>
      rw [hleaves] at hleaves'
      exact ⟨rfl, Option.some.inj hleaves'⟩
    | late _ _ hstays =>
      have hlater := hstays _ hleaves
      omega
  | late hmore hmissing hstays =>
    cases h' with
    | sent hat hin _ =>
      have hle := hsent hat.1 hmissing
      omega
    | gone hleaves hin _ =>
      have hlater := hstays _ hleaves
      omega
    | late => exact ⟨rfl, rfl⟩

theorem Ends.of_verdict (hcapacity : 0 < capacity) (hparting : Parting demands)
    (h : Verdict frame.length capacity 0 timeout demands result t) :
    Ends capacity timeout frame demands result t := by
  have hiff : ∀ {u : Nat}, (u < timeout ∨ frame.length ≤ capacity) →
      (frame.length ≤ (readBy capacity timeout frame demands u).length + capacity ↔
        frame.length ≤ 0 + wantedBy demands u + capacity) := by
    intro u hu
    rw [length_le_readBy_iff hcapacity (.inr hparting) hu, Nat.zero_add]
  cases h with
  | sent hat hin hstays =>
    rw [Nat.zero_add] at hin
    refine .sent ⟨(hiff hin).mpr hat.1, fun u hu => ?_⟩ hin hstays
    by_contra hlt
    have hin' : u < timeout ∨ frame.length ≤ capacity :=
      hin.imp (Nat.lt_trans (Nat.not_le.mp hlt)) id
    exact hlt (hat.2 ((hiff hin').mp hu))
  | gone hleaves hin hmissing =>
    refine .gone hleaves (.inl hin) fun u hu => ?_
    rw [← Nat.not_le, hiff (.inl (hu.trans hin)), Nat.not_le]
    exact hmissing u hu
  | late hmore hmissing hstays =>
    refine .late (by omega) (fun u hu => ?_) fun d hd => ⟨?_, hstays d hd⟩
    · rw [← Nat.not_le, hiff (.inl hu), Nat.not_le]
      exact hmissing u hu
    · exact Nat.ne_of_gt (hparting.leaving_pos hd)

theorem ends_run (hcapacity : 0 < capacity) (hleaves : Gone demands ∨ Parting demands)
    (timeout : Nat) (frame : List UInt8) :
    Ends capacity timeout frame demands (run capacity timeout frame demands).result
      (run capacity timeout frame demands).elapsed := by
  by_cases hgone : Gone demands
  · have hzero : leaving? demands = some 0 := by
      obtain ⟨rest, rfl⟩ := List.head?_eq_some_iff.mp hgone
      rfl
    rw [run_of_gone hgone]
    exact .gone hzero (.inr rfl) fun u hu => absurd hu (Nat.not_lt_zero u)
  · have hparting := hleaves.resolve_left hgone
    rw [run_eq_course hgone hcapacity hparting]
    exact .of_verdict hcapacity hparting (verdict_course hparting)

/-- What is to be said of a writing that has a deadline. -/
structure InTime (capacity timeout : Nat) (frame : List UInt8) (demands : List Demand)
    (r : Delivered) : Prop where
  /-- The reader never has anything but the first bytes of the frame. -/
  whole : ∀ t, readBy capacity timeout frame demands t <+: frame
  /-- What it has it keeps, and in the end that is all it got. -/
  kept : ∀ t u, t ≤ u →
    readBy capacity timeout frame demands t <+: readBy capacity timeout frame demands u
  all : ∃ t, ∀ u, t ≤ u → readBy capacity timeout frame demands u = r.read
  /-- Until the deadline it has as many bytes as it wants. -/
  prompt : ∀ t < timeout,
    readBy capacity timeout frame demands t = frame.take (wantedBy demands t)
  ends : ∀ result t,
    r.result = result ∧ r.elapsed = t ↔ Ends capacity timeout frame demands result t
  elapsed_le : r.elapsed ≤ timeout

/-- **A writing ends in time, and the bytes arrive in order.**  Whatever the pipe holds and in
whatever pieces it is read, the reader has the first bytes of the frame at each moment, as many as it
wants as long as the writing goes on.  The writing succeeds at the first moment at which the reader
has all but `capacity` bytes of the frame, if that is before the deadline and the reader has not left
by then; it breaks at the moment at which the reader leaves, if that is before the deadline; otherwise
it fails at the deadline.  A reader that leaves does so before the writing begins or some time after
its last bytes. -/
theorem run_in_time {α : Type} [Wire.Side α] (m : α) (timeout : Nat) (hcapacity : 0 < capacity)
    (hleaves : Gone demands ∨ Parting demands) :
    InTime capacity timeout (Wire.frame m) demands
      (run capacity timeout (Wire.frame m) demands) := by
  have hends := ends_run hcapacity hleaves timeout (Wire.frame m)
  refine ⟨prefix_readBy hcapacity hleaves _ _, ?_, ?_, ?_, ?_, hends.le⟩
  · intro t u htu
    exact prefix_readBy_readBy hcapacity hleaves _ _ htu
  · obtain ⟨t, ht⟩ := exists_demandsBefore_eq demands
    refine ⟨t, fun u hu => ?_⟩
    rw [readBy, ht u hu]
  · intro t ht
    exact readBy_of_lt hcapacity hleaves ht _
  · intro result t
    constructor
    · rintro ⟨rfl, rfl⟩
      exact hends
    · intro h
      exact hends.eq h

/-- A request of eight bytes in a pipe of three, read in pieces: the fifth byte is in time; without it
the reader leaves before the deadline, or at it, which is too late to count. -/
theorem run_in_time_three :
    ((run 3 4 (Wire.frame Wire.Command.shutdown)
          [⟨2, 1, false⟩, ⟨1, 3, false⟩, ⟨0, 1, false⟩, ⟨4, 0, true⟩]).result = .ok () ∧
        (run 3 4 (Wire.frame Wire.Command.shutdown)
          [⟨2, 1, false⟩, ⟨1, 3, false⟩, ⟨0, 1, false⟩, ⟨4, 0, true⟩]).elapsed = 3) ∧
      ((run 3 10 (Wire.frame Wire.Command.shutdown)
          [⟨2, 1, false⟩, ⟨1, 3, false⟩, ⟨4, 0, true⟩]).result = .error (.io .pipeBroken) ∧
        (run 3 10 (Wire.frame Wire.Command.shutdown)
          [⟨2, 1, false⟩, ⟨1, 3, false⟩, ⟨4, 0, true⟩]).elapsed = 7) ∧
      (run 3 7 (Wire.frame Wire.Command.shutdown)
          [⟨2, 1, false⟩, ⟨1, 3, false⟩, ⟨4, 0, true⟩]).result = .error (.late (.writing 8)) ∧
        (run 3 7 (Wire.frame Wire.Command.shutdown)
          [⟨2, 1, false⟩, ⟨1, 3, false⟩, ⟨4, 0, true⟩]).elapsed = 7 := by
  refine ⟨?_, ?_, ?_⟩
  · refine ((run_in_time _ 4 (by decide) (.inr (by decide))).ends _ _).mpr
      (.sent ⟨?_, fun u hu => ?_⟩ (by decide) ?_)
    · show 8 ≤ (readBy 3 4 _ _ 3).length + 3
      decide
    · by_contra hlt
      have hmissing : ∀ u < 3, ¬ 8 ≤ (readBy 3 4 (Wire.frame Wire.Command.shutdown)
          [⟨2, 1, false⟩, ⟨1, 3, false⟩, ⟨0, 1, false⟩, ⟨4, 0, true⟩] u).length + 3 := by decide
      exact hmissing u (Nat.not_le.mp hlt) hu
    · rintro d ⟨⟩
      decide
  · exact ((run_in_time _ 10 (by decide) (.inr (by decide))).ends _ _).mpr
      (.gone rfl (by decide) (by decide))
  · refine ((run_in_time _ 7 (by decide) (.inr (by decide))).ends _ _).mpr
      (.late (by decide) (by decide) ?_)
    rintro d ⟨⟩
    decide

end Delivery

end Thumbnailer.Link
