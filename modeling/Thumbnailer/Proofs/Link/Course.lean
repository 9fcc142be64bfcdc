/-
A writing told by numbers alone.

A writer and a reader share a bounded pipe, and the bytes go through it in pieces of any size.  None
of them is lost, repeated or taken out of turn, so it is enough to know how many the reader has:

* **`Held`** — the reader has the first `n` bytes of the frame, and the pipe goes on with those that
  come next;
* **`Held.fill`**, **`Held.draw`**, **`Held.drawAll`** — the turns of the writer and of the reader;
* **`course`** — how a writing goes on and ends, told by `n` and by what the reader wants;
* **`run_eq_course`** — every writing goes on so.
-/
import Thumbnailer.Link.Writing

namespace Thumbnailer.Link

/-- The number of bytes that a reader wants. It wants none once it has left. -/
def wanted : List Demand → Nat
  | [] => 0
  | a :: rest => a.count + if a.leaves then 0 else wanted rest

/-- A reader that leaves does so some time after all that it reads. -/
def Parting (demands : List Demand) : Prop :=
  ∀ a ∈ demands, a.leaves = true → a.count = 0 ∧ 0 < a.wait

instance : DecidablePred Parting := fun demands =>
  inferInstanceAs (Decidable (∀ a ∈ demands, a.leaves = true → a.count = 0 ∧ 0 < a.wait))

/-- The same, some time later. -/
def Delivered.later (time : Nat) (r : Delivered) : Delivered :=
  { r with elapsed := time + r.elapsed }

theorem Delivered.later_later (t u : Nat) (r : Delivered) :
    (r.later u).later t = r.later (t + u) := by
  simp only [later, Nat.add_assoc]

namespace Delivery

variable {frame : List UInt8} {capacity n m count fuel elapsed budget : Nat} {d d' : Delivery}
  {a : Demand} {demands rest : List Demand}

/-! ### Turns of the reader and the writer -/

/-- The reader has the first `n` bytes of the frame, and in the pipe are those that come next. -/
structure Held (frame : List UInt8) (capacity n : Nat) (d : Delivery) : Prop where
  read : d.read = frame.take n
  pending : d.pipe.bytes ++ d.left = frame.drop n
  capacity_eq : d.pipe.capacity = capacity
  within : d.pipe.bytes.length ≤ capacity

namespace Held

/-- A reader that has everything may be said to have more. -/
theorem mono (h : Held frame capacity n d) (hn : frame.length ≤ n) (hm : n ≤ m) :
    Held frame capacity m d where
  read := by rw [h.read, List.take_of_length_le hn, List.take_of_length_le (Nat.le_trans hn hm)]
  pending := by rw [h.pending, List.drop_eq_nil_of_le hn, List.drop_eq_nil_of_le (Nat.le_trans hn hm)]
  capacity_eq := h.capacity_eq
  within := h.within

theorem length_pipe_add (h : Held frame capacity n d) :
    d.pipe.bytes.length + d.left.length = frame.length - n := by
  rw [← List.length_append, h.pending, List.length_drop]

theorem lt_of_left (h : Held frame capacity n d) (hleft : d.left = []) :
    frame.length ≤ n + capacity := by
  have hlen := h.length_pipe_add
  have hwithin := h.within
  rw [hleft, List.length_nil] at hlen
  omega

theorem fill (h : Held frame capacity n d) :
    Held frame capacity n d.fill ∧ d.fill.left = frame.drop (n + capacity) := by
  have hroom : d.pipe.room = capacity - d.pipe.bytes.length := by rw [Pipe.room, h.capacity_eq]
  have hwithin := h.within
  refine ⟨⟨h.read, ?_, h.capacity_eq, ?_⟩, ?_⟩
  · show (d.pipe.bytes ++ d.left.take d.pipe.room) ++ d.left.drop d.pipe.room = _
    rw [List.append_assoc, List.take_append_drop, h.pending]
  · show (d.pipe.bytes ++ d.left.take d.pipe.room).length ≤ capacity
    rw [List.length_append, List.length_take]
    omega
  · show d.left.drop d.pipe.room = _
    rw [← List.drop_drop, ← h.pending, List.drop_append, List.drop_eq_nil_of_le hwithin, hroom,
      List.nil_append]

theorem draw (h : Held frame capacity n d) (count : Nat) :
    Held frame capacity (n + min count d.pipe.bytes.length) (d.draw count) := by
  have hwithin := h.within
  refine ⟨?_, ?_, h.capacity_eq, ?_⟩
  · show d.read ++ d.pipe.bytes.take count = _
    rw [List.take_add, ← h.read, ← h.pending, List.take_append_of_le_length (Nat.min_le_right ..),
      List.take_eq_take_min]
  · show d.pipe.bytes.drop count ++ d.left = _
    rw [← List.drop_drop, ← h.pending, List.drop_append_of_le_length (Nat.min_le_right ..)]
    congr 1
    by_cases hle : count ≤ d.pipe.bytes.length
    · rw [Nat.min_eq_left hle]
    · rw [Nat.min_eq_right (by omega), List.drop_eq_nil_of_le (by omega), List.drop_length]
  · show (d.pipe.bytes.drop count).length ≤ capacity
    rw [List.length_drop]
    omega

/-- The turns end when the reader has what it wants, or the whole frame. -/
theorem drawAll (h : Held frame capacity n d) (hcapacity : 0 < capacity) (hfuel : count ≤ fuel)
    (hturn : d.pipe.bytes = [] → count < fuel) :
    Held frame capacity (n + count) (drawAll fuel count d).1 := by
  induction fuel generalizing n count d with
  | zero =>
    obtain rfl : count = 0 := Nat.le_zero.mp hfuel
    exact h
  | succ fuel ih =>
    have hdraw := h.draw count
    rw [Delivery.drawAll]
    by_cases hdone : count - d.pipe.bytes.length = 0
    · rw [if_pos hdone]
      rwa [Nat.min_eq_left (by omega)] at hdraw
    · rw [if_neg hdone]
      rw [Nat.min_eq_right (by omega)] at hdraw
      -- the reader has emptied the pipe, and the writer has its turn
      obtain ⟨hfill, hleft⟩ := hdraw.fill
      by_cases hempty : (d.draw count).fill.pipe.bytes = []
      · rw [if_pos (List.isEmpty_iff.mpr hempty)]
        have hlen := hfill.length_pipe_add
        rw [hempty, hleft, List.length_drop, List.length_nil] at hlen
        exact hdraw.mono (by omega) (by omega)
      · rw [if_neg (mt List.isEmpty_iff.mp hempty)]
        have hmissing : count - d.pipe.bytes.length ≤ fuel := by
          by_cases hnil : d.pipe.bytes = []
          · have hlt := hturn hnil
            omega
          · have hpos := List.length_pos_iff.mpr hnil
            omega
        have hrest := ih hfill hmissing (fun hnil => absurd hnil hempty)
        rwa [show n + d.pipe.bytes.length + (count - d.pipe.bytes.length) = n + count by omega]
          at hrest

theorem readOn (h : Held frame capacity n d) (demands : List Demand) :
    readOn demands d = frame.take (n + min (wanted demands) d.pipe.bytes.length) := by
  induction demands generalizing n d with
  | nil => rw [Delivery.readOn, h.read, wanted, Nat.zero_min, Nat.add_zero]
  | cons a rest ih =>
    have hdraw := h.draw a.count
    have hlen : (d.draw a.count).pipe.bytes.length = d.pipe.bytes.length - a.count :=
      List.length_drop
    rw [Delivery.readOn, wanted]
    by_cases hon : a.count - d.pipe.bytes.length = 0 ∧ a.leaves = false
    · obtain ⟨hdone, hstays⟩ := hon
      rw [if_pos (by simp [hdone, hstays]), ih hdraw, hlen, hstays, if_neg Bool.false_ne_true]
      congr 1
      omega
    · rw [if_neg (by simpa using hon), hdraw.read]
      congr 1
      by_cases hdone : a.count - d.pipe.bytes.length = 0
      · have hleaves : a.leaves = true := by simpa [hdone] using hon
        rw [if_pos hleaves, Nat.add_zero]
      · omega

end Held

/-! ### The course of a writing -/

/-- How a writing goes on when the reader has `n` bytes and `budget` is left until the deadline. -/
def course (frame : List UInt8) (capacity budget n : Nat) (demands : List Demand) : Delivered :=
  if frame.length ≤ n + capacity then ⟨.ok (), 0, frame.take (n + wanted demands)⟩
  else
    match demands with
    | [] => ⟨.error (.late (.writing frame.length)), budget, frame.take n⟩
    | a :: rest =>
      if a.wait < budget then
        if a.leaves then ⟨.error (.io .pipeBroken), a.wait, frame.take n⟩
        else (course frame capacity (budget - a.wait) (n + a.count) rest).later a.wait
      else
        ⟨.error (.late (.writing frame.length)), budget,
          frame.take (n + min (wanted (a :: rest)) capacity)⟩

theorem course_of_le (h : frame.length ≤ n + capacity) :
    course frame capacity budget n demands = ⟨.ok (), 0, frame.take (n + wanted demands)⟩ := by
  rw [course.eq_def, if_pos h]

theorem course_nil (h : ¬ frame.length ≤ n + capacity) :
    course frame capacity budget n []
      = ⟨.error (.late (.writing frame.length)), budget, frame.take n⟩ := by
  rw [course, if_neg h]

theorem course_leaves (h : ¬ frame.length ≤ n + capacity) (hwait : a.wait < budget)
    (hleaves : a.leaves = true) :
    course frame capacity budget n (a :: rest)
      = ⟨.error (.io .pipeBroken), a.wait, frame.take n⟩ := by
  rw [course, if_neg h]
  simp only [if_pos hwait, if_pos hleaves]

theorem course_cons (h : ¬ frame.length ≤ n + capacity) (hwait : a.wait < budget)
    (hstays : a.leaves = false) :
    course frame capacity budget n (a :: rest)
      = (course frame capacity (budget - a.wait) (n + a.count) rest).later a.wait := by
  rw [course, if_neg h]
  simp only [if_pos hwait, hstays, Bool.false_eq_true, if_false]

theorem course_late (h : ¬ frame.length ≤ n + capacity) (hwait : ¬ a.wait < budget) :
    course frame capacity budget n (a :: rest)
      = ⟨.error (.late (.writing frame.length)), budget,
          frame.take (n + min (wanted (a :: rest)) capacity)⟩ := by
  rw [course, if_neg h]
  simp only [if_neg hwait]

/-- The writer has had its turn, or the reader goes on before that. -/
def Due (frame : List UInt8) (capacity n budget : Nat) (demands : List Demand) (d : Delivery) :
    Prop :=
  d.left = frame.drop (n + capacity) ∨
    0 < budget ∧ ∃ b rest, demands = b :: rest ∧ b.wait = 0 ∧ b.leaves = false

theorem take_add_min (h : frame.length ≤ n + capacity) (k : Nat) :
    frame.take (n + min k capacity) = frame.take (n + k) := by
  by_cases hk : k ≤ capacity
  · rw [Nat.min_eq_left hk]
  · rw [Nat.min_eq_right (by omega), List.take_of_length_le h, List.take_of_length_le (by omega)]

namespace Held

/-- A frame that is in the pipe is read on from there. -/
theorem follow_of_left (h : Held frame capacity n d) (hleft : d.left = []) :
    follow frame.length elapsed budget demands d
      = (course frame capacity budget n demands).later elapsed := by
  have hlen := h.length_pipe_add
  rw [hleft, List.length_nil] at hlen
  rw [follow.eq_def]
  simp only [if_pos (List.isEmpty_iff.mpr hleft), course_of_le (h.lt_of_left hleft), h.readOn,
    take_add_min (k := wanted demands) (by omega : frame.length ≤ n + d.pipe.bytes.length)]
  rfl

theorem follow_cons (h : Held frame capacity n d) (elapsed : Nat) (hcapacity : 0 < capacity)
    (hparting : Parting rest) (hleft : d.left ≠ []) (hwait : a.wait < budget)
    (hstays : a.leaves = false) :
    ∃ next, Held frame capacity (n + a.count) next ∧
      Due frame capacity (n + a.count) (budget - a.wait) rest next ∧
      follow frame.length elapsed budget (a :: rest) d
        = follow frame.length (elapsed + a.wait) (budget - a.wait) rest next := by
  have hdraw := h.drawAll hcapacity (Nat.le_succ a.count) (fun _ => Nat.lt_succ_self _)
  obtain ⟨hfill, hdue⟩ := hdraw.fill
  rw [follow, if_neg (mt List.isEmpty_iff.mp hleft)]
  simp only [if_pos hwait, hstays, Bool.and_false, Bool.false_eq_true, if_false]
  cases rest with
  | nil => exact ⟨_, hfill, .inl hdue, rfl⟩
  | cons b more =>
    by_cases hon : (Delivery.drawAll (a.count + 1) a.count d).2 = 0 ∧ b.wait = 0
    · -- the reader goes on before the writer has its turn
      have hbstays : b.leaves = false := Bool.eq_false_iff.mpr fun hleaves =>
        absurd hon.2 (Nat.ne_of_gt (hparting b List.mem_cons_self hleaves).2)
      exact ⟨_, hdraw, .inr ⟨by omega, b, more, rfl, hon.2, hbstays⟩, by simp [hon.1, hon.2]⟩
    · exact ⟨_, hfill, .inl hdue, by simp only [Bool.and_eq_true, decide_eq_true_eq, if_neg hon]⟩

theorem follow_leaves (h : Held frame capacity n d) (hmore : ¬ frame.length ≤ n + capacity)
    (hwait : a.wait < budget) (hleaves : a.leaves = true) (hcount : a.count = 0) :
    follow frame.length elapsed budget (a :: rest) d
      = ⟨.error (.io .pipeBroken), elapsed + a.wait, frame.take n⟩ := by
  have hleft : d.left ≠ [] := fun hnil => hmore (h.lt_of_left hnil)
  have hdraw := h.draw 0
  rw [Nat.zero_min, Nat.add_zero] at hdraw
  have hall : Delivery.drawAll (0 + 1) 0 d = (d.draw 0, 0) := by
    rw [Delivery.drawAll, if_pos (Nat.zero_sub _)]
  have hstill : ¬ (d.draw 0).left.isEmpty = true := mt List.isEmpty_iff.mp hleft
  rw [follow, if_neg (mt List.isEmpty_iff.mp hleft)]
  simp only [if_pos hwait, hcount, hall, hleaves, decide_true, Bool.and_self, if_true,
    if_neg hstill, hdraw.read]

theorem follow_late (h : Held frame capacity n d) (hmore : ¬ frame.length ≤ n + capacity)
    (hdue : d.left = frame.drop (n + capacity)) (hwait : ∀ a ∈ demands.head?, budget ≤ a.wait) :
    follow frame.length elapsed budget demands d
      = (course frame capacity budget n demands).later elapsed := by
  have hleft : ¬ d.left.isEmpty = true := fun hnil =>
    hmore (h.lt_of_left (List.isEmpty_iff.mp hnil))
  cases demands with
  | nil =>
    rw [follow, if_neg hleft, course_nil hmore]
    simp only [h.read, Delivered.later]
  | cons a rest =>
    have hlate : ¬ a.wait < budget := Nat.not_lt.mpr (hwait a rfl)
    have hlen := h.length_pipe_add
    have hwithin := h.within
    rw [hdue, List.length_drop] at hlen
    have hfull : d.pipe.bytes.length = capacity := by omega
    rw [follow, if_neg hleft, course_late hmore hlate]
    simp only [if_neg hlate, h.readOn, hfull, Delivered.later]

/-- A writing goes on as its numbers tell. -/
theorem follow_eq_course (h : Held frame capacity n d) (hcapacity : 0 < capacity)
    (hparting : Parting demands) (hdue : Due frame capacity n budget demands d) :
    follow frame.length elapsed budget demands d
      = (course frame capacity budget n demands).later elapsed := by
  induction demands generalizing n d elapsed budget with
  | nil =>
    obtain hdue | ⟨-, b, rest, hnil, -⟩ := hdue
    · by_cases hmore : frame.length ≤ n + capacity
      · exact h.follow_of_left (by rw [hdue, List.drop_eq_nil_of_le hmore])
      · exact h.follow_late hmore hdue fun a ha => nomatch ha
    · cases hnil
  | cons a rest ih =>
    have hrest : Parting rest := fun b hb => hparting b (List.mem_cons_of_mem _ hb)
    by_cases hleft : d.left = []
    · exact h.follow_of_left hleft
    · by_cases hmore : frame.length ≤ n + capacity
      · -- the last bytes have room already, and go in after what the reader does at once
        obtain hdue | ⟨hbudget, b, more, heq, hwait, hstays⟩ := hdue
        · exact absurd (by rw [hdue, List.drop_eq_nil_of_le hmore]) hleft
        · cases heq
          obtain ⟨next, hnext, hdue, hfollow⟩ := h.follow_cons elapsed hcapacity hrest hleft
            (hwait ▸ hbudget) hstays
          rw [hfollow, ih hnext hrest hdue, course_of_le (by omega), course_of_le hmore, wanted,
            hstays, if_neg Bool.false_ne_true, hwait, Nat.add_assoc, Nat.add_zero]
      · by_cases hwait : a.wait < budget
        · cases hleaves : a.leaves with
          | true =>
            have hcount := (hparting a List.mem_cons_self hleaves).1
            rw [h.follow_leaves hmore hwait hleaves hcount, course_leaves hmore hwait hleaves]
            rfl
          | false =>
            obtain ⟨next, hnext, hdue, hfollow⟩ := h.follow_cons elapsed hcapacity hrest
              hleft hwait hleaves
            rw [hfollow, ih hnext hrest hdue, course_cons hmore hwait hleaves,
              Delivered.later_later]
        · obtain hdue | ⟨hbudget, b, more, heq, hzero, -⟩ := hdue
          · exact h.follow_late hmore hdue (by simpa using hwait)
          · cases heq
            omega

end Held

/-- The reader is gone before the writing begins. -/
def Gone (demands : List Demand) : Prop := demands.head? = some ⟨0, 0, true⟩

theorem run_of_gone (h : Gone demands) (capacity timeout : Nat) (frame : List UInt8) :
    run capacity timeout frame demands = ⟨.error (.io .pipeBroken), 0, []⟩ := by
  obtain ⟨rest, rfl⟩ := List.head?_eq_some_iff.mp h
  rfl

theorem run_eq_follow (h : ¬ Gone demands) (capacity timeout : Nat) (frame : List UInt8) :
    run capacity timeout frame demands
      = follow frame.length 0 timeout demands (start capacity frame) := by
  unfold run
  split
  · exact absurd rfl h
  · rfl

theorem held_start (capacity : Nat) (frame : List UInt8) :
    Held frame capacity 0 (start capacity frame) ∧
      (start capacity frame).left = frame.drop (0 + capacity) :=
  Held.fill ⟨rfl, rfl, rfl, Nat.zero_le _⟩

/-- Every writing goes on as its numbers tell, unless its reader is gone before it begins. -/
theorem run_eq_course (h : ¬ Gone demands) (hcapacity : 0 < capacity) (hparting : Parting demands)
    (timeout : Nat) (frame : List UInt8) :
    run capacity timeout frame demands = course frame capacity timeout 0 demands := by
  obtain ⟨hheld, hdue⟩ := held_start capacity frame
  rw [run_eq_follow h, hheld.follow_eq_course hcapacity hparting (.inl hdue), Delivered.later]
  simp only [Nat.zero_add]

end Delivery

end Thumbnailer.Link
