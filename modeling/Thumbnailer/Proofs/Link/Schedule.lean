/-
What a connection brings, and when.

* **`needed`** — how many bytes a reading waits for: a header, or all that the header announces;
* **`Line.before`** — the bytes that are there before some time has passed; **`Line.ending`** tells when
  the peer ended its side;
* **`Line.Reaches`** — the moment at which so many bytes are there;
* **`Line.receive_induction`** — a reading, arrival by arrival.
-/
import Mathlib.Order.Bounds.Basic
import Thumbnailer.Proofs.Link.Reading

namespace Thumbnailer.Link

variable {α : Type} [Wire.Side α] {limit timeout : Nat} {bytes : List UInt8}

/-! ### What a reading waits for -/

/-- The stage in which a reading of some bytes waits for more. -/
def stageOf (limit : Nat) (bytes : List UInt8) : Stage :=
  if bytes.length < Wire.Header.size then .header
  else
    match Wire.Header.parse limit (bytes.take Wire.Header.size) with
    | .error _ => .header
    | .ok h => .payload h

/-- How many bytes have to be there for a reading to end: a header, and if it is accepted the payload
that it announces. -/
def needed (limit : Nat) (bytes : List UInt8) : Nat :=
  match stageOf limit bytes with
  | .header => Wire.Header.size
  | .payload h => Wire.Header.size + h.payloadLength

theorem needed_of_short (h : bytes.length < Wire.Header.size) :
    needed limit bytes = Wire.Header.size := by
  rw [needed, stageOf, if_pos h]

theorem needed_of_error {cause : Error} (h : ¬ bytes.length < Wire.Header.size)
    (hparse : Wire.Header.parse limit (bytes.take Wire.Header.size) = .error cause) :
    needed limit bytes = Wire.Header.size := by
  rw [needed, stageOf, if_neg h, hparse]

theorem needed_of_ok {header : Wire.Header} (h : ¬ bytes.length < Wire.Header.size)
    (hparse : Wire.Header.parse limit (bytes.take Wire.Header.size) = .ok header) :
    needed limit bytes = Wire.Header.size + header.payloadLength := by
  rw [needed, stageOf, if_neg h, hparse]

theorem not_short_of_parse {header : Wire.Header}
    (hparse : Wire.Header.parse limit (bytes.take Wire.Header.size) = .ok header) :
    ¬ bytes.length < Wire.Header.size := by
  intro hshort
  have htake : (bytes.take Wire.Header.size).length < Wire.Header.size := by
    rw [List.length_take]
    omega
  rw [Wire.Header.parse, if_pos htake] at hparse
  cases hparse

theorem needed_append (more : List UInt8) (h : ¬ bytes.length < Wire.Header.size) :
    needed limit (bytes ++ more) = needed limit bytes := by
  have htake : (bytes ++ more).take Wire.Header.size = bytes.take Wire.Header.size :=
    List.take_append_of_le_length (by omega)
  have hlong : ¬ (bytes ++ more).length < Wire.Header.size := by
    rw [List.length_append]
    omega
  rw [needed, needed, stageOf, stageOf, if_neg h, if_neg hlong, htake]

theorem size_le_needed (limit : Nat) (bytes : List UInt8) :
    Wire.Header.size ≤ needed limit bytes := by
  rw [needed]
  split
  · exact Nat.le_refl _
  · exact Nat.le_add_right _ _

theorem lt_needed_append (more : List UInt8) (h : bytes.length < needed limit bytes) :
    bytes.length < needed limit (bytes ++ more) := by
  by_cases hshort : bytes.length < Wire.Header.size
  · -- without a header nothing is known of the payload, but eight bytes are needed in any case
    exact Nat.lt_of_lt_of_le hshort (size_le_needed _ _)
  · rw [needed_append more hshort]
    exact h

theorem firstMessage_of_error {cause : Error} (h : ¬ bytes.length < Wire.Header.size)
    (hparse : Wire.Header.parse limit (bytes.take Wire.Header.size) = .error cause) :
    (firstMessage limit bytes : Option (Except Error α)) = some (.error cause) := by
  rw [firstMessage, if_neg h, hparse]

theorem firstMessage_of_ok {header : Wire.Header}
    (hparse : Wire.Header.parse limit (bytes.take Wire.Header.size) = .ok header)
    (hwhole : Wire.Header.size + header.payloadLength ≤ bytes.length) :
    (firstMessage limit bytes : Option (Except Error α))
      = some (Wire.decode header.kind
          ((bytes.drop Wire.Header.size).take header.payloadLength)) := by
  have hpayload : ¬ (bytes.drop Wire.Header.size).length < header.payloadLength := by
    rw [List.length_drop]
    omega
  rw [firstMessage, if_neg (not_short_of_parse hparse), hparse]
  simp only [if_neg hpayload]

theorem feed_start_of_short (h : bytes.length < Wire.Header.size) :
    Reading.start.feed limit bytes
      = ((.waiting ⟨.header, bytes⟩, []) : Progress α × List UInt8) := by
  have htake : bytes.take Wire.Header.size = bytes := List.take_of_length_le (by omega)
  simp only [Reading.feed, Reading.start, Reading.feedHeader, List.nil_append, List.length_nil,
    Nat.sub_zero, htake, if_pos h]

section Header

variable (h : ¬ bytes.length < Wire.Header.size)

include h

theorem not_short_take : ¬ (bytes.take Wire.Header.size).length < Wire.Header.size := by
  rw [List.length_take]
  omega

theorem feed_start_of_error {cause : Error}
    (hparse : Wire.Header.parse limit (bytes.take Wire.Header.size) = .error cause) :
    Reading.start.feed limit bytes
      = ((.done (.error cause), bytes.drop Wire.Header.size) : Progress α × List UInt8) := by
  simp only [Reading.feed, Reading.start, Reading.feedHeader, List.nil_append, List.length_nil,
    Nat.sub_zero, if_neg (not_short_take h), hparse]

theorem feed_start_of_ok {header : Wire.Header}
    (hparse : Wire.Header.parse limit (bytes.take Wire.Header.size) = .ok header) :
    (Reading.start.feed limit bytes : Progress α × List UInt8)
      = Reading.feedPayload header [] (bytes.drop Wire.Header.size) := by
  simp only [Reading.feed, Reading.start, Reading.feedHeader, List.nil_append, List.length_nil,
    Nat.sub_zero, if_neg (not_short_take h), hparse]

end Header

/-- A new reading waits for more bytes, or it takes those that it needs and leaves the others. -/
theorem feed_start (α : Type) [Wire.Side α] (limit : Nat) (bytes : List UInt8) :
    (bytes.length < needed limit bytes ∧ ∃ r : Reading, r.stage = stageOf limit bytes ∧
      Reading.start.feed limit bytes = ((.waiting r, []) : Progress α × List UInt8)) ∨
    (needed limit bytes ≤ bytes.length ∧ ∃ result : Except Error α,
      firstMessage limit bytes = some result ∧
      Reading.start.feed limit bytes = (.done result, bytes.drop (needed limit bytes))) := by
  by_cases hshort : bytes.length < Wire.Header.size
  · rw [needed_of_short hshort, stageOf, if_pos hshort]
    exact .inl ⟨hshort, _, rfl, feed_start_of_short hshort⟩
  · cases hparse : Wire.Header.parse limit (bytes.take Wire.Header.size) with
    | error cause =>
      rw [needed_of_error hshort hparse]
      exact .inr ⟨Nat.not_lt.mp hshort, _, firstMessage_of_error hshort hparse,
        feed_start_of_error hshort hparse⟩
    | ok header =>
      rw [needed_of_ok hshort hparse, feed_start_of_ok hshort hparse, Reading.feedPayload,
        List.nil_append, List.length_nil, Nat.sub_zero]
      -- the payload is what stands behind the header, as far as it is there
      have hpayload : ((bytes.drop Wire.Header.size).take header.payloadLength).length
          = min header.payloadLength (bytes.length - Wire.Header.size) := by
        rw [List.length_take, List.length_drop]
      by_cases hwhole : Wire.Header.size + header.payloadLength ≤ bytes.length
      · rw [if_neg (by omega), List.drop_drop]
        exact .inr ⟨hwhole, _, firstMessage_of_ok hparse hwhole, rfl⟩
      · rw [if_pos (by omega), stageOf, if_neg hshort, hparse]
        exact .inl ⟨by omega, _, rfl, rfl⟩

/-- The first message is there as soon as enough bytes are. -/
theorem firstMessage_eq_none_iff :
    (firstMessage limit bytes : Option (Except Error α)) = none ↔
      bytes.length < needed limit bytes := by
  have hfound := Reading.result?_feed_start (α := α) limit bytes
  obtain ⟨hlt, r, -, hfeed⟩ | ⟨hle, result, hfirst, -⟩ := feed_start α limit bytes
  · rw [hfeed] at hfound
    exact ⟨fun _ => hlt, fun _ => hfound.symm⟩
  · rw [hfirst]
    exact ⟨fun h => (by cases h), fun h => absurd hle (Nat.not_le.mpr h)⟩

theorem needed_le_of_firstMessage {result : Except Error α}
    (h : firstMessage limit bytes = some result) : needed limit bytes ≤ bytes.length := by
  by_contra hlt
  have hnone := (firstMessage_eq_none_iff (α := α)).mpr (Nat.not_le.mp hlt)
  rw [h] at hnone
  cases hnone

/-! ### What is there, and when -/

/-- The bytes that arrive before some time has passed; none arrive once the peer ended its side. -/
def arrivedBefore (time : Nat) : List Arrival → List UInt8
  | [] => []
  | a :: rest =>
    if a.wait < time then
      a.bytes ++ if a.close.isSome then [] else arrivedBefore (time - a.wait) rest
    else []

/-- When the peer ends its side, if it does so before some time has passed, and the failure that a
further read then meets. -/
def closedBefore (time : Nat) : List Arrival → Option (Nat × IoError)
  | [] => none
  | a :: rest =>
    if a.wait < time then
      match a.close with
      | some cause => some (a.wait, cause)
      | none => (closedBefore (time - a.wait) rest).map fun e => (a.wait + e.1, e.2)
    else none

/-- The same, some time later. -/
def Received.later (time : Nat) (r : Received α) : Received α :=
  { r with elapsed := time + r.elapsed }

namespace Line

variable {l : Line} {ready : List UInt8} {a : Arrival} {rest : List Arrival} {n t u : Nat}

/-- The bytes of a connection that are there before some time has passed. -/
def before (l : Line) (time : Nat) : List UInt8 :=
  l.ready ++ if l.closed.isSome then [] else arrivedBefore time l.coming

/-- When the peer ended its side, if it did so before some time has passed. -/
def ending (l : Line) (time : Nat) : Option (Nat × IoError) :=
  match l.closed with
  | some cause => some (0, cause)
  | none => closedBefore time l.coming

/-- The first moment at which `n` bytes are there. -/
def Reaches (l : Line) (n t : Nat) : Prop := IsLeast {t | n ≤ (l.before (t + 1)).length} t

theorem before_cons (ready : List UInt8) (a : Arrival) (rest : List Arrival) (t : Nat) :
    before ⟨ready, none, a :: rest⟩ t =
      if a.wait < t then before ⟨ready ++ a.bytes, a.close, rest⟩ (t - a.wait) else ready := by
  by_cases h : a.wait < t
  · simp only [before, arrivedBefore, Option.isSome_none, Bool.false_eq_true, if_false, if_pos h,
      List.append_assoc]
  · simp only [before, arrivedBefore, Option.isSome_none, Bool.false_eq_true, if_false, if_neg h,
      List.append_nil]

theorem ending_cons (ready : List UInt8) (a : Arrival) (rest : List Arrival) (t : Nat) :
    ending ⟨ready, none, a :: rest⟩ t =
      if a.wait < t then
        (ending ⟨ready ++ a.bytes, a.close, rest⟩ (t - a.wait)).map fun e => (a.wait + e.1, e.2)
      else none := by
  by_cases h : a.wait < t
  · cases hclose : a.close with
    | none => simp only [ending, closedBefore, if_pos h, hclose]
    | some cause => simp only [ending, closedBefore, if_pos h, hclose, Option.map_some, Nat.add_zero]
  · simp only [ending, closedBefore, if_neg h]

theorem before_closed (ready : List UInt8) (cause : IoError) (coming : List Arrival) (t : Nat) :
    before ⟨ready, some cause, coming⟩ t = ready :=
  List.append_nil ready

/-- Nothing happens before the next arrival. -/
theorem before_of_late {coming : List Arrival} (h : ∀ a ∈ coming.head?, t ≤ a.wait) :
    before ⟨ready, none, coming⟩ t = ready ∧ ending ⟨ready, none, coming⟩ t = none := by
  cases coming with
  | nil => exact ⟨List.append_nil ready, rfl⟩
  | cons a rest =>
    have hwait : ¬ a.wait < t := Nat.not_lt.mpr (h a rfl)
    rw [before_cons, ending_cons, if_neg hwait, if_neg hwait]
    exact ⟨rfl, rfl⟩

/-- Time takes no byte away. -/
theorem before_prefix_of_le (h : t ≤ u) : l.before t <+: l.before u := by
  obtain ⟨ready, closed, coming⟩ := l
  induction coming generalizing ready closed t u with
  | nil => exact List.prefix_rfl
  | cons a rest ih =>
    cases closed with
    | some cause => exact List.prefix_rfl
    | none =>
      rw [before_cons, before_cons]
      by_cases ht : a.wait < t
      · have hu : a.wait < u := Nat.lt_of_lt_of_le ht h
        have hle : t - a.wait ≤ u - a.wait := by omega
        rw [if_pos ht, if_pos hu]
        exact ih hle _ _
      · -- before the next arrival there is only what was there at the start
        rw [if_neg ht]
        split
        · rw [before, List.append_assoc]
          exact List.prefix_append _ _
        · exact List.prefix_rfl

theorem length_before_le (h : t ≤ u) : (l.before t).length ≤ (l.before u).length :=
  (before_prefix_of_le h).length_le

theorem ending_le {cause : IoError} (h : l.ending t = some (u, cause)) : u ≤ t := by
  obtain ⟨ready, closed, coming⟩ := l
  induction coming generalizing ready closed t u with
  | nil =>
    cases closed with
    | some other =>
      obtain rfl : 0 = u := congrArg Prod.fst (Option.some.inj h)
      exact Nat.zero_le _
    | none => cases h
  | cons a rest ih =>
    cases closed with
    | some other =>
      obtain rfl : 0 = u := congrArg Prod.fst (Option.some.inj h)
      exact Nat.zero_le _
    | none =>
      rw [ending_cons] at h
      split at h
      · obtain ⟨⟨v, other⟩, hv, heq⟩ := Option.map_eq_some_iff.mp h
        obtain ⟨rfl, rfl⟩ := Prod.mk.inj heq
        have hle : v ≤ t - a.wait := ih _ _ hv
        show a.wait + v ≤ t
        omega
      · cases h

theorem reaches_zero (l : Line) : l.Reaches 0 0 := ⟨Nat.zero_le _, fun _ _ => Nat.zero_le _⟩

theorem reaches_of_lt (h : n ≤ (l.before (t + 1)).length) (hlt : (l.before t).length < n) :
    l.Reaches n t := by
  refine ⟨h, fun u hu => ?_⟩
  by_contra hut
  have hle : (l.before (u + 1)).length ≤ (l.before t).length := length_before_le (by omega)
  exact absurd (le_trans hu hle) (Nat.not_le.mpr hlt)

theorem Reaches.le (h : l.Reaches n t) (hn : n ≤ (l.before timeout).length) : t ≤ timeout - 1 := by
  refine h.2 (hn.trans (length_before_le ?_))
  omega

/-- Bytes that are not there yet come with the next arrival, or after it. -/
theorem Reaches.cons (hn : ready.length < n)
    (h : Reaches ⟨ready ++ a.bytes, a.close, rest⟩ n t) :
    Reaches ⟨ready, none, a :: rest⟩ n (a.wait + t) := by
  constructor
  · show n ≤ (before ⟨ready, none, a :: rest⟩ (a.wait + t + 1)).length
    rw [before_cons, if_pos (by omega), show a.wait + t + 1 - a.wait = t + 1 by omega]
    exact h.1
  · intro u hu
    change n ≤ (before ⟨ready, none, a :: rest⟩ (u + 1)).length at hu
    rw [before_cons] at hu
    split at hu
    · rename_i hwait
      rw [show u + 1 - a.wait = u - a.wait + 1 by omega] at hu
      have hle : t ≤ u - a.wait := h.2 hu
      omega
    · omega

/-! ### One reading, arrival by arrival -/

section From

variable {elapsed budget : Nat} {r r' : Reading} {left : List UInt8} {closed : Option IoError}
  {coming : List Arrival}

theorem receiveFrom_done {result : Except Error α}
    (h : r.feed limit ready = (.done result, left)) :
    receiveFrom limit elapsed budget r ready closed coming
      = ⟨result, elapsed, ⟨left, closed, coming⟩⟩ := by
  rw [receiveFrom, h]

variable (h : r.feed limit ready = ((.waiting r', left) : Progress α × List UInt8))

include h

theorem receiveFrom_closed (cause : IoError) :
    (receiveFrom limit elapsed budget r ready (some cause) coming : Received α)
      = ⟨.error (.io cause), elapsed, ⟨[], some cause, coming⟩⟩ := by
  rw [receiveFrom, h]

theorem receiveFrom_nil :
    (receiveFrom limit elapsed budget r ready none [] : Received α)
      = ⟨.error r'.late, elapsed + budget, ⟨[], none, []⟩⟩ := by
  rw [receiveFrom, h]

theorem receiveFrom_cons :
    (receiveFrom limit elapsed budget r ready none (a :: rest) : Received α) =
      if a.wait < budget then
        receiveFrom limit (elapsed + a.wait) (budget - a.wait) r' a.bytes a.close rest
      else
        ⟨.error r'.late, elapsed + budget,
          ⟨[], none, { a with wait := a.wait - budget } :: rest⟩⟩ := by
  rw [receiveFrom, h]

end From

theorem receiveFrom_later (time elapsed budget : Nat) (r : Reading) (ready : List UInt8)
    (closed : Option IoError) (coming : List Arrival) :
    (receiveFrom limit (time + elapsed) budget r ready closed coming : Received α)
      = (receiveFrom limit elapsed budget r ready closed coming).later time := by
  fun_induction receiveFrom (α := α) limit elapsed budget r ready closed coming with
  | case1 elapsed budget r ready closed coming result left hfeed =>
    rw [receiveFrom_done hfeed]
    rfl
  | case2 elapsed budget r ready coming r' left hfeed cause =>
    rw [receiveFrom_closed hfeed]
    rfl
  | case3 elapsed budget r ready r' left hfeed =>
    rw [receiveFrom_nil hfeed, Nat.add_assoc]
    rfl
  | case4 elapsed budget r ready r' left hfeed a rest hwait ih =>
    rw [receiveFrom_cons hfeed, if_pos hwait, Nat.add_assoc]
    exact ih
  | case5 elapsed budget r ready r' left hfeed a rest hwait =>
    rw [receiveFrom_cons hfeed, if_neg hwait, Nat.add_assoc]
    rfl

/-- A reading that waits goes on as a new one does that is given the same bytes once more. -/
theorem receiveFrom_of_waiting {elapsed budget : Nat} {r : Reading} {got ready : List UInt8}
    {closed : Option IoError} {coming : List Arrival}
    (h : Reading.start.feed limit got = ((.waiting r, []) : Progress α × List UInt8)) :
    (receiveFrom limit elapsed budget r ready closed coming : Received α)
      = receiveFrom limit elapsed budget .start (got ++ ready) closed coming := by
  have hfeed : (Reading.start.feed limit (got ++ ready) : Progress α × List UInt8)
      = r.feed limit ready := by
    rw [Reading.feed_append, h, Reading.resume]
  conv =>
    lhs
    rw [receiveFrom]
  conv =>
    rhs
    rw [receiveFrom, hfeed]

/-- What holds of a reading that ends at once, and passes from the moment of the next arrival to the
one before it, holds of every reading. -/
theorem receive_induction {P : Nat → Line → Received α → Prop}
    (found : ∀ timeout ready closed coming result, firstMessage limit ready = some result →
      P timeout ⟨ready, closed, coming⟩ ⟨result, 0, ⟨ready.drop (needed limit ready), closed, coming⟩⟩)
    (closed : ∀ timeout ready cause coming, ready.length < needed limit ready →
      P timeout ⟨ready, some cause, coming⟩ ⟨.error (.io cause), 0, ⟨[], some cause, coming⟩⟩)
    (late : ∀ timeout ready coming left, ready.length < needed limit ready →
      (∀ a ∈ coming.head?, timeout ≤ a.wait) →
      P timeout ⟨ready, none, coming⟩
        ⟨.error (.late (.reading (stageOf limit ready).size)), timeout, left⟩)
    (next : ∀ timeout ready a rest (r : Received α), ready.length < needed limit ready →
      a.wait < timeout → P (timeout - a.wait) ⟨ready ++ a.bytes, a.close, rest⟩ r →
      P timeout ⟨ready, none, a :: rest⟩ (r.later a.wait))
    (timeout : Nat) (l : Line) : P timeout l (l.receive limit timeout) := by
  obtain ⟨ready, isClosed, coming⟩ := l
  have hfound : ∀ timeout ready isClosed coming, needed limit ready ≤ ready.length →
      P timeout ⟨ready, isClosed, coming⟩ (receive limit timeout ⟨ready, isClosed, coming⟩) := by
    intro timeout ready isClosed coming hle
    obtain ⟨hlt, -⟩ | ⟨-, result, hfirst, hfeed⟩ := feed_start α limit ready
    · omega
    · rw [receive, receiveFrom_done hfeed]
      exact found _ _ _ _ _ hfirst
  have hmissing : ∀ ready : List UInt8, ready.length < needed limit ready →
      ∃ r : Reading, r.late = .late (.reading (stageOf limit ready).size) ∧
        Reading.start.feed limit ready = ((.waiting r, []) : Progress α × List UInt8) := by
    intro ready hlt
    obtain ⟨-, r, hstage, hfeed⟩ | ⟨hle, -⟩ := feed_start α limit ready
    · exact ⟨r, by rw [Reading.late, hstage], hfeed⟩
    · omega
  have hclosed : ∀ timeout ready cause coming, ready.length < needed limit ready →
      P timeout ⟨ready, some cause, coming⟩
        (receive limit timeout ⟨ready, some cause, coming⟩) := by
    intro timeout ready cause coming hlt
    obtain ⟨r, -, hfeed⟩ := hmissing ready hlt
    rw [receive, receiveFrom_closed hfeed]
    exact closed _ _ _ _ hlt
  induction coming generalizing timeout ready isClosed with
  | nil =>
    by_cases hlt : ready.length < needed limit ready
    · obtain ⟨r, hlate, hfeed⟩ := hmissing ready hlt
      cases isClosed with
      | some cause => exact hclosed _ _ _ _ hlt
      | none =>
        rw [receive, receiveFrom_nil hfeed, hlate, Nat.zero_add]
        exact late _ _ _ _ hlt (by simp)
    · exact hfound _ _ _ _ (Nat.not_lt.mp hlt)
  | cons a rest ih =>
    by_cases hlt : ready.length < needed limit ready
    · obtain ⟨r, hlate, hfeed⟩ := hmissing ready hlt
      cases isClosed with
      | some cause => exact hclosed _ _ _ _ hlt
      | none =>
        rw [receive, receiveFrom_cons hfeed]
        by_cases hwait : a.wait < timeout
        · have hlater : (receiveFrom limit a.wait (timeout - a.wait) .start (ready ++ a.bytes)
              a.close rest : Received α)
              = (receive limit (timeout - a.wait) ⟨ready ++ a.bytes, a.close, rest⟩).later a.wait :=
            receiveFrom_later a.wait 0 _ _ _ _ _
          rw [if_pos hwait, Nat.zero_add, receiveFrom_of_waiting hfeed, hlater]
          exact next _ _ _ _ _ hlt hwait (ih _ _ _)
        · rw [if_neg hwait, hlate, Nat.zero_add]
          exact late _ _ _ _ hlt (by simpa using hwait)
    · exact hfound _ _ _ _ (Nat.not_lt.mp hlt)

end Line

end Thumbnailer.Link
