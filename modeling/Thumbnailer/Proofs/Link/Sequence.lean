/-
One reading, one frame.

Frames that follow each other on a connection are read one by one, whatever their payloads say: a
payload that is refused is used up like any other, and the next reading starts at the next frame.

* **`Line.stream`** — all bytes that a connection brings;
* **`Leaves`** — what a connection still brings after a reading that used up some bytes;
* **`Framed`** — a header that is accepted, and as many bytes as it announces;
* **`Timely`** — each frame is there before the deadline of the reading that wants it;
* **`receiveTimes_frames`** — frames that come in time are read in their order, and messages with them.
-/
import Mathlib.Algebra.GroupWithZero.Nat
import Thumbnailer.Proofs.Link.Deadline
import Thumbnailer.Proofs.Wire.Frame

namespace Thumbnailer.Link

variable {α : Type} [Wire.Side α] {limit timeout : Nat}

/-! ### The bytes of a connection -/

/-- All bytes that arrive, up to the end of the peer's side. -/
def arriving : List Arrival → List UInt8
  | [] => []
  | a :: rest => a.bytes ++ if a.close.isSome then [] else arriving rest

namespace Line

variable {l : Line} {n t u : Nat}

/-- All bytes that a connection brings. -/
def stream (l : Line) : List UInt8 :=
  l.ready ++ if l.closed.isSome then [] else arriving l.coming

theorem stream_cons (ready : List UInt8) (a : Arrival) (rest : List Arrival) :
    stream ⟨ready, none, a :: rest⟩ = stream ⟨ready ++ a.bytes, a.close, rest⟩ := by
  simp only [stream, arriving, Option.isSome_none, Bool.false_eq_true, if_false, List.append_assoc]

theorem before_prefix_stream (l : Line) (t : Nat) : l.before t <+: l.stream := by
  obtain ⟨ready, closed, coming⟩ := l
  induction coming generalizing ready closed t with
  | nil =>
    cases closed with
    | some cause => exact List.prefix_rfl
    | none => exact List.prefix_rfl
  | cons a rest ih =>
    cases closed with
    | some cause => exact List.prefix_rfl
    | none =>
      rw [before_cons, stream_cons]
      split
      · exact ih _ _ _
      · rw [stream, List.append_assoc]
        exact List.prefix_append _ _

/-- What a connection still brings after a reading that used up `n` bytes: the others, and none of
them later than before. -/
structure Leaves (l : Line) (n : Nat) (r : Received α) : Prop where
  stream : r.line.stream = l.stream.drop n
  before : ∀ t, r.line.before (t + 1) = (l.before (r.elapsed + t + 1)).drop n

/-- A reading that finds a message uses up its bytes and no other. -/
theorem leaves_receive {result : Except Error α}
    (h : firstMessage limit (l.before timeout) = some result) :
    Leaves l (needed limit (l.before timeout)) (l.receive limit timeout : Received α) := by
  revert h
  refine receive_induction (P := fun timeout l r =>
    firstMessage limit (l.before timeout) = some result →
      Leaves l (needed limit (l.before timeout)) r) ?found ?closed ?late ?next timeout l
  case found =>
    intro timeout ready closed coming result' hfirst _
    have hle : needed limit ready ≤ ready.length := needed_le_of_firstMessage hfirst
    have hlong : ¬ ready.length < Wire.Header.size :=
      Nat.not_lt.mpr ((size_le_needed limit ready).trans hle)
    -- what comes later does not change how much the message needs
    have hneeded : needed limit (before ⟨ready, closed, coming⟩ timeout) = needed limit ready :=
      needed_append _ hlong
    rw [hneeded]
    constructor
    · rw [Line.stream, Line.stream, List.drop_append_of_le_length hle]
    · intro t
      rw [Nat.zero_add, Line.before, Line.before, List.drop_append_of_le_length hle]
  case closed =>
    intro timeout ready cause coming hmissing hfirst
    rw [before_closed] at hfirst
    exact absurd (needed_le_of_firstMessage hfirst) (Nat.not_le.mpr hmissing)
  case late =>
    intro timeout ready coming left hmissing hnext hfirst
    rw [(before_of_late hnext).1] at hfirst
    exact absurd (needed_le_of_firstMessage hfirst) (Nat.not_le.mpr hmissing)
  case next =>
    intro timeout ready a rest r hmissing hwait ih hfirst
    rw [before_cons, if_pos hwait] at hfirst ⊢
    obtain ⟨hstream, hbefore⟩ := ih hfirst
    constructor
    · rw [stream_cons, ← hstream]
      rfl
    · intro t
      have hpassed : a.wait < a.wait + r.elapsed + t + 1 := by omega
      have hleft : a.wait + r.elapsed + t + 1 - a.wait = r.elapsed + t + 1 := by omega
      show r.line.before (t + 1) = _
      rw [hbefore, Received.later, before_cons, if_pos hpassed, hleft]

omit [Wire.Side α] in
/-- What was there later than the bytes used up comes so much later to the next reading. -/
theorem Leaves.reaches {r : Received α} (h : Leaves l n r) (hat : l.Reaches n r.elapsed)
    (hmore : l.Reaches (n + u) t) :
    r.elapsed ≤ t ∧ r.line.Reaches u (t - r.elapsed) := by
  have hle : r.elapsed ≤ t := hat.2 ((Nat.le_add_right n u).trans hmore.1)
  have hlength : ∀ v, (r.line.before (v + 1)).length
      = (l.before (r.elapsed + v + 1)).length - n := by
    intro v
    rw [h.before, List.length_drop]
  refine ⟨hle, ?_, ?_⟩
  · show u ≤ (r.line.before (t - r.elapsed + 1)).length
    have hthere : n + u ≤ (l.before (t + 1)).length := hmore.1
    rw [hlength, Nat.add_sub_cancel' hle]
    omega
  · intro v hv
    change u ≤ (r.line.before (v + 1)).length at hv
    rw [hlength] at hv
    have hused : n ≤ (l.before (r.elapsed + v + 1)).length :=
      hat.1.trans (length_before_le (by omega))
    have htv : t ≤ r.elapsed + v := hmore.2 (by show n + u ≤ _; omega)
    omega

end Line

/-! ### Frames -/

/-- A frame as it may come: a header that is accepted, and as many bytes as it announces. -/
structure Framed (limit : Nat) where
  head : List UInt8
  header : Wire.Header
  payload : List UInt8
  length_head : head.length = Wire.Header.size
  parse_head : Wire.Header.parse limit head = .ok header
  length_payload : payload.length = header.payloadLength

namespace Framed

/-- All bytes of a frame. -/
def bytes (f : Framed limit) : List UInt8 := f.head ++ f.payload

/-- What the payload of a frame says, which may be nothing to the side `α`. -/
def message (f : Framed limit) : Except Error α := Wire.decode f.header.kind f.payload

theorem length_bytes (f : Framed limit) :
    f.bytes.length = Wire.Header.size + f.header.payloadLength := by
  rw [bytes, List.length_append, f.length_head, f.length_payload]

theorem parse_take (f : Framed limit) (more : List UInt8) :
    Wire.Header.parse limit ((f.bytes ++ more).take Wire.Header.size) = .ok f.header := by
  rw [bytes, List.append_assoc, List.take_left' f.length_head, f.parse_head]

theorem needed_append (f : Framed limit) (more : List UInt8) :
    needed limit (f.bytes ++ more) = f.bytes.length := by
  have hparse := f.parse_take more
  rw [needed_of_ok (not_short_of_parse hparse) hparse, length_bytes]

theorem firstMessage_append (f : Framed limit) (more : List UInt8) :
    firstMessage limit (f.bytes ++ more) = some (f.message : Except Error α) := by
  have hwhole : Wire.Header.size + f.header.payloadLength ≤ (f.bytes ++ more).length := by
    rw [List.length_append, length_bytes]
    exact Nat.le_add_right _ _
  rw [firstMessage_of_ok (f.parse_take more) hwhole, bytes, List.append_assoc,
    List.drop_left' f.length_head, List.take_left' f.length_payload, message]

/-- The frame of a message, if a word counts its payload and the limit admits it. -/
def ofMessage (limit : Nat) (m : α) (hword : (Wire.Side.payload m).length < 2 ^ 32)
    (hlimit : (Wire.Side.payload m).length ≤ limit) : Framed limit where
  head := (Wire.header m).bytes
  header := Wire.header m
  payload := Wire.Side.payload m
  length_head := Wire.Header.length_bytes _
  parse_head := by
    have hparse := Wire.header_of_length hword hlimit
    rw [Wire.take_frame, Wire.drop_frame] at hparse
    exact hparse
  length_payload := rfl

theorem exists_of_messages [Wire.LawfulSide α] (limit : Nat) (messages : List α)
    (h : ∀ m ∈ messages,
      (Wire.Side.payload m).length < 2 ^ 32 ∧ (Wire.Side.payload m).length ≤ limit) :
    ∃ frames : List (Framed limit), frames.map bytes = messages.map Wire.frame ∧
      frames.map message = messages.map .ok := by
  induction messages with
  | nil => exact ⟨[], rfl, rfl⟩
  | cons m messages ih =>
    obtain ⟨hword, hlimit⟩ := h m List.mem_cons_self
    obtain ⟨frames, hbytes, hmessages⟩ := ih fun m' hm' => h m' (List.mem_cons_of_mem _ hm')
    refine ⟨ofMessage limit m hword hlimit :: frames, ?_, ?_⟩
    · rw [List.map_cons, List.map_cons, hbytes]
      rfl
    · rw [List.map_cons, List.map_cons, hmessages]
      exact congrArg (· :: _) (Wire.LawfulSide.decode_payload hword)

end Framed

namespace Line

variable {l : Line} {n t : Nat} {sizes : List Nat} {frames : List (Framed limit)}

/-- A frame that is there before the deadline is read, and the connection brings what follows it. -/
theorem receive_framed (f : Framed limit) {more : List UInt8} (hstream : l.stream = f.bytes ++ more)
    (hat : l.Reaches f.bytes.length t) (ht : t < timeout) :
    (l.receive limit timeout : Received α).result = f.message ∧
      (l.receive limit timeout : Received α).elapsed = t ∧
      Leaves l f.bytes.length (l.receive limit timeout : Received α) := by
  have hthere : f.bytes.length ≤ (l.before timeout).length :=
    le_trans hat.1 (length_before_le ht)
  have hframe : f.bytes <+: l.before timeout := by
    refine List.prefix_of_prefix_length_le ?_ (before_prefix_stream l timeout) hthere
    rw [hstream]
    exact List.prefix_append _ _
  obtain ⟨behind, hbefore⟩ := hframe
  have hfirst : firstMessage limit (l.before timeout) = some (f.message : Except Error α) := by
    rw [← hbefore]
    exact f.firstMessage_append behind
  have hneeded : needed limit (l.before timeout) = f.bytes.length := by
    rw [← hbefore]
    exact f.needed_append behind
  obtain ⟨hresult, helapsed⟩ := (verdict_receive limit timeout l).of_firstMessage hfirst
  have hleaves := leaves_receive (α := α) hfirst
  rw [hneeded] at helapsed hleaves
  exact ⟨hresult, helapsed.unique hat, hleaves⟩

/-- Frames of these sizes come in time for readings that follow each other: each is there less than
`timeout` after the one before it. -/
def Timely (timeout : Nat) (l : Line) (sizes : List Nat) : Prop :=
  ∀ k < sizes.length, ∃ t u, l.Reaches (sizes.take k).sum t ∧ l.Reaches (sizes.take (k + 1)).sum u ∧
    u < t + timeout

theorem Timely.head (h : l.Timely timeout (n :: sizes)) : ∃ t, l.Reaches n t ∧ t < timeout := by
  obtain ⟨t, u, ht, hu, hlt⟩ := h 0 (Nat.zero_lt_succ _)
  -- nothing is wanted before the first frame
  have hzero : t = 0 := ht.unique (reaches_zero l)
  refine ⟨u, ?_, by omega⟩
  simpa using hu

omit [Wire.Side α] in
theorem Timely.tail {r : Received α} (h : l.Timely timeout (n :: sizes)) (hleaves : Leaves l n r)
    (hat : l.Reaches n r.elapsed) : r.line.Timely timeout sizes := by
  intro k hk
  obtain ⟨t, u, ht, hu, hlt⟩ := h (k + 1) (Nat.succ_lt_succ hk)
  rw [List.take_succ_cons, List.sum_cons] at ht hu
  obtain ⟨hle, ht'⟩ := hleaves.reaches hat ht
  obtain ⟨hle', hu'⟩ := hleaves.reaches hat hu
  exact ⟨_, _, ht', hu', by omega⟩

theorem exists_receiveTimes {rest : List UInt8}
    (hstream : l.stream = frames.flatMap Framed.bytes ++ rest)
    (htimely : l.Timely timeout (frames.map fun f => f.bytes.length)) {k : Nat} {f : Framed limit}
    (hk : frames[k]? = some f) :
    ∃ r : Received α, (l.receiveTimes limit timeout frames.length)[k]? = some r ∧
      r.result = f.message ∧
      r.line.stream = (frames.drop (k + 1)).flatMap Framed.bytes ++ rest := by
  -- the first reading takes the first frame, and leaves a connection that brings the others in time
  induction frames generalizing l k with
  | nil => cases hk
  | cons first frames ih =>
    rw [List.flatMap_cons, List.append_assoc] at hstream
    rw [List.map_cons] at htimely
    obtain ⟨t, hat, ht⟩ := htimely.head
    obtain ⟨hresult, helapsed, hleaves⟩ := receive_framed (α := α) first hstream hat ht
    have hleft : (l.receive limit timeout : Received α).line.stream
        = frames.flatMap Framed.bytes ++ rest := by
      rw [hleaves.stream, hstream, List.drop_left]
    rw [← helapsed] at hat
    cases k with
    | zero =>
      obtain rfl : first = f := Option.some.inj hk
      exact ⟨_, rfl, hresult, hleft⟩
    | succ k => exact ih hleft (htimely.tail hleaves hat) hk

theorem length_receiveTimes (n : Nat) (l : Line) :
    (l.receiveTimes limit timeout n : List (Received α)).length = n := by
  induction n generalizing l with
  | zero => rfl
  | succ n ih => rw [receiveTimes, List.length_cons, ih]

theorem map_result_receiveTimes {rest : List UInt8}
    (hstream : l.stream = frames.flatMap Framed.bytes ++ rest)
    (htimely : l.Timely timeout (frames.map fun f => f.bytes.length)) :
    (l.receiveTimes limit timeout frames.length : List (Received α)).map Received.result
      = frames.map Framed.message := by
  refine List.ext_getElem? fun k => ?_
  rw [List.getElem?_map, List.getElem?_map]
  cases hk : frames[k]? with
  | none =>
    have hend : frames.length ≤ k := List.getElem?_eq_none_iff.mp hk
    rw [List.getElem?_eq_none (by rw [length_receiveTimes]; exact hend)]
    rfl
  | some f =>
    obtain ⟨r, hr, hresult, -⟩ := exists_receiveTimes (α := α) hstream htimely hk
    rw [hr, Option.map_some, Option.map_some, hresult]

/-- **Each reading takes one frame.**  Let a connection bring frames, one behind the other, each of
them in time for the reading that wants it.  Then of as many readings, the `k`-th comes to what the
payload of the `k`-th frame says, be it a message or a refusal, and leaves the frames behind it as
they are.  So messages are read as they were written. -/
theorem receiveTimes_frames [Wire.LawfulSide α] (limit timeout : Nat) :
    (∀ (frames : List (Framed limit)) (rest : List UInt8) (l : Line),
      l.stream = frames.flatMap Framed.bytes ++ rest →
      l.Timely timeout (frames.map fun f => f.bytes.length) →
      ∀ k f, frames[k]? = some f →
        ∃ r : Received α, (l.receiveTimes limit timeout frames.length)[k]? = some r ∧
          r.result = Wire.decode f.header.kind f.payload ∧
          r.line.stream = (frames.drop (k + 1)).flatMap Framed.bytes ++ rest) ∧
    (∀ (messages : List α) (rest : List UInt8) (l : Line),
      (∀ m ∈ messages,
        (Wire.Side.payload m).length < 2 ^ 32 ∧ (Wire.Side.payload m).length ≤ limit) →
      l.stream = messages.flatMap Wire.frame ++ rest →
      l.Timely timeout (messages.map fun m => (Wire.frame m).length) →
      (l.receiveTimes limit timeout messages.length).map Received.result = messages.map .ok) := by
  constructor
  · intro frames rest l hstream htimely k f hk
    exact exists_receiveTimes hstream htimely hk
  · intro messages rest l hshort hstream htimely
    obtain ⟨frames, hbytes, hmessages⟩ := Framed.exists_of_messages limit messages hshort
    have hcount : messages.length = frames.length := by
      have hlength := congrArg List.length hbytes
      rwa [List.length_map, List.length_map, eq_comm] at hlength
    have hsizes : (messages.map fun m => (Wire.frame m).length)
        = frames.map fun f => f.bytes.length := by
      have hmap := congrArg (List.map List.length) hbytes
      rw [List.map_map, List.map_map] at hmap
      exact hmap.symm
    rw [List.flatMap_def, ← hbytes, ← List.flatMap_def] at hstream
    rw [hsizes] at htimely
    rw [hcount, ← hmessages]
    exact map_result_receiveTimes hstream htimely

/-- Three frames, cut into pieces without regard to where they end.  The payload of the second one
announces more bytes than there are; the third one is read all the same. -/
theorem receiveTimes_frames_refused :
    (∃ r : Received Wire.Command,
      ((ofArrivals [⟨1, [0, 1, 0, 1, 0], none⟩, ⟨3, [0, 0, 0, 0, 1, 0, 5], none⟩,
        ⟨4, [0, 0, 0, 4, 0, 0, 0, 9, 0, 1], none⟩,
        ⟨2, [0, 3, 0, 0, 0, 0], some .earlyEnd⟩]).receiveTimes 16 5 3)[2]? = some r ∧
      r.result = .ok .shutdown ∧ r.line.stream = []) ∧
    ((ofArrivals [⟨1, [0, 1, 0, 1, 0], none⟩, ⟨2, [0, 0, 0, 0, 1, 0, 3], none⟩,
      ⟨6, [0, 0, 0, 0], none⟩]).receiveTimes 16 7 2).map Received.result
        = [.ok Wire.Command.hello, .ok .shutdown] := by
  constructor
  · refine (receiveTimes_frames 16 5).1
      [⟨[0, 1, 0, 1, 0, 0, 0, 0], ⟨.v1, .hello, 0⟩, [], rfl, rfl, rfl⟩,
        ⟨[0, 1, 0, 5, 0, 0, 0, 4], ⟨.v1, .render, 4⟩, [0, 0, 0, 9], rfl, rfl, rfl⟩,
        ⟨[0, 1, 0, 3, 0, 0, 0, 0], ⟨.v1, .shutdown, 0⟩, [], rfl, rfl, rfl⟩] [] _ rfl ?_ 2 _ rfl
    intro k hk
    match k, hk with
    | 0, _ => exact ⟨0, 4, reaches_zero _, reaches_of_lt (by decide) (by decide), by decide⟩
    | 1, _ =>
      exact ⟨4, 8, reaches_of_lt (by decide) (by decide), reaches_of_lt (by decide) (by decide),
        by decide⟩
    | 2, _ =>
      exact ⟨8, 10, reaches_of_lt (by decide) (by decide), reaches_of_lt (by decide) (by decide),
        by decide⟩
  · refine (receiveTimes_frames 16 7).2 [Wire.Command.hello, .shutdown] [] _ (by decide) rfl ?_
    intro k hk
    match k, hk with
    | 0, _ => exact ⟨0, 3, reaches_zero _, reaches_of_lt (by decide) (by decide), by decide⟩
    | 1, _ =>
      exact ⟨3, 9, reaches_of_lt (by decide) (by decide), reaches_of_lt (by decide) (by decide),
        by decide⟩

end Line

end Thumbnailer.Link
