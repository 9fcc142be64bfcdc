/-
How many pictures a client is content with.

A client that asks for renditions reads one answer and looks at its kind.  Whatever number of pictures
the answer has, it takes it; that there is one for each size is up to the worker.

* **`firstMessage_eq_ok_iff`** — a message is read from just those bytes that begin with its frame;
* **`Client.Brings`** — that a connection brings an answer in time;
* **`Client.generate_eq_ok_iff_brings`** — a client takes just the answers that its connection brings,
  and what this says of the number of their pictures.
-/
import Thumbnailer.Proofs.Client.Agreement
import Thumbnailer.Proofs.Wire.Header

namespace Thumbnailer

namespace Link

variable {α : Type} [Wire.Side α] [Wire.LawfulSide α] {limit timeout : ℕ} {bytes : List UInt8} {m : α}

theorem frame_prefix_of_firstMessage (h : firstMessage limit bytes = some (.ok m)) :
    Wire.frame m <+: bytes ∧ (Wire.Side.payload m).length < 2 ^ 32 ∧
      (Wire.Side.payload m).length ≤ limit := by
  unfold firstMessage at h
  split at h
  · cases h
  split at h
  · cases h
  · rename_i header hparse
    simp only at h
    split at h
    · cases h
    · rename_i hlong
      obtain ⟨hkind, hpayload⟩ := Wire.LawfulSide.eq_of_decode (Option.some.inj h)
      have hlength : (Wire.Side.payload m).length = header.payloadLength := by
        rw [hpayload, List.length_take]
        omega
      obtain ⟨hsize, hversion, hnumber, hannounced, hlimit⟩ := Wire.Header.parse_eq_ok_iff.mp hparse
      obtain ⟨hhead, hword⟩ := Wire.Header.bytes_eq_take_iff.mpr
        ⟨hsize, hversion, hnumber, hannounced⟩
      -- there is one version only, so the header is the one that is written
      have hheader : Wire.header m = header := by
        obtain ⟨version, kind, length⟩ := header
        cases version
        simp only at hkind hlength
        rw [Wire.header, hkind, hlength]
      rw [List.take_take, Nat.min_self] at hhead
      refine ⟨⟨(bytes.drop Wire.Header.size).drop header.payloadLength, ?_⟩, ?_, ?_⟩
      · rw [Wire.frame, hheader, ← hhead, hpayload, List.append_assoc, List.take_append_drop,
          List.take_append_drop]
      · rw [hlength]
        exact hword
      · rw [hlength, hannounced]
        exact hlimit

/-- A message is read from just those bytes that begin with its frame, if a word counts its payload
and the limit admits it. -/
theorem firstMessage_eq_ok_iff :
    firstMessage limit bytes = some (.ok m) ↔ Wire.frame m <+: bytes ∧
      (Wire.Side.payload m).length < 2 ^ 32 ∧ (Wire.Side.payload m).length ≤ limit := by
  refine ⟨frame_prefix_of_firstMessage, ?_⟩
  rintro ⟨⟨more, rfl⟩, hword, hlimit⟩
  exact firstMessage_append more (Wire.firstMessage_frame_of_length hword hlimit)

omit [Wire.LawfulSide α] in
/-- A reading comes to a message just if it is there in time. -/
theorem Line.result_receive_eq_ok_iff {l : Line} :
    (l.receive limit timeout : Received α).result = .ok m ↔
      firstMessage limit (l.before timeout) = some (.ok m) := by
  have hverdict := verdict_receive (α := α) limit timeout l
  constructor
  · intro h
    rw [h] at hverdict
    cases hverdict with
    | found hfirst _ => exact hfirst
  · intro h
    exact (hverdict.of_firstMessage h).1

end Link

namespace Client

variable {client : Client} {task : Task} {reply : Reply} {answer : Wire.Rendered}

/-- A connection brings the frame of an answer in time, and before anything else; the client has room
for it. -/
structure Brings (client : Client) (l : Link.Line) (answer : Wire.Response) : Prop where
  in_time : Wire.frame answer <+: l.before client.settings.readTimeout
  word : answer.payload.length < 2 ^ 32
  limit : answer.payload.length ≤ client.settings.maxFrameSize

theorem call_line_eq_ok_iff {l : Link.Line} {answer : Wire.Response} :
    client.call (.line l) = .ok answer ↔ client.Brings l answer := by
  rw [call, Link.Line.result_receive_eq_ok_iff, Link.firstMessage_eq_ok_iff]
  exact ⟨fun ⟨h, hword, hlimit⟩ => ⟨h, hword, hlimit⟩, fun ⟨h, hword, hlimit⟩ => ⟨h, hword, hlimit⟩⟩

theorem generate_eq_ok_iff_call :
    client.generate task reply = .ok answer ↔ client.call reply = .ok (.render answer) := by
  rw [generate]
  constructor
  · intro h
    split at h
    · rename_i other hcall
      cases h
      exact hcall
    · cases h
    · cases h
  · intro h
    rw [h]

theorem exists_line_of_call {answer : Wire.Response} (h : client.call reply = .ok answer) :
    ∃ l, reply = .line l := by
  cases reply with
  | unreachable cause => cases h
  | unsent cause => cases h
  | line l => exact ⟨l, rfl⟩

/-- What is there from the start is brought in time. -/
theorem brings_frame {answer : Wire.Response} (hword : answer.payload.length < 2 ^ 32)
    (hlimit : answer.payload.length ≤ client.settings.maxFrameSize) (more : List UInt8) :
    client.Brings ⟨Wire.frame answer ++ more, some .earlyEnd, []⟩ answer where
  in_time := by
    rw [Link.Line.before_closed]
    exact List.prefix_append _ _
  word := hword
  limit := hlimit

/-- Of a peer that sends one message and nothing else, nothing else is taken. -/
theorem Brings.eq_of_stream {l : Link.Line} {answer other : Wire.Response}
    (h : client.Brings l answer) (hword : other.payload.length < 2 ^ 32)
    (hstream : l.stream <+: Wire.frame other) : answer = other := by
  have hbegins := h.in_time.trans ((Link.Line.before_prefix_stream l _).trans hstream)
  have hfirst : Link.firstMessage client.settings.maxFrameSize (Wire.frame other)
      = some (.ok answer) := Link.firstMessage_eq_ok_iff.mpr ⟨hbegins, h.word, h.limit⟩
  exact (Wire.eq_iff_of_firstMessage_frame hfirst).mpr hword

/-- A worker answers a task with one picture for each size, whatever its provider does. -/
theorem length_images_of_respond {provider : Provider}
    (h : (provider.respond (.render task)).response = .render answer) :
    answer.images.length = task.sizes.length := by
  by_cases hserves : provider.Serves task ((byWidth task.sizes).map Prod.fst)
  · obtain ⟨row, hrow, hlength⟩ := Provider.exists_success_of_serves hserves
    rw [Provider.response_respond_of_ok hrow] at h
    cases h
    exact hlength
  · rw [Provider.response_respond_of_not_serves hserves] at h
    cases h
    exact List.length_replicate

/-- **What a client takes for the answer to a task.**  A client that asks for renditions takes an
answer just if its connection brings it in time; the task plays no part in this.  So if what comes is
the answer of a worker to this very task, or the beginning of one, then it has one picture for each
size, whatever the provider of the worker does; but for each task there is a connection from which
the client takes an answer with any other pictures, as many as it has room for. -/
theorem generate_eq_ok_iff_brings (client : Client) (task : Task) :
    (∀ reply answer, client.generate task reply = .ok answer ↔
      ∃ l, reply = .line l ∧ client.Brings l (.render answer)) ∧
    (∀ (provider : Provider) l answer,
      (provider.respond (.render task)).response.payload.length < 2 ^ 32 →
      l.stream <+: Wire.frame (provider.respond (.render task)).response →
      client.generate task (.line l) = .ok answer →
        answer.images.length = task.sizes.length) ∧
    (∀ answer : Wire.Rendered, (Wire.Response.render answer).payload.length < 2 ^ 32 →
      (Wire.Response.render answer).payload.length ≤ client.settings.maxFrameSize →
      ∃ l, client.generate task (.line l) = .ok answer) := by
  refine ⟨fun reply answer => ?_, ?_, ?_⟩
  · rw [generate_eq_ok_iff_call]
    constructor
    · intro h
      obtain ⟨l, rfl⟩ := exists_line_of_call h
      exact ⟨l, rfl, call_line_eq_ok_iff.mp h⟩
    · rintro ⟨l, rfl, h⟩
      exact call_line_eq_ok_iff.mpr h
  · intro provider l answer hword hstream h
    have hbrings := call_line_eq_ok_iff.mp (generate_eq_ok_iff_call.mp h)
    exact length_images_of_respond (hbrings.eq_of_stream hword hstream).symm
  · intro answer hword hlimit
    exact ⟨_, generate_eq_ok_iff_call.mpr
      (call_line_eq_ok_iff.mpr (brings_frame hword hlimit []))⟩

/-- A client that asked for two sizes takes one picture. -/
theorem generate_eq_ok_iff_brings_one :
    ∃ l, generate ⟨"", ⟨9, 9, 19⟩⟩ ⟨[97], [⟨1, 1⟩, ⟨2, 2⟩]⟩ (.line l) = .ok ⟨0, "OK", [[7]]⟩ :=
  (generate_eq_ok_iff_brings ⟨"", ⟨9, 9, 19⟩⟩ ⟨[97], [⟨1, 1⟩, ⟨2, 2⟩]⟩).2.2 ⟨0, "OK", [[7]]⟩
    (by decide +kernel) (by decide +kernel)

end Client

end Thumbnailer
