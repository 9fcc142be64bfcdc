/-
Frames are read as they are written, as long as a word counts their payload.

* **`Header.parse_bytes_append`** — what a written header says: all of it, but the length modulo 2^32;
* **`Carries`** — the frame of a message tells its side the message and the other side nothing;
* **`carries_of_length`** — the frame of each message does so whose payload is short enough;
* **`firstMessage_frame_eq_ok_iff`** — what is read from the frame of any message: that message just
  if the length of its payload is a word, and otherwise what its first bytes happen to say.
-/
import Thumbnailer.Proofs.Link.Reading
import Thumbnailer.Proofs.Wire.Message

namespace Thumbnailer.Wire

open Link (firstMessage)

variable {α : Type} [Side α] {limit : Nat} {m m' : α}

/-! ### Headers -/

namespace Header

theorem bigEndian_writeWord_ofNat (n : Nat) : bigEndian (writeWord (.ofNat n)) = n % 2 ^ 32 := by
  rw [bigEndian_writeWord, UInt32.toNat_ofNat']

theorem ofWire_version (v : Version) :
    Version.ofWire (bigEndian (writeHalf v.toNat)) = .ok v := by
  cases v
  rfl

theorem ofWire_kind (k : Kind) : Kind.ofWire (bigEndian (writeHalf k.toNat)) = .ok k := by
  cases k <;> rfl

@[simp] theorem length_bytes (h : Header) : h.bytes.length = size := rfl

/-- What a written header says. -/
theorem parse_bytes_append (limit : Nat) (h : Header) (rest : List UInt8) :
    parse limit (h.bytes ++ rest) =
      if h.payloadLength % 2 ^ 32 ≤ limit then
        .ok ⟨h.version, h.kind, h.payloadLength % 2 ^ 32⟩
      else .error (.frameTooLarge (h.payloadLength % 2 ^ 32)) := by
  have hlen : ¬ (h.bytes ++ rest).length < size := by
    rw [List.length_append, length_bytes]
    omega
  have hversion : (h.bytes ++ rest).take 2 = writeHalf h.version.toNat := rfl
  have hkind : ((h.bytes ++ rest).drop 2).take 2 = writeHalf h.kind.toNat := rfl
  have hlength : ((h.bytes ++ rest).drop 4).take 4 = writeWord (.ofNat h.payloadLength) := rfl
  simp only [parse, if_neg hlen, hversion, hkind, hlength, ofWire_version, ofWire_kind,
    bigEndian_writeWord_ofNat]

end Header

/-! ### Frames -/

theorem take_frame (m : α) : (frame m).take Header.size = (header m).bytes :=
  List.take_left' (Header.length_bytes _)

theorem drop_frame (m : α) : (frame m).drop Header.size = Side.payload m :=
  List.drop_left' (Header.length_bytes _)

/-- What a frame's header says of it. -/
theorem parse_frame (limit : Nat) (m : α) :
    Header.parse limit ((frame m).take Header.size) =
      if (Side.payload m).length % 2 ^ 32 ≤ limit then
        .ok ⟨.latest, Side.kind m, (Side.payload m).length % 2 ^ 32⟩
      else .error (.frameTooLarge ((Side.payload m).length % 2 ^ 32)) := by
  rw [take_frame, ← List.append_nil (header m).bytes, Header.parse_bytes_append]
  rfl

/-- The frame of a message tells its own side, which takes messages off a buffer with `reader`, the
message and nothing besides, and it tells the other side `β` nothing. -/
structure Carries (reader : Kind → Reader α) (β : Type) [Side β] (limit : Nat) (m : α) : Prop where
  header : Header.parse limit ((frame m).take Header.size)
    = .ok ⟨.latest, Side.kind m, ((frame m).drop Header.size).length⟩
  own : decode (Side.kind m) ((frame m).drop Header.size) = .ok m
  whole : reader (Side.kind m) ((frame m).drop Header.size) = (.ok m, [])
  other : ∃ cause, (decode (Side.kind m) ((frame m).drop Header.size) : Except Error β)
    = .error (.malformed cause)

theorem header_of_length (h : (Side.payload m).length < 2 ^ 32)
    (hlimit : (Side.payload m).length ≤ limit) :
    Header.parse limit ((frame m).take Header.size)
      = .ok ⟨.latest, Side.kind m, ((frame m).drop Header.size).length⟩ := by
  rw [parse_frame, Nat.mod_eq_of_lt h, if_pos hlimit, drop_frame]

/-- What the two sides have in common here; only their readers and the refusals of the other side
differ. -/
theorem Carries.of_length [LawfulSide α] {reader : Kind → Reader α} {β : Type} [Side β]
    (h : (Side.payload m).length < 2 ^ 32) (hlimit : (Side.payload m).length ≤ limit)
    (hread : reader (Side.kind m) (Side.payload m) = (.ok m, []))
    (hother : ∃ cause, (decode (Side.kind m) (Side.payload m) : Except Error β)
      = .error (.malformed cause)) :
    Carries reader β limit m where
  header := header_of_length h hlimit
  own := by
    rw [drop_frame]
    exact LawfulSide.decode_payload h
  whole := by
    rw [drop_frame]
    exact hread
  other := by
    rw [drop_frame]
    exact hother

/-- A request is no answer. -/
theorem Command.decode_response (c : Command) (payload : List UInt8) :
    (decode c.kind payload : Except Error Response)
      = .error (.malformed (.notResponse c.kind)) := by
  cases c <;> rfl

/-- An answer is no request. -/
theorem Response.decode_command (r : Response) (payload : List UInt8) :
    (decode r.kind payload : Except Error Command)
      = .error (.malformed (.notRequest r.kind)) := by
  cases r <;> rfl

/-- **Frames carry their messages.**  If a word counts the payload and the limit admits it, the
first eight bytes of a message's frame announce the kind of the message and the number of bytes
behind them; those are read, to the last one, as this message by its own side, and the other side
refuses them. -/
theorem carries_of_length (limit : Nat) :
    (∀ c : Command, c.payload.length < 2 ^ 32 → c.payload.length ≤ limit →
      Carries Command.reader Response limit c) ∧
    (∀ r : Response, r.payload.length < 2 ^ 32 → r.payload.length ≤ limit →
      Carries Response.reader Command limit r) := by
  constructor
  · intro c h hlimit
    exact .of_length h hlimit (Command.reader_payload h) ⟨_, c.decode_response _⟩
  · intro r h hlimit
    exact .of_length h hlimit (Response.reader_payload h) ⟨_, r.decode_command _⟩

/-- A request and an answer, each at the limit; a path that is no text, a size asked for twice, a
text that is not plain ASCII and a picture that was not made. -/
theorem carries_of_length_two :
    Carries Command.reader Response 26 (.render ⟨[97, 255], [⟨0, 9⟩, ⟨0, 9⟩]⟩) ∧
      Carries Response.reader Command 23 (.render ⟨1, "é", [[], [7]]⟩) :=
  ⟨(carries_of_length 26).1 _ (by decide +kernel) (by decide +kernel),
    (carries_of_length 23).2 _ (by decide +kernel) (by decide +kernel)⟩

/-! ### Frames of any length -/

/-- What is read from the frame of a message, whatever its length: the message whose payload the
announced bytes are. -/
theorem firstMessage_frame (limit : Nat) (m : α) :
    (firstMessage limit (frame m) : Option (Except Error α)) =
      if (Side.payload m).length % 2 ^ 32 ≤ limit then
        some (decode (Side.kind m)
          ((Side.payload m).take ((Side.payload m).length % 2 ^ 32)))
      else some (.error (.frameTooLarge ((Side.payload m).length % 2 ^ 32))) := by
  have hframe : ¬ (frame m).length < Header.size := by
    rw [frame, List.length_append, Header.length_bytes]
    omega
  have hannounced : ¬ (Side.payload m).length < (Side.payload m).length % 2 ^ 32 :=
    Nat.not_lt.mpr (Nat.mod_le _ _)
  rw [firstMessage, if_neg hframe, parse_frame, drop_frame]
  by_cases hlimit : (Side.payload m).length % 2 ^ 32 ≤ limit
  · simp only [if_pos hlimit, if_neg hannounced]
  · simp only [if_neg hlimit]

variable [LawfulSide α]

theorem firstMessage_frame_eq_ok :
    firstMessage limit (frame m) = some (.ok m') ↔
      Side.kind m' = Side.kind m ∧
        Side.payload m' = (Side.payload m).take ((Side.payload m).length % 2 ^ 32) ∧
        (Side.payload m').length ≤ limit := by
  have hannounced := Nat.mod_le (Side.payload m).length (2 ^ 32)
  have hword := Nat.mod_lt (Side.payload m).length (Nat.two_pow_pos 32)
  have htake : ((Side.payload m).take ((Side.payload m).length % 2 ^ 32)).length
      = (Side.payload m).length % 2 ^ 32 := by
    rw [List.length_take, Nat.min_eq_left hannounced]
  rw [firstMessage_frame]
  constructor
  · intro h
    split at h
    · rename_i hlimit
      obtain ⟨hkind, hpayload⟩ := LawfulSide.eq_of_decode (Option.some.inj h)
      exact ⟨hkind, hpayload, by rw [hpayload, htake]; exact hlimit⟩
    · cases h
  · rintro ⟨hkind, hpayload, hlimit⟩
    rw [hpayload, htake] at hlimit
    -- the announced bytes are the whole payload of the other message, and a word counts them
    rw [if_pos hlimit, ← hkind, ← hpayload, LawfulSide.decode_payload]
    rw [hpayload, htake]
    exact hword

theorem eq_iff_of_firstMessage_frame (h : firstMessage limit (frame m) = some (.ok m')) :
    m' = m ↔ (Side.payload m).length < 2 ^ 32 := by
  obtain ⟨hkind, hpayload, -⟩ := firstMessage_frame_eq_ok.mp h
  constructor
  · rintro rfl
    -- a message is not read from fewer bytes than it has
    have hlen := congrArg List.length hpayload
    rw [List.length_take] at hlen
    omega
  · intro hword
    rw [Nat.mod_eq_of_lt hword, List.take_length] at hpayload
    have hm : decode (Side.kind m) (Side.payload m) = .ok m := LawfulSide.decode_payload hword
    have hm' : decode (Side.kind m') (Side.payload m') = .ok m' :=
      LawfulSide.decode_payload (by rw [hpayload]; exact hword)
    rw [hkind, hpayload, hm] at hm'
    exact (Except.ok.inj hm').symm

theorem exists_firstMessage_frame (limit : Nat) (m : α) :
    ∃ result, firstMessage limit (frame m) = some result ∧ ∀ m' : α,
      (result = .ok m' ↔
        Side.kind m' = Side.kind m ∧
          Side.payload m' = (Side.payload m).take ((Side.payload m).length % 2 ^ 32) ∧
          (Side.payload m').length ≤ limit) ∧
      (result = .ok m' → (m' = m ↔ (Side.payload m).length < 2 ^ 32)) := by
  have hread : ∃ result, (firstMessage limit (frame m) : Option (Except Error α)) = some result := by
    rw [firstMessage_frame]
    split
    · exact ⟨_, rfl⟩
    · exact ⟨_, rfl⟩
  obtain ⟨result, hread⟩ := hread
  refine ⟨result, hread, fun m' => ?_⟩
  rw [← Option.some_inj, ← hread]
  exact ⟨firstMessage_frame_eq_ok, eq_iff_of_firstMessage_frame⟩

/-- **When a frame is read as another message.**  From the frame of a message, whatever its size,
something is always read.  It is a message just if there is one of the same kind whose payload are
the first bytes of the payload, as many as its length is modulo 2^32, and the limit admits them;
then it is this one, and otherwise a refusal.  It is the message that was written just if a word
counts the whole payload: a payload of 2^32 bytes or more is never read as its own message, but as
another one wherever there is one. -/
theorem firstMessage_frame_eq_ok_iff (limit : Nat) :
    (∀ c : Command, ∃ result, firstMessage limit (frame c) = some result ∧ ∀ c' : Command,
      (result = .ok c' ↔
        c'.kind = c.kind ∧ c'.payload = c.payload.take (c.payload.length % 2 ^ 32) ∧
          c'.payload.length ≤ limit) ∧
      (result = .ok c' → (c' = c ↔ c.payload.length < 2 ^ 32))) ∧
    (∀ r : Response, ∃ result, firstMessage limit (frame r) = some result ∧ ∀ r' : Response,
      (result = .ok r' ↔
        r'.kind = r.kind ∧ r'.payload = r.payload.take (r.payload.length % 2 ^ 32) ∧
          r'.payload.length ≤ limit) ∧
      (result = .ok r' → (r' = r ↔ r.payload.length < 2 ^ 32))) :=
  ⟨exists_firstMessage_frame limit, exists_firstMessage_frame limit⟩

/-- The last 2^32 bytes of the last picture leave no trace in what stands before them. -/
theorem Response.payload_render_append (code : UInt32) (text : String) (images : List Image)
    (image : Image) {tail : Image} (h : 2 ^ 32 ∣ tail.length) :
    (render ⟨code, text, images ++ [image ++ tail]⟩).payload
      = (render ⟨code, text, images ++ [image]⟩).payload ++ tail := by
  have hlength : UInt32.ofNat (image ++ tail).length = .ofNat image.length := by
    obtain ⟨n, hn⟩ := h
    rw [← UInt32.toNat_inj, UInt32.toNat_ofNat', UInt32.toNat_ofNat', List.length_append, hn,
      Nat.add_mul_mod_self_left]
  have hcount : (images ++ [image ++ tail]).length = (images ++ [image]).length := by
    rw [List.length_append, List.length_append, List.length_singleton, List.length_singleton]
  simp only [payload, Layout.write, writeBytes, List.flatMap_append, List.flatMap_cons,
    List.flatMap_nil, List.append_nil, hcount, hlength, List.append_assoc]

/-- A picture of 2^32 bytes arrives as none at all, in an answer that says that all is well. -/
theorem firstMessage_frame_long :
    firstMessage (2 ^ 26) (frame (Response.render ⟨0, "OK", [List.replicate (2 ^ 32) 0]⟩))
        = some (.ok (Response.render ⟨0, "OK", [[]]⟩)) ∧
      Response.render ⟨0, "OK", [[]]⟩ ≠ .render ⟨0, "OK", [List.replicate (2 ^ 32) 0]⟩ := by
  -- of the picture nothing but its length counts
  have himage : (List.replicate (2 ^ 32) (0 : UInt8)).length = 2 ^ 32 := List.length_replicate
  generalize List.replicate (2 ^ 32) (0 : UInt8) = image at himage ⊢
  obtain ⟨result, hread, hresult⟩ := (firstMessage_frame_eq_ok_iff (2 ^ 26)).2
    (.render ⟨0, "OK", [image]⟩)
  obtain ⟨hok, hsame⟩ := hresult (.render ⟨0, "OK", [[]]⟩)
  have hshort : (Response.render ⟨0, "OK", [[]]⟩).payload.length = 18 := by decide +kernel
  have hlong : (Response.render ⟨0, "OK", [image]⟩).payload
      = (Response.render ⟨0, "OK", [[]]⟩).payload ++ image :=
    Response.payload_render_append 0 "OK" [] [] ⟨1, himage⟩
  have hlength : (Response.render ⟨0, "OK", [image]⟩).payload.length = 18 + 2 ^ 32 := by
    rw [hlong, List.length_append, hshort, himage]
  have htake : (Response.render ⟨0, "OK", [[]]⟩).payload
      = (Response.render ⟨0, "OK", [image]⟩).payload.take
        ((Response.render ⟨0, "OK", [image]⟩).payload.length % 2 ^ 32) := by
    rw [hlength, hlong]
    exact (List.take_left' hshort).symm
  have hempty := hok.mpr ⟨rfl, htake, by rw [hshort]; decide⟩
  refine ⟨by rw [hread, hempty], fun heq => ?_⟩
  have hword := (hsame hempty).mp heq
  rw [hlength] at hword
  omega

end Thumbnailer.Wire
