/-
Every message has one payload.

* **`Command.reader_inverts`**, **`Response.reader_inverts`** — a message is taken off a buffer just
  if its kind is the one announced, its parts fit and the buffer begins with its payload;
* **`LawfulSide`** — what this comes to for whole payloads, the same for both sides;
* **`kind_payload_of_decode`** — an accepted payload is the payload of the message read from it, so
  no message has two of them.
-/
import Thumbnailer.Proofs.Wire.Layout
import Thumbnailer.Wire.Frame

namespace Thumbnailer.Wire

open Reader (andThen_eq_ok_iff done_eq_ok_iff)

/-! ### The readers of the two sides -/

namespace Command

/-- The lengths and counts in a request are words. -/
def Fits : Command → Prop
  | render task => Layout.path.Fits task.path ∧ (Layout.list .size).Fits task.sizes
  | _ => True

theorem fits_of_length {c : Command} (h : c.payload.length < 2 ^ 32) : c.Fits := by
  cases c with
  | render task =>
    simp only [payload, List.length_append] at h
    exact ⟨Layout.fits_of_length (by omega), Layout.fits_of_length (by omega)⟩
  | _ => trivial

end Command

namespace Response

/-- The lengths and counts in an answer are words. -/
def Fits : Response → Prop
  | render answer => Layout.text.Fits answer.text ∧ (Layout.list .bytes).Fits answer.images
  | formats answer => Layout.text.Fits answer.pictures ∧ Layout.text.Fits answer.videos
  | _ => True

theorem fits_of_length {r : Response} (h : r.payload.length < 2 ^ 32) : r.Fits := by
  cases r with
  | render answer =>
    simp only [payload, List.length_append] at h
    exact ⟨Layout.fits_of_length (by omega), Layout.fits_of_length (by omega)⟩
  | formats answer =>
    simp only [payload, List.length_append] at h
    exact ⟨Layout.fits_of_length (by omega), Layout.fits_of_length (by omega)⟩
  | _ => trivial

end Response

theorem readTask_inverts :
    readTask.Inverts (fun task => (Command.render task).Fits)
      (fun task => (Command.render task).payload) :=
  (Layout.read_inverts .path).pair (Layout.read_inverts (.list .size))
    fun _ _ _ => by rw [← Task.mk.injEq]

theorem readRendered_inverts :
    readRendered.Inverts (fun answer => (Response.render answer).Fits)
      (fun answer => (Response.render answer).payload) := by
  intro buffer answer rest
  simp only [readRendered, andThen_eq_ok_iff, Layout.read_inverts _ _ _ _, done_eq_ok_iff,
    Response.Fits, Response.payload]
  constructor
  · rintro ⟨code, _, ⟨-, rfl⟩, text, _, ⟨htext, rfl⟩, images, _, ⟨himages, rfl⟩, rfl, rfl⟩
    exact ⟨⟨htext, himages⟩, by simp only [List.append_assoc]⟩
  · rintro ⟨⟨htext, himages⟩, rfl⟩
    simp only [List.append_assoc]
    exact ⟨answer.code, _, ⟨trivial, rfl⟩, answer.text, _, ⟨htext, rfl⟩, answer.images, _,
      ⟨himages, rfl⟩, rfl, rfl⟩

theorem readFormats_inverts :
    readFormats.Inverts (fun answer => (Response.formats answer).Fits)
      (fun answer => (Response.formats answer).payload) :=
  (Layout.read_inverts .text).pair (Layout.read_inverts .text)
    fun _ _ _ => by rw [← Formats.mk.injEq]

/-- A request is taken off a buffer just if its kind is the one announced, its parts fit and the
buffer begins with its payload. -/
theorem Command.reader_inverts (k : Kind) :
    (Command.reader k).Inverts (fun c => c.kind = k ∧ c.Fits) Command.payload := by
  cases k with
  | render =>
    refine readTask_inverts.map (fun task => ⟨And.right, fun h => ⟨rfl, h⟩⟩) (fun _ => rfl) ?_
    rintro c ⟨hkind, -⟩
    cases c with
    | render task => exact ⟨task, rfl⟩
    | _ => cases hkind
  | hello | shutdown | formats =>
    intro buffer c rest
    rw [reader, done_eq_ok_iff]
    cases c <;> simp [kind, Fits, payload]
  | _ =>
    -- the kinds of answers, which no request has
    intro buffer c rest
    cases c <;> simp [reader, kind]

/-- An answer is taken off a buffer just if its kind is the one announced, its parts fit and the
buffer begins with its payload. -/
theorem Response.reader_inverts (k : Kind) :
    (Response.reader k).Inverts (fun r => r.kind = k ∧ r.Fits) Response.payload := by
  cases k with
  | renderResponse =>
    refine readRendered_inverts.map (fun answer => ⟨And.right, fun h => ⟨rfl, h⟩⟩)
      (fun _ => rfl) ?_
    rintro r ⟨hkind, -⟩
    cases r with
    | render answer => exact ⟨answer, rfl⟩
    | _ => cases hkind
  | formatsResponse =>
    refine readFormats_inverts.map (fun answer => ⟨And.right, fun h => ⟨rfl, h⟩⟩)
      (fun _ => rfl) ?_
    rintro r ⟨hkind, -⟩
    cases r with
    | formats answer => exact ⟨answer, rfl⟩
    | _ => cases hkind
  | helloResponse | shutdownResponse =>
    intro buffer r rest
    rw [reader, done_eq_ok_iff]
    cases r <;> simp [kind, Fits, payload]
  | _ =>
    -- the kinds of requests, which no answer has
    intro buffer r rest
    cases r <;> simp [reader, kind]

theorem Command.reader_payload {c : Command} (h : c.payload.length < 2 ^ 32) :
    reader c.kind c.payload = (.ok c, []) :=
  (reader_inverts _ _ _ _).mpr ⟨⟨rfl, fits_of_length h⟩, (List.append_nil _).symm⟩

theorem Response.reader_payload {r : Response} (h : r.payload.length < 2 ^ 32) :
    reader r.kind r.payload = (.ok r, []) :=
  (reader_inverts _ _ _ _).mpr ⟨⟨rfl, fits_of_length h⟩, (List.append_nil _).symm⟩

/-! ### Whole payloads -/

theorem allRead_eq_ok_iff {α : Type} {kind : Kind} {r : Except Malformed α × List UInt8} {a : α} :
    allRead kind r = .ok a ↔ r = (.ok a, []) := by
  obtain ⟨result, rest⟩ := r
  cases result <;> cases rest <;> simp [allRead]

/-- A side whose payloads are read as they are written. -/
class LawfulSide (α : Type) [Side α] : Prop where
  /-- A message is read from its payload, if the length of that is a word. -/
  ofPayload_payload (m : α) : (Side.payload m).length < 2 ^ 32 →
    Side.ofPayload (Side.kind m) (Side.payload m) = .ok m
  /-- A message is read from nothing but its payload. -/
  kind_payload {kind : Kind} {payload : List UInt8} {m : α} :
    Side.ofPayload kind payload = .ok m → Side.kind m = kind ∧ Side.payload m = payload

theorem Command.ofPayload_eq_ok_iff {kind : Kind} {payload : List UInt8} {c : Command} :
    Command.ofPayload kind payload = .ok c ↔ (c.kind = kind ∧ c.Fits) ∧ payload = c.payload := by
  rw [ofPayload, allRead_eq_ok_iff, reader_inverts kind, List.append_nil]

theorem Response.ofPayload_eq_ok_iff {kind : Kind} {payload : List UInt8} {r : Response} :
    Response.ofPayload kind payload = .ok r ↔ (r.kind = kind ∧ r.Fits) ∧ payload = r.payload := by
  rw [ofPayload, allRead_eq_ok_iff, reader_inverts kind, List.append_nil]

instance : LawfulSide Command where
  ofPayload_payload _ h := allRead_eq_ok_iff.mpr (Command.reader_payload h)
  kind_payload h :=
    have ⟨⟨hkind, _⟩, hpayload⟩ := Command.ofPayload_eq_ok_iff.mp h
    ⟨hkind, hpayload.symm⟩

instance : LawfulSide Response where
  ofPayload_payload _ h := allRead_eq_ok_iff.mpr (Response.reader_payload h)
  kind_payload h :=
    have ⟨⟨hkind, _⟩, hpayload⟩ := Response.ofPayload_eq_ok_iff.mp h
    ⟨hkind, hpayload.symm⟩

theorem decode_eq_ok_iff {α : Type} [Side α] {kind : Kind} {payload : List UInt8} {m : α} :
    decode kind payload = .ok m ↔ Side.ofPayload kind payload = .ok m := by
  rw [decode]
  cases (Side.ofPayload kind payload : Except Malformed α) with
  | error e => exact ⟨nofun, nofun⟩
  | ok a =>
    constructor
    · rintro ⟨⟩
      rfl
    · rintro ⟨⟩
      rfl

namespace LawfulSide

variable {α : Type} [Side α] [LawfulSide α] {m : α} {kind kind' : Kind}
  {payload payload' : List UInt8}

theorem decode_payload (h : (Side.payload m).length < 2 ^ 32) :
    decode (Side.kind m) (Side.payload m) = .ok m :=
  decode_eq_ok_iff.mpr (ofPayload_payload m h)

theorem eq_of_decode (h : decode kind payload = .ok m) :
    Side.kind m = kind ∧ Side.payload m = payload :=
  kind_payload (decode_eq_ok_iff.mp h)

theorem decode_inj (h : decode kind payload = .ok m) (h' : decode kind' payload' = .ok m) :
    kind' = kind ∧ payload' = payload := by
  obtain ⟨rfl, rfl⟩ := eq_of_decode h
  obtain ⟨rfl, rfl⟩ := eq_of_decode h'
  exact ⟨rfl, rfl⟩

end LawfulSide

/-- **A payload is accepted for one message only, and a message in one payload only.**  Whatever a
side accepts, under whatever kind, is the payload of the message read from it, byte for byte, and
the kind is the message's; so another payload, or the same one under another kind, is never read as
the same message. -/
theorem kind_payload_of_decode :
    (∀ (kind : Kind) (payload : List UInt8) (c : Command), decode kind payload = .ok c →
      (c.kind = kind ∧ c.payload = payload) ∧
        ∀ kind' payload', decode kind' payload' = .ok c → kind' = kind ∧ payload' = payload) ∧
    (∀ (kind : Kind) (payload : List UInt8) (r : Response), decode kind payload = .ok r →
      (r.kind = kind ∧ r.payload = payload) ∧
        ∀ kind' payload', decode kind' payload' = .ok r → kind' = kind ∧ payload' = payload) :=
  ⟨fun _ _ _ h => ⟨LawfulSide.eq_of_decode h, fun _ _ => LawfulSide.decode_inj h⟩,
    fun _ _ _ h => ⟨LawfulSide.eq_of_decode h, fun _ _ => LawfulSide.decode_inj h⟩⟩

/-- A request whose path is no text and which asks for one size twice, and an answer whose text is
not plain ASCII. -/
theorem kind_payload_of_decode_two :
    (decode .render [0, 0, 0, 2, 97, 255, 0, 0, 0, 2, 0, 0, 0, 0, 0, 0, 0, 9, 0, 0, 0, 0, 0, 0, 0, 9]
          = .ok (Command.render ⟨[97, 255], [⟨0, 9⟩, ⟨0, 9⟩]⟩) ∧
        (Command.render ⟨[97, 255], [⟨0, 9⟩, ⟨0, 9⟩]⟩).payload
          = [0, 0, 0, 2, 97, 255, 0, 0, 0, 2, 0, 0, 0, 0, 0, 0, 0, 9, 0, 0, 0, 0, 0, 0, 0, 9]) ∧
      decode .formatsResponse [0, 0, 0, 2, 195, 169, 0, 0, 0, 0] = .ok (Response.formats ⟨"é", ""⟩) ∧
        (Response.formats ⟨"é", ""⟩).payload = [0, 0, 0, 2, 195, 169, 0, 0, 0, 0] := by
  have hrequest : decode .render
      [0, 0, 0, 2, 97, 255, 0, 0, 0, 2, 0, 0, 0, 0, 0, 0, 0, 9, 0, 0, 0, 0, 0, 0, 0, 9]
        = .ok (Command.render ⟨[97, 255], [⟨0, 9⟩, ⟨0, 9⟩]⟩) := rfl
  have hanswer : decode .formatsResponse [0, 0, 0, 2, 195, 169, 0, 0, 0, 0]
      = .ok (Response.formats ⟨"é", ""⟩) :=
    decode_eq_ok_iff.mpr (Response.ofPayload_eq_ok_iff.mpr
      ⟨⟨rfl, Response.fits_of_length (by decide +kernel)⟩, by decide +kernel⟩)
  exact ⟨⟨hrequest, (kind_payload_of_decode.1 _ _ _ hrequest).1.2⟩, hanswer,
    (kind_payload_of_decode.2 _ _ _ hanswer).1.2⟩

end Thumbnailer.Wire
