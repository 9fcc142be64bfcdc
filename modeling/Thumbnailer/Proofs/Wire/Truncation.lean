/-
No payload is read in part, and none with more behind it.

Wherever a payload is cut — in a length, in a count, between two items, inside a text — there is a
length or a count before the cut that asks for more bytes than are left.

* **`Reader.RunsShort`** — a reader says so of each proper part of some bytes;
* **`Layout.read_runsShort`** — the reader of a layout does, of the bytes of a value;
* **`Command.reader_runsShort`**, **`Response.reader_runsShort`** — so do the readers of messages;
* **`delimited_of_length`** — a payload that lacks its end, or has more behind it, is refused: no
  payload of a kind is the beginning of another.
-/
import Thumbnailer.Proofs.Wire.Message

namespace Thumbnailer.Wire

variable {α β : Type} {bytes tail buffer rest cut more : List UInt8}

/-! ### Readers that find too few bytes -/

namespace Reader

/-- The reader finds fewer bytes than it needs. -/
def Short (r : Reader α) (buffer : List UInt8) : Prop :=
  ∃ piece needed left rest, left < needed ∧
    r buffer = (.error (.shortPayload piece needed left), rest)

/-- The reader finds too few bytes in each proper part of some bytes. -/
def RunsShort (r : Reader α) (bytes : List UInt8) : Prop :=
  ∀ cut, cut <+: bytes → cut ≠ bytes → r.Short cut

variable {r : Reader α} {f : α → Reader β} {a : α}

theorem Short.andThen (h : r.Short buffer) (f : α → Reader β) : (r.andThen f).Short buffer := by
  obtain ⟨piece, needed, left, rest, hlt, hr⟩ := h
  refine ⟨piece, needed, left, rest, hlt, ?_⟩
  rw [Reader.andThen, hr]

theorem short_andThen (hr : r buffer = (.ok a, rest)) (hf : (f a).Short rest) :
    (r.andThen f).Short buffer := by
  obtain ⟨piece, needed, left, last, hlt, hf⟩ := hf
  refine ⟨piece, needed, left, last, hlt, ?_⟩
  rw [Reader.andThen, hr]
  exact hf

theorem runsShort_nil (r : Reader α) : r.RunsShort [] :=
  fun _ hcut hne => absurd (List.prefix_nil.mp hcut) hne

theorem RunsShort.last (h : r.RunsShort bytes) (f : α → Reader β) :
    (r.andThen f).RunsShort bytes :=
  fun cut hcut hne => (h cut hcut hne).andThen f

/-- A cut falls into the first part, or the first part is there and the cut falls into the second. -/
theorem RunsShort.andThen (hr : r.RunsShort bytes)
    (hread : ∀ more, r (bytes ++ more) = (.ok a, more)) (hf : (f a).RunsShort tail) :
    (r.andThen f).RunsShort (bytes ++ tail) := by
  intro cut hcut hne
  by_cases hfirst : cut <+: bytes ∧ cut ≠ bytes
  · exact (hr cut hfirst.1 hfirst.2).andThen f
  · obtain ⟨more, rfl⟩ : bytes <+: cut := by
      obtain hle | hle := Nat.le_total cut.length bytes.length
      · have hpre := List.prefix_of_prefix_length_le hcut (List.prefix_append _ _) hle
        have heq : cut = bytes := by simpa [hpre] using hfirst
        exact heq ▸ List.prefix_rfl
      · exact List.prefix_of_prefix_length_le (List.prefix_append _ _) hcut hle
    exact short_andThen (hread more) (hf more ((List.prefix_append_right_inj _).mp hcut)
      fun heq => hne (heq ▸ rfl))

end Reader

open Reader (RunsShort Short runsShort_nil)

theorem Reader.Inverts.reads {r : Reader α} {fits : α → Prop} {write : α → List UInt8} {a : α}
    (h : r.Inverts fits write) (ha : fits a) (more : List UInt8) :
    r (write a ++ more) = (.ok a, more) :=
  (h _ _ _).mpr ⟨ha, rfl⟩

theorem length_lt_of_cut (hcut : cut <+: bytes) (hne : cut ≠ bytes) :
    cut.length < bytes.length :=
  Nat.lt_of_le_of_ne hcut.length_le fun heq => hne (hcut.eq_of_length heq)

theorem ensure_short {piece : Piece} {needed : Nat} (h : buffer.length < needed) :
    (ensure piece needed).Short buffer :=
  ⟨piece, needed, buffer.length, buffer, h, by rw [ensure, if_neg (Nat.not_le.mpr h)]⟩

theorem ensure_of_le {piece : Piece} {needed : Nat} (h : needed ≤ buffer.length) :
    ensure piece needed buffer = (.ok (), buffer) := by
  rw [ensure, if_pos h]

/-! ### Words, strings of bytes, texts, sizes and lists -/

theorem readWord_runsShort (w : UInt32) : readWord.RunsShort (writeWord w) :=
  fun _ hcut hne => (ensure_short (length_lt_of_cut hcut hne)).andThen _

theorem readBytes_runsShort {b : List UInt8} (h : b.length < 2 ^ 32) :
    readBytes.RunsShort (writeBytes b) := by
  refine (readWord_runsShort _).andThen (readWord_inverts.reads trivial) ?_
  intro cut hcut hne
  refine (ensure_short ?_).andThen _
  rw [toNat_ofNat_length h]
  exact length_lt_of_cut hcut hne

theorem readText_runsShort {s : String} (h : (Text.Utf8.ofString s).length < 2 ^ 32) :
    readText.RunsShort (writeBytes (Text.Utf8.ofString s)) :=
  (readBytes_runsShort h).last _

theorem readSize_runsShort (s : Size) :
    readSize.RunsShort (writeWord s.width ++ writeWord s.height) :=
  (readWord_runsShort _).andThen (readWord_inverts.reads trivial) ((readWord_runsShort _).last _)

theorem readTimes_runsShort {r : Reader α} {fits : α → Prop} {write : α → List UInt8}
    (hr : r.Inverts fits write) {as : List α} (hfits : ∀ a ∈ as, fits a)
    (hshort : ∀ a ∈ as, r.RunsShort (write a)) :
    (readTimes r as.length).RunsShort (as.flatMap write) := by
  induction as with
  | nil => exact runsShort_nil _
  | cons a as ih =>
    obtain ⟨ha, has⟩ := List.forall_mem_cons.mp hfits
    obtain ⟨hfirst, hrest⟩ := List.forall_mem_cons.mp hshort
    rw [List.flatMap_cons]
    exact hfirst.andThen (hr.reads ha) ((ih has hrest).last _)

/-- The reader of a layout finds too few bytes in each proper part of the bytes of a value. -/
theorem Layout.read_runsShort (l : Layout) {v : l.Value} (h : l.Fits v) :
    l.read.RunsShort (l.write v) := by
  induction l with
  | word => exact readWord_runsShort v
  | bytes => exact readBytes_runsShort h
  | text => exact readText_runsShort h
  | path => exact readBytes_runsShort h
  | size => exact readSize_runsShort v
  | list item ih =>
    obtain ⟨hcount, hitems⟩ := h
    refine (readWord_runsShort _).andThen (readWord_inverts.reads trivial) ?_
    intro cut hcut hne
    rw [toNat_ofNat_length hcount]
    by_cases hroom : List.length v * item.minSize ≤ cut.length
    · -- the count is believed, and one of the items is cut
      exact Reader.short_andThen (ensure_of_le hroom) (readTimes_runsShort item.read_inverts hitems
        (fun a ha => ih (hitems a ha)) cut hcut hne)
    · exact (ensure_short (Nat.not_le.mp hroom)).andThen _

theorem Layout.reads (l : Layout) {v : l.Value} (h : l.Fits v) (more : List UInt8) :
    l.read (l.write v ++ more) = (.ok v, more) :=
  l.read_inverts.reads h more

/-! ### Messages -/

theorem Command.reader_runsShort {c : Command} (h : c.Fits) :
    (Command.reader c.kind).RunsShort c.payload := by
  cases c with
  | render task =>
    obtain ⟨hpath, hsizes⟩ := h
    refine RunsShort.last ?_ _
    exact (Layout.read_runsShort .path hpath).andThen (Layout.reads .path hpath)
      ((Layout.read_runsShort (.list .size) hsizes).last _)
  | _ => exact runsShort_nil _

theorem Response.reader_runsShort {r : Response} (h : r.Fits) :
    (Response.reader r.kind).RunsShort r.payload := by
  cases r with
  | render answer =>
    obtain ⟨htext, himages⟩ := h
    refine RunsShort.last ?_ _
    rw [payload, List.append_assoc]
    refine (Layout.read_runsShort .word trivial).andThen (Layout.reads .word trivial) ?_
    exact (Layout.read_runsShort .text htext).andThen (Layout.reads .text htext)
      ((Layout.read_runsShort (.list .bytes) himages).last _)
  | formats answer =>
    obtain ⟨hpictures, hvideos⟩ := h
    refine RunsShort.last ?_ _
    exact (Layout.read_runsShort .text hpictures).andThen (Layout.reads .text hpictures)
      ((Layout.read_runsShort .text hvideos).last _)
  | _ => exact runsShort_nil _

/-- The payload of a message is no payload of its kind without its end, nor with more behind it. -/
structure Delimited [Side α] (m : α) : Prop where
  /-- In a part of the payload something needs more bytes than are left. -/
  cut : ∀ cut, cut <+: Side.payload m → cut ≠ Side.payload m →
    ∃ piece needed left, left < needed ∧
      (decode (Side.kind m) cut : Except Error α)
        = .error (.malformed (.shortPayload piece needed left))
  /-- The bytes behind the payload are counted. -/
  extended : ∀ more, more ≠ [] →
    (decode (Side.kind m) (Side.payload m ++ more) : Except Error α)
      = .error (.malformed (.trailing more.length (Side.kind m)))
  /-- No other message of the kind has a payload that begins so. -/
  alone : ∀ m' : α, Side.kind m' = Side.kind m → (Side.payload m').length < 2 ^ 32 →
    Side.payload m <+: Side.payload m' → m' = m

/-- What the two sides have in common here; only their readers differ. -/
theorem Delimited.of_reader [Side α] [LawfulSide α] {reader : Kind → Reader α} {m : α}
    (hdecode : ∀ payload, Side.ofPayload (Side.kind m) payload
      = allRead (Side.kind m) (reader (Side.kind m) payload))
    (hlength : (Side.payload m).length < 2 ^ 32)
    (hshort : (reader (Side.kind m)).RunsShort (Side.payload m))
    (hread : ∀ more, reader (Side.kind m) (Side.payload m ++ more) = (.ok m, more)) :
    Delimited m := by
  have hextended : ∀ more, more ≠ [] →
      (decode (Side.kind m) (Side.payload m ++ more) : Except Error α)
        = .error (.malformed (.trailing more.length (Side.kind m))) := by
    intro more hmore
    have hrest : ¬ more.isEmpty = true := mt List.isEmpty_iff.mp hmore
    rw [decode, hdecode, hread, allRead, if_neg hrest]
    rfl
  refine ⟨?_, hextended, ?_⟩
  · intro cut hcut hne
    obtain ⟨piece, needed, left, rest, hlt, hr⟩ := hshort cut hcut hne
    refine ⟨piece, needed, left, hlt, ?_⟩
    rw [decode, hdecode, hr]
    rfl
  · rintro m' hkind hlength' ⟨more, hmore⟩
    have hown : decode (Side.kind m') (Side.payload m') = .ok m' :=
      LawfulSide.decode_payload hlength'
    rw [hkind, ← hmore] at hown
    by_cases hnil : more = []
    · have hm : decode (Side.kind m) (Side.payload m) = .ok m := LawfulSide.decode_payload hlength
      rw [hnil, List.append_nil, hm] at hown
      exact (Except.ok.inj hown).symm
    · rw [hextended more hnil] at hown
      cases hown

/-- **A payload is accepted as a whole or not at all.**  If a word counts the payload of a message,
each proper part of it from its beginning is refused, since a length or a count in it asks for more
bytes than are left, and so is the payload with any bytes behind it.  So among the payloads of one
kind none is the beginning of another. -/
theorem delimited_of_length :
    (∀ c : Command, c.payload.length < 2 ^ 32 → Delimited c) ∧
    (∀ r : Response, r.payload.length < 2 ^ 32 → Delimited r) := by
  constructor
  · intro c h
    have hfits := Command.fits_of_length h
    exact .of_reader (fun _ => rfl) h (Command.reader_runsShort hfits)
      ((Command.reader_inverts c.kind).reads ⟨rfl, hfits⟩)
  · intro r h
    have hfits := Response.fits_of_length h
    exact .of_reader (fun _ => rfl) h (Response.reader_runsShort hfits)
      ((Response.reader_inverts r.kind).reads ⟨rfl, hfits⟩)

/-- A request for two sizes that lacks its last byte, and an answer that lacks half of a character
that takes two bytes, or has a byte too many. -/
theorem delimited_of_length_two :
    (∃ piece needed left, left < needed ∧
        (decode .render [0, 0, 0, 1, 97, 0, 0, 0, 2, 0, 0, 0, 0, 0, 0, 0, 9, 0, 0, 0, 0, 0, 0, 0] :
          Except Error Command) = .error (.malformed (.shortPayload piece needed left))) ∧
      (∃ piece needed left, left < needed ∧
        (decode .formatsResponse [0, 0, 0, 0, 0, 0, 0, 2, 195] : Except Error Response)
          = .error (.malformed (.shortPayload piece needed left))) ∧
      (decode .formatsResponse [0, 0, 0, 0, 0, 0, 0, 2, 195, 169, 7] : Except Error Response)
        = .error (.malformed (.trailing 1 .formatsResponse)) := by
  have hrequest := delimited_of_length.1 (.render ⟨[97], [⟨0, 9⟩, ⟨0, 9⟩]⟩) (by decide +kernel)
  have hanswer := delimited_of_length.2 (.formats ⟨"", "é"⟩) (by decide +kernel)
  exact ⟨hrequest.cut _ (by decide +kernel) (by decide +kernel),
    hanswer.cut _ (by decide +kernel) (by decide +kernel), hanswer.extended [7] (by decide)⟩

end Thumbnailer.Wire
