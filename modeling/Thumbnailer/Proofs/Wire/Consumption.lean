/-
What a read takes off a buffer, whether it brings a value or not.

A read that fails keeps what it took until then, and the next read goes on from there.  Where that is
depends on the place of the fault: before a length, behind it, or behind a body that is no text; in a
list, behind the items that were read before the one that failed.

* **`Reader.Refuses`** — what a reader has taken, and why, whenever it fails; kept by every combinator;
* **`Layout.Refused`** — the same for each layout, by recursion on it;
* **`Layout.read_refuses`** — the readers fail just so;
* **`readings`** — some reads in a row, whatever becomes of each of them;
* **`consumes_readings`** — each of them takes just the bytes of its value, or just those of its fault,
  and all of them together take the buffer apart from the front.
-/
import Thumbnailer.Proofs.Wire.Layout

namespace Thumbnailer.Wire

variable {α β : Type} {buffer gone rest : List UInt8} {e : Malformed}

/-! ### Readers that fail -/

namespace Reader

theorem andThen_eq_error_iff {r : Reader α} {f : α → Reader β} :
    r.andThen f buffer = (.error e, rest) ↔
      r buffer = (.error e, rest) ∨
        ∃ a mid, r buffer = (.ok a, mid) ∧ f a mid = (.error e, rest) := by
  rw [andThen]
  rcases h : r buffer with ⟨_ | a, mid⟩
  · simp
  · constructor
    · intro hf
      exact .inr ⟨a, mid, rfl, hf⟩
    · rintro (h | ⟨_, _, h, hf⟩)
      · cases h
      · cases h
        exact hf

/-- The reader fails just if `P` holds of the bytes that are gone by then, of those that are left, and
of the cause. -/
def Refuses (r : Reader α) (P : List UInt8 → List UInt8 → Malformed → Prop) : Prop :=
  ∀ buffer e rest, r buffer = (.error e, rest) ↔ ∃ taken, buffer = taken ++ rest ∧ P taken rest e

variable {r : Reader α} {f : α → Reader β} {fits : α → Prop} {write : α → List UInt8}
  {P P' : List UInt8 → List UInt8 → Malformed → Prop}
  {Q : α → List UInt8 → List UInt8 → Malformed → Prop}

theorem Refuses.congr (h : r.Refuses P) (hP : ∀ taken rest e, P taken rest e ↔ P' taken rest e) :
    r.Refuses P' := by
  intro buffer e rest
  simp only [h buffer e rest, hP]

/-- A reader that always brings a value. -/
theorem refuses_of_ok (h : ∀ buffer, ∃ a rest, r buffer = (.ok a, rest)) :
    r.Refuses fun _ _ _ => False := by
  intro buffer e rest
  obtain ⟨a, rest', ha⟩ := h buffer
  simp [ha]

theorem refuses_done (a : α) : (done a).Refuses fun _ _ _ => False :=
  refuses_of_ok fun buffer => ⟨a, buffer, rfl⟩

/-- Either the first part fails, or it is all there and the second part fails. -/
theorem Refuses.andThen (hr : r.Inverts fits write) (hP : r.Refuses P)
    (hQ : ∀ a, (f a).Refuses (Q a)) :
    (r.andThen f).Refuses fun taken rest e =>
      P taken rest e ∨ ∃ a inner, fits a ∧ taken = write a ++ inner ∧ Q a inner rest e := by
  intro buffer e rest
  rw [andThen_eq_error_iff, hP buffer e rest]
  constructor
  · rintro (⟨taken, rfl, hp⟩ | ⟨a, mid, ha, hf⟩)
    · exact ⟨taken, rfl, .inl hp⟩
    · obtain ⟨hfits, rfl⟩ := (hr _ _ _).mp ha
      obtain ⟨inner, rfl, hq⟩ := (hQ a _ _ _).mp hf
      exact ⟨write a ++ inner, (List.append_assoc ..).symm, .inr ⟨a, inner, hfits, rfl, hq⟩⟩
  · rintro ⟨taken, rfl, hp | ⟨a, inner, hfits, rfl, hq⟩⟩
    · exact .inl ⟨taken, rfl, hp⟩
    · have ha : r (write a ++ inner ++ rest) = (.ok a, inner ++ rest) :=
        (hr _ _ _).mpr ⟨hfits, List.append_assoc ..⟩
      exact .inr ⟨a, inner ++ rest, ha, (hQ a _ _ _).mpr ⟨inner, rfl, hq⟩⟩

theorem Inverts.times (h : r.Inverts fits write) (n : ℕ) :
    (readTimes r n).Inverts (fun as => as.length = n ∧ ∀ a ∈ as, fits a) (·.flatMap write) := by
  intro buffer as rest
  rw [readTimes_eq_ok_iff h, and_assoc]

/-- The item that fails is the first one that does; those before it are all there. -/
theorem Refuses.times (hr : r.Inverts fits write) (hP : r.Refuses P) (n : ℕ) :
    (readTimes r n).Refuses fun taken rest e =>
      ∃ items : List α, ∃ inner, items.length < n ∧ (∀ a ∈ items, fits a) ∧
        taken = items.flatMap write ++ inner ∧ P inner rest e := by
  induction n with
  | zero =>
    refine (refuses_done []).congr fun taken rest e => ?_
    simp
  | succ n ih =>
    refine (hP.andThen hr fun a => (ih.andThen (hr.times n)
      fun as => refuses_done (a :: as))).congr fun taken rest e => ?_
    constructor
    · rintro (hp | ⟨a, inner, ha, rfl, ⟨items, last, hlen, hitems, rfl, hp⟩ | ⟨_, _, _, _, ⟨⟩⟩⟩)
      · exact ⟨[], taken, Nat.succ_pos n, by simp, rfl, hp⟩
      · refine ⟨a :: items, last, Nat.succ_lt_succ hlen, List.forall_mem_cons.mpr ⟨ha, hitems⟩, ?_, hp⟩
        rw [List.flatMap_cons, List.append_assoc]
    · rintro ⟨items, inner, hlen, hitems, rfl, hp⟩
      rcases items with _ | ⟨a, items⟩
      · exact .inl hp
      · obtain ⟨ha, hitems⟩ := List.forall_mem_cons.mp hitems
        refine .inr ⟨a, items.flatMap write ++ inner, ha, ?_,
          .inl ⟨items, inner, Nat.lt_of_succ_lt_succ hlen, hitems, rfl, hp⟩⟩
        rw [List.flatMap_cons, List.append_assoc]

end Reader

/-! ### The faults of each layout -/

/-- Nothing is taken, and `piece` needs more bytes than are left. -/
def TooFew (piece : Piece) (needed : ℕ) (taken rest : List UInt8) (e : Malformed) : Prop :=
  taken = [] ∧ rest.length < needed ∧ e = .shortPayload piece needed rest.length

/-- There is no length, or fewer bytes behind it than it says. -/
def NoString (taken rest : List UInt8) (e : Malformed) : Prop :=
  TooFew .word 4 taken rest e ∨
    ∃ n : UInt32, ∃ inner, taken = writeWord n ++ inner ∧ TooFew .byteString n.toNat inner rest e

/-- There is a byte string, and it is no text. -/
def NotText (taken : List UInt8) (e : Malformed) : Prop :=
  ∃ body failure, body.length < 2 ^ 32 ∧ taken = writeBytes body ∧
    Text.Utf8.toString? body = .error failure ∧ e = .notUtf8 failure

namespace Layout

/-- How a read of a layout fails: the bytes that are gone by then, those that are left, and why. -/
def Refused : Layout → List UInt8 → List UInt8 → Malformed → Prop
  | word => TooFew .word 4
  | bytes => NoString
  | text => fun taken rest e => NoString taken rest e ∨ NotText taken e
  | path => NoString
  | size => fun taken rest e =>
    TooFew .word 4 taken rest e ∨
      ∃ width inner, taken = writeWord width ++ inner ∧ TooFew .word 4 inner rest e
  | list item => fun taken rest e =>
    TooFew .word 4 taken rest e ∨ ∃ count : UInt32, ∃ inner, taken = writeWord count ++ inner ∧
      (TooFew .sequence (count.toNat * item.minSize) inner rest e ∨
        count.toNat * item.minSize ≤ (inner ++ rest).length ∧
          ∃ items : List item.Value, ∃ last, items.length < count.toNat ∧
            (∀ v ∈ items, item.Fits v) ∧ inner = items.flatMap item.write ++ last ∧
            item.Refused last rest e)

end Layout

open Reader (Refuses refuses_done refuses_of_ok)

theorem ensure_eq_error_iff {piece : Piece} {needed : ℕ} :
    ensure piece needed buffer = (.error e, rest) ↔
      buffer = rest ∧ rest.length < needed ∧ e = .shortPayload piece needed rest.length := by
  rw [ensure]
  split
  · rename_i h
    simp only [Prod.mk.injEq, reduceCtorEq, false_and, false_iff]
    rintro ⟨rfl, hlt, -⟩
    omega
  · rename_i h
    constructor
    · rintro ⟨⟩
      exact ⟨rfl, Nat.not_le.mp h, rfl⟩
    · rintro ⟨rfl, -, rfl⟩
      rfl

/-- What comes behind a check fails only where the check does not. -/
theorem Reader.Refuses.ensured {r : Reader α} {P : List UInt8 → List UInt8 → Malformed → Prop}
    (h : r.Refuses P) (piece : Piece) (needed : ℕ) :
    ((ensure piece needed).andThen fun _ => r).Refuses fun taken rest e =>
      TooFew piece needed taken rest e ∨ needed ≤ (taken ++ rest).length ∧ P taken rest e := by
  intro buffer e rest
  simp only [Reader.andThen_eq_error_iff, ensure_eq_error_iff, ensure_eq_ok_iff, h _ e rest]
  constructor
  · rintro (⟨rfl, hlt, rfl⟩ | ⟨_, _, ⟨hle, rfl⟩, taken, rfl, hp⟩)
    · exact ⟨[], rfl, .inl ⟨rfl, hlt, rfl⟩⟩
    · exact ⟨taken, rfl, .inr ⟨hle, hp⟩⟩
  · rintro ⟨taken, rfl, ⟨rfl, hlt, rfl⟩ | ⟨hle, hp⟩⟩
    · exact .inl ⟨rfl, hlt, rfl⟩
    · exact .inr ⟨(), _, ⟨hle, rfl⟩, taken, rfl, hp⟩

theorem readWord_refuses : readWord.Refuses (TooFew .word 4) := by
  have hlast : Refuses (fun buffer =>
      (.ok (UInt32.ofNat (bigEndian (buffer.take 4))), buffer.drop 4)) fun _ _ _ => False :=
    refuses_of_ok fun buffer => ⟨_, _, rfl⟩
  refine (hlast.ensured .word 4).congr fun taken rest e => ?_
  simp

theorem readBytes_refuses : readBytes.Refuses NoString := by
  have hlast : ∀ n : ℕ, Refuses (fun buffer => (.ok (buffer.take n), buffer.drop n))
      fun _ _ _ => False := fun n => refuses_of_ok fun buffer => ⟨_, _, rfl⟩
  refine (readWord_refuses.andThen readWord_inverts fun n =>
    (hlast n.toNat).ensured .byteString n.toNat).congr fun taken rest e => ?_
  simp [NoString]

/-- A text fails as a byte string does, or behind a byte string that is no text. -/
theorem readText_refuses :
    readText.Refuses fun taken rest e => NoString taken rest e ∨ NotText taken e := by
  refine (readBytes_refuses.andThen (Q := fun body taken _ e => taken = [] ∧
    ∃ failure, Text.Utf8.toString? body = .error failure ∧ e = .notUtf8 failure)
    readBytes_inverts ?_).congr fun taken rest e => or_congr_right ?_
  · intro body buffer e rest
    cases Text.Utf8.toString? body with
    | ok s => simp
    | error failure =>
      constructor
      · rintro ⟨⟩
        exact ⟨[], rfl, rfl, failure, rfl, rfl⟩
      · rintro ⟨taken, rfl, rfl, _, ⟨⟩, rfl⟩
        rfl
  · constructor
    · rintro ⟨body, inner, hlen, rfl, rfl, failure, hfail, rfl⟩
      exact ⟨body, failure, hlen, List.append_nil _, hfail, rfl⟩
    · rintro ⟨body, failure, hlen, rfl, hfail, rfl⟩
      exact ⟨body, [], hlen, (List.append_nil _).symm, rfl, failure, hfail, rfl⟩

theorem readSize_refuses : readSize.Refuses (Layout.Refused .size) := by
  have hheight : ∀ width : UInt32,
      (readWord.andThen fun height => Reader.done (⟨width, height⟩ : Size)).Refuses
        (TooFew .word 4) := by
    intro width
    refine (readWord_refuses.andThen readWord_inverts fun height => refuses_done _).congr
      fun taken rest e => ?_
    simp
  refine (readWord_refuses.andThen readWord_inverts hheight).congr fun taken rest e => ?_
  simp [Layout.Refused]

namespace Layout

/-- The reader of a layout fails just as `Refused` says. -/
theorem read_refuses (l : Layout) : l.read.Refuses l.Refused := by
  induction l with
  | word => exact readWord_refuses
  | bytes => exact readBytes_refuses
  | text => exact readText_refuses
  | path => exact readBytes_refuses
  | size => exact readSize_refuses
  | list item ih =>
    refine (readWord_refuses.andThen readWord_inverts fun count =>
      (ih.times item.read_inverts count.toNat).ensured .sequence
        (count.toNat * item.minSize)).congr fun taken rest e => ?_
    simp only [true_and, Refused]

/-- A read fails for want of bytes, or because of a text that is none. -/
theorem Refused.cause {l : Layout} (h : l.Refused gone rest e) :
    (∃ piece needed, rest.length < needed ∧ e = .shortPayload piece needed rest.length) ∨
      ∃ failure, e = .notUtf8 failure := by
  have hstring : ∀ {gone}, NoString gone rest e →
      ∃ piece needed, rest.length < needed ∧ e = .shortPayload piece needed rest.length := by
    rintro _ (⟨-, hlt, rfl⟩ | ⟨n, _, -, -, hlt, rfl⟩)
    · exact ⟨_, _, hlt, rfl⟩
    · exact ⟨_, _, hlt, rfl⟩
  induction l generalizing gone with
  | word => exact .inl ⟨_, _, h.2⟩
  | bytes => exact .inl (hstring h)
  | path => exact .inl (hstring h)
  | text =>
    rcases h with h | ⟨_, failure, -, -, -, rfl⟩
    · exact .inl (hstring h)
    · exact .inr ⟨failure, rfl⟩
  | size =>
    rcases h with h | ⟨_, _, -, h⟩
    · exact .inl ⟨_, _, h.2⟩
    · exact .inl ⟨_, _, h.2⟩
  | list item ih =>
    rcases h with h | ⟨_, _, -, h | ⟨-, _, last, -, -, -, h⟩⟩
    · exact .inl ⟨_, _, h.2⟩
    · exact .inl ⟨_, _, h.2⟩
    · exact ih h

end Layout

/-! ### Reads in a row -/

/-- A read: what is to be read, and the buffer that it is read from. -/
structure Reading where
  layout : Layout
  before : List UInt8

namespace Reading

/-- What comes of a read. -/
def result (r : Reading) : Except Malformed r.layout.Value := (r.layout.read r.before).1

/-- What it leaves. -/
def after (r : Reading) : List UInt8 := (r.layout.read r.before).2

/-- What it takes off the front. -/
def taken (r : Reading) : List UInt8 := r.before.take (r.before.length - r.after.length)

end Reading

/-- Reads of some layouts in a row, each from what the one before it left, also if that one failed. -/
def readings : List Layout → List UInt8 → List Reading
  | [], _ => []
  | l :: ls, buffer => ⟨l, buffer⟩ :: readings ls (Reading.after ⟨l, buffer⟩)

/-- What is left after reads in a row. -/
def leftOver : List Layout → List UInt8 → List UInt8
  | [], buffer => buffer
  | l :: ls, buffer => leftOver ls (Reading.after ⟨l, buffer⟩)

/-- What is to be said of a read. -/
structure Consumes (r : Reading) : Prop where
  /-- It takes bytes off the front, and leaves the others as they are. -/
  front : r.before = r.taken ++ r.after
  /-- It brings a value just if it takes the bytes that are written for that value. -/
  ok_iff : ∀ v, r.result = .ok v ↔ r.layout.Fits v ∧ r.taken = r.layout.write v
  /-- It fails just if what it takes and what it leaves have the fault. -/
  error_iff : ∀ e, r.result = .error e ↔ r.layout.Refused r.taken r.after e
  /-- A word that is refused takes nothing. -/
  word : r.layout = .word → ∀ e, r.result = .error e → r.taken = [] ∧ r.after.length < 4
  /-- A string without its length takes nothing; one with too few bytes behind its length takes the four
  bytes of that; and one that has to be a text and is none takes its length and its whole body. -/
  string : r.layout = .bytes ∨ r.layout = .path ∨ r.layout = .text →
    ∀ e, r.result = .error e →
      (r.taken = [] ∧ r.after.length < 4) ∨
      (∃ n : UInt32, r.taken = writeWord n ∧ r.taken.length = 4 ∧ r.after.length < n.toNat) ∨
      r.layout = .text ∧ ∃ body, r.taken = writeBytes body ∧ body.length < 2 ^ 32 ∧
        ∀ s, body ≠ Text.Utf8.ofString s
  /-- There are two kinds of causes, of one family. -/
  cause : ∀ e, r.result = .error e → (Error.malformed e).family = "MalformedProtocol" ∧
    ((∃ piece needed, r.after.length < needed ∧
        e = .shortPayload piece needed r.after.length) ∨
      ∃ failure, e = .notUtf8 failure)

namespace Reading

variable {r : Reading}

theorem read_eq (r : Reading) : r.layout.read r.before = (r.result, r.after) := rfl

theorem result_eq_ok {v : r.layout.Value} (h : r.result = .ok v) :
    r.layout.Fits v ∧ r.before = r.layout.write v ++ r.after :=
  (r.layout.read_inverts _ _ _).mp (by rw [read_eq, h])

theorem result_eq_error (h : r.result = .error e) :
    ∃ taken, r.before = taken ++ r.after ∧ r.layout.Refused taken r.after e :=
  (r.layout.read_refuses _ _ _).mp (by rw [read_eq, h])

theorem taken_of_append {front : List UInt8} (h : r.before = front ++ r.after) :
    r.taken = front := by
  rw [taken, h, List.length_append, Nat.add_sub_cancel, List.take_left]

theorem before_eq (r : Reading) : r.before = r.taken ++ r.after := by
  rcases h : r.result with e | v
  · obtain ⟨front, hfront, -⟩ := result_eq_error h
    rw [taken_of_append hfront, ← hfront]
  · obtain ⟨-, hfront⟩ := result_eq_ok h
    rw [taken_of_append hfront, ← hfront]

theorem result_eq_ok_iff {v : r.layout.Value} :
    r.result = .ok v ↔ r.layout.Fits v ∧ r.taken = r.layout.write v := by
  constructor
  · intro h
    obtain ⟨hfits, hfront⟩ := result_eq_ok h
    exact ⟨hfits, taken_of_append hfront⟩
  · rintro ⟨hfits, htaken⟩
    have hread : r.layout.read r.before = (.ok v, r.after) :=
      (r.layout.read_inverts _ _ _).mpr ⟨hfits, by rw [← htaken]; exact r.before_eq⟩
    rw [result, hread]

theorem result_eq_error_iff : r.result = .error e ↔ r.layout.Refused r.taken r.after e := by
  constructor
  · intro h
    obtain ⟨front, hfront, hrefused⟩ := result_eq_error h
    rw [taken_of_append hfront]
    exact hrefused
  · intro h
    have hread : r.layout.read r.before = (.error e, r.after) :=
      (r.layout.read_refuses _ _ _).mpr ⟨r.taken, r.before_eq, h⟩
    rw [result, hread]

end Reading

theorem NoString.gone_eq (h : NoString gone rest e) :
    (gone = [] ∧ rest.length < 4) ∨
      ∃ n : UInt32, gone = writeWord n ∧ gone.length = 4 ∧ rest.length < n.toNat := by
  rcases h with ⟨rfl, hlt, -⟩ | ⟨n, _, rfl, rfl, hlt, -⟩
  · exact .inl ⟨rfl, hlt⟩
  · exact .inr ⟨n, List.append_nil _, rfl, hlt⟩

theorem NotText.gone_eq (h : NotText gone e) :
    ∃ body, gone = writeBytes body ∧ body.length < 2 ^ 32 ∧
      ∀ s, body ≠ Text.Utf8.ofString s := by
  obtain ⟨body, failure, hlen, rfl, hfail, -⟩ := h
  refine ⟨body, rfl, hlen, ?_⟩
  intro s hs
  -- the bytes of a string are read back as that string
  have hok := Text.Utf8.toString?_eq_ok_iff.mpr hs
  rw [hfail] at hok
  cases hok

theorem consumes (r : Reading) : Consumes r where
  front := r.before_eq
  ok_iff _ := r.result_eq_ok_iff
  error_iff _ := r.result_eq_error_iff
  word hl e he := by
    have h := r.result_eq_error_iff.mp he
    rw [hl] at h
    exact ⟨h.1, h.2.1⟩
  string hl e he := by
    have h := r.result_eq_error_iff.mp he
    rcases hl with hl | hl | hl
    · rw [hl] at h
      exact or_assoc.mp (.inl (NoString.gone_eq h))
    · rw [hl] at h
      exact or_assoc.mp (.inl (NoString.gone_eq h))
    · rw [hl] at h
      rcases h with h | h
      · exact or_assoc.mp (.inl h.gone_eq)
      · exact .inr (.inr ⟨hl, h.gone_eq⟩)
  cause e he := ⟨rfl, (r.result_eq_error_iff.mp he).cause⟩

/-- Each read goes on where the one before it ended, and all that they take, one after another, is what
is gone from the buffer. -/
theorem readings_in_turn (layouts : List Layout) (buffer : List UInt8) :
    buffer :: (readings layouts buffer).map (·.after)
        = (readings layouts buffer).map (·.before) ++ [leftOver layouts buffer] ∧
      buffer = (readings layouts buffer).flatMap (·.taken) ++ leftOver layouts buffer := by
  induction layouts generalizing buffer with
  | nil => exact ⟨rfl, rfl⟩
  | cons l ls ih =>
    obtain ⟨hturn, htaken⟩ := ih (Reading.after ⟨l, buffer⟩)
    constructor
    · rw [readings, List.map_cons, List.map_cons, hturn]
      rfl
    · rw [readings, List.flatMap_cons, List.append_assoc, leftOver, ← htaken]
      exact Reading.before_eq ⟨l, buffer⟩

theorem layout_readings (layouts : List Layout) (buffer : List UInt8) :
    (readings layouts buffer).map (·.layout) = layouts := by
  induction layouts generalizing buffer with
  | nil => rfl
  | cons l ls ih => rw [readings, List.map_cons, ih]

/-- **A read takes just what it reads.**  Whatever is read in a row from whatever buffer, and whatever
comes of it, each read goes on where the one before it ended.  One that brings a value takes just the
bytes that are written for the value.  One that fails takes what it read until the fault: nothing for a
word, the length alone for a string with too few bytes, length and body for a text that is none, and for
a list its count and the items before the one that fails.  In each case the rest of the buffer stays as it
is, and the error tells of bytes that are missing or of a text that is none. -/
theorem consumes_readings (layouts : List Layout) (buffer : List UInt8) :
    (readings layouts buffer).map (·.layout) = layouts ∧
    buffer :: (readings layouts buffer).map (·.after)
      = (readings layouts buffer).map (·.before) ++ [leftOver layouts buffer] ∧
    buffer = (readings layouts buffer).flatMap (·.taken) ++ leftOver layouts buffer ∧
    ∀ r ∈ readings layouts buffer, Consumes r ∧ r.after <:+ r.before := by
  obtain ⟨hturn, htaken⟩ := readings_in_turn layouts buffer
  refine ⟨layout_readings layouts buffer, hturn, htaken, ?_⟩
  intro r _
  exact ⟨consumes r, r.taken, r.before_eq.symm⟩

/-- A list that is too long for the buffer is gone with its count only, and the next word is read. -/
example : leftOver [.list .word, .word] [0, 0, 0, 2, 0, 0, 0, 7, 9] = [9] := by rfl

end Thumbnailer.Wire
