/-
Reading a layout undoes writing it, and takes nothing else for a value.

* **`Reader.Inverts`** — a reader takes a value off a buffer just if the value fits and the buffer
  begins with the bytes that are written for it;
* **`Layout.Fits`** — the lengths and counts in a value are words;
* **`Layout.le_minSize_iff`** — the bound in the check of a list's count is the greatest there is;
* **`Layout.read_inverts`** — this holds of the reader of every layout: in particular, the check of
  a list's count refuses no list that is there;
* **`Layout.fits_of_length`** — a value whose bytes can be counted by a word fits.
-/
import Mathlib.Algebra.Group.Nat.Defs
import Thumbnailer.Proofs.Text.Utf8
import Thumbnailer.Wire.Layout

namespace Thumbnailer.Wire

variable {α β : Type} {buffer rest : List UInt8}

namespace Reader

/-- The reader takes just the values that fit, and each from just the bytes written for it. -/
def Inverts (r : Reader α) (fits : α → Prop) (write : α → List UInt8) : Prop :=
  ∀ buffer a rest, r buffer = (.ok a, rest) ↔ fits a ∧ buffer = write a ++ rest

theorem andThen_eq_ok_iff {r : Reader α} {f : α → Reader β} {b : β} :
    r.andThen f buffer = (.ok b, rest) ↔
      ∃ a mid, r buffer = (.ok a, mid) ∧ f a mid = (.ok b, rest) := by
  rw [andThen]
  constructor
  · intro h
    split at h
    · rename_i a mid hr
      exact ⟨a, mid, hr, h⟩
    · cases h
  · rintro ⟨a, mid, hr, hf⟩
    rw [hr]
    exact hf

theorem done_eq_ok_iff {a b : α} : done a buffer = (.ok b, rest) ↔ b = a ∧ buffer = rest := by
  simp only [done, Prod.mk.injEq, Except.ok.injEq, eq_comm]

end Reader

namespace Reader.Inverts

variable {γ : Type} {r : Reader α} {s : Reader β} {fits : α → Prop} {fits' : β → Prop}
  {write : α → List UInt8} {write' : β → List UInt8}

/-- Two parts read one after the other are read as they are written. -/
theorem pair (hr : r.Inverts fits write) (hs : s.Inverts fits' write') {mk : α → β → γ}
    {fst : γ → α} {snd : γ → β} (hmk : ∀ a b c, c = mk a b ↔ fst c = a ∧ snd c = b) :
    (r.andThen fun a => s.andThen fun b => done (mk a b)).Inverts
      (fun c => fits (fst c) ∧ fits' (snd c)) (fun c => write (fst c) ++ write' (snd c)) := by
  intro buffer c rest
  simp only [andThen_eq_ok_iff, hr _ _ _, hs _ _ _, done_eq_ok_iff, hmk]
  constructor
  · rintro ⟨_, _, ⟨ha, rfl⟩, _, _, ⟨hb, rfl⟩, ⟨rfl, rfl⟩, rfl⟩
    exact ⟨⟨ha, hb⟩, (List.append_assoc ..).symm⟩
  · rintro ⟨⟨ha, hb⟩, rfl⟩
    exact ⟨fst c, _, ⟨ha, List.append_assoc ..⟩, snd c, _, ⟨hb, rfl⟩, ⟨rfl, rfl⟩, rfl⟩

/-- What is read may be wrapped up. -/
theorem map (hr : r.Inverts fits write) {g : α → β} (hfits : ∀ a, fits' (g a) ↔ fits a)
    (hwrite : ∀ a, write' (g a) = write a) (hg : ∀ b, fits' b → ∃ a, g a = b) :
    (r.andThen fun a => done (g a)).Inverts fits' write' := by
  intro buffer b rest
  simp only [andThen_eq_ok_iff, hr _ _ _, done_eq_ok_iff]
  constructor
  · rintro ⟨a, _, ⟨ha, rfl⟩, rfl, rfl⟩
    exact ⟨(hfits a).mpr ha, by rw [hwrite]⟩
  · rintro ⟨hb, rfl⟩
    obtain ⟨a, rfl⟩ := hg b hb
    exact ⟨a, _, ⟨(hfits a).mp hb, by rw [hwrite]⟩, rfl, rfl⟩

end Reader.Inverts

open Reader (andThen_eq_ok_iff done_eq_ok_iff)

theorem ensure_eq_ok_iff {piece : Piece} {needed : Nat} {u : Unit} :
    ensure piece needed buffer = (.ok u, rest) ↔ needed ≤ buffer.length ∧ buffer = rest := by
  rw [ensure]
  split
  · rename_i h
    simp [h]
  · rename_i h
    simp [h]

/-! ### Words -/

@[simp] theorem length_writeWord (w : UInt32) : (writeWord w).length = 4 := rfl

theorem bigEndian_writeWord (w : UInt32) : bigEndian (writeWord w) = w.toNat := by
  have hw := w.toNat_lt
  simp only [bigEndian, writeWord, List.foldl_cons, List.foldl_nil, UInt8.toNat_ofNat']
  omega

theorem writeWord_bigEndian {bytes : List UInt8} (h : bytes.length = 4) :
    writeWord (.ofNat (bigEndian bytes)) = bytes := by
  match bytes, h with
  | [a, b, c, d], _ =>
    have ha := a.toNat_lt
    have hb := b.toNat_lt
    have hc := c.toNat_lt
    have hd := d.toNat_lt
    simp only [writeWord, bigEndian, List.foldl_cons, List.foldl_nil, UInt32.toNat_ofNat',
      List.cons.injEq, ← UInt8.toNat_inj, UInt8.toNat_ofNat', and_true]
    omega

theorem toNat_ofNat_length {a : List α} (h : a.length < 2 ^ 32) :
    (UInt32.ofNat a.length).toNat = a.length := by
  rw [UInt32.toNat_ofNat', Nat.mod_eq_of_lt h]

theorem readWord_inverts : readWord.Inverts (fun _ => True) writeWord := by
  intro buffer w rest
  simp only [readWord, andThen_eq_ok_iff, ensure_eq_ok_iff, Prod.mk.injEq, Except.ok.injEq]
  constructor
  · rintro ⟨_, _, ⟨hlen, rfl⟩, rfl, rfl⟩
    refine ⟨trivial, ?_⟩
    rw [writeWord_bigEndian (by rw [List.length_take]; omega), List.take_append_drop]
  · rintro ⟨-, rfl⟩
    refine ⟨(), _, ⟨by simp, rfl⟩, ?_, List.drop_left' (length_writeWord w)⟩
    rw [List.take_left' (length_writeWord w), bigEndian_writeWord, UInt32.ofNat_toNat]

/-! ### Strings of bytes, texts and sizes -/

theorem readBytes_inverts : readBytes.Inverts (fun b => b.length < 2 ^ 32) writeBytes := by
  intro buffer b rest
  simp only [readBytes, andThen_eq_ok_iff, readWord_inverts _ _ _, ensure_eq_ok_iff, true_and,
    Prod.mk.injEq, Except.ok.injEq]
  constructor
  · rintro ⟨n, mid, rfl, _, _, ⟨hlen, rfl⟩, rfl, rfl⟩
    have htake : (mid.take n.toNat).length = n.toNat := by rw [List.length_take]; omega
    constructor
    · rw [htake]
      exact n.toNat_lt
    · rw [writeBytes, htake, UInt32.ofNat_toNat, List.append_assoc, List.take_append_drop]
  · rintro ⟨hlen, rfl⟩
    have hn := toNat_ofNat_length hlen
    refine ⟨_, _, List.append_assoc .., (), _, ⟨?_, rfl⟩, ?_, ?_⟩
    · rw [hn, List.length_append]
      exact Nat.le_add_right _ _
    · exact List.take_left' hn.symm
    · exact List.drop_left' hn.symm

theorem readText_inverts :
    readText.Inverts (fun s => (Text.Utf8.ofString s).length < 2 ^ 32)
      (fun s => writeBytes (Text.Utf8.ofString s)) := by
  intro buffer s rest
  simp only [readText, andThen_eq_ok_iff, readBytes_inverts _ _ _]
  constructor
  · rintro ⟨bytes, mid, ⟨hlen, rfl⟩, h⟩
    cases hs : Text.Utf8.toString? bytes with
    | error e =>
      rw [hs] at h
      cases h
    | ok t =>
      rw [hs] at h
      cases h
      cases Text.Utf8.toString?_eq_ok_iff.mp hs
      exact ⟨hlen, rfl⟩
  · rintro ⟨hlen, rfl⟩
    refine ⟨_, _, ⟨hlen, rfl⟩, ?_⟩
    rw [Text.Utf8.toString?_eq_ok_iff.mpr rfl]

theorem readSize_inverts :
    readSize.Inverts (fun _ => True) (fun s => writeWord s.width ++ writeWord s.height) := by
  have h := readWord_inverts.pair readWord_inverts
    fun width height (s : Size) => by rw [← Size.mk.injEq]
  simp only [and_self] at h
  exact h

/-! ### Lists -/

theorem readTimes_eq_ok_iff {r : Reader α} {fits : α → Prop} {write : α → List UInt8}
    (h : r.Inverts fits write) {n : Nat} {as : List α} :
    readTimes r n buffer = (.ok as, rest) ↔
      as.length = n ∧ (∀ a ∈ as, fits a) ∧ buffer = as.flatMap write ++ rest := by
  induction n generalizing buffer rest as with
  | zero =>
    simp only [readTimes, done_eq_ok_iff, List.length_eq_zero_iff]
    constructor
    · rintro ⟨rfl, rfl⟩
      exact ⟨rfl, nofun, rfl⟩
    · rintro ⟨rfl, -, rfl⟩
      exact ⟨rfl, rfl⟩
  | succ n ih =>
    simp only [readTimes, andThen_eq_ok_iff, done_eq_ok_iff, h _ _ _, ih]
    constructor
    · rintro ⟨a, _, ⟨ha, rfl⟩, as, _, ⟨rfl, has, rfl⟩, rfl, rfl⟩
      refine ⟨rfl, List.forall_mem_cons.mpr ⟨ha, has⟩, ?_⟩
      rw [List.flatMap_cons, List.append_assoc]
    · rintro ⟨hlen, hfits, rfl⟩
      obtain ⟨a, as, rfl⟩ := List.exists_cons_of_length_eq_add_one hlen
      obtain ⟨ha, has⟩ := List.forall_mem_cons.mp hfits
      refine ⟨a, _, ⟨ha, ?_⟩, as, _, ⟨Nat.succ_inj.mp hlen, has, rfl⟩, rfl, rfl⟩
      rw [List.flatMap_cons, List.append_assoc]

namespace Layout

/-- The lengths and counts in a value are words. -/
def Fits : (l : Layout) → l.Value → Prop
  | word, _ => True
  | bytes, b => List.length b < 2 ^ 32
  | text, s => (Text.Utf8.ofString s).length < 2 ^ 32
  | path, p => List.length p < 2 ^ 32
  | size, _ => True
  | list item, vs => List.length vs < 2 ^ 32 ∧ ∀ v ∈ (vs : List item.Value), item.Fits v

theorem minSize_le_length (l : Layout) (v : l.Value) : l.minSize ≤ (l.write v).length := by
  cases l <;> simp only [write, writeBytes, minSize, List.length_append, length_writeWord] <;> omega

theorem exists_length_eq_minSize (l : Layout) :
    ∃ v, l.Fits v ∧ (l.write v).length = l.minSize := by
  cases l with
  | word => exact ⟨(0 : UInt32), trivial, rfl⟩
  | bytes => exact ⟨([] : List UInt8), Nat.two_pow_pos 32, rfl⟩
  | text => exact ⟨"", Nat.two_pow_pos 32, rfl⟩
  | path => exact ⟨([] : List UInt8), Nat.two_pow_pos 32, rfl⟩
  | size => exact ⟨(⟨0, 0⟩ : Size), trivial, rfl⟩
  | list item => exact ⟨([] : List item.Value), ⟨Nat.two_pow_pos 32, nofun⟩, rfl⟩

/-- No value that fits takes fewer bytes than `minSize`, and nothing greater may be asked for. -/
theorem le_minSize_iff {l : Layout} {n : ℕ} :
    n ≤ l.minSize ↔ ∀ v, l.Fits v → n ≤ (l.write v).length := by
  constructor
  · intro h v _
    exact Nat.le_trans h (l.minSize_le_length v)
  · intro h
    obtain ⟨v, hv, hlen⟩ := l.exists_length_eq_minSize
    exact hlen ▸ h v hv

theorem minSize_pos (l : Layout) : 0 < l.minSize := by
  cases l <;> exact Nat.succ_pos _

/-- The bytes of some values are at least as many as their count asks for. -/
theorem length_mul_minSize_le (l : Layout) (vs : List l.Value) :
    vs.length * l.minSize ≤ (vs.flatMap l.write).length := by
  induction vs with
  | nil => simp
  | cons v vs ih =>
    have hv := l.minSize_le_length v
    rw [List.length_cons, Nat.add_one_mul, List.flatMap_cons, List.length_append]
    omega

/-- Reading undoes writing, and takes nothing else for a value. -/
theorem read_inverts (l : Layout) : l.read.Inverts l.Fits l.write := by
  induction l with
  | word => exact readWord_inverts
  | bytes => exact readBytes_inverts
  | text => exact readText_inverts
  | path => exact readBytes_inverts
  | size => exact readSize_inverts
  | list item ih =>
    intro buffer vs rest
    simp only [read, andThen_eq_ok_iff, readWord_inverts _ _ _, ensure_eq_ok_iff, true_and,
      readTimes_eq_ok_iff ih, Fits, write]
    constructor
    · rintro ⟨count, _, rfl, _, _, ⟨-, rfl⟩, hcount, hfits, rfl⟩
      refine ⟨⟨hcount ▸ count.toNat_lt, hfits⟩, ?_⟩
      rw [hcount, UInt32.ofNat_toNat, List.append_assoc]
    · rintro ⟨⟨hlen, hfits⟩, rfl⟩
      have hn := toNat_ofNat_length hlen
      refine ⟨_, _, List.append_assoc .., (), _, ⟨?_, rfl⟩, hn.symm, hfits, rfl⟩
      -- a list that is there passes the check of its count
      have hvs := item.length_mul_minSize_le vs
      rw [hn, List.length_append]
      omega

theorem fits_of_length {l : Layout} {v : l.Value} (h : (l.write v).length < 2 ^ 32) :
    l.Fits v := by
  induction l with
  | word => trivial
  | size => trivial
  | bytes | text | path =>
    simp only [write, writeBytes, List.length_append, length_writeWord] at h
    simp only [Fits]
    omega
  | list item ih =>
    simp only [write, List.length_append, length_writeWord] at h
    -- no item is empty, so there are at least as many bytes as items
    have hcount := Nat.le_trans (Nat.le_mul_of_pos_right (List.length v) item.minSize_pos)
      (item.length_mul_minSize_le v)
    refine ⟨by omega, fun a ha => ih ?_⟩
    obtain ⟨before, after, rfl⟩ := List.append_of_mem ha
    simp only [List.flatMap_append, List.flatMap_cons, List.length_append] at h
    omega

end Layout

end Thumbnailer.Wire
