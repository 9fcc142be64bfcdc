/-
The count of a list is checked before room is made for its items.

A peer may announce any count.  The check compares it with the bytes that are left, of which each item
takes at least `minSize`.  It refuses no list that is there, and what it lets through is paid for.

* **`readCounted`**, **`Layout.readTrusting`** — lists read without the check, at the top or at any
  depth; **`Layout.readTrusting_inverts`**: they are the same lists;
* **`Layout.readNoting`** — reads, and notes for how many items room is made, and what is left then;
* **`Layout.readNoting_covered`** — all room is paid for by bytes that are left;
* **`countChecked_read`** — all of this of any list in any buffer.
-/
import Thumbnailer.Proofs.Wire.Layout

namespace Thumbnailer.Wire

variable {α β : Type} {buffer rest : List UInt8}

open Reader (andThen_eq_ok_iff)

/-! ### Lists whose count is believed -/

/-- Takes a count and as many values. -/
def readCounted (r : Reader α) : Reader (List α) :=
  readWord.andThen fun count => readTimes r count.toNat

theorem Reader.Inverts.counted {r : Reader α} {fits : α → Prop} {write : α → List UInt8}
    (h : r.Inverts fits write) :
    (readCounted r).Inverts (fun as => as.length < 2 ^ 32 ∧ ∀ a ∈ as, fits a)
      (fun as => writeWord (.ofNat as.length) ++ as.flatMap write) := by
  intro buffer as rest
  simp only [readCounted, andThen_eq_ok_iff, readWord_inverts _ _ _, true_and,
    readTimes_eq_ok_iff h]
  constructor
  · rintro ⟨count, _, rfl, hcount, hfits, rfl⟩
    refine ⟨⟨hcount ▸ count.toNat_lt, hfits⟩, ?_⟩
    rw [hcount, UInt32.ofNat_toNat, List.append_assoc]
  · rintro ⟨⟨hlen, hfits⟩, rfl⟩
    exact ⟨_, _, List.append_assoc .., (toNat_ofNat_length hlen).symm, hfits, rfl⟩

/-- Readers that undo the same writing take the same values from the same bytes. -/
theorem Reader.Inverts.eq_ok_iff {r s : Reader α} {fits : α → Prop} {write : α → List UInt8}
    (hr : r.Inverts fits write) (hs : s.Inverts fits write) {a : α} :
    r buffer = (.ok a, rest) ↔ s buffer = (.ok a, rest) := by
  rw [hr, hs]

namespace Layout

/-- Takes a value of the layout off a buffer, and believes the counts of lists. -/
def readTrusting : (l : Layout) → Reader l.Value
  | list item => readCounted item.readTrusting
  | word => readWord
  | bytes => readBytes
  | text => readText
  | path => readBytes
  | size => readSize

theorem readTrusting_inverts (l : Layout) : l.readTrusting.Inverts l.Fits l.write := by
  induction l with
  | list item ih => exact ih.counted
  | word => exact readWord_inverts
  | bytes => exact readBytes_inverts
  | text => exact readText_inverts
  | path => exact readBytes_inverts
  | size => exact readSize_inverts

end Layout

/-! ### Reading takes bytes off the front -/

namespace Reader

/-- The reader leaves the end of the buffer, also when it fails. -/
def TakesFront (r : Reader α) : Prop := ∀ buffer, (r buffer).2 <:+ buffer

theorem TakesFront.andThen {r : Reader α} {f : α → Reader β} (hr : r.TakesFront)
    (hf : ∀ a, (f a).TakesFront) : (r.andThen f).TakesFront := by
  intro buffer
  have hfirst := hr buffer
  rw [Reader.andThen]
  split
  · rename_i a rest heq
    rw [heq] at hfirst
    exact (hf a rest).trans hfirst
  · rename_i e rest heq
    rw [heq] at hfirst
    exact hfirst

theorem takesFront_done (a : α) : (done a).TakesFront := fun _ => List.suffix_rfl

end Reader

open Reader (TakesFront takesFront_done)

theorem ensure_takesFront (piece : Piece) (needed : Nat) : (ensure piece needed).TakesFront := by
  intro buffer
  rw [ensure]
  split
  · exact List.suffix_rfl
  · exact List.suffix_rfl

theorem readWord_takesFront : readWord.TakesFront :=
  (ensure_takesFront _ _).andThen fun _ _ => List.drop_suffix _ _

theorem readBytes_takesFront : readBytes.TakesFront :=
  readWord_takesFront.andThen fun _ =>
    (ensure_takesFront _ _).andThen fun _ _ => List.drop_suffix _ _

theorem readText_takesFront : readText.TakesFront := by
  refine readBytes_takesFront.andThen fun bytes buffer => ?_
  split
  · exact List.suffix_rfl
  · exact List.suffix_rfl

theorem readSize_takesFront : readSize.TakesFront :=
  readWord_takesFront.andThen fun _ => readWord_takesFront.andThen fun _ => takesFront_done _

/-! ### Room for the items of a list -/

/-- Room that is made for items of a list, and how many bytes are left in the buffer then. -/
structure Room where
  item : Layout
  count : Nat
  left : Nat
  deriving DecidableEq, Repr

/-- A reader that notes the room that it makes. -/
abbrev Noting (α : Type) := List UInt8 → (Except Malformed α × List UInt8) × List Room

namespace Noting

/-- A reader that makes no room. -/
def plain (r : Reader α) : Noting α := fun buffer => (r buffer, [])

/-- Makes room for some items of a list. -/
def makeRoom (item : Layout) (count : Nat) : Noting Unit := fun buffer =>
  ((.ok (), buffer), [⟨item, count, buffer.length⟩])

/-- Goes on with what the first read took off. -/
def andThen (r : Noting α) (f : α → Noting β) : Noting β := fun buffer =>
  match r buffer with
  | ((.ok a, rest), rooms) => ((f a rest).1, rooms ++ (f a rest).2)
  | ((.error e, rest), rooms) => ((.error e, rest), rooms)

/-- Makes room for some items of a list if the bytes that are left can hold them. -/
def checkRoom (item : Layout) (count : Nat) : Noting Unit :=
  (plain (ensure .sequence (count * item.minSize))).andThen fun _ => makeRoom item count

/-- Takes `n` values one after another. -/
def times (r : Noting α) : Nat → Noting (List α)
  | 0 => plain (Reader.done [])
  | n + 1 => r.andThen fun a => (times r n).andThen fun as => plain (Reader.done (a :: as))

/-- Reads the same without its notes. -/
def Forgets (n : Noting α) (r : Reader α) : Prop := ∀ buffer, (n buffer).1 = r buffer

/-- All room is paid for: the items for which it is made take no more bytes, at the least, than are
left at that moment, and these are bytes of the buffer. -/
structure Covered (n : Noting α) : Prop where
  takesFront : ∀ buffer, (n buffer).1.2 <:+ buffer
  rooms : ∀ buffer, ∀ room ∈ (n buffer).2,
    room.count * room.item.minSize ≤ room.left ∧ room.left ≤ buffer.length

variable {n : Noting α} {f : α → Noting β} {r : Reader α} {g : α → Reader β}

theorem Forgets.andThen (hn : n.Forgets r) (hf : ∀ a, (f a).Forgets (g a)) :
    (n.andThen f).Forgets (r.andThen g) := by
  intro buffer
  rw [Noting.andThen, Reader.andThen, ← hn buffer]
  split
  · rename_i a rest rooms heq
    rw [heq]
    exact hf a rest
  · rename_i e rest rooms heq
    rw [heq]

theorem Forgets.times (hn : n.Forgets r) (count : Nat) :
    (n.times count).Forgets (readTimes r count) := by
  induction count with
  | zero => exact fun _ => rfl
  | succ count ih => exact hn.andThen fun a => ih.andThen fun as _ => rfl

theorem Covered.plain (hr : r.TakesFront) : (Noting.plain r).Covered :=
  ⟨hr, fun _ _ hroom => nomatch hroom⟩

theorem Covered.andThen (hn : n.Covered) (hf : ∀ a, (f a).Covered) : (n.andThen f).Covered := by
  constructor
  · intro buffer
    have hfirst := hn.takesFront buffer
    rw [Noting.andThen]
    split
    · rename_i a rest rooms heq
      rw [heq] at hfirst
      exact ((hf a).takesFront rest).trans hfirst
    · rename_i e rest rooms heq
      rw [heq] at hfirst
      exact hfirst
  · intro buffer room hroom
    have hfirst := hn.takesFront buffer
    have hrooms := hn.rooms buffer
    rw [Noting.andThen] at hroom
    split at hroom
    · rename_i a rest rooms heq
      rw [heq] at hfirst hrooms
      obtain hroom | hroom := List.mem_append.mp hroom
      · exact hrooms room hroom
      · -- what is left for the second read was left by the first
        obtain ⟨hpaid, hleft⟩ := (hf a).rooms rest room hroom
        exact ⟨hpaid, Nat.le_trans hleft hfirst.length_le⟩
    · rename_i e rest rooms heq
      rw [heq] at hrooms
      exact hrooms room hroom

theorem Covered.times (hn : n.Covered) (count : Nat) : (n.times count).Covered := by
  induction count with
  | zero => exact .plain (takesFront_done _)
  | succ count ih => exact hn.andThen fun _ => ih.andThen fun _ => .plain (takesFront_done _)

theorem checkRoom_of_le {item : Layout} {count : Nat} (h : count * item.minSize ≤ buffer.length) :
    checkRoom item count buffer = ((.ok (), buffer), [⟨item, count, buffer.length⟩]) := by
  simp only [checkRoom, Noting.andThen, Noting.plain, ensure, if_pos h, makeRoom, List.nil_append]

theorem checkRoom_of_not_le {item : Layout} {count : Nat}
    (h : ¬ count * item.minSize ≤ buffer.length) :
    checkRoom item count buffer
      = ((.error (.shortPayload .sequence (count * item.minSize) buffer.length), buffer), []) := by
  simp only [checkRoom, Noting.andThen, Noting.plain, ensure, if_neg h]

theorem forgets_checkRoom (item : Layout) (count : Nat) :
    (checkRoom item count).Forgets (ensure .sequence (count * item.minSize)) := by
  intro buffer
  rw [ensure]
  split
  · rename_i h
    rw [checkRoom_of_le h]
  · rename_i h
    rw [checkRoom_of_not_le h]

theorem covered_checkRoom (item : Layout) (count : Nat) : (checkRoom item count).Covered := by
  constructor
  · intro buffer
    rw [forgets_checkRoom]
    exact ensure_takesFront _ _ buffer
  · intro buffer room hroom
    by_cases h : count * item.minSize ≤ buffer.length
    · rw [checkRoom_of_le h] at hroom
      obtain rfl := List.mem_singleton.mp hroom
      exact ⟨h, Nat.le_refl _⟩
    · rw [checkRoom_of_not_le h] at hroom
      cases hroom

end Noting

namespace Layout

/-- Takes a value of the layout off a buffer, and notes the room made for the items of lists. -/
def readNoting : (l : Layout) → Noting l.Value
  | list item =>
    (Noting.plain readWord).andThen fun count =>
      (Noting.checkRoom item count.toNat).andThen fun _ => item.readNoting.times count.toNat
  | word => Noting.plain readWord
  | bytes => Noting.plain readBytes
  | text => Noting.plain readText
  | path => Noting.plain readBytes
  | size => Noting.plain readSize

/-- The notes change nothing. -/
theorem readNoting_forgets (l : Layout) : l.readNoting.Forgets l.read := by
  induction l with
  | list item ih =>
    refine Noting.Forgets.andThen (fun _ => rfl) fun count => ?_
    exact (Noting.forgets_checkRoom item count.toNat).andThen fun _ => ih.times _
  | word | bytes | text | path | size => exact fun _ => rfl

/-- All room is paid for, at any depth. -/
theorem readNoting_covered (l : Layout) : l.readNoting.Covered := by
  induction l with
  | list item ih =>
    refine (Noting.Covered.plain readWord_takesFront).andThen fun count => ?_
    exact (Noting.covered_checkRoom item count.toNat).andThen fun _ => ih.times _
  | word => exact .plain readWord_takesFront
  | bytes => exact .plain readBytes_takesFront
  | text => exact .plain readText_takesFront
  | path => exact .plain readBytes_takesFront
  | size => exact .plain readSize_takesFront

/-- A list that is read had room made for it first, for just its items. -/
theorem exists_rooms_readNoting {item : Layout} {vs : List item.Value}
    (h : (list item).read buffer = (.ok vs, rest)) :
    ∃ more, ((list item).readNoting buffer).2 = ⟨item, vs.length, buffer.length - 4⟩ :: more := by
  obtain ⟨⟨hcount, -⟩, rfl⟩ := ((list item).read_inverts _ _ _).mp h
  have hword : readWord ((list item).write vs ++ rest)
      = (.ok (.ofNat vs.length), vs.flatMap item.write ++ rest) :=
    (readWord_inverts _ _ _).mpr ⟨trivial, List.append_assoc ..⟩
  have hroom : vs.length * item.minSize ≤ (vs.flatMap item.write ++ rest).length := by
    have hitems := item.length_mul_minSize_le vs
    rw [List.length_append]
    omega
  have hleft : ((list item).write vs ++ rest).length - 4
      = (vs.flatMap item.write ++ rest).length := by
    rw [write, List.append_assoc, List.length_append, length_writeWord, Nat.add_sub_cancel_left]
  simp only [readNoting, Noting.andThen, Noting.plain, hword, toNat_ofNat_length hcount,
    Noting.checkRoom_of_le hroom, hleft, List.nil_append, List.cons_append]
  exact ⟨_, rfl⟩

theorem minSize_le_eight (l : Layout) : l.minSize ≤ 8 := by
  cases l with
  | list item => simp only [minSize]; omega
  | word | bytes | text | path | size => simp only [minSize]; omega

theorem mul_minSize_lt (l : Layout) (count : UInt32) : count.toNat * l.minSize < 2 ^ 64 := by
  have hcount := count.toNat_lt
  calc count.toNat * l.minSize ≤ count.toNat * 8 := Nat.mul_le_mul_left _ l.minSize_le_eight
    _ < 2 ^ 64 := by omega

end Layout

/-- What is to be said of the list with items `item` that a buffer may begin with. -/
structure CountChecked (item : Layout) (buffer : List UInt8) : Prop where
  /-- It is read just as if its count were believed. -/
  counted : ∀ vs rest, (Layout.list item).read buffer = (.ok vs, rest) ↔
    readCounted item.read buffer = (.ok vs, rest)
  /-- The same holds if the counts of the lists in it are believed too. -/
  trusting : ∀ vs rest, (Layout.list item).read buffer = (.ok vs, rest) ↔
    (Layout.list item).readTrusting buffer = (.ok vs, rest)
  /-- The product that is compared with the bytes that are left is no longer than two words. -/
  product_lt : ∀ count : UInt32, count.toNat * item.minSize < 2 ^ 64
  /-- The notes that are taken change nothing, -/
  noted : ((Layout.list item).readNoting buffer).1 = (Layout.list item).read buffer
  /-- the first of them is about this list, if it is read, -/
  first : ∀ vs rest, (Layout.list item).read buffer = (.ok vs, rest) →
    ∃ more, ((Layout.list item).readNoting buffer).2
      = ⟨item, vs.length, buffer.length - 4⟩ :: more
  /-- and all room is paid for by bytes that are left. -/
  paid : ∀ room ∈ ((Layout.list item).readNoting buffer).2,
    room.count * room.item.minSize ≤ room.left ∧ room.left ≤ buffer.length

/-- **The check of a list's count refuses nothing that is there and lets nothing else take room.**  A
list with items of any layout is read from a buffer just if it could be read without the check, with
the same items and the same bytes left behind.  Whenever room is made, for its items or for those of
a list inside it, and also if the reading fails later, the bytes that are left are at least as many
as so many items take; the product that says so does not overflow. -/
theorem countChecked_read (item : Layout) (buffer : List UInt8) : CountChecked item buffer where
  counted _ _ := ((Layout.list item).read_inverts).eq_ok_iff item.read_inverts.counted
  trusting _ _ := ((Layout.list item).read_inverts).eq_ok_iff (Layout.list item).readTrusting_inverts
  product_lt := item.mul_minSize_lt
  noted := (Layout.list item).readNoting_forgets buffer
  first _ _ h := Layout.exists_rooms_readNoting h
  paid := (Layout.list item).readNoting_covered.rooms buffer

end Thumbnailer.Wire
