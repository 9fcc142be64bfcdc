/-
Renditions as files.

The files that a command writes are named by a number and a size.  Names of different numbers are
different, whatever the sizes, so no rendition is written over another one, and a file that can be
written now can still be written once the others are there.

* **`Saving.name_inj`** — a name says which rendition it belongs to;
* **`Saving.Stored`** — what a folder holds once renditions have been written into it;
* **`Saving.exists_stored_allFrom`** — what is written, also if the writing ends early;
* **`World.receive_render`** — what a command does with the answer to its task.
-/
import Mathlib.Data.List.Nodup
import Thumbnailer.Command.Run
import Thumbnailer.Proofs.Folder.Entries
import Thumbnailer.Proofs.Size.Grammar

namespace Thumbnailer

namespace Saving

open Folder

variable {dir : String} {i j n : Nat} {size other : Size} {image : Image} {s t : State}
  {f g : Folder Source} {renditions : List (Size × Image)}

/-! ### Names -/

theorem toList_name (i : Nat) (size : Size) :
    (name i size).toList = Nat.toDigits 10 i ++ '_' :: (size.text ++ ".jpg").toList := by
  have hbar : (toString "_").toList = ['_'] := rfl
  have hend : (toString ".jpg").toList = ['.', 'j', 'p', 'g'] := rfl
  have htext : toString size.text = size.text := rfl
  simp [name, Nat.toString_eq_repr, Nat.toList_repr, hbar, hend, htext]

theorem not_mem_toDigits {c : Char} (h : c.isDigit = false) (m : Nat) : c ∉ Nat.toDigits 10 m :=
  fun hc => by simpa [h] using Nat.isDigit_of_mem_toDigits (by decide) (by decide) hc

theorem mem_ending_iff {c : Char} (h : c.isDigit = false) (hx : c ≠ 'x') (size : Size) :
    c ∈ (size.text ++ ".jpg").toList ↔ c ∈ ['.', 'j', 'p', 'g'] := by
  have hend : (".jpg").toList = ['.', 'j', 'p', 'g'] := rfl
  rw [String.toList_append, Size.toList_text, hend]
  simp [not_mem_toDigits h, hx]

/-- A name says which rendition it belongs to. -/
theorem name_inj : name i size = name j other ↔ i = j ∧ size = other := by
  refine ⟨fun h => ?_, ?_⟩
  · have hlist : (name i size).toList = (name j other).toList := congrArg String.toList h
    have hbar : '_' ∉ (size.text ++ ".jpg").toList :=
      (mem_ending_iff (by decide) (by decide) size).not.mpr (by decide)
    rw [toList_name, toList_name,
      List.append_cons_inj_of_notMem (not_mem_toDigits (by decide) i) hbar] at hlist
    obtain ⟨hdigits, -, htext⟩ := hlist
    have hnumber : i = j := by
      rw [← Nat.ofDigitChars_ten_toDigits (n := i), hdigits, Nat.ofDigitChars_ten_toDigits]
    refine ⟨hnumber, ?_⟩
    have htext : size.text = other.text := String.toList_inj.mp (by simpa using htext)
    -- both sizes are what is read from the text
    have hparse : (.ok size : Except Size.ParseError Size) = .ok other := by
      rw [← Size.parse_text size, htext, Size.parse_text other]
    exact Except.ok.inj hparse
  · rintro ⟨rfl, rfl⟩
    rfl

example : name 10 ⟨640, 480⟩ = "10_640x480.jpg" := by decide +kernel

theorem isName_name (i : Nat) (size : Size) : IsName (name i size) where
  whole := by
    rw [toList_name, List.mem_append, List.mem_cons, not_or, not_or]
    exact ⟨not_mem_toDigits (by decide) i, by decide,
      (mem_ending_iff (by decide) (by decide) size).not.mpr (by decide)⟩
  ne_empty h := by
    have hlist := congrArg String.toList h
    simp [toList_name] at hlist
  ne_dot h := by
    have hlist := congrArg String.toList h
    rw [toList_name] at hlist
    have hbar : '_' ∈ (".").toList := hlist ▸ by simp
    simp at hbar

/-- The clean path of the file of a rendition. -/
def key (dir : String) (i : Nat) (size : Size) : String := cleanPath (join dir (name i size))

theorem key_inj : key dir i size = key dir j other ↔ i = j ∧ size = other := by
  rw [key, key, cleanPath_join_inj (isName_name i size) (isName_name j other), name_inj]

theorem at?_join_name (f : Folder Source) (dir : String) (i : Nat) (size : Size) :
    f.at? (join dir (name i size)) = f.get? (key dir i size) :=
  at?_of_parts (pathParts_join_ne_nil dir (isName_name i size))

/-! ### Writing -/

theorem one_eq_ok_iff : one dir i size image s = .ok t ↔
    s.folder.Takes (join dir (name i size)) ∧
      t = ⟨s.folder.insert (key dir i size) (.file (.bytes image)),
        s.lines ++ [s!"{size.text} -> {join dir (name i size)}"]⟩ := by
  rw [one]
  constructor
  · intro h
    cases hwrite : s.folder.write (join dir (name i size)) (.bytes image) with
    | error e =>
      rw [hwrite] at h
      cases h
    | ok f =>
      rw [hwrite] at h
      obtain ⟨htakes, rfl⟩ := write_eq_ok_iff.mp hwrite
      cases h
      exact ⟨htakes, rfl⟩
  · rintro ⟨htakes, rfl⟩
    rw [write_eq_ok_iff.mpr ⟨htakes, rfl⟩]
    rfl

/-- What a folder holds once renditions, the first of which has a number, have been written into a
folder in it: nothing else has changed. -/
structure Stored (f g : Folder Source) (dir : String) (n : Nat)
    (renditions : List (Size × Image)) : Prop where
  holds : ∀ k (h : k < renditions.length),
    g.get? (key dir (n + k) renditions[k].1) = some (.file (.bytes renditions[k].2))
  others : ∀ p, (∀ k (h : k < renditions.length), p ≠ key dir (n + k) renditions[k].1) →
    g.get? p = f.get? p

theorem stored_nil (f : Folder Source) (dir : String) (n : Nat) : Stored f f dir n [] where
  holds k h := absurd h (Nat.not_lt_zero k)
  others _ _ := rfl

/-- The first rendition is written before the others. -/
theorem Stored.cons (h : Stored (f.insert (key dir n size) (.file (.bytes image))) g dir (n + 1)
    renditions) : Stored f g dir n ((size, image) :: renditions) where
  holds k hk := by
    cases k with
    | zero =>
      rw [h.others _ fun k hk heq => ?_]
      · exact get?_insert_self f _ _
      · have hnumber := (key_inj.mp heq).1
        omega
    | succ k =>
      have hk : k < renditions.length := by simpa using hk
      have hnumber : n + (k + 1) = n + 1 + k := by omega
      simpa [hnumber] using h.holds k hk
  others p hp := by
    rw [h.others p fun k hk heq => ?_, get?_insert_of_ne]
    · exact hp 0 (Nat.zero_lt_succ _)
    · have hnumber : n + (k + 1) = n + 1 + k := by omega
      refine hp (k + 1) (Nat.succ_lt_succ hk) ?_
      simpa [hnumber] using heq

/-- A file that was written does not keep another one from being written. -/
theorem takes_insert_iff (htakes : f.Takes (join dir (name i size))) (hne : j ≠ i) :
    (f.insert (key dir i size) (.file (.bytes image))).Takes (join dir (name j other)) ↔
      f.Takes (join dir (name j other)) := by
  refine takes_insert_file_iff ?_ fun heq => hne (key_inj.mp heq).1
  rw [← at?_join_name]
  exact htakes.not_folder

theorem allFrom_nil (dir : String) (n : Nat) (s : State) : allFrom dir n [] s = (s, none) := rfl

theorem allFrom_cons_of_ok (hone : one dir n size image s = .ok t) :
    allFrom dir n ((size, image) :: renditions) s = allFrom dir (n + 1) renditions t := by
  rw [allFrom.eq_def]
  simp only [hone]

theorem allFrom_cons_of_error {e : OsError} (hone : one dir n size image s = .error e) :
    allFrom dir n ((size, image) :: renditions) s = (s, some e) := by
  rw [allFrom.eq_def]
  simp only [hone]

/-- Renditions are written up to the first for which there is no place. -/
theorem exists_stored_allFrom (dir : String) (n : Nat) (renditions : List (Size × Image))
    (s : State) :
    ∃ m ≤ renditions.length,
      Stored s.folder (allFrom dir n renditions s).1.folder dir n (renditions.take m) ∧
      ((allFrom dir n renditions s).2 = none ↔ m = renditions.length) ∧
      (∀ k (h : k < renditions.length), k < m →
        s.folder.Takes (join dir (name (n + k) renditions[k].1))) ∧
      (∀ h : m < renditions.length,
        ¬ s.folder.Takes (join dir (name (n + m) renditions[m].1))) := by
  induction renditions generalizing n s with
  | nil => exact ⟨0, Nat.le_refl 0, stored_nil _ dir n, by simp [allFrom_nil]⟩
  | cons rendition rest ih =>
    obtain ⟨size, image⟩ := rendition
    cases hone : one dir n size image s with
    | error e =>
      rw [allFrom_cons_of_error hone]
      refine ⟨0, Nat.zero_le _, stored_nil s.folder dir n, by simp,
        fun k _ hk => absurd hk (Nat.not_lt_zero k), ?_⟩
      · intro h htakes
        have hok : one dir n size image s = .ok _ := one_eq_ok_iff.mpr ⟨by simpa using htakes, rfl⟩
        rw [hone] at hok
        cases hok
    | ok t =>
      obtain ⟨m, hm, hstored, hend, hbefore, hfirst⟩ := ih (n + 1) t
      rw [allFrom_cons_of_ok hone]
      obtain ⟨htakes, rfl⟩ := one_eq_ok_iff.mp hone
      refine ⟨m + 1, Nat.succ_le_succ hm, ?_, ?_, fun k h hk => ?_, fun h htaken => ?_⟩
      · exact hstored.cons
      · rw [hend, List.length_cons]
        omega
      · cases k with
        | zero => exact htakes
        | succ k =>
          have hrest := hbefore k (by simpa using h) (by omega)
          rw [takes_insert_iff htakes (by omega)] at hrest
          have hnumber : n + (k + 1) = n + 1 + k := by omega
          simpa [hnumber] using hrest
      · refine hfirst (by simpa using h) ?_
        rw [takes_insert_iff htakes (by omega)]
        have hnumber : n + (m + 1) = n + 1 + m := by omega
        simpa [hnumber] using htaken

/-- The names of renditions are different, and so are the places of their files. -/
theorem nodup_key (dir : String) (sizes : List Size) : (sizes.mapIdx (key dir)).Nodup := by
  rw [List.nodup_iff_pairwise_ne, List.pairwise_iff_getElem]
  intro i j hi hj hlt heq
  rw [List.getElem_mapIdx, List.getElem_mapIdx] at heq
  exact absurd (key_inj.mp heq).1 hlt.ne

theorem nodup_name (sizes : List Size) : (sizes.mapIdx name).Nodup := by
  have hkeys : (sizes.mapIdx name).map (fun name => cleanPath (join "" name)) =
      sizes.mapIdx (key "") := List.ext_getElem (by simp) (by simp [key])
  exact List.Nodup.of_map _ (hkeys ▸ nodup_key "" sizes)

/-- A file that was written is read back. -/
theorem Stored.read (h : Stored f g dir n renditions)
    (htakes : ∀ k (hk : k < renditions.length), f.Takes (join dir (name (n + k) renditions[k].1)))
    {k : Nat} (hk : k < renditions.length) :
    g.read (join dir (name (n + k) renditions[k].1)) = .ok (.bytes renditions[k].2) := by
  refine read_eq_ok_iff.mpr ⟨walk_of_folders (htakes k hk).walk fun p hp => ?_, ?_⟩
  · -- no file was written where there was a folder
    rw [h.others p fun j hj heq => (htakes j hj).not_folder ?_, hp]
    rw [at?_join_name, ← heq, hp]
  · rw [at?_join_name, h.holds k hk]

end Saving

namespace World

open Folder

variable {w : World} {client : Client} {reply : Reply} {answer : Wire.Rendered}

/-- A call puts nothing into the folder. -/
theorem get?_of_call {socket p : String} {request : Wire.Command} {e : Entry Source}
    (h : (w.call socket request).1.folder.get? p = some e) : w.folder.get? p = some e := by
  rw [call] at h
  split at h
  · split at h
    · simp only [settle] at h
      split at h
      · exact get?_of_remove h
      · exact h
    · exact h
  · exact h

theorem deliver_of_code_ne (w : World) (sizes : List Size) (dir? : Option String)
    (h : answer.code ≠ 0) :
    w.deliver sizes dir? answer = (w, .failed (printed [s!"{answer.code.toNat} {answer.text}"])
      (.illegalState (.notRendered answer.text))) := by
  rw [deliver, if_pos h]

/-- The renditions of an answer are written as far as that goes. -/
theorem deliver_of_code_eq (w : World) (sizes : List Size) (dir : String) (h : answer.code = 0) :
    ∃ s : Saving.State, s.folder = w.folder ∧
      (w.deliver sizes (some dir) answer).1.folder =
        (Saving.all dir (sizes.zip answer.images) s).1.folder ∧
      ((w.deliver sizes (some dir) answer).2.code = 0 ↔
        (Saving.all dir (sizes.zip answer.images) s).2 = none) := by
  refine ⟨⟨w.folder, [s!"{answer.code.toNat} {answer.text}"]⟩, rfl, ?_⟩
  rw [deliver, if_neg (not_not_intro h)]
  dsimp only
  split
  · rename_i hnone
    exact ⟨rfl, iff_of_true rfl hnone⟩
  · rename_i e hsome
    refine ⟨rfl, iff_of_false nofun ?_⟩
    rw [hsome]
    exact nofun

theorem deliver_stores (w : World) (dir : String) {sizes : List Size} (h : answer.code = 0)
    (hcount : answer.images.length = sizes.length) :
    ((w.deliver sizes (some dir) answer).2.code = 0 ↔
      ∀ i (h : i < sizes.length), w.folder.Takes (join dir (Saving.name i sizes[i]))) ∧
    ((w.deliver sizes (some dir) answer).2.code = 0 →
      Saving.Stored w.folder (w.deliver sizes (some dir) answer).1.folder dir 0
        (sizes.zip answer.images)) := by
  obtain ⟨s, hs, hfolder, hcode⟩ := w.deliver_of_code_eq sizes dir h
  have hlength : (sizes.zip answer.images).length = sizes.length := by
    rw [List.length_zip, hcount, Nat.min_self]
  obtain ⟨m, hm, hstored, hend, hbefore, hfirst⟩ :=
    Saving.exists_stored_allFrom dir 0 (sizes.zip answer.images) s
  rw [hfolder, hcode, Saving.all, hend, ← hs]
  constructor
  · constructor
    · rintro rfl i hi
      have htakes := hbefore i (hlength ▸ hi) (hlength ▸ hi)
      simpa using htakes
    · intro htakes
      refine hm.antisymm (Nat.not_lt.mp fun hlt => hfirst hlt ?_)
      simpa using htakes m (hlength ▸ hlt)
  · rintro rfl
    rwa [List.take_length] at hstored

/-- **What a command does with the answer to its task.**  The renditions of a list of sizes have
different names, and different places in any folder.  If the worker failed, so does the command, and
nothing changes.  If it did not, and there is one picture for each size, then the command is done just
if there is a place for each file; each picture is then read back from the file of its number and
size, and the folder holds what it held everywhere else.  The call itself puts nothing into the
folder. -/
theorem receive_render (w : World) (client : Client) (path : String) (sizes : List Size)
    {reply : Reply} {answer : Wire.Rendered}
    (hanswer : client.generate ⟨Text.Utf8.ofString path, sizes⟩ reply = .ok answer) :
    (sizes.mapIdx Saving.name).Nodup ∧
    (answer.code ≠ 0 → ∀ dir?, w.receive client reply (.render path sizes dir?) =
      (w, .failed (printed [s!"{answer.code.toNat} {answer.text}"])
        (.illegalState (.notRendered answer.text)))) ∧
    (answer.code = 0 → ∀ hcount : answer.images.length = sizes.length, ∀ dir after ended,
      w.receive client reply (.render path sizes (some dir)) = (after, ended) →
      (sizes.mapIdx (Saving.key dir)).Nodup ∧
      (ended.code = 0 ↔
        ∀ i (h : i < sizes.length), w.folder.Takes (join dir (Saving.name i sizes[i]))) ∧
      (ended.code = 0 →
        (∀ i (h : i < sizes.length),
          after.folder.read (join dir (Saving.name i sizes[i])) = .ok (.bytes answer.images[i])) ∧
        ∀ p, p ∉ sizes.mapIdx (Saving.key dir) → after.folder.get? p = w.folder.get? p)) ∧
    ∀ dir?, ∃ met reply', w.call client.socket (.render ⟨Text.Utf8.ofString path, sizes⟩)
        = (met, reply') ∧
      w.runClient client (.render path sizes dir?) =
        met.receive client reply' (.render path sizes dir?) ∧
      ∀ p e, met.folder.get? p = some e → w.folder.get? p = some e := by
  have hreceive : ∀ dir?, w.receive client reply (.render path sizes dir?) =
      w.deliver sizes dir? answer := by
    intro dir?
    rw [receive, hanswer]
  refine ⟨Saving.nodup_name sizes, fun hcode dir? => ?_, ?_,
    fun dir? => ⟨_, _, rfl, rfl, fun p e => get?_of_call⟩⟩
  · rw [hreceive, deliver_of_code_ne w sizes dir? hcode]
  · intro hcode hcount dir after ended hafter
    obtain ⟨hdone, hstores⟩ := w.deliver_stores dir hcode hcount
    rw [← hreceive, hafter] at hdone hstores
    refine ⟨Saving.nodup_key dir sizes, hdone, fun hended => ⟨fun i hi => ?_, fun p hp => ?_⟩⟩
    · have htakes : ∀ k (hk : k < (sizes.zip answer.images).length),
          w.folder.Takes (join dir (Saving.name (0 + k) (sizes.zip answer.images)[k].1)) := by
        intro k hk
        have hk : k < sizes.length := by simpa [hcount] using hk
        simpa using hdone.mp hended k hk
      have hread := (hstores hended).read htakes (k := i) (by simpa [hcount] using hi)
      simpa using hread
    · refine (hstores hended).others p fun k hk heq => hp ?_
      have hk : k < sizes.length := by simpa [hcount] using hk
      exact List.mem_mapIdx.mpr ⟨k, hk, by simpa using heq.symm⟩

/-- Two sizes whose digits are the same in another order, one of them twice. -/
theorem receive_render_three :
    ∃ after ended, receive ⟨⟨[("out", .folder)]⟩, [], 1, none⟩ ⟨"", ⟨9, 9, 64⟩⟩
        (.line ⟨Wire.frame (Wire.Response.render ⟨0, "OK", [[1], [2], [3]]⟩), some .earlyEnd, []⟩)
        (.render "a" [⟨1, 11⟩, ⟨11, 1⟩, ⟨1, 11⟩] (some "out")) = (after, ended) ∧ ended.code = 0 ∧
      after.folder.read (join "out" (Saving.name 0 ⟨1, 11⟩)) = .ok (.bytes [1]) ∧
      after.folder.read (join "out" (Saving.name 1 ⟨11, 1⟩)) = .ok (.bytes [2]) ∧
      after.folder.read (join "out" (Saving.name 2 ⟨1, 11⟩)) = .ok (.bytes [3]) := by
  have hanswer : Client.generate ⟨"", ⟨9, 9, 64⟩⟩
      ⟨Text.Utf8.ofString "a", [⟨1, 11⟩, ⟨11, 1⟩, ⟨1, 11⟩]⟩
      (.line ⟨Wire.frame (Wire.Response.render ⟨0, "OK", [[1], [2], [3]]⟩), some .earlyEnd, []⟩) =
      .ok ⟨0, "OK", [[1], [2], [3]]⟩ := by decide +kernel
  obtain ⟨⟨after, ended⟩, hreceive, hcode⟩ : ∃ r : World × Ended,
      receive ⟨⟨[("out", .folder)]⟩, [], 1, none⟩ ⟨"", ⟨9, 9, 64⟩⟩
        (.line ⟨Wire.frame (Wire.Response.render ⟨0, "OK", [[1], [2], [3]]⟩), some .earlyEnd, []⟩)
        (.render "a" [⟨1, 11⟩, ⟨11, 1⟩, ⟨1, 11⟩] (some "out")) = r ∧ r.2.code = 0 :=
    ⟨_, rfl, by decide +kernel⟩
  obtain ⟨-, -, hafter, -⟩ := receive_render ⟨⟨[("out", .folder)]⟩, [], 1, none⟩ ⟨"", ⟨9, 9, 64⟩⟩
    "a" _ hanswer
  obtain ⟨-, -, hfiles⟩ := hafter rfl rfl "out" after ended hreceive
  obtain ⟨hread, -⟩ := hfiles hcode
  exact ⟨after, ended, hreceive, hcode, hread 0 (by decide), hread 1 (by decide),
    hread 2 (by decide)⟩

end World

end Thumbnailer
