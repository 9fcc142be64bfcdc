/-
The grammar of written sizes.

A text writes a size if the first `x` or `X` in it has a number on either side, blanks around either
not counted.  The reader divides, trims and reads from the left; this module says what it accepts
without going through the text in that order, and that every size is read back from its own text.

* **`Writes`** — what a text has to look like to write two numbers;
* **`parseChars_eq_ok_iff`** — a row of characters is read as a size just if it writes its numbers;
* **`parse_iff_writes`** — the same for texts, with the formatted form read back.
-/
import Mathlib.Algebra.Group.Nat.Defs
import Thumbnailer.Proofs.Text.Number
import Thumbnailer.Size

namespace Thumbnailer.Size

open Text (IsField readNumber trim)

/-- The first `x` or `X` of a row of characters has the number `width` before it and the number
`height` behind it, each with blanks around it. -/
def Writes (s : List Char) (width height : Nat) : Prop :=
  ∃ left divider right, s = left ++ divider :: right ∧ (∀ c ∈ left, c ≠ 'x' ∧ c ≠ 'X') ∧
    (divider = 'x' ∨ divider = 'X') ∧ IsField left width ∧ IsField right height

theorem isDivider_eq_true_iff {c : Char} : isDivider c = true ↔ c = 'x' ∨ c = 'X' := by
  rw [isDivider, Bool.or_eq_true, beq_iff_eq, beq_iff_eq]

theorem isDivider_eq_false_iff {c : Char} : isDivider c = false ↔ c ≠ 'x' ∧ c ≠ 'X' := by
  rw [isDivider, Bool.or_eq_false_iff, beq_eq_false_iff_ne, beq_eq_false_iff_ne]

/-! ### Division at the first divider -/

theorem takeWhile_append_divider {left right : List Char} {divider : Char}
    (hleft : ∀ c ∈ left, isDivider c = false) (hdivider : isDivider divider = true) :
    (left ++ divider :: right).takeWhile (!isDivider ·) = left := by
  rw [List.takeWhile_append_of_pos (by simpa using hleft),
    List.takeWhile_cons_of_neg (by simp [hdivider]), List.append_nil]

theorem dropWhile_append_divider {left right : List Char} {divider : Char}
    (hleft : ∀ c ∈ left, isDivider c = false) (hdivider : isDivider divider = true) :
    (left ++ divider :: right).dropWhile (!isDivider ·) = divider :: right := by
  rw [List.dropWhile_append_of_pos (by simpa using hleft),
    List.dropWhile_cons_of_neg (by simp [hdivider])]

theorem exists_of_dropWhile {s right : List Char} {divider : Char}
    (h : s.dropWhile (!isDivider ·) = divider :: right) :
    s = s.takeWhile (!isDivider ·) ++ divider :: right ∧
      (∀ c ∈ s.takeWhile (!isDivider ·), isDivider c = false) ∧ isDivider divider = true := by
  refine ⟨?_, fun c hc => ?_, ?_⟩
  · rw [← h, List.takeWhile_append_dropWhile]
  · simpa using List.mem_takeWhile_imp hc
  · have hne : s.dropWhile (!isDivider ·) ≠ [] := by
      rw [h]
      exact List.cons_ne_nil _ _
    have hhead := List.head_dropWhile_not (!isDivider ·) hne
    simpa [h] using hhead

/-! ### Reading -/

theorem parseNumber_eq_ok_iff {s : List Char} {w : UInt32} :
    parseNumber s = .ok w ↔ IsField s w.toNat := by
  rw [parseNumber]
  constructor
  · intro h
    split at h
    · rename_i n hn
      obtain ⟨hfield, hlt⟩ := Text.readNumber_trim_eq_ok_iff.mp hn
      cases h
      rw [UInt32.toNat_ofNat_of_lt' hlt]
      exact hfield
    · cases h
  · intro h
    have hread : readNumber UInt32.size (trim s) = .ok w.toNat :=
      Text.readNumber_trim_eq_ok_iff.mpr ⟨h, w.toNat_lt⟩
    rw [hread]
    exact congrArg Except.ok w.ofNat_toNat

theorem parseChars_eq_ok_iff {s : List Char} {d : Size} :
    parseChars s = .ok d ↔ Writes s d.width.toNat d.height.toNat := by
  constructor
  · intro h
    unfold parseChars at h
    split at h
    · cases h
    · rename_i divider right hdrop
      obtain ⟨hs, hleft, hdivider⟩ := exists_of_dropWhile hdrop
      split at h
      · cases h
      · rename_i width hwidth
        split at h
        · cases h
        · rename_i height hheight
          cases h
          exact ⟨_, divider, right, hs, fun c hc => isDivider_eq_false_iff.mp (hleft c hc),
            isDivider_eq_true_iff.mp hdivider, parseNumber_eq_ok_iff.mp hwidth,
            parseNumber_eq_ok_iff.mp hheight⟩
  · rintro ⟨left, divider, right, rfl, hleft, hdivider, hwidth, hheight⟩
    have hleft : ∀ c ∈ left, isDivider c = false :=
      fun c hc => isDivider_eq_false_iff.mpr (hleft c hc)
    have hdivider : isDivider divider = true := isDivider_eq_true_iff.mpr hdivider
    simp only [parseChars, dropWhile_append_divider hleft hdivider,
      takeWhile_append_divider hleft hdivider, parseNumber_eq_ok_iff.mpr hwidth,
      parseNumber_eq_ok_iff.mpr hheight]

/-! ### Writing -/

theorem toList_text (d : Size) :
    d.text.toList = Nat.toDigits 10 d.width.toNat ++ 'x' :: Nat.toDigits 10 d.height.toNat := by
  have hx : (toString "x").toList = ['x'] := rfl
  simp [text, Nat.toString_eq_repr, Nat.toList_repr, hx]

theorem writes_text (d : Size) : Writes d.text.toList d.width.toNat d.height.toNat := by
  refine ⟨_, 'x', _, d.toList_text, fun c hc => ?_, .inl rfl, Text.isField_toDigits _,
    Text.isField_toDigits _⟩
  -- digits divide nothing
  have hdigit := Nat.isDigit_of_mem_toDigits (by decide) (by decide) hc
  constructor <;>
  · rintro rfl
    exact absurd hdigit (by decide)

theorem parse_text (d : Size) : parse d.text = .ok d := parseChars_eq_ok_iff.mpr d.writes_text

/-- **The grammar of sizes.**  A text is read as a size just if it has an `x` or `X`, and what stands
before and behind the first one is, but for blanks at its ends, an optional plus sign and one or more
ASCII digits: the digits before it are worth the width and those behind it the height.  It is read
as some size just if both are below 2^32.  A size is read back from its own text, so reading what
was read and formatted gives the same again. -/
theorem parse_iff_writes (s : String) :
    (∀ d, parse s = .ok d ↔ Writes s.toList d.width.toNat d.height.toNat) ∧
    ((∃ d, parse s = .ok d) ↔
      ∃ width height, Writes s.toList width height ∧ width < 2 ^ 32 ∧ height < 2 ^ 32) ∧
    (∀ d, parse d.text = .ok d) ∧
    (parse s >>= fun d => parse d.text) = parse s := by
  refine ⟨fun d => parseChars_eq_ok_iff, ⟨?_, ?_⟩, parse_text, ?_⟩
  · rintro ⟨d, hd⟩
    exact ⟨_, _, parseChars_eq_ok_iff.mp hd, d.width.toNat_lt, d.height.toNat_lt⟩
  · rintro ⟨width, height, h, hwidth, hheight⟩
    refine ⟨⟨.ofNat width, .ofNat height⟩, parseChars_eq_ok_iff.mpr ?_⟩
    rw [UInt32.toNat_ofNat_of_lt' hwidth, UInt32.toNat_ofNat_of_lt' hheight]
    exact h
  · cases h : parse s with
    | error e => rfl
    | ok d => exact parse_text d

example : parse " +007X 9" = .ok ⟨7, 9⟩ := by cbv

end Thumbnailer.Size
