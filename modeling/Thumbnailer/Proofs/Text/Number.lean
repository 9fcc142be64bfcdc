/-
How numbers are typed.

A numeral is an optional plus sign and one or more ASCII digits; blanks around it do not count.  The
reader of numbers goes from the left and stops at the first thing that is wrong, yet what it accepts
is told by the numeral as a whole and what it is worth.

* **`IsNumeral`** — a numeral and its value;
* **`readNumber_eq_ok_iff`** — what is read is the value of a numeral, if it lies below the limit;
* **`IsField`** — a numeral among blanks;
* **`readNumber_trim_eq_ok_iff`** — the same for what is trimmed first;
* **`isField_toDigits`** — the digits of a number are a numeral of it.
-/
import Thumbnailer.Text.Blank
import Thumbnailer.Text.Number
import Mathlib.Data.List.TakeWhile

namespace Thumbnailer.Text

/-! ### Numerals -/

/-- An optional plus sign and one or more ASCII digits that are worth `n`. -/
def IsNumeral (s : List Char) (n : Nat) : Prop :=
  ∃ sign digits, s = sign ++ digits ∧ (sign = [] ∨ sign = ['+']) ∧ digits ≠ [] ∧
    (∀ c ∈ digits, c.isDigit = true) ∧ Nat.ofDigitChars 10 digits 0 = n

theorem isDigit_iff {c : Char} : c.isDigit = true ↔ '0' ≤ c ∧ c ≤ '9' := by
  rw [Char.isDigit, Bool.and_eq_true, decide_eq_true_eq, decide_eq_true_eq]
  exact Iff.rfl

theorem digitValue?_eq_some_iff {c : Char} {d : Nat} :
    digitValue? c = some d ↔ c.isDigit = true ∧ c.toNat - '0'.toNat = d := by
  rw [digitValue?, Option.ite_none_right_eq_some, isDigit_iff, Option.some.injEq]

theorem pushDigit_eq_ok_iff {limit value n : Nat} {c : Char} :
    pushDigit limit value c = .ok n ↔
      c.isDigit = true ∧ 10 * value + (c.toNat - '0'.toNat) = n ∧ n < limit := by
  rw [pushDigit]
  cases hd : digitValue? c with
  | none =>
    have hc : ¬ c.isDigit = true := fun hc => by
      rw [digitValue?_eq_some_iff.mpr ⟨hc, rfl⟩] at hd
      cases hd
    simp [hc]
  | some d =>
    obtain ⟨hc, rfl⟩ := digitValue?_eq_some_iff.mp hd
    by_cases hlt : 10 * value + (c.toNat - '0'.toNat) < limit
    · simp only [if_pos hlt, Except.ok.injEq, hc, true_and]
      constructor
      · rintro rfl
        exact ⟨rfl, hlt⟩
      · exact (·.1)
    · simp only [if_neg hlt, reduceCtorEq, hc, true_and, false_iff, not_and]
      rintro rfl
      exact hlt

/-- Further digits do not make a number smaller. -/
theorem le_ofDigitChars (digits : List Char) (value : Nat) :
    value ≤ Nat.ofDigitChars 10 digits value := by
  induction digits generalizing value with
  | nil => exact Nat.le_refl value
  | cons c rest ih =>
    rw [Nat.ofDigitChars_cons]
    have hrest := ih (10 * value + (c.toNat - '0'.toNat))
    omega

/-- The limit is looked at after each digit, but only the last look matters. -/
theorem readDigits_eq_ok_iff {limit value n : Nat} {digits : List Char} :
    readDigits limit value digits = .ok n ↔
      (∀ c ∈ digits, c.isDigit = true) ∧ Nat.ofDigitChars 10 digits value = n ∧
        (digits ≠ [] → n < limit) := by
  induction digits generalizing value with
  | nil => simp [readDigits]
  | cons c rest ih =>
    rw [readDigits, Nat.ofDigitChars_cons, List.forall_mem_cons]
    have hle := le_ofDigitChars rest (10 * value + (c.toNat - '0'.toNat))
    constructor
    · intro h
      split at h
      · cases h
      · rename_i value' hpush
        obtain ⟨hc, rfl, hlt⟩ := pushDigit_eq_ok_iff.mp hpush
        obtain ⟨hrest, hn, hlimit⟩ := ih.mp h
        refine ⟨⟨hc, hrest⟩, hn, fun _ => ?_⟩
        by_cases hnil : rest = []
        · subst hnil
          rw [← hn]
          exact hlt
        · exact hlimit hnil
    · rintro ⟨⟨hc, hrest⟩, hn, hlimit⟩
      have hlt := hlimit (List.cons_ne_nil c rest)
      have hpush : pushDigit limit value c = .ok (10 * value + (c.toNat - '0'.toNat)) :=
        pushDigit_eq_ok_iff.mpr ⟨hc, rfl, by omega⟩
      rw [hpush]
      exact ih.mpr ⟨hrest, hn, fun _ => hlt⟩

/-- What is read is the value of a numeral, if it lies below the limit. -/
theorem readNumber_eq_ok_iff {limit n : Nat} {s : List Char} :
    readNumber limit s = .ok n ↔ IsNumeral s n ∧ n < limit := by
  constructor
  · intro h
    unfold readNumber at h
    split at h
    · cases h
    · cases h
    · rename_i digits hdigits
      have hne : digits ≠ [] := fun hnil => hdigits (by rw [hnil])
      obtain ⟨hall, hn, hlimit⟩ := readDigits_eq_ok_iff.mp h
      exact ⟨⟨['+'], digits, rfl, .inr rfl, hne, hall, hn⟩, hlimit hne⟩
    · rename_i hne _ _
      obtain ⟨hall, hn, hlimit⟩ := readDigits_eq_ok_iff.mp h
      exact ⟨⟨[], s, rfl, .inl rfl, hne, hall, hn⟩, hlimit hne⟩
  · rintro ⟨⟨sign, digits, rfl, hsign, hne, hall, hn⟩, hlt⟩
    have hread := readDigits_eq_ok_iff.mpr ⟨hall, hn, fun _ => hlt⟩
    obtain ⟨c, rest, rfl⟩ := List.exists_cons_of_ne_nil hne
    obtain rfl | rfl := hsign
    · -- the first digit is no sign
      have hc : c ≠ '+' := by
        rintro rfl
        exact absurd (hall '+' List.mem_cons_self) (by decide)
      rw [List.nil_append, readNumber]
      · exact hread
      · simp
      · simp [hc]
      · simp [hc]
    · rw [List.singleton_append, readNumber]
      · exact hread
      · simp

/-! ### Blanks around a numeral -/

/-- A numeral that is worth `n`, with blanks around it. -/
def IsField (s : List Char) (n : Nat) : Prop :=
  ∃ front numeral back, s = front ++ numeral ++ back ∧ (∀ c ∈ front, isBlank c = true) ∧
    (∀ c ∈ back, isBlank c = true) ∧ IsNumeral numeral n

theorem isBlank_of_isDigit {c : Char} (h : c.isDigit = true) : isBlank c = false := by
  have hlow : '0'.toNat ≤ c.toNat := (isDigit_iff.mp h).1
  have hhigh : c.toNat ≤ '9'.toNat := (isDigit_iff.mp h).2
  have h0 : '0'.toNat = 48 := rfl
  have h9 : '9'.toNat = 57 := rfl
  rw [h0] at hlow
  rw [h9] at hhigh
  simp only [isBlank, Bool.or_eq_false_iff, Bool.and_eq_false_iff, decide_eq_false_iff_not,
    beq_eq_false_iff_ne]
  omega

theorem IsNumeral.isBlank {s : List Char} {n : Nat} (h : IsNumeral s n) :
    ∀ c ∈ s, Text.isBlank c = false := by
  obtain ⟨sign, digits, rfl, hsign, -, hall, -⟩ := h
  intro c hc
  obtain hc | hc := List.mem_append.mp hc
  · obtain rfl | rfl := hsign
    · cases hc
    · rw [List.mem_singleton.mp hc]
      decide
  · exact isBlank_of_isDigit (hall c hc)

theorem trimRight_append_of_forall {s back : List Char} (h : ∀ c ∈ back, isBlank c = true) :
    trimRight (s ++ back) = trimRight s := by
  rw [trimRight, List.reverse_append,
    List.dropWhile_append_of_pos fun c hc => h c (List.mem_reverse.mp hc)]
  rfl

theorem trimLeft_of_forall {s : List Char} (h : ∀ c ∈ s, isBlank c = false) : trimLeft s = s := by
  cases s with
  | nil => rfl
  | cons c rest =>
    have hc := h c List.mem_cons_self
    rw [trimLeft, List.dropWhile_cons_of_neg (by rw [hc]; exact Bool.false_ne_true)]

theorem trimRight_of_forall {s : List Char} (h : ∀ c ∈ s, isBlank c = false) :
    trimRight s = s := by
  have hrev : trimLeft s.reverse = s.reverse :=
    trimLeft_of_forall fun c hc => h c (List.mem_reverse.mp hc)
  rw [trimRight]
  exact (congrArg List.reverse hrev).trans (List.reverse_reverse s)

/-- What is trimmed away are blanks. -/
theorem exists_trim (s : List Char) :
    ∃ front back, s = front ++ trim s ++ back ∧ (∀ c ∈ front, isBlank c = true) ∧
      ∀ c ∈ back, isBlank c = true := by
  have hall : ∀ l : List Char, ∀ c ∈ l.takeWhile isBlank, isBlank c = true :=
    fun l c hc => List.mem_takeWhile_imp hc
  refine ⟨s.takeWhile isBlank, ((trimLeft s).reverse.takeWhile isBlank).reverse, ?_, hall s,
    fun c hc => hall _ c (List.mem_reverse.mp hc)⟩
  have hright : trim s ++ ((trimLeft s).reverse.takeWhile isBlank).reverse = trimLeft s := by
    rw [trim, trimRight, ← List.reverse_append, List.takeWhile_append_dropWhile,
      List.reverse_reverse]
  rw [List.append_assoc, hright, trimLeft, List.takeWhile_append_dropWhile]

/-- Where nothing but a numeral stands among the blanks, trimming leaves the numeral. -/
theorem trim_append {front s back : List Char} (hfront : ∀ c ∈ front, isBlank c = true)
    (hback : ∀ c ∈ back, isBlank c = true) (hs : ∀ c ∈ s, isBlank c = false) :
    trim (front ++ s ++ back) = s := by
  rw [trim, List.append_assoc, trimLeft, List.dropWhile_append_of_pos hfront]
  cases s with
  | nil =>
    -- all of it is blank
    rw [List.nil_append, List.dropWhile_eq_nil_iff.mpr hback]
    rfl
  | cons c rest =>
    have hc := hs c List.mem_cons_self
    rw [List.cons_append, List.dropWhile_cons_of_neg (by rw [hc]; exact Bool.false_ne_true),
      ← List.cons_append, trimRight_append_of_forall hback, trimRight_of_forall hs]

/-- What is read after the blanks at either end are gone is the value of a numeral among blanks, if
it lies below the limit. -/
theorem readNumber_trim_eq_ok_iff {limit n : Nat} {s : List Char} :
    readNumber limit (trim s) = .ok n ↔ IsField s n ∧ n < limit := by
  rw [readNumber_eq_ok_iff]
  refine and_congr_left fun _ => ⟨fun h => ?_, ?_⟩
  · obtain ⟨front, back, hs, hfront, hback⟩ := exists_trim s
    exact ⟨front, trim s, back, hs, hfront, hback, h⟩
  · rintro ⟨front, numeral, back, rfl, hfront, hback, h⟩
    rw [trim_append hfront hback h.isBlank]
    exact h

/-! ### The digits of a number -/

theorem isNumeral_toDigits (n : Nat) : IsNumeral (Nat.toDigits 10 n) n :=
  ⟨[], Nat.toDigits 10 n, rfl, .inl rfl, Nat.toDigits_ne_nil,
    fun _ hc => Nat.isDigit_of_mem_toDigits (by decide) (by decide) hc,
    Nat.ofDigitChars_toDigits (by decide) (by decide)⟩

theorem isField_toDigits (n : Nat) : IsField (Nat.toDigits 10 n) n :=
  ⟨[], Nat.toDigits 10 n, [], (List.append_nil _).symm, List.forall_mem_nil _,
    List.forall_mem_nil _, isNumeral_toDigits n⟩

end Thumbnailer.Text
