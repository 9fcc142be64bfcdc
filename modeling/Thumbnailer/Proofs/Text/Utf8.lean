/-
Every text has one form in UTF-8.

* **`front_eq_char_iff`** — a byte string begins with a character just if it begins with the bytes
  of that character: no overlong form, surrogate or stray byte is taken for one;
* **`decode_eq_ok_iff`** — what the strict decoder accepts is what the encoder writes;
* **`toString?_eq_ok_iff`** — the same for strings.
-/
import Thumbnailer.Text.Utf8

namespace Thumbnailer.Text.Utf8

variable {lead b : UInt8} {bytes rest : List UInt8} {c : Char} {n : Nat}

/-! ### Bytes and characters as numbers -/

theorem isTail_iff : isTail b = true ↔ 0x80 ≤ b.toNat ∧ b.toNat ≤ 0xBF := by
  simp [isTail, UInt8.le_iff_toNat_le]

theorem tailBits_eq (b : UInt8) : tailBits b = b.toNat - 0x80 := by
  unfold tailBits
  rfl

theorem isSecond_iff :
    isSecond lead b = true ↔ 0x80 ≤ b.toNat ∧ b.toNat ≤ 0xBF ∧
      (lead.toNat = 0xE0 → 0xA0 ≤ b.toNat) ∧ (lead.toNat = 0xED → b.toNat ≤ 0x9F) ∧
      (lead.toNat = 0xF0 → 0x90 ≤ b.toNat) ∧ (lead.toNat = 0xF4 → b.toNat ≤ 0x8F) := by
  have hlead : ∀ k : UInt8, lead == k ↔ lead.toNat = k.toNat := by
    intro k
    rw [beq_iff_eq, UInt8.toNat_inj]
  simp only [isSecond, secondRange, Bool.and_eq_true, decide_eq_true_eq, hlead,
    UInt8.le_iff_toNat_le]
  have hE0 : (0xE0 : UInt8).toNat = 0xE0 := rfl
  have hED : (0xED : UInt8).toNat = 0xED := rfl
  have hF0 : (0xF0 : UInt8).toNat = 0xF0 := rfl
  have hF4 : (0xF4 : UInt8).toNat = 0xF4 := rfl
  rw [hE0, hED, hF0, hF4]
  repeat' split
  all_goals
    simp only [UInt8.reduceToNat]
    omega

theorem front_eq (lead : UInt8) (bytes : List UInt8) :
    front lead bytes =
      if lead.toNat < 0x80 then .char (.ofNat lead.toNat) bytes
      else if lead.toNat < 0xC2 then .broken 1
      else if lead.toNat < 0xE0 then front2 lead bytes
      else if lead.toNat < 0xF0 then front3 lead bytes
      else if lead.toNat < 0xF5 then front4 lead bytes
      else .broken 1 := by
  simp only [front, UInt8.lt_iff_toNat_lt, UInt8.reduceToNat]

theorem toNat_valid (c : Char) : c.toNat < 0xD800 ∨ 0xDFFF < c.toNat ∧ c.toNat < 0x110000 :=
  c.valid

theorem eq_ofNat (h : b.toNat = n) : b = UInt8.ofNat n := by
  rw [← h, UInt8.ofNat_toNat]

theorem toNat_ofNat (h : n < 0x100) : (UInt8.ofNat n).toNat = n := by
  rw [UInt8.toNat_ofNat', Nat.mod_eq_of_lt h]

/-! ### The bytes of one character -/

theorem encodeChar_ofNat (h : n < 0xD800 ∨ 0xDFFF < n ∧ n < 0x110000) :
    encodeChar (.ofNat n) =
      if n < 0x80 then [.ofNat n]
      else if n < 0x800 then [.ofNat (0xC0 + n / 0x40), .ofNat (0x80 + n % 0x40)]
      else if n < 0x10000 then
        [.ofNat (0xE0 + n / 0x1000), .ofNat (0x80 + n / 0x40 % 0x40), .ofNat (0x80 + n % 0x40)]
      else
        [.ofNat (0xF0 + n / 0x40000), .ofNat (0x80 + n / 0x1000 % 0x40),
          .ofNat (0x80 + n / 0x40 % 0x40), .ofNat (0x80 + n % 0x40)] := by
  have hn : (Char.ofNat n).toNat = n := by
    rw [Char.ofNat, dif_pos h]
    rfl
  rw [encodeChar, hn]

theorem front2_eq_char_iff :
    front2 lead bytes = .char c rest ↔
      ∃ b, bytes = b :: rest ∧ isTail b = true ∧
        Char.ofNat ((lead.toNat - 0xC0) * 0x40 + (b.toNat - 0x80)) = c := by
  constructor
  · intro h
    rcases bytes with _ | ⟨b, bytes⟩
    · cases h
    by_cases hb : isTail b = true
    · simp only [front2, if_pos hb, tailBits_eq] at h
      obtain ⟨rfl, rfl⟩ := Front.char.inj h
      exact ⟨b, rfl, hb, rfl⟩
    · grind [front2]
  · rintro ⟨b, rfl, hb, rfl⟩
    simp only [front2, if_pos hb, tailBits_eq]

theorem front3_eq_char_iff :
    front3 lead bytes = .char c rest ↔
      ∃ b d, bytes = b :: d :: rest ∧ isSecond lead b = true ∧ isTail d = true ∧
        Char.ofNat ((lead.toNat - 0xE0) * 0x1000 + (b.toNat - 0x80) * 0x40 +
          (d.toNat - 0x80)) = c := by
  constructor
  · intro h
    rcases bytes with _ | ⟨b, _ | ⟨d, bytes⟩⟩
    · cases h
    · grind [front3]
    by_cases hb : isSecond lead b = true ∧ isTail d = true
    · simp only [front3, if_pos hb.1, if_pos hb.2, tailBits_eq] at h
      obtain ⟨rfl, rfl⟩ := Front.char.inj h
      exact ⟨b, d, rfl, hb.1, hb.2, rfl⟩
    · grind [front3]
  · rintro ⟨b, d, rfl, hb, hd, rfl⟩
    simp only [front3, if_pos hb, if_pos hd, tailBits_eq]

theorem front4_eq_char_iff :
    front4 lead bytes = .char c rest ↔
      ∃ b d e, bytes = b :: d :: e :: rest ∧ isSecond lead b = true ∧ isTail d = true ∧
        isTail e = true ∧
        Char.ofNat ((lead.toNat - 0xF0) * 0x40000 + (b.toNat - 0x80) * 0x1000 +
          (d.toNat - 0x80) * 0x40 + (e.toNat - 0x80)) = c := by
  constructor
  · intro h
    rcases bytes with _ | ⟨b, _ | ⟨d, _ | ⟨e, bytes⟩⟩⟩
    · cases h
    · grind [front4]
    · grind [front4]
    by_cases hb : isSecond lead b = true ∧ isTail d = true ∧ isTail e = true
    · simp only [front4, if_pos hb.1, if_pos hb.2.1, if_pos hb.2.2, tailBits_eq] at h
      obtain ⟨rfl, rfl⟩ := Front.char.inj h
      exact ⟨b, d, e, rfl, hb.1, hb.2.1, hb.2.2, rfl⟩
    · grind [front4]
  · rintro ⟨b, d, e, rfl, hb, hd, he, rfl⟩
    simp only [front4, if_pos hb, if_pos hd, if_pos he, tailBits_eq]

theorem cons_eq_of_front2 (hlow : 0xC2 ≤ lead.toNat) (hhigh : lead.toNat < 0xE0)
    (h : front2 lead bytes = .char c rest) : lead :: bytes = encodeChar c ++ rest := by
  obtain ⟨b, rfl, hb, rfl⟩ := front2_eq_char_iff.mp h
  rw [isTail_iff] at hb
  rw [encodeChar_ofNat (by omega), if_neg (by omega), if_pos (by omega)]
  simp only [List.cons_append, List.nil_append, List.cons.injEq, and_true]
  exact ⟨eq_ofNat (by omega), eq_ofNat (by omega)⟩

theorem cons_eq_of_front3 (hlow : 0xE0 ≤ lead.toNat) (hhigh : lead.toNat < 0xF0)
    (h : front3 lead bytes = .char c rest) : lead :: bytes = encodeChar c ++ rest := by
  obtain ⟨b, d, rfl, hb, hd, rfl⟩ := front3_eq_char_iff.mp h
  rw [isSecond_iff] at hb
  rw [isTail_iff] at hd
  -- the range of the second byte shuts out overlong forms and surrogates
  rw [encodeChar_ofNat (by omega), if_neg (by omega), if_neg (by omega), if_pos (by omega)]
  simp only [List.cons_append, List.nil_append, List.cons.injEq, and_true]
  exact ⟨eq_ofNat (by omega), eq_ofNat (by omega), eq_ofNat (by omega)⟩

theorem cons_eq_of_front4 (hlow : 0xF0 ≤ lead.toNat) (hhigh : lead.toNat < 0xF5)
    (h : front4 lead bytes = .char c rest) : lead :: bytes = encodeChar c ++ rest := by
  obtain ⟨b, d, e, rfl, hb, hd, he, rfl⟩ := front4_eq_char_iff.mp h
  rw [isSecond_iff] at hb
  rw [isTail_iff] at hd he
  rw [encodeChar_ofNat (by omega), if_neg (by omega), if_neg (by omega), if_neg (by omega)]
  simp only [List.cons_append, List.nil_append, List.cons.injEq, and_true]
  exact ⟨eq_ofNat (by omega), eq_ofNat (by omega), eq_ofNat (by omega), eq_ofNat (by omega)⟩

theorem cons_eq_of_front (h : front lead bytes = .char c rest) :
    lead :: bytes = encodeChar c ++ rest := by
  rw [front_eq] at h
  split at h
  · cases h
    rw [encodeChar_ofNat (by omega), if_pos (by assumption), UInt8.ofNat_toNat]
    rfl
  split at h
  · cases h
  split at h
  · exact cons_eq_of_front2 (by omega) (by omega) h
  split at h
  · exact cons_eq_of_front3 (by omega) (by omega) h
  split at h
  · exact cons_eq_of_front4 (by omega) (by omega) h
  · cases h

theorem front_encodeChar (c : Char) (rest : List UInt8) :
    ∃ lead tail, encodeChar c = lead :: tail ∧ front lead (tail ++ rest) = .char c rest := by
  have hc := toNat_valid c
  have hofNat : ∀ {n}, n = c.toNat → Char.ofNat n = c := by
    rintro _ rfl
    exact c.ofNat_toNat
  rw [encodeChar]
  generalize c.toNat = n at hc hofNat
  -- the number of bytes is told from the number of the character
  split
  · refine ⟨_, _, rfl, ?_⟩
    rw [front_eq, toNat_ofNat (by omega), if_pos (by omega), hofNat rfl]
    rfl
  split
  · refine ⟨_, _, rfl, ?_⟩
    rw [front_eq, toNat_ofNat (by omega), if_neg (by omega), if_neg (by omega),
      if_pos (by omega)]
    refine front2_eq_char_iff.mpr ⟨_, rfl, ?_, hofNat ?_⟩
    · rw [isTail_iff, toNat_ofNat (by omega)]
      omega
    · rw [toNat_ofNat (by omega), toNat_ofNat (by omega)]
      omega
  split
  · refine ⟨_, _, rfl, ?_⟩
    rw [front_eq, toNat_ofNat (by omega), if_neg (by omega), if_neg (by omega),
      if_neg (by omega), if_pos (by omega)]
    refine front3_eq_char_iff.mpr ⟨_, _, rfl, ?_, ?_, hofNat ?_⟩
    · rw [isSecond_iff, toNat_ofNat (by omega), toNat_ofNat (by omega)]
      omega
    · rw [isTail_iff, toNat_ofNat (by omega)]
      omega
    · rw [toNat_ofNat (by omega), toNat_ofNat (by omega), toNat_ofNat (by omega)]
      omega
  · refine ⟨_, _, rfl, ?_⟩
    rw [front_eq, toNat_ofNat (by omega), if_neg (by omega), if_neg (by omega),
      if_neg (by omega), if_neg (by omega), if_pos (by omega)]
    refine front4_eq_char_iff.mpr ⟨_, _, _, rfl, ?_, ?_, ?_, hofNat ?_⟩
    · rw [isSecond_iff, toNat_ofNat (by omega), toNat_ofNat (by omega)]
      omega
    · rw [isTail_iff, toNat_ofNat (by omega)]
      omega
    · rw [isTail_iff, toNat_ofNat (by omega)]
      omega
    · rw [toNat_ofNat (by omega), toNat_ofNat (by omega), toNat_ofNat (by omega),
        toNat_ofNat (by omega)]
      omega

/-- A byte string begins with a character just if it begins with the bytes of that character. -/
theorem front_eq_char_iff :
    front lead bytes = .char c rest ↔ lead :: bytes = encodeChar c ++ rest := by
  refine ⟨cons_eq_of_front, fun h => ?_⟩
  obtain ⟨lead', tail, hencode, hfront⟩ := front_encodeChar c rest
  rw [hencode, List.cons_append] at h
  obtain ⟨rfl, rfl⟩ := List.cons.inj h
  exact hfront

/-! ### Whole texts -/

theorem encode_cons (c : Char) (s : List Char) : encode (c :: s) = encodeChar c ++ encode s := rfl

theorem encodeChar_ne_nil (c : Char) : encodeChar c ≠ [] := by
  obtain ⟨lead, tail, h, -⟩ := front_encodeChar c []
  rw [h]
  exact List.cons_ne_nil _ _

theorem decodeFrom_cons {index : Nat} {s : List Char} :
    decodeFrom index (lead :: bytes) = .ok s ↔
      ∃ c rest t, front lead bytes = .char c rest ∧ s = c :: t ∧
        decodeFrom (index + (bytes.length + 1 - rest.length)) rest = .ok t := by
  rw [decodeFrom]
  split
  · rename_i c rest hfront
    cases hrest : decodeFrom (index + (bytes.length + 1 - rest.length)) rest with
    | ok t =>
      constructor
      · rintro ⟨⟩
        exact ⟨c, rest, t, hfront, rfl, hrest⟩
      · rintro ⟨c', rest', t', h, rfl, ht⟩
        cases hfront.symm.trans h
        cases hrest.symm.trans ht
        rfl
    | error e =>
      constructor
      · rintro ⟨⟩
      · rintro ⟨c', rest', t', h, rfl, ht⟩
        cases hfront.symm.trans h
        cases hrest.symm.trans ht
  · rename_i hfront
    simp [hfront]
  · rename_i hfront
    simp [hfront]

/-- Whatever comes before: what the decoder accepts is what the encoder writes. -/
theorem decodeFrom_eq_ok_iff {index : Nat} {s : List Char} :
    decodeFrom index bytes = .ok s ↔ bytes = encode s := by
  induction s generalizing index bytes with
  | nil =>
    cases bytes with
    | nil => simp [decodeFrom, encode]
    | cons lead bytes => simp [decodeFrom_cons, encode]
  | cons c s ih =>
    cases bytes with
    | nil => simp [decodeFrom, encode_cons, encodeChar_ne_nil]
    | cons lead bytes =>
      simp only [decodeFrom_cons, front_eq_char_iff, encode_cons]
      constructor
      · rintro ⟨_, rest, _, hfront, ⟨⟩, hrest⟩
        rw [hfront, ih.mp hrest]
      · intro h
        exact ⟨c, encode s, s, h, rfl, ih.mpr rfl⟩

/-- What the strict decoder accepts is what the encoder writes, and nothing else. -/
theorem decode_eq_ok_iff {s : List Char} : decode bytes = .ok s ↔ bytes = encode s :=
  decodeFrom_eq_ok_iff

theorem toString?_eq_ok_iff {s : String} : toString? bytes = .ok s ↔ bytes = ofString s := by
  rw [toString?, ofString, ← decode_eq_ok_iff]
  cases decode bytes with
  | error e => simp [Except.map]
  | ok t =>
    simp only [Except.map, Except.ok.injEq]
    constructor
    · rintro rfl
      exact String.toList_ofList.symm
    · rintro rfl
      exact String.ofList_toList

end Thumbnailer.Text.Utf8
