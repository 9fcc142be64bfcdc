/-
What a header has to look like, and which fault of a bad one is told.

The eight bytes of a header are three numbers.  A header is good if there is a version of the first, a
kind of the second, and the limit admits the third; then it is the header that is written with these
bytes.  Of several faults the first one counts, in the order in which the numbers stand, so that what
a newer version puts behind its number does not matter.

* **`versionField`**, **`kindField`**, **`lengthField`** — the three numbers;
* **`parse_eq_ok_iff`** — what is read is put together from the three numbers;
* **`bytes_eq_take_iff`** — and it is the header whose bytes stand there;
* **`FirstFault`** — the faults in their order;
* **`parse_eq_error_iff`** — the one that is told is the first;
* **`parse_by_fields`** — all of it for every row of bytes and every limit.
-/
import Thumbnailer.Proofs.Wire.Frame

namespace Thumbnailer.Wire

variable {n : Nat}

/-! ### Numbers of versions and kinds -/

theorem Version.ofNat?_eq_some_iff {v : Version} : Version.ofNat? n = some v ↔ v.toNat = n := by
  constructor
  · intro h
    unfold Version.ofNat? at h
    split at h
    · cases h
      rfl
    · cases h
  · rintro rfl
    exact Version.ofNat?_toNat v

theorem Kind.ofNat?_eq_some_iff {k : Kind} : Kind.ofNat? n = some k ↔ k.toNat = n := by
  constructor
  · intro h
    unfold Kind.ofNat? at h
    split at h <;> cases h <;> rfl
  · rintro rfl
    exact Kind.ofNat?_toNat k

theorem Version.ofNat?_eq_none_iff : Version.ofNat? n = none ↔ ∀ v : Version, v.toNat ≠ n := by
  rw [Option.eq_none_iff_forall_ne_some]
  exact forall_congr' fun _ => not_congr Version.ofNat?_eq_some_iff

theorem Kind.ofNat?_eq_none_iff : Kind.ofNat? n = none ↔ ∀ k : Kind, k.toNat ≠ n := by
  rw [Option.eq_none_iff_forall_ne_some]
  exact forall_congr' fun _ => not_congr Kind.ofNat?_eq_some_iff

namespace Header

variable {limit : Nat} {bytes : List UInt8} {h : Header} {e : Error}

/-! ### The fields -/

def versionField (bytes : List UInt8) : Nat := bigEndian (bytes.take 2)

def kindField (bytes : List UInt8) : Nat := bigEndian ((bytes.drop 2).take 2)

def lengthField (bytes : List UInt8) : Nat := bigEndian ((bytes.drop 4).take 4)

theorem bigEndian_writeHalf (h : n < 2 ^ 16) : bigEndian (writeHalf n) = n := by
  simp only [bigEndian, writeHalf, List.foldl_cons, List.foldl_nil, UInt8.toNat_ofNat']
  omega

theorem writeHalf_bigEndian {half : List UInt8} (h : half.length = 2) :
    writeHalf (bigEndian half) = half := by
  match half, h with
  | [a, b], _ =>
    have ha := a.toNat_lt
    have hb := b.toNat_lt
    simp only [writeHalf, bigEndian, List.foldl_cons, List.foldl_nil, List.cons.injEq,
      ← UInt8.toNat_inj, UInt8.toNat_ofNat', and_true]
    omega

/-- Eight bytes are the two half words and the word that they write. -/
theorem take_eq_fields (h : size ≤ bytes.length) :
    bytes.take size = writeHalf (versionField bytes) ++ writeHalf (kindField bytes) ++
      writeWord (.ofNat (lengthField bytes)) := by
  have hsize : size = 2 + (2 + 4) := rfl
  rw [hsize] at h
  rw [versionField, kindField, lengthField, writeHalf_bigEndian, writeHalf_bigEndian,
    writeWord_bigEndian, hsize, List.take_add, List.take_add, List.drop_drop, List.append_assoc]
  all_goals
    simp only [List.length_take, List.length_drop]
    omega

theorem lengthField_lt (bytes : List UInt8) (h : size ≤ bytes.length) :
    lengthField bytes < 2 ^ 32 := by
  have hlen : ((bytes.drop 4).take 4).length = 4 := by
    have hsize : size = 8 := rfl
    rw [List.length_take, List.length_drop]
    omega
  have hword := bigEndian_writeWord (.ofNat (bigEndian ((bytes.drop 4).take 4)))
  rw [writeWord_bigEndian hlen] at hword
  rw [lengthField, hword]
  exact UInt32.toNat_lt _

/-! ### Reading -/

/-- Reading goes from number to number and ends at the first that is wrong. -/
theorem parse_of_size (hsize : size ≤ bytes.length) :
    parse limit bytes =
      match Version.ofNat? (versionField bytes), Kind.ofNat? (kindField bytes) with
      | none, _ =>
        if versionField bytes = 0 then .error (.malformed .versionZero)
        else .error (.version (versionField bytes))
      | some _, none => .error (.kind (kindField bytes))
      | some version, some kind =>
        if lengthField bytes ≤ limit then .ok ⟨version, kind, lengthField bytes⟩
        else .error (.frameTooLarge (lengthField bytes)) := by
  rw [parse, if_neg (Nat.not_lt.mpr hsize), Version.ofWire, Kind.ofWire]
  rw [versionField, kindField, lengthField]
  cases Version.ofNat? (bigEndian (bytes.take 2)) with
  | none =>
    by_cases hzero : bigEndian (bytes.take 2) = 0
    · simp only [if_pos hzero]
    · simp only [if_neg hzero]
  | some version =>
    cases Kind.ofNat? (bigEndian ((bytes.drop 2).take 2)) with
    | none => rfl
    | some kind => rfl

/-- What is read is put together from the three numbers. -/
theorem parse_eq_ok_iff :
    parse limit bytes = .ok h ↔ size ≤ bytes.length ∧ h.version.toNat = versionField bytes ∧
      h.kind.toNat = kindField bytes ∧ h.payloadLength = lengthField bytes ∧
      lengthField bytes ≤ limit := by
  constructor
  · intro hp
    by_cases hsize : size ≤ bytes.length
    · rw [parse_of_size hsize] at hp
      split at hp
      · split at hp <;> cases hp
      · cases hp
      · rename_i version kind hversion hkind
        split at hp
        · rename_i hlimit
          cases hp
          exact ⟨hsize, Version.ofNat?_eq_some_iff.mp hversion, Kind.ofNat?_eq_some_iff.mp hkind,
            rfl, hlimit⟩
        · cases hp
    · rw [parse, if_pos (Nat.not_le.mp hsize)] at hp
      cases hp
  · rintro ⟨hsize, hversion, hkind, hlength, hlimit⟩
    rw [parse_of_size hsize, Version.ofNat?_eq_some_iff.mpr hversion,
      Kind.ofNat?_eq_some_iff.mpr hkind]
    rw [← hlength] at hlimit ⊢
    exact if_pos hlimit

/-- The header that the three numbers make is written with the bytes that they are read from. -/
theorem bytes_eq_take_iff :
    bytes.take size = h.bytes ∧ h.payloadLength < 2 ^ 32 ↔
      size ≤ bytes.length ∧ h.version.toNat = versionField bytes ∧
        h.kind.toNat = kindField bytes ∧ h.payloadLength = lengthField bytes := by
  constructor
  · rintro ⟨hbytes, hlt⟩
    have hsize : size ≤ bytes.length := by
      have hlen := congrArg List.length hbytes
      rw [List.length_take, length_bytes] at hlen
      omega
    obtain ⟨rest, rfl⟩ : ∃ rest, bytes = h.bytes ++ rest :=
      ⟨bytes.drop size, by rw [← hbytes, List.take_append_drop]⟩
    -- no version or kind has a number that two bytes can not hold
    have hversion : h.version.toNat < 2 ^ 16 := by
      cases h.version
      decide
    have hkind : h.kind.toNat < 2 ^ 16 := by cases h.kind <;> decide
    refine ⟨hsize, (bigEndian_writeHalf hversion).symm, (bigEndian_writeHalf hkind).symm, ?_⟩
    exact ((bigEndian_writeWord_ofNat h.payloadLength).trans (Nat.mod_eq_of_lt hlt)).symm
  · rintro ⟨hsize, hversion, hkind, hlength⟩
    constructor
    · rw [take_eq_fields hsize, Header.bytes, hversion, hkind, hlength]
    · rw [hlength]
      exact lengthField_lt bytes hsize

/-! ### Faults -/

/-- What is wrong with a header, and nothing is wrong with what stands before that. -/
inductive FirstFault (limit : Nat) (bytes : List UInt8) : Error → Prop
  | short : bytes.length < size →
    FirstFault limit bytes (.malformed (.shortHeader size bytes.length))
  | versionZero : size ≤ bytes.length → versionField bytes = 0 →
    FirstFault limit bytes (.malformed .versionZero)
  | version : size ≤ bytes.length → (∀ v : Version, v.toNat ≠ versionField bytes) →
    versionField bytes ≠ 0 → FirstFault limit bytes (.version (versionField bytes))
  | kind (v : Version) : size ≤ bytes.length → v.toNat = versionField bytes →
    (∀ k : Kind, k.toNat ≠ kindField bytes) → FirstFault limit bytes (.kind (kindField bytes))
  | length (v : Version) (k : Kind) : size ≤ bytes.length → v.toNat = versionField bytes →
    k.toNat = kindField bytes → limit < lengthField bytes →
    FirstFault limit bytes (.frameTooLarge (lengthField bytes))

theorem FirstFault.of_parse (hp : parse limit bytes = .error e) : FirstFault limit bytes e := by
  by_cases hsize : size ≤ bytes.length
  · rw [parse_of_size hsize] at hp
    split at hp
    · rename_i hversion
      split at hp
      · rename_i hzero
        cases hp
        exact .versionZero hsize hzero
      · rename_i hzero
        cases hp
        exact .version hsize (Version.ofNat?_eq_none_iff.mp hversion) hzero
    · rename_i version hversion hkind
      cases hp
      exact .kind version hsize (Version.ofNat?_eq_some_iff.mp hversion)
        (Kind.ofNat?_eq_none_iff.mp hkind)
    · rename_i version kind hversion hkind
      split at hp
      · cases hp
      · rename_i hlimit
        cases hp
        exact .length version kind hsize (Version.ofNat?_eq_some_iff.mp hversion)
          (Kind.ofNat?_eq_some_iff.mp hkind) (Nat.not_le.mp hlimit)
  · rw [parse, if_pos (Nat.not_le.mp hsize)] at hp
    cases hp
    exact .short (Nat.not_le.mp hsize)

theorem FirstFault.parse_eq (hf : FirstFault limit bytes e) : parse limit bytes = .error e := by
  cases hf with
  | short hsize => rw [parse, if_pos hsize]
  | versionZero hsize hzero =>
    rw [parse_of_size hsize, hzero]
    rfl
  | version hsize hversion hzero =>
    rw [parse_of_size hsize, Version.ofNat?_eq_none_iff.mpr hversion]
    exact if_neg hzero
  | kind v hsize hversion hkind =>
    rw [parse_of_size hsize, Version.ofNat?_eq_some_iff.mpr hversion,
      Kind.ofNat?_eq_none_iff.mpr hkind]
  | length v k hsize hversion hkind hlimit =>
    rw [parse_of_size hsize, Version.ofNat?_eq_some_iff.mpr hversion,
      Kind.ofNat?_eq_some_iff.mpr hkind]
    exact if_neg (Nat.not_le.mpr hlimit)

/-- The fault that is told is the first. -/
theorem parse_eq_error_iff : parse limit bytes = .error e ↔ FirstFault limit bytes e :=
  ⟨FirstFault.of_parse, FirstFault.parse_eq⟩

/-! ### All headers -/

/-- **The grammar of headers.**  What is read from a row of bytes is the header that is written with
its first eight bytes, if the limit admits its length.  Something is read just if there are eight
bytes, a version and a kind of the first two numbers, and the third is within the limit; otherwise
the first fault is told, in the order of the bytes, so that of a newer version nothing but its number
counts.  A header whose length a word holds and the limit admits is read back from its bytes,
whatever follows them. -/
theorem parse_by_fields (limit : Nat) (bytes : List UInt8) :
    (∀ h, parse limit bytes = .ok h ↔
      bytes.take size = h.bytes ∧ h.payloadLength < 2 ^ 32 ∧ h.payloadLength ≤ limit) ∧
    ((∃ h, parse limit bytes = .ok h) ↔ size ≤ bytes.length ∧
      (∃ v : Version, v.toNat = versionField bytes) ∧ (∃ k : Kind, k.toNat = kindField bytes) ∧
      lengthField bytes ≤ limit) ∧
    (∀ e, parse limit bytes = .error e ↔ FirstFault limit bytes e) ∧
    (size ≤ bytes.length → Version.latest.toNat < versionField bytes →
      parse limit bytes = .error (.version (versionField bytes))) ∧
    ∀ h : Header, h.payloadLength < 2 ^ 32 → h.payloadLength ≤ limit →
      ∀ rest, parse limit (h.bytes ++ rest) = .ok h := by
  have hbytes : ∀ (bytes : List UInt8) (h : Header), parse limit bytes = .ok h ↔
      bytes.take size = h.bytes ∧ h.payloadLength < 2 ^ 32 ∧ h.payloadLength ≤ limit := by
    intro bytes h
    rw [parse_eq_ok_iff, ← and_assoc (a := bytes.take size = h.bytes), bytes_eq_take_iff]
    constructor
    · rintro ⟨hsize, hversion, hkind, hlength, hlimit⟩
      exact ⟨⟨hsize, hversion, hkind, hlength⟩, by rw [hlength]; exact hlimit⟩
    · rintro ⟨⟨hsize, hversion, hkind, hlength⟩, hlimit⟩
      exact ⟨hsize, hversion, hkind, hlength, by rw [← hlength]; exact hlimit⟩
  refine ⟨hbytes bytes, ⟨?_, ?_⟩, fun e => parse_eq_error_iff, fun hsize hnewer => ?_,
    fun h hlt hlimit rest => ?_⟩
  · rintro ⟨h, hp⟩
    obtain ⟨hsize, hversion, hkind, -, hlimit⟩ := parse_eq_ok_iff.mp hp
    exact ⟨hsize, ⟨h.version, hversion⟩, ⟨h.kind, hkind⟩, hlimit⟩
  · rintro ⟨hsize, ⟨v, hversion⟩, ⟨k, hkind⟩, hlimit⟩
    exact ⟨⟨v, k, lengthField bytes⟩, parse_eq_ok_iff.mpr ⟨hsize, hversion, hkind, rfl, hlimit⟩⟩
  · refine parse_eq_error_iff.mpr (.version hsize (fun v hv => ?_) (by omega))
    -- none of the versions is newer than the latest
    rw [← hv] at hnewer
    cases v
    exact absurd hnewer (by decide)
  · exact (hbytes _ h).mpr ⟨List.take_left' (length_bytes h), hlt, hlimit⟩

/-- A newer version with an unknown kind and a length that is too large, and a header at the limit with
a byte behind it. -/
theorem parse_by_fields_newer :
    parse 256 [0, 2, 255, 255, 255, 255, 255, 255] = .error (.version 2) ∧
      parse 256 [0, 1, 0, 5, 0, 0, 1, 0, 7] = .ok ⟨.v1, .render, 256⟩ :=
  ⟨(parse_by_fields 256 [0, 2, 255, 255, 255, 255, 255, 255]).2.2.2.1 (by decide) (by decide),
    (parse_by_fields 256 []).2.2.2.2 ⟨.v1, .render, 256⟩ (by decide) (by decide) [7]⟩

end Header

end Thumbnailer.Wire
