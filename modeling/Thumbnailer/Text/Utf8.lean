/-
UTF-8 over lists of bytes: the encoder, the strict decoder that says where and how a byte string
goes wrong, and the forgiving decoder that puts U+FFFD in the place of each ill-formed part.

* **`front`** — the first character of a byte string, or how its first bytes fail to be one.
* **`decode`**, **`encode`** — strict decoding and its inverse.
* **`decodeLossy`** — decoding that never fails.
-/
namespace Thumbnailer.Text.Utf8

/-- The bytes of one character. -/
def encodeChar (c : Char) : List UInt8 :=
  let n := c.toNat
  if n < 0x80 then [.ofNat n]
  else if n < 0x800 then [.ofNat (0xC0 + n / 0x40), .ofNat (0x80 + n % 0x40)]
  else if n < 0x10000 then
    [.ofNat (0xE0 + n / 0x1000), .ofNat (0x80 + n / 0x40 % 0x40), .ofNat (0x80 + n % 0x40)]
  else
    [.ofNat (0xF0 + n / 0x40000), .ofNat (0x80 + n / 0x1000 % 0x40),
      .ofNat (0x80 + n / 0x40 % 0x40), .ofNat (0x80 + n % 0x40)]

/-- The bytes of a text. -/
def encode (s : List Char) : List UInt8 := s.flatMap encodeChar

/-- What a byte string starts with. -/
inductive Front
  /-- A character, and the bytes after it. -/
  | char (c : Char) (rest : List UInt8)
  /-- Bytes that no continuation makes a character; `width` is the longest part of a possible
  character among them, at least one byte. -/
  | broken (width : Nat)
  /-- A character whose last bytes are missing at the end of the string. -/
  | unfinished

/-- A byte that may follow the first byte of a character. -/
def isTail (b : UInt8) : Bool := 0x80 ≤ b && b ≤ 0xBF

/-- The six bits a continuation byte carries. -/
def tailBits (b : UInt8) : Nat := b.toNat - 0x80

/-- The least and the greatest byte that may come second after `lead` in a character of three or
four bytes: they shut out overlong forms, surrogates and values beyond U+10FFFF. -/
def secondRange (lead : UInt8) : UInt8 × UInt8 :=
  if lead == 0xE0 then (0xA0, 0xBF)
  else if lead == 0xED then (0x80, 0x9F)
  else if lead == 0xF0 then (0x90, 0xBF)
  else if lead == 0xF4 then (0x80, 0x8F)
  else (0x80, 0xBF)

/-- Whether `b` may come second after `lead`. -/
def isSecond (lead b : UInt8) : Bool :=
  (secondRange lead).1 ≤ b && b ≤ (secondRange lead).2

/-- A character of two bytes that starts with `lead`. -/
def front2 (lead : UInt8) : List UInt8 → Front
  | [] => .unfinished
  | b :: rest =>
    if isTail b then .char (.ofNat ((lead.toNat - 0xC0) * 0x40 + tailBits b)) rest
    else .broken 1

/-- A character of three bytes that starts with `lead`. -/
def front3 (lead : UInt8) : List UInt8 → Front
  | [] => .unfinished
  | b :: rest =>
    if isSecond lead b then
      match rest with
      | [] => .unfinished
      | c :: rest =>
        if isTail c then
          .char (.ofNat ((lead.toNat - 0xE0) * 0x1000 + tailBits b * 0x40 + tailBits c)) rest
        else .broken 2
    else .broken 1

/-- A character of four bytes that starts with `lead`. -/
def front4 (lead : UInt8) : List UInt8 → Front
  | [] => .unfinished
  | b :: rest =>
    if isSecond lead b then
      match rest with
      | [] => .unfinished
      | c :: rest =>
        if isTail c then
          match rest with
          | [] => .unfinished
          | d :: rest =>
            if isTail d then
              .char (.ofNat ((lead.toNat - 0xF0) * 0x40000 + tailBits b * 0x1000 +
                tailBits c * 0x40 + tailBits d)) rest
            else .broken 3
        else .broken 2
    else .broken 1

/-- What the byte string `lead :: rest` starts with. -/
def front (lead : UInt8) (rest : List UInt8) : Front :=
  if lead < 0x80 then .char (.ofNat lead.toNat) rest
  else if lead < 0xC2 then .broken 1
  else if lead < 0xE0 then front2 lead rest
  else if lead < 0xF0 then front3 lead rest
  else if lead < 0xF5 then front4 lead rest
  else .broken 1

theorem length_of_front {lead : UInt8} {bytes rest : List UInt8} {c : Char}
    (h : front lead bytes = .char c rest) : rest.length ≤ bytes.length := by
  unfold front front2 front3 front4 at h
  grind

/-- How a byte string fails to be a text. -/
inductive Failure
  /-- After `index` good bytes come `width` bytes that belong to no character. -/
  | invalid (width index : Nat)
  /-- After `index` good bytes the last character is cut off. -/
  | incomplete (index : Nat)
  deriving DecidableEq, Repr

namespace Failure

/-- The wording of a decoding failure. -/
def message : Failure → String
  | invalid width index => s!"invalid utf-8 sequence of {width} bytes from index {index}"
  | incomplete index => s!"incomplete utf-8 byte sequence from index {index}"

end Failure

/-- The characters of `bytes`, which stand behind `index` bytes already decoded. -/
def decodeFrom (index : Nat) : List UInt8 → Except Failure (List Char)
  | [] => .ok []
  | lead :: bytes =>
    match h : front lead bytes with
    | .char c rest =>
      have := length_of_front h
      match decodeFrom (index + (bytes.length + 1 - rest.length)) rest with
      | .ok s => .ok (c :: s)
      | .error e => .error e
    | .broken width => .error (.invalid width index)
    | .unfinished => .error (.incomplete index)
termination_by bytes => bytes.length
decreasing_by simp only [List.length_cons]; omega

/-- The text that `bytes` encode. -/
def decode (bytes : List UInt8) : Except Failure (List Char) := decodeFrom 0 bytes

/-- The character that stands for what can not be decoded. -/
def replacement : Char := '\uFFFD'

/-- The text of `bytes`, with one replacement character for each longest ill-formed part. -/
def decodeLossy : List UInt8 → List Char
  | [] => []
  | lead :: bytes =>
    match h : front lead bytes with
    | .char c rest =>
      have := length_of_front h
      c :: decodeLossy rest
    | .broken width => replacement :: decodeLossy (bytes.drop (width - 1))
    | .unfinished => [replacement]
termination_by bytes => bytes.length
decreasing_by
  · simp only [List.length_cons]; omega
  · simp only [List.length_cons, List.length_drop]; omega

/-- The bytes of a string. -/
def ofString (s : String) : List UInt8 := encode s.toList

/-- The string that `bytes` encode. -/
def toString? (bytes : List UInt8) : Except Failure String := (decode bytes).map String.ofList

/-- The string of `bytes`, ill-formed parts replaced. -/
def toStringLossy (bytes : List UInt8) : String := String.ofList (decodeLossy bytes)

end Thumbnailer.Text.Utf8
