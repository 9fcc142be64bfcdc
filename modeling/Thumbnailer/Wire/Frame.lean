/-
Frames: a header of eight bytes and the payload it announces.

* **`Header`** — version, kind and payload length; `Header.parse` refuses with the first thing
  that is wrong, the version before all else, since a newer peer may lay out the rest differently.
* **`Header.bytes`** — the eight bytes of a header; the length is kept modulo 2^32.
-/
import Thumbnailer.Wire.Message

namespace Thumbnailer.Wire

/-- What a frame starts with. -/
structure Header where
  version : Version
  kind : Kind
  payloadLength : Nat
  deriving DecidableEq, Repr

/-- The version with a given number; version 0 was never in use. -/
def Version.ofWire (n : Nat) : Except Error Version :=
  match Version.ofNat? n with
  | some v => .ok v
  | none => if n = 0 then .error (.malformed .versionZero) else .error (.version n)

def Kind.ofWire (n : Nat) : Except Error Kind :=
  match Kind.ofNat? n with
  | some k => .ok k
  | none => .error (.kind n)

namespace Header

def size : Nat := 8

/-- The two bytes of a half word, the higher first. -/
def writeHalf (n : Nat) : List UInt8 := [.ofNat (n / 0x100), .ofNat n]

def bytes (h : Header) : List UInt8 :=
  writeHalf h.version.toNat ++ writeHalf h.kind.toNat ++ writeWord (.ofNat h.payloadLength)

/-- The header at the start of `bytes`, whose payload may have `limit` bytes. -/
def parse (limit : Nat) (bytes : List UInt8) : Except Error Header :=
  if bytes.length < size then .error (.malformed (.shortHeader size bytes.length))
  else
    match Version.ofWire (bigEndian (bytes.take 2)) with
    | .error e => .error e
    | .ok version =>
      match Kind.ofWire (bigEndian ((bytes.drop 2).take 2)) with
      | .error e => .error e
      | .ok kind =>
        let length := bigEndian ((bytes.drop 4).take 4)
        if length ≤ limit then .ok ⟨version, kind, length⟩ else .error (.frameTooLarge length)

end Header

def header {α : Type} [Side α] (message : α) : Header :=
  ⟨.latest, Side.kind message, (Side.payload message).length⟩

/-- A message as it travels. -/
def frame {α : Type} [Side α] (message : α) : List UInt8 :=
  (header message).bytes ++ Side.payload message

/-- The message of the side `α` in the payload behind a header. -/
def decode {α : Type} [Side α] (kind : Kind) (payload : List UInt8) : Except Error α :=
  (Side.ofPayload kind payload).mapError .malformed

end Thumbnailer.Wire
