/-
The kinds of messages and the frame versions, with their numbers on the wire.

* **`Kind`** — four requests and their four answers; `Kind.ofNat?` undoes `Kind.toNat`.
* **`Version`** — the one version in use; `Version.latest` is what is written.
-/
namespace Thumbnailer.Wire

/-- What a frame carries. -/
inductive Kind
  | hello
  | helloResponse
  | shutdown
  | shutdownResponse
  | render
  | renderResponse
  | formats
  | formatsResponse
  deriving DecidableEq, Repr

namespace Kind

/-- The number of a kind on the wire. -/
def toNat : Kind → Nat
  | hello => 1
  | helloResponse => 2
  | shutdown => 3
  | shutdownResponse => 4
  | render => 5
  | renderResponse => 6
  | formats => 7
  | formatsResponse => 8

/-- The kind with a given number. -/
def ofNat? : Nat → Option Kind
  | 1 => some hello
  | 2 => some helloResponse
  | 3 => some shutdown
  | 4 => some shutdownResponse
  | 5 => some render
  | 6 => some renderResponse
  | 7 => some formats
  | 8 => some formatsResponse
  | _ => none

@[simp] theorem ofNat?_toNat (k : Kind) : ofNat? k.toNat = some k := by cases k <;> rfl

/-- The name of a kind in messages and reports. -/
def name : Kind → String
  | hello => "HELLO"
  | helloResponse => "HELLO_RESPONSE"
  | shutdown => "SHUTDOWN"
  | shutdownResponse => "SHUTDOWN_RESPONSE"
  | render => "NEW_GFX"
  | renderResponse => "NEW_GFX_RESPONSE"
  | formats => "SUPPORT_FORMATS"
  | formatsResponse => "SUPPORT_FORMATS_RESPONSE"

/-- Number and name of a kind. -/
def text (k : Kind) : String := s!"{k.toNat}/{k.name}"

end Kind

/-- The layout of a frame. -/
inductive Version
  | v1
  deriving DecidableEq, Repr

namespace Version

/-- The version that frames are written in. -/
def latest : Version := v1

/-- The number of a version on the wire. -/
def toNat : Version → Nat
  | v1 => 1

/-- The version with a given number. -/
def ofNat? : Nat → Option Version
  | 1 => some v1
  | _ => none

@[simp] theorem ofNat?_toNat (v : Version) : ofNat? v.toNat = some v := by cases v; rfl

end Version

end Thumbnailer.Wire
