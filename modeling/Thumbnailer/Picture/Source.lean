/-
Picture files as the worker meets them.

* **`Source`** — the bytes of a file, or a file in a container format that is given by what is
  stored in it: the pixels, the orientation tag, and how much of the file is there.
* **`Source.extent`** — the size that the file's head tells, as stored.
* **`Source.decode`** — the picture, set upright.
-/
import Thumbnailer.Picture.Anymap

namespace Thumbnailer

/-- The formats that pictures are stored in. -/
inductive Container
  | png
  | jpeg
  | bmp
  | anymap
  | qoi
  | gif
  | webp
  | tiff
  | ico
  | tga
  deriving DecidableEq, Repr

namespace Container

/-- Whether files of the format can be told by how they start. -/
def recognisable : Container → Bool
  | tga => false
  | _ => true

/-- How many bytes a file needs to be recognised. -/
def signatureSize : Container → Nat
  | png => 8
  | jpeg => 3
  | webp => 12
  | gif => 6
  | bmp => 2
  | anymap => 2
  | _ => 4

/-- How many bytes a file needs to tell the size of its picture. -/
def headSize : Container → Nat
  | png => 41
  | jpeg => 623
  | bmp => 54
  | qoi => 14
  | gif => 13
  | webp => 30
  | ico => 22
  | _ => 16

/-- Whether the orientation tag is looked for in files of the format. -/
def tagged : Container → Bool
  | png => true
  | jpeg => true
  | _ => false

end Container

/-- A picture in a container. -/
structure Stored where
  container : Container
  width : Nat
  height : Nat
  /-- The tag that tells how the picture is to be held. -/
  orientation : Nat
  colour : Nat → Nat → Colour
  /-- How many bytes of the file are left, if it was cut. -/
  cut : Option Nat

namespace Stored

/-- Whether the file was cut to fewer than `size` bytes. -/
def shorterThan (s : Stored) (size : Nat) : Bool :=
  match s.cut with
  | some n => n < size
  | none => false

/-- The size that the head of the file tells. -/
def extent (s : Stored) : Except ImageError Extent :=
  if !s.container.recognisable || s.shorterThan s.container.signatureSize then
    .error .unknownFormat
  else if s.shorterThan s.container.headSize then .error .undecodable
  else .ok ⟨s.width, s.height⟩

/-- The picture, set upright. A file that was cut does not hold all of it. -/
def decode (s : Stored) : Except ImageError Picture :=
  match s.extent with
  | .error e => .error e
  | .ok _ =>
    if s.cut.isSome then .error .undecodable
    else
      let p := Picture.ofFn s.width s.height s.colour
      .ok (if s.container.tagged then p.turn (.ofTag s.orientation) else p)

end Stored

/-- A picture file. -/
inductive Source
  | bytes (bytes : List UInt8)
  | stored (s : Stored)

namespace Source

/-- Whether bytes start like a portable anymap. -/
def isAnymap : List UInt8 → Bool
  | 0x50 :: b :: _ => 0x31 ≤ b && b ≤ 0x37
  | _ => false

/-- The size that the head of a file tells. -/
def extent : Source → Except ImageError Extent
  | bytes b => if isAnymap b then Anymap.extent b else .error .unknownFormat
  | stored s => s.extent

/-- The picture in a file, set upright. -/
def decode : Source → Except ImageError Picture
  | bytes b => if isAnymap b then Anymap.decode b else .error .unknownFormat
  | stored s => s.decode

end Source

end Thumbnailer
