/-
Requested picture sizes and their written form `WxH`. The first `x` or `X` divides the text, and
blanks around either number do not count.
-/
import Thumbnailer.Text.Blank
import Thumbnailer.Text.Number

namespace Thumbnailer

/-- One requested output size. A width of 0 asks for the square crop, whose edge is the height. -/
structure Size where
  width : UInt32
  height : UInt32
  deriving DecidableEq, Repr, Inhabited

namespace Size

def isSquareCrop (s : Size) : Bool := s.width == 0

def text (s : Size) : String := s!"{s.width.toNat}x{s.height.toNat}"

inductive ParseError
  /-- There is no `x` to divide the text. -/
  | undivided
  /-- Width or height is no number below 2^32; the width is looked at first. -/
  | number (cause : Text.NumberError)
  deriving DecidableEq, Repr

def isDivider (c : Char) : Bool := c == 'x' || c == 'X'

/-- One of the two numbers, with the blanks around it. -/
def parseNumber (s : List Char) : Except ParseError UInt32 :=
  match Text.readNumber UInt32.size (Text.trim s) with
  | .ok n => .ok (.ofNat n)
  | .error e => .error (.number e)

/-- The size that a row of characters writes. -/
def parseChars (s : List Char) : Except ParseError Size :=
  match s.dropWhile (!isDivider ·) with
  | [] => .error .undivided
  | _ :: right =>
    match parseNumber (s.takeWhile (!isDivider ·)) with
    | .error e => .error e
    | .ok width =>
      match parseNumber right with
      | .error e => .error e
      | .ok height => .ok ⟨width, height⟩

def parse (s : String) : Except ParseError Size := parseChars s.toList

end Size

end Thumbnailer
