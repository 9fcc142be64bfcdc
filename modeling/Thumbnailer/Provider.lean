/-
What turns a picture file into one encoded picture for each size, in the order of the sizes. The
widest size comes first, so that its picture may serve as the basis of the smaller ones.
-/
import Thumbnailer.Notice

namespace Thumbnailer

inductive Attempt
  | images (images : List Image)
  | failed (cause : Error)
  | panicked (cause : Panic)
  deriving DecidableEq, Repr

structure Provider where
  render : Path → List Size → Attempt
  /-- The extensions of still pictures, such as `.jpg.png`. -/
  pictures? : Option String
  videos? : Option String

end Thumbnailer
