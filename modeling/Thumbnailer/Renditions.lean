/-
The renditions of one picture: a square crop or a picture scaled down into a box for each size.

* **`Studio.renditions`** — the renditions in the order of the sizes. A box is filled from the box
  rendition before it whenever that one is still large enough, else from the whole picture;
  crops are always cut from the whole picture.
* **`Studio.generate`** — sizes are checked before the file is read, the picture's size before it
  is decoded.
-/
import Thumbnailer.Jpeg.Encoder
import Thumbnailer.Picture.Resample
import Thumbnailer.Picture.Source
import Thumbnailer.Provider

namespace Thumbnailer

/-- The operations that renditions of files `σ` are made with, by way of pictures `π`. -/
structure Studio (σ π : Type) where
  /-- The size that the head of a file tells. -/
  head : σ → Except ImageError Extent
  /-- The picture in a file, set upright. -/
  decode : σ → Except ImageError π
  extent : π → Extent
  crop : π → Geometry.Window → π
  resize : π → Extent → π
  encode : π → Except ImageError Image
  precision : Precision

namespace Studio

variable {σ π : Type}

/-- The square cut out of a picture, scaled to an edge. -/
def squareCrop (s : Studio σ π) (picture : π) (edge : Nat) : π :=
  s.resize (s.crop picture (Geometry.window (s.extent picture))) (.square edge)

/-- A picture scaled down into a box; one that fits is left as it is. -/
def fitInside (s : Studio σ π) (picture : π) (box : Extent) : π :=
  if (s.extent picture).within box then picture
  else s.resize picture (Geometry.fit s.precision (s.extent picture) box)

/-- What a box is filled from: the last box rendition if the picture, scaled down into the box, fits
into it; else the picture. -/
def source (s : Studio σ π) (picture : π) (basis : Option π) (box : Extent) : π :=
  match basis with
  | none => picture
  | some b =>
    if (Geometry.fit s.precision (s.extent picture) box).within (s.extent b) then b else picture

/-- The renditions of a picture; `basis` is the last box rendition. -/
def renditionsFrom (s : Studio σ π) (picture : π) : Option π → List Size → List π
  | _, [] => []
  | basis, size :: sizes =>
    if size.isSquareCrop then
      s.squareCrop picture size.height.toNat :: renditionsFrom s picture basis sizes
    else
      let rendition := s.fitInside (s.source picture basis size.extent) size.extent
      rendition :: renditionsFrom s picture (some rendition) sizes

def renditions (s : Studio σ π) (picture : π) (sizes : List Size) : List π :=
  s.renditionsFrom picture none sizes

/-- Fails if a picture of the given extent has more pixels than allowed. -/
def checkPixels (limit : Nat) (e : Extent) : Except Error Unit :=
  if e.pixels ≤ limit then .ok () else .error (.limit (.pixels e.width e.height limit))

/-- Fails with the first size that can not be rendered: one without height before a crop that is too
large. -/
def checkSizes (limit : Nat) (sizes : List Size) : Except Error Unit :=
  match sizes.find? (·.height == 0) with
  | some bad => .error (.invalidValue (.noHeight bad))
  | none => (sizes.filter Size.isSquareCrop).forM fun s => checkPixels limit (.square s.height.toNat)

def open? (s : Studio σ π) (limit : Nat) (file : σ) : Except Error π := do
  let e ← (s.head file).mapError .image
  checkPixels limit e
  (s.decode file).mapError .image

/-- The encoded renditions of the picture in a file, which `read` looks up. -/
def generate (s : Studio σ π) (limit : Nat) (read : Path → Except IoError σ) (path : Path)
    (sizes : List Size) : Except Error (List Image) := do
  checkSizes limit sizes
  let file ← (read path).mapError .io
  let picture ← s.open? limit file
  (s.renditions picture sizes).mapM fun r => (s.encode r).mapError .image

end Studio

structure PictureSettings where
  /-- Pictures with more pixels are refused. -/
  maxPixels : Nat
  /-- The quality of the files that are written, from 1 to 100. -/
  quality : Nat
  deriving DecidableEq, Repr

namespace PictureSettings

def standard : PictureSettings := ⟨100000000, 85⟩

end PictureSettings

/-- The studio that scales with the windowed sinc filter and writes JPEG files. -/
def pictureStudio (settings : PictureSettings) : Studio Source Picture where
  head := Source.extent
  decode := Source.decode
  extent := Picture.extent
  crop := Picture.crop
  resize := Picture.resample
  encode := Jpeg.encode settings.quality
  precision := .double

/-- The extensions of the pictures that the provider reads. -/
def pictureExtensions : String := ".jpg.jpeg.png.gif.bmp.ico.webp.tga.qoi"

/-- The provider that reads pictures from the files that `read` looks up. -/
def pictureProvider (settings : PictureSettings) (read : Path → Except IoError Source) :
    Provider where
  render path sizes :=
    match (pictureStudio settings).generate settings.maxPixels read path sizes with
    | .ok images => .images images
    | .error cause => .failed cause
  pictures? := some pictureExtensions
  videos? := none

end Thumbnailer
