/-
Rendering one task: the provider gets the sizes widest first, the caller gets the pictures in the
order asked for.

* **`widestFirst`** — the positions of the sizes, by width; equal widths keep their order.
* **`scatter`** — puts each picture back at the position its size came from.
* **`Provider.process`** — asks the provider once and judges its answer.
-/
import Thumbnailer.Provider
import Thumbnailer.Wire.Message

namespace Thumbnailer

def widestFirst (sizes : List Size) : List Nat :=
  (sizes.zipIdx.mergeSort fun a b => b.1.width ≤ a.1.width).map Prod.snd

def pick (sizes : List Size) (positions : List Nat) : List Size :=
  positions.filterMap (sizes[·]?)

/-- A row of `count` pictures in which the `k`-th of `images` stands at the `k`-th of
`positions`. -/
def scatter (count : Nat) (positions : List Nat) (images : List Image) : List Image :=
  ((positions.zip images).foldl (fun row (i, image) => row.setIfInBounds i image)
    (Array.replicate count [])).toList

/-- What became of a task: the outcome, unless the provider broke down; what the provider was
asked for; and what the operator is told. -/
structure Rendering where
  result : Except Panic Outcome
  asked : List (List Size)
  notices : List Notice

namespace Provider

/-- Judges what the provider answered for the `positions` of a task. -/
def judge (task : Task) (positions : List Nat) : Attempt → Except Panic Outcome × List Notice
  | .panicked cause => (.error cause, [])
  | .failed cause =>
    (.ok (.failure task.sizes.length), [.providerFailed task.path cause])
  | .images images =>
    if images.length = positions.length then
      (.ok (.success (scatter task.sizes.length positions images)), [])
    else
      (.ok (.failure task.sizes.length),
        [.wrongCount images.length positions.length task.path])

/-- Renders a task. One without sizes fails, and the provider is not asked; one whose provider
fails, or answers with the wrong number of pictures, fails as a whole. -/
def process (p : Provider) (task : Task) : Rendering :=
  if task.sizes.isEmpty then ⟨.ok (.failure 0), [], [.emptyTask task.path]⟩
  else
    let positions := widestFirst task.sizes
    let sorted := pick task.sizes positions
    let (result, notices) := judge task positions (p.render task.path sorted)
    ⟨result, [sorted], notices⟩

/-- The extensions that are accepted beside the provider's own, because reading such files is
known to break down. An extension stands before the longer ones that start with it. -/
def extraFormats : String := ".tif.exr.pic.pct.tiff.pict"

/-- The extensions of still pictures that a worker accepts: none unless the provider lists some. -/
def pictureFormats (p : Provider) : String :=
  match p.pictures? with
  | some formats => if formats.isEmpty then "" else formats ++ extraFormats
  | none => ""

def videoFormats (p : Provider) : String := p.videos?.getD ""

def formats (p : Provider) : Wire.Formats := ⟨p.pictureFormats, p.videoFormats⟩

end Provider

structure Answering where
  response : Wire.Response
  asked : List (List Size)
  notices : List Notice

namespace Provider

/-- Answers a request. A provider that breaks down fails its task and nothing else. -/
def respond (p : Provider) : Wire.Command → Answering
  | .hello => ⟨.hello, [], []⟩
  | .shutdown => ⟨.shutdown, [], []⟩
  | .formats => ⟨.formats p.formats, [], []⟩
  | .render task =>
    let r := p.process task
    match r.result with
    | .ok outcome => ⟨.render (.ofOutcome outcome), r.asked, r.notices⟩
    | .error cause =>
      ⟨.render (.ofOutcome (.failure task.sizes.length)), r.asked,
        r.notices ++ [.renderingAborted task.sizes.length cause]⟩

end Provider

end Thumbnailer
