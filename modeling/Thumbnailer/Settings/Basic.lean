/-
The settings of a worker.

* **`Settings`** — the settings, in four sections, with their standard values.
* **`Settings.validate`** — refuses settings that a worker can not run with.
* **`Settings.pool`**, **`Settings.pictureSettings`**, **`Settings.session`** — what the parts of a worker
  are set up with.
* **`Settings.listing`** — the settings as they are printed.
-/
import Thumbnailer.Pool.Basic
import Thumbnailer.Renditions
import Thumbnailer.Session.Basic

namespace Thumbnailer

namespace Settings

/-- Where the worker listens, and the largest payload it reads. -/
structure Network where
  socketPath : String
  maxFrameSize : UInt64
  deriving DecidableEq, Repr

/-- The deadlines of a connection, in milliseconds. -/
structure Protocol where
  readTimeout : UInt64
  writeTimeout : UInt64
  deriving DecidableEq, Repr

/-- The size of the worker pool; no workers stands for one for each processor. -/
structure WorkerPool where
  threadCount : UInt64
  maxQueueSize : UInt64
  monitorInterval : UInt64
  deriving DecidableEq, Repr

/-- How pictures are read and written. -/
structure Pictures where
  maxDecodedPixels : UInt64
  jpegQuality : UInt8
  deriving DecidableEq, Repr

end Settings

/-- The settings of a worker. -/
structure Settings where
  network : Settings.Network
  protocol : Settings.Protocol
  workerPool : Settings.WorkerPool
  pictures : Settings.Pictures
  deriving DecidableEq, Repr

namespace Settings

/-- The settings of a worker that nobody has set up. -/
def standard : Settings where
  network := ⟨"/tmp/gfxworker.sock", 64 * 1024 * 1024⟩
  protocol := ⟨5000, 5000⟩
  workerPool := ⟨0, 64, 5000⟩
  pictures := ⟨100000000, 85⟩

/-- Refuses settings that a worker can not run with. -/
def validate (s : Settings) : Except InvalidValue Unit :=
  if s.workerPool.maxQueueSize = 0 then .error .emptyQueue
  else if s.network.maxFrameSize.toNat < Wire.Header.size then
    .error (.smallFrame s.network.maxFrameSize.toNat)
  else if s.pictures.jpegQuality = 0 ∨ 100 < s.pictures.jpegQuality then
    .error (.quality s.pictures.jpegQuality.toNat)
  else .ok ()

/-- What connections are served with. -/
def session (s : Settings) : Session.Settings :=
  ⟨s.protocol.readTimeout.toNat, s.protocol.writeTimeout.toNat, s.network.maxFrameSize.toNat⟩

/-- What the worker pool is set up with on a machine with a number of processors. -/
def pool (s : Settings) (processors : Nat) : Pool.Settings where
  workers := if s.workerPool.threadCount = 0 then processors else s.workerPool.threadCount.toNat
  slots := s.workerPool.maxQueueSize.toNat
  interval := s.workerPool.monitorInterval.toNat

/-- What pictures are read and written with. -/
def pictureSettings (s : Settings) : PictureSettings :=
  ⟨s.pictures.maxDecodedPixels.toNat, s.pictures.jpegQuality.toNat⟩

/-! ### The listing -/

/-- A section of the listing: name, title, and the fields with their values. -/
def listedSection (name title : String) (fields : List (String × String)) : List String :=
  [s!"    {name}: {title} \x7b"] ++ fields.map (fun (k, v) => s!"        {k}: {v},") ++ ["    \x7d,"]

/-- The settings as they are printed, a line for each field. -/
def listing (s : Settings) : List String :=
  ["WorkerConfig \x7b"] ++
    listedSection "network" "NetworkConfig"
      [("socket_path", Text.quoted s.network.socketPath),
        ("max_frame_size", toString s.network.maxFrameSize)] ++
    listedSection "protocol" "ProtocolConfig"
      [("read_timeout", toString s.protocol.readTimeout),
        ("write_timeout", toString s.protocol.writeTimeout)] ++
    listedSection "worker_pool" "WorkerPoolSection"
      [("thread_count", toString s.workerPool.threadCount),
        ("max_queue_size", toString s.workerPool.maxQueueSize),
        ("monitor_interval", toString s.workerPool.monitorInterval)] ++
    listedSection "image" "ImageSection"
      [("max_decoded_pixels", toString s.pictures.maxDecodedPixels),
        ("jpeg_quality", toString s.pictures.jpegQuality)] ++
    ["\x7d"]

end Settings

end Thumbnailer
