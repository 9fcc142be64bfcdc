/-
Everything that can go wrong, by cause, and its wording.

* **`Error`** — a family for each way of failing, with the cause inside.
* **`Error.message`** — the wording, which starts with the family's own words.
* **`Error.report`** — the form in which a command that failed prints its error.

A provider of pictures may fail for reasons of its own, so most families have a cause `other`
that carries a text.
-/
import Thumbnailer.Size
import Thumbnailer.Text.Quoted
import Thumbnailer.Text.Utf8
import Thumbnailer.Wire.Kind

namespace Thumbnailer

/-- What the operating system answers when it refuses something. -/
inductive OsError
  | notFound
  | noSuchDevice
  | permissionDenied
  | notADirectory
  | isADirectory
  | nameTooLong
  | brokenPipe
  | connectionReset
  | connectionRefused
  | addressInUse
  deriving DecidableEq, Repr

namespace OsError

/-- The number of a system error. -/
def code : OsError → Nat
  | notFound => 2
  | noSuchDevice => 6
  | permissionDenied => 13
  | notADirectory => 20
  | isADirectory => 21
  | nameTooLong => 36
  | brokenPipe => 32
  | addressInUse => 98
  | connectionReset => 104
  | connectionRefused => 111

/-- The name of a system error in reports. -/
def name : OsError → String
  | notFound => "NotFound"
  | noSuchDevice => "Uncategorized"
  | permissionDenied => "PermissionDenied"
  | notADirectory => "NotADirectory"
  | isADirectory => "IsADirectory"
  | nameTooLong => "InvalidFilename"
  | brokenPipe => "BrokenPipe"
  | addressInUse => "AddrInUse"
  | connectionReset => "ConnectionReset"
  | connectionRefused => "ConnectionRefused"

/-- The system's own words. -/
def words : OsError → String
  | notFound => "No such file or directory"
  | noSuchDevice => "No such device or address"
  | permissionDenied => "Permission denied"
  | notADirectory => "Not a directory"
  | isADirectory => "Is a directory"
  | nameTooLong => "File name too long"
  | brokenPipe => "Broken pipe"
  | addressInUse => "Address already in use"
  | connectionReset => "Connection reset by peer"
  | connectionRefused => "Connection refused"

/-- The wording of a system error. -/
def message (e : OsError) : String := s!"{e.words} (os error {e.code})"

end OsError

/-- Why a byte channel or a file failed. -/
inductive IoError
  /-- The other side ended the stream inside a message. -/
  | earlyEnd
  /-- The other side of an in-memory pipe is gone. -/
  | pipeBroken
  /-- A socket path does not fit into an address. -/
  | pathTooLong
  /-- The system refused. -/
  | system (e : OsError)
  /-- A reason of the provider's own. -/
  | other (text : String)
  deriving DecidableEq, Repr

namespace IoError

/-- The wording of an input or output failure. -/
def message : IoError → String
  | earlyEnd => "early eof"
  | pipeBroken => "broken pipe"
  | pathTooLong => "path must be shorter than SUN_LEN"
  | system e => e.message
  | other text => text

/-- The form of an input or output failure in reports. -/
def report : IoError → String
  | earlyEnd => "Custom \x7b kind: UnexpectedEof, error: \"early eof\" \x7d"
  | pipeBroken => "Kind(BrokenPipe)"
  | pathTooLong =>
    "Error \x7b kind: InvalidInput, message: \"path must be shorter than SUN_LEN\" \x7d"
  | system e =>
    s!"Os \x7b code: {e.code}, kind: {e.name}, message: {Text.quoted e.words} \x7d"
  | other text => s!"Custom \x7b kind: Other, error: {Text.quoted text} \x7d"

end IoError

/-- What a payload is built of, as error messages name it. -/
inductive Piece
  | word
  | byteString
  | sequence
  deriving DecidableEq, Repr

namespace Piece

/-- The name of a piece in error messages. -/
def name : Piece → String
  | word => "u32"
  | byteString => "byte string"
  | sequence => "sequence"

end Piece

/-- Why bytes are no message. -/
inductive Malformed
  /-- A header with version 0. -/
  | versionZero
  /-- Fewer bytes than a header has. -/
  | shortHeader (size got : Nat)
  /-- The payload ends inside a piece. -/
  | shortPayload (piece : Piece) (needed left : Nat)
  /-- A text of the payload is not UTF-8. -/
  | notUtf8 (failure : Text.Utf8.Failure)
  /-- The payload goes on behind the message. -/
  | trailing (count : Nat) (kind : Wire.Kind)
  /-- An answer where a request is due. -/
  | notRequest (kind : Wire.Kind)
  /-- A request where an answer is due. -/
  | notResponse (kind : Wire.Kind)
  /-- A reason of the provider's own. -/
  | other (text : String)
  deriving DecidableEq, Repr

namespace Malformed

/-- The wording of a malformed message. -/
def message : Malformed → String
  | versionZero => "frame version 0"
  | shortHeader size got => s!"frame header needs {size} bytes, got {got}"
  | shortPayload piece needed left =>
    s!"can not read a {piece.name}: need {needed} bytes, {left} left"
  | notUtf8 failure => s!"string is not utf-8: {failure.message}"
  | trailing count kind => s!"{count} trailing bytes after {kind.text} payload"
  | notRequest kind => s!"{kind.text} is not a request"
  | notResponse kind => s!"{kind.text} is not a response"
  | other text => text

end Malformed

/-- Why a value given by a person is refused. -/
inductive InvalidValue
  /-- A text that is no size. -/
  | notASize (text : String) (cause : Size.ParseError)
  /-- A size without height. -/
  | noHeight (size : Size)
  /-- The path of a settings file is no text; the path is shown as far as it is one. -/
  | settingsPath (shown : String)
  /-- A queue without room. -/
  | emptyQueue
  /-- A frame limit below the size of a header. -/
  | smallFrame (limit : Nat)
  /-- A quality outside 1 to 100. -/
  | quality (value : Nat)
  /-- A reason of the provider's own. -/
  | other (text : String)
  deriving DecidableEq, Repr

namespace InvalidValue

/-- The wording of a refused value. -/
def message : InvalidValue → String
  | notASize text .undivided => s!"dimension {Text.quoted text} is not WxH"
  | notASize text (.number e) => s!"dimension {Text.quoted text}: {e.message}"
  | noHeight size => s!"dimension {size.text} has no height"
  | settingsPath shown => s!"config file path: {shown}"
  | emptyQueue => "worker_pool.max_queue_size must be greater than 0"
  | smallFrame limit => s!"network.max_frame_size {limit} is too small"
  | quality value => s!"image.jpeg_quality {value} not in 1..=100"
  | other text => text

end InvalidValue

/-- Why an operation does not fit the state it meets. -/
inductive IllegalState
  /-- The socket path is taken by something that is not a socket. -/
  | notASocket (path : String)
  /-- The system did not let the worker listen. -/
  | bind (path : String) (cause : IoError)
  /-- The worker answered with a message of another kind. -/
  | unexpectedAnswer (asked got : Wire.Kind)
  /-- The worker answered that it could not render. -/
  | notRendered (text : String)
  /-- A reason of the provider's own. -/
  | other (text : String)
  deriving DecidableEq, Repr

namespace IllegalState

/-- The wording of an illegal state. -/
def message : IllegalState → String
  | notASocket path => s!"{path} exists and is not a socket"
  | bind path cause => s!"Failed to bind server to {path} - Error: {cause.message}"
  | unexpectedAnswer asked got => s!"worker answered {asked.text} with {got.text}"
  | notRendered text => s!"worker failed to render: {text}"
  | other text => text

end IllegalState

/-- A connection that could not be made, or a failure the provider describes in full. -/
inductive DetailedIo
  | connect (path : String) (cause : IoError)
  | other (text : String)
  deriving DecidableEq, Repr

namespace DetailedIo

/-- The wording of a detailed failure. -/
def message : DetailedIo → String
  | connect path cause => s!"failed to connect to {path}: {cause.message}"
  | other text => text

end DetailedIo

/-- Why a task did not get into the queue. -/
inductive QueueError
  | closed
  | other (text : String)
  deriving DecidableEq, Repr

namespace QueueError

/-- The wording of a refused task. -/
def message : QueueError → String
  | closed => "worker pool is closed"
  | other text => text

end QueueError

/-- What did not end in time. -/
inductive Late
  | reading (bytes : Nat)
  | writing (bytes : Nat)
  | other (text : String)
  deriving DecidableEq, Repr

namespace Late

/-- The wording of a missed deadline. -/
def message : Late → String
  | reading bytes => s!"reading {bytes} bytes"
  | writing bytes => s!"writing {bytes} bytes"
  | other text => text

end Late

/-- Why a picture could not be read or written. -/
inductive ImageError
  /-- The bytes start like no known format. -/
  | unknownFormat
  /-- The bytes break the rules of their format or end too early. -/
  | undecodable
  /-- The picture is too large for the format it is written in, or empty. -/
  | unwritable
  deriving DecidableEq, Repr

namespace ImageError

/-- The wording of a picture error. -/
def message : ImageError → String
  | unknownFormat => "The image format could not be determined"
  | undecodable => "Format error decoding image"
  | unwritable => "The dimensions of the image do not fit the format"

end ImageError

/-- A budget that would be exceeded. -/
inductive Limit
  | pixels (width height limit : Nat)
  | other (text : String)
  deriving DecidableEq, Repr

namespace Limit

/-- The wording of an exceeded budget. -/
def message : Limit → String
  | pixels width height limit =>
    s!"image of {width}x{height} has {width * height} pixels (limit: {limit})"
  | other text => text

end Limit

/-- Why settings could not be loaded. -/
inductive SettingsError
  /-- The file breaks the rules of its format. -/
  | syntaxError
  /-- A value does not fit; the wording names the value, and the key and origin where known. -/
  | value (text : String)
  deriving DecidableEq, Repr

namespace SettingsError

/-- The wording of a settings error. -/
def message : SettingsError → String
  | syntaxError => "the file could not be parsed"
  | value text => text

end SettingsError

/-- A failure of the worker, of its client or of a command. -/
inductive Error
  | illegalState (cause : IllegalState)
  | invalidValue (cause : InvalidValue)
  | detailedIo (cause : DetailedIo)
  | io (cause : IoError)
  | queue (cause : QueueError)
  | settings (cause : SettingsError)
  | malformed (cause : Malformed)
  | version (number : Nat)
  | kind (number : Nat)
  | frameTooLarge (length : Nat)
  | late (cause : Late)
  | image (cause : ImageError)
  | limit (cause : Limit)
  deriving DecidableEq, Repr

namespace Error

/-- The name of the family an error belongs to. -/
def family : Error → String
  | illegalState _ => "IllegalStateError"
  | invalidValue _ => "InvalidValue"
  | detailedIo _ => "DetailedIoError"
  | io _ => "IoError"
  | queue _ => "ChannelSendError"
  | settings _ => "ConfigFileError"
  | malformed _ => "MalformedProtocol"
  | version _ => "UnsupportedVersion"
  | kind _ => "UnknownCommandType"
  | frameTooLarge _ => "FrameTooLarge"
  | late _ => "Timeout"
  | image _ => "ImageError"
  | limit _ => "ResourceLimit"

/-- The wording of an error. -/
def message : Error → String
  | illegalState cause => s!"illegal state: {cause.message}"
  | invalidValue cause => s!"invalid value: {cause.message}"
  | detailedIo cause => s!"I/O error: {cause.message}"
  | io cause => s!"io error: {cause.message}"
  | queue cause => s!"channel send error: {cause.message}"
  | settings cause => s!"config file error: {cause.message}"
  | malformed cause => s!"malformed protocol: {cause.message}"
  | version number => s!"unsupported frame version: {number}"
  | kind number => s!"unknown command type: {number}"
  | frameTooLarge length => s!"frame of length {length} is too large"
  | late cause => s!"timed out: {cause.message}"
  | image cause => s!"image error: {cause.message}"
  | limit cause => s!"resource limit exceeded: {cause.message}"

/-- What stands between the brackets of a report. -/
def reported : Error → String
  | illegalState cause => Text.quoted cause.message
  | invalidValue cause => Text.quoted cause.message
  | detailedIo cause => Text.quoted cause.message
  | io cause => cause.report
  | queue cause => Text.quoted cause.message
  | settings cause => cause.message
  | malformed cause => Text.quoted cause.message
  | version number => toString number
  | kind number => toString number
  | frameTooLarge length => toString length
  | late cause => Text.quoted cause.message
  | image cause => cause.message
  | limit cause => Text.quoted cause.message

/-- The form in which a failed command prints its error: the family and what it holds. -/
def report (e : Error) : String := s!"{e.family}({e.reported})"

end Error

end Thumbnailer
