import Thumbnailer.Client
import Thumbnailer.Command.Line
import Thumbnailer.Command.Run
import Thumbnailer.Command.Variables
import Thumbnailer.Double
import Thumbnailer.Error
import Thumbnailer.Folder
import Thumbnailer.Jpeg.Encoder
import Thumbnailer.Jpeg.Huffman
import Thumbnailer.Jpeg.Quantisation
import Thumbnailer.Jpeg.Transform
import Thumbnailer.Link.Reading
import Thumbnailer.Link.Writing
import Thumbnailer.Main
import Thumbnailer.Notice
import Thumbnailer.Picture.Anymap
import Thumbnailer.Picture.Geometry
import Thumbnailer.Picture.Raster
import Thumbnailer.Picture.Resample
import Thumbnailer.Picture.Source
import Thumbnailer.Pool.Basic
import Thumbnailer.Pool.Sweep
import Thumbnailer.Pool.Timeline
import Thumbnailer.Proofs.Attempt
import Thumbnailer.Proofs.Client.Agreement
import Thumbnailer.Proofs.Client.Count
import Thumbnailer.Proofs.Command.Saving
import Thumbnailer.Proofs.Folder.Entries
import Thumbnailer.Proofs.Link.Course
import Thumbnailer.Proofs.Link.Deadline
import Thumbnailer.Proofs.Link.Delivery
import Thumbnailer.Proofs.Link.Reading
import Thumbnailer.Proofs.Link.Schedule
import Thumbnailer.Proofs.Link.Sequence
import Thumbnailer.Proofs.Picture.Bounds
import Thumbnailer.Proofs.Picture.Budget
import Thumbnailer.Proofs.Picture.Calls
import Thumbnailer.Proofs.Picture.Geometry
import Thumbnailer.Proofs.Picture.Independence
import Thumbnailer.Proofs.Picture.Renditions
import Thumbnailer.Proofs.Picture.Window
import Thumbnailer.Proofs.Pool.Desertion
import Thumbnailer.Proofs.Pool.Drain
import Thumbnailer.Proofs.Pool.Flow
import Thumbnailer.Proofs.Pool.Look
import Thumbnailer.Proofs.Pool.Quiet
import Thumbnailer.Proofs.Pool.Replacement
import Thumbnailer.Proofs.Pool.Round
import Thumbnailer.Proofs.Pool.Slots
import Thumbnailer.Proofs.Pool.Step
import Thumbnailer.Proofs.Pool.Workers
import Thumbnailer.Proofs.Rendering.Answer
import Thumbnailer.Proofs.Rendering.Formats
import Thumbnailer.Proofs.Rendering.Order
import Thumbnailer.Proofs.Rendering.Reordering
import Thumbnailer.Proofs.Service.Clock
import Thumbnailer.Proofs.Service.Deadlines
import Thumbnailer.Proofs.Service.Neighbours
import Thumbnailer.Proofs.Service.Progress
import Thumbnailer.Proofs.Service.Shutdown
import Thumbnailer.Proofs.Service.Step
import Thumbnailer.Proofs.Service.Turns
import Thumbnailer.Proofs.Session.Answers
import Thumbnailer.Proofs.Session.Isolation
import Thumbnailer.Proofs.Session.Linked
import Thumbnailer.Proofs.Session.Outcome
import Thumbnailer.Proofs.Session.Progress
import Thumbnailer.Proofs.Session.Step
import Thumbnailer.Proofs.Settings.Validation
import Thumbnailer.Proofs.Size.Grammar
import Thumbnailer.Proofs.Text.Number
import Thumbnailer.Proofs.Text.Utf8
import Thumbnailer.Proofs.Wire.Consumption
import Thumbnailer.Proofs.Wire.Count
import Thumbnailer.Proofs.Wire.Frame
import Thumbnailer.Proofs.Wire.Header
import Thumbnailer.Proofs.Wire.Layout
import Thumbnailer.Proofs.Wire.Message
import Thumbnailer.Proofs.Wire.Truncation
import Thumbnailer.Provider
import Thumbnailer.Ratio
import Thumbnailer.Rendering
import Thumbnailer.Renditions
import Thumbnailer.Service.Basic
import Thumbnailer.Service.Clock
import Thumbnailer.Service.Neighbours
import Thumbnailer.Service.Worker
import Thumbnailer.Session.Basic
import Thumbnailer.Session.Timeline
import Thumbnailer.Settings.Basic
import Thumbnailer.Settings.Conversion
import Thumbnailer.Settings.Json
import Thumbnailer.Settings.KeyPath
import Thumbnailer.Settings.Loading
import Thumbnailer.Settings.Toml.Document
import Thumbnailer.Settings.Toml.Scalar
import Thumbnailer.Settings.Toml.Tables
import Thumbnailer.Settings.Value
import Thumbnailer.Size
import Thumbnailer.Task
import Thumbnailer.Text.Blank
import Thumbnailer.Text.Number
import Thumbnailer.Text.Printable
import Thumbnailer.Text.Quoted
import Thumbnailer.Text.Scan
import Thumbnailer.Text.Utf8
import Thumbnailer.Wire.Frame
import Thumbnailer.Wire.Kind
import Thumbnailer.Wire.Layout
import Thumbnailer.Wire.Message
