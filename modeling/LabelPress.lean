import LabelPress.Canvas.Basic
import LabelPress.Canvas.Bitmap
import LabelPress.Canvas.Code128
import LabelPress.Canvas.Coordinate
import LabelPress.Canvas.Draw
import LabelPress.Canvas.Ellipse
import LabelPress.Canvas.RoundedBox
import LabelPress.Canvas.Text
import LabelPress.Canvas.Tile
import LabelPress.CommandLine.Arguments
import LabelPress.CommandLine.Grammar
import LabelPress.CommandLine.Run
import LabelPress.Config.App
import LabelPress.Config.Assignment
import LabelPress.Config.Printer
import LabelPress.Config.Reading
import LabelPress.Config.Settings
import LabelPress.Config.Verdict
import LabelPress.Files.NamePattern
import LabelPress.Files.Path
import LabelPress.Files.Search
import LabelPress.Files.Tree
import LabelPress.Font.Face
import LabelPress.Font.Library
import LabelPress.Interpreter.Perform
import LabelPress.Interpreter.Run
import LabelPress.Interpreter.State
import LabelPress.Label.Crc32
import LabelPress.Label.Png
import LabelPress.Label.Preview
import LabelPress.Label.PreviewFormat
import LabelPress.Label.Render
import LabelPress.Label.Size
import LabelPress.Link.Basic
import LabelPress.Link.Session
import LabelPress.Main
import LabelPress.Markup.Command
import LabelPress.Markup.GraphicField
import LabelPress.Markup.Orientation
import LabelPress.Markup.Parameter
import LabelPress.Markup.Record
import LabelPress.Mono.Bitmap
import LabelPress.Mono.Dither
import LabelPress.Mono.Picture
import LabelPress.Number.Binary64
import LabelPress.Number.Measure
import LabelPress.Number.Room
import LabelPress.Number.Shortest
import LabelPress.Proofs.Canvas.Bars
import LabelPress.Proofs.Canvas.Bitmaps
import LabelPress.Proofs.Canvas.Painted
import LabelPress.Proofs.Canvas.Related
import LabelPress.Proofs.Canvas.Reversing
import LabelPress.Proofs.Canvas.Rings
import LabelPress.Proofs.Canvas.RoundedCorners
import LabelPress.Proofs.Canvas.Turning
import LabelPress.Proofs.CommandLine.GivenSizes
import LabelPress.Proofs.CommandLine.Labels
import LabelPress.Proofs.CommandLine.Reporting
import LabelPress.Proofs.CommandLine.Saving
import LabelPress.Proofs.Config.Alike
import LabelPress.Proofs.Config.EmptyKeys
import LabelPress.Proofs.Config.Loading
import LabelPress.Proofs.Config.Printing
import LabelPress.Proofs.Files.Below
import LabelPress.Proofs.Font.LastResort
import LabelPress.Proofs.Interpreter.Alike
import LabelPress.Proofs.Interpreter.Bilevel
import LabelPress.Proofs.Interpreter.Boxes
import LabelPress.Proofs.Interpreter.Cropping
import LabelPress.Proofs.Interpreter.Escaping
import LabelPress.Proofs.Interpreter.Failure
import LabelPress.Proofs.Interpreter.GraphicFields
import LabelPress.Proofs.Interpreter.Parts
import LabelPress.Proofs.Interpreter.Reversals
import LabelPress.Proofs.Interpreter.Silence
import LabelPress.Proofs.Label.Dots
import LabelPress.Proofs.Label.Feeds
import LabelPress.Proofs.Label.Previews
import LabelPress.Proofs.Label.Rendered
import LabelPress.Proofs.Link.Contract
import LabelPress.Proofs.Link.Errand
import LabelPress.Proofs.Link.Exchange
import LabelPress.Proofs.Link.Handles
import LabelPress.Proofs.Link.Reliable
import LabelPress.Proofs.Link.Sessions
import LabelPress.Proofs.Markup.Compression
import LabelPress.Proofs.Markup.DeclaredBytes
import LabelPress.Proofs.Markup.FieldText
import LabelPress.Proofs.Markup.Positions
import LabelPress.Proofs.Markup.RowCount
import LabelPress.Proofs.Markup.Skipping
import LabelPress.Proofs.Markup.Writing
import LabelPress.Proofs.Mono.BlackAndWhite
import LabelPress.Proofs.Mono.Bounded
import LabelPress.Proofs.Mono.Diffusion
import LabelPress.Proofs.Mono.Modes
import LabelPress.Proofs.Mono.Packing
import LabelPress.Proofs.Number.Beyond
import LabelPress.Proofs.Number.Doubles
import LabelPress.Proofs.Number.Grid
import LabelPress.Proofs.Number.Nearest
import LabelPress.Proofs.Number.Quotients
import LabelPress.Proofs.Number.Unpacked
import LabelPress.Proofs.Text.Capital
import LabelPress.Proofs.Transmission.Chunking
import LabelPress.Proofs.Transmission.Copies
import LabelPress.Proofs.Transmission.Interleaving
import LabelPress.Proofs.Transmission.Plan
import LabelPress.Proofs.Transmission.Progress
import LabelPress.Proofs.Transmission.Request
import LabelPress.Proofs.Transmission.Situation
import LabelPress.Proofs.Transmission.Transcript
import LabelPress.Proofs.Wire.Codec
import LabelPress.Proofs.Wire.Truncation
import LabelPress.Proofs.Yaml.Values
import LabelPress.Text.Blank
import LabelPress.Text.Digit
import LabelPress.Text.LowerCase
import LabelPress.Text.Newline
import LabelPress.Text.Numeral
import LabelPress.Text.Printing
import LabelPress.Text.Quoted
import LabelPress.Text.UpperCase
import LabelPress.Transmission.Chunk
import LabelPress.Transmission.Failure
import LabelPress.Transmission.Printer
import LabelPress.Transmission.Program
import LabelPress.Transmission.Rehearsal
import LabelPress.Wire.Raster
import LabelPress.Wire.TestPattern
import LabelPress.Yaml.Character
import LabelPress.Yaml.Document
import LabelPress.Yaml.Layout
import LabelPress.Yaml.Letter
import LabelPress.Yaml.Node
import LabelPress.Yaml.RawBytes
import LabelPress.Yaml.Scalar
import LabelPress.Yaml.ScalarValue
import LabelPress.Yaml.Timestamp
import LabelPress.Yaml.Token
import LabelPress.Yaml.Value
