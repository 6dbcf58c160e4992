import Overlay.BinaryInsertion
import Overlay.Config
import Overlay.Config.Environment
import Overlay.Config.Settings
import Overlay.Curve.BaseField
import Overlay.Curve.Ed25519
import Overlay.Curve.Edwards
import Overlay.Curve.X25519
import Overlay.Datum.Amendment
import Overlay.Datum.Basic
import Overlay.Datum.Depth
import Overlay.Datum.Equality
import Overlay.Datum.Issuing
import Overlay.Datum.Json
import Overlay.Datum.Naming
import Overlay.Datum.Number
import Overlay.Datum.Property
import Overlay.Datum.Reading
import Overlay.Datum.Record
import Overlay.Datum.Registry
import Overlay.Datum.Signing
import Overlay.Datum.Text
import Overlay.Datum.Writing
import Overlay.Decimal.Layout
import Overlay.Decimal.Shortest
import Overlay.Environment
import Overlay.Environment.File
import Overlay.Environment.Quotation
import Overlay.Environment.Reference
import Overlay.Fault
import Overlay.Hash.Sha2
import Overlay.Hash.Sha256
import Overlay.Hash.Sha512
import Overlay.Hexadecimal
import Overlay.Identity.Sample
import Overlay.Json
import Overlay.Log.Event
import Overlay.Log.Level
import Overlay.Message.Decode
import Overlay.Message.Frame
import Overlay.Message.Outcome
import Overlay.Message.Refusal
import Overlay.Message.Shape
import Overlay.MessagePack.Fault
import Overlay.MessagePack.Head
import Overlay.MessagePack.Item
import Overlay.MessagePack.Reader
import Overlay.MessagePack.Writer
import Overlay.Name
import Overlay.Name.Closeness
import Overlay.Node
import Overlay.Node.Decoding
import Overlay.Node.Files
import Overlay.Node.Setup
import Overlay.Octets
import Overlay.Octets.Fixed
import Overlay.Octets.Hex
import Overlay.Octets.Number
import Overlay.Octets.Size
import Overlay.Power
import Overlay.Proofs.Datum.Carrying
import Overlay.Proofs.Datum.Construction
import Overlay.Proofs.Datum.Encoding
import Overlay.Proofs.Datum.Framing
import Overlay.Proofs.Datum.Issuing
import Overlay.Proofs.Log.Line
import Overlay.Proofs.Message.Carrying
import Overlay.Proofs.Message.Failing
import Overlay.Proofs.Message.Grammar
import Overlay.Proofs.Message.PrefixFree
import Overlay.Proofs.Message.RoundTrip
import Overlay.Proofs.Message.Secrecy
import Overlay.Proofs.Message.Shape
import Overlay.Proofs.Message.ShapeFailure
import Overlay.Proofs.Message.Strictness
import Overlay.Proofs.Message.Unregistered
import Overlay.Proofs.MessagePack.Extension
import Overlay.Proofs.MessagePack.Form
import Overlay.Proofs.MessagePack.Reading
import Overlay.Proofs.MessagePack.Rereading
import Overlay.Proofs.MessagePack.Shortest
import Overlay.Proofs.Name.Closeness
import Overlay.Proofs.Node.Decoding
import Overlay.Proofs.Node.Ending
import Overlay.Proofs.Node.Logging
import Overlay.Proofs.Node.Running
import Overlay.Proofs.Node.Secrecy
import Overlay.Proofs.Node.Unwrapping
import Overlay.Proofs.Octets.Distance
import Overlay.Proofs.Record.Binding
import Overlay.Proofs.Sequencing
import Overlay.Proofs.Tag.Spelling
import Overlay.Record
import Overlay.Record.Routing
import Overlay.Record.Signed
import Overlay.Record.Text
import Overlay.Signature
import Overlay.Tag
import Overlay.Tag.Reading
import Overlay.Text.Blank
import Overlay.Text.Digit
import Overlay.Text.Letters
import Overlay.Text.Numeral
import Overlay.Text.Printable
import Overlay.Text.Quoted
import Overlay.Text.Utf8
import Overlay.Proofs.Name.Nearest
import Overlay.Proofs.Datum.Signing
import Overlay.Proofs.Message.Checks
import Overlay.Proofs.Node.Attribution
import Overlay.Proofs.Node.Reporting
import Overlay.Proofs.Node.Lasting
import Overlay.Proofs.Text.Trimming
import Overlay.Proofs.Text.Numeral
import Overlay.Proofs.Tag.Text
import Overlay.Proofs.Name.Hexadecimal
import Overlay.Proofs.Config.Size
import Overlay.Proofs.Config.Environment
