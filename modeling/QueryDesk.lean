import QueryDesk.Command.Argument
import QueryDesk.Command.Balance
import QueryDesk.Command.Basic
import QueryDesk.Command.Quoting
import QueryDesk.Command.Repair
import QueryDesk.Command.Segments
import QueryDesk.Completion.Basic
import QueryDesk.Desk.Dispatch
import QueryDesk.Desk.Draft
import QueryDesk.Desk.Failure
import QueryDesk.Desk.Interpretation
import QueryDesk.Desk.Operation
import QueryDesk.Http.Body
import QueryDesk.Http.Message
import QueryDesk.Http.Service
import QueryDesk.Inquiry.Basic
import QueryDesk.Inquiry.Envelope
import QueryDesk.Inquiry.Instructions
import QueryDesk.Journal.Event
import QueryDesk.Journal.Setup
import QueryDesk.Json.Basic
import QueryDesk.Json.Bytes
import QueryDesk.Json.Fault
import QueryDesk.Json.Literal
import QueryDesk.Json.Members
import QueryDesk.Json.Printer
import QueryDesk.Json.Reader
import QueryDesk.Main
import QueryDesk.Number.Decimal
import QueryDesk.Number.Double
import QueryDesk.Number.Numeral
import QueryDesk.Number.Shortest
import QueryDesk.Number.Whole
import QueryDesk.Proofs.Command.Apostrophe
import QueryDesk.Proofs.Command.Balanced
import QueryDesk.Proofs.Command.Cuts
import QueryDesk.Proofs.Command.Elements
import QueryDesk.Proofs.Command.Language
import QueryDesk.Proofs.Command.Literal
import QueryDesk.Proofs.Command.LiteralScans
import QueryDesk.Proofs.Command.Nested
import QueryDesk.Proofs.Command.QuoteMarks
import QueryDesk.Proofs.Command.QuotedNames
import QueryDesk.Proofs.Command.Recognition
import QueryDesk.Proofs.Command.Repair
import QueryDesk.Proofs.Command.StrictArgument
import QueryDesk.Proofs.Command.StringScan
import QueryDesk.Proofs.Completion.Answer
import QueryDesk.Proofs.Desk.Answer
import QueryDesk.Proofs.Desk.Conservation
import QueryDesk.Proofs.Desk.Counting
import QueryDesk.Proofs.Desk.Draft
import QueryDesk.Proofs.Desk.Execution
import QueryDesk.Proofs.Desk.Fidelity
import QueryDesk.Proofs.Desk.Finding
import QueryDesk.Proofs.Desk.FirstFailure
import QueryDesk.Proofs.Desk.Frame
import QueryDesk.Proofs.Desk.Interpretation
import QueryDesk.Proofs.Desk.Numerals
import QueryDesk.Proofs.Desk.OneRequest
import QueryDesk.Proofs.Desk.Outcome
import QueryDesk.Proofs.Desk.Peeling
import QueryDesk.Proofs.Desk.ReadBack
import QueryDesk.Proofs.Desk.Updates
import QueryDesk.Proofs.Desk.Wrapping
import QueryDesk.Proofs.Http.Transport
import QueryDesk.Proofs.Json.Grammar
import QueryDesk.Proofs.Json.Layout
import QueryDesk.Proofs.Json.Numerals
import QueryDesk.Proofs.Json.Printing
import QueryDesk.Proofs.Json.Reading
import QueryDesk.Proofs.Json.Scalar
import QueryDesk.Proofs.Json.Strings
import QueryDesk.Proofs.Json.Writable
import QueryDesk.Proofs.Number.Overflow
import QueryDesk.Proofs.Store.Documents
import QueryDesk.Proofs.Store.Equality
import QueryDesk.Proofs.Store.Finite
import QueryDesk.Proofs.Store.Perform
import QueryDesk.Proofs.Store.Plain
import QueryDesk.Proofs.Store.Reply
import QueryDesk.Proofs.Store.Total
import QueryDesk.Proofs.Text.Trim
import QueryDesk.Schema.Fault
import QueryDesk.Service.Connection
import QueryDesk.Service.Lifecycle
import QueryDesk.Service.Startup
import QueryDesk.Settings.Basic
import QueryDesk.Settings.File
import QueryDesk.Store.Basic
import QueryDesk.Store.Calendar
import QueryDesk.Store.Display
import QueryDesk.Store.Extended
import QueryDesk.Store.Fault
import QueryDesk.Store.Pattern
import QueryDesk.Store.Plain
import QueryDesk.Store.Preparation
import QueryDesk.Store.Reply
import QueryDesk.Store.Request
import QueryDesk.Store.Value
import QueryDesk.Store.Verbatim
import QueryDesk.Text.Base64
import QueryDesk.Text.Basic
import QueryDesk.Text.Blank
import QueryDesk.Text.Capital
import QueryDesk.Text.Encoding
import QueryDesk.Text.Hex
import QueryDesk.Text.Place
import QueryDesk.Text.Printable
import QueryDesk.Text.Quoted
import QueryDesk.Text.Word
