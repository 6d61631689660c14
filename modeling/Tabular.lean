import Tabular.Text.Blank
import Tabular.Text.Fit
import Tabular.Text.Quoted
import Tabular.Decimal.Printer
import Tabular.Decimal.Reader
import Tabular.Date.Printer
import Tabular.Date.Reader
import Tabular.Json.Printer
import Tabular.Json.Reader
import Tabular.Position.Printer
import Tabular.Position.Reader
import Tabular.Value
import Tabular.Layout.Column
import Tabular.Sink
import Tabular.Document.Conversion
import Tabular.Main
import Tabular.Proofs.Decimal.Printed
import Tabular.Proofs.Decimal.Numeral
import Tabular.Proofs.Layout.Observation
import Tabular.Proofs.Layout.Width
import Tabular.Proofs.Layout.Field
import Tabular.Proofs.Outcome
import Tabular.Proofs.Text.Words
import Tabular.Proofs.Table.Learning
import Tabular.Proofs.Table.Frame
import Tabular.Proofs.Table.Body
import Tabular.Proofs.Table.Rectangle
import Tabular.Proofs.Date.ReadBack
import Tabular.Proofs.Layout.LineFeeds
import Tabular.Proofs.Decimal.Exactness
import Tabular.Proofs.Json.Reader
import Tabular.Proofs.Table.LineFeeds
import Tabular.Proofs.Document.Fidelity
import Tabular.Proofs.Table.Validity
import Tabular.Proofs.Document.Raised
import Tabular.Proofs.Document.FirstFault
import Tabular.Proofs.Layout.Lines
import Tabular.Proofs.Decimal.ReadBack
import Tabular.Proofs.Layout.ReadBack
import Tabular.Proofs.Layout.Alignment
import Tabular.Proofs.Layout.Subfields
import Tabular.Proofs.Layout.Runs
import Tabular.Proofs.Date.Field
import Tabular.Proofs.Position.RoundTrip
import Tabular.Proofs.Table.Independence
import Tabular.Proofs.Table.Delivery
import Tabular.Proofs.Command.Arguments
import Tabular.Proofs.Command.Path
import Tabular.Proofs.Command.Transaction
import Tabular.Proofs.Layout.Tightness
import Tabular.Proofs.Layout.LinesReadBack
import Tabular.Proofs.Decimal.Spelling
import Tabular.Proofs.Decimal.Reading
import Tabular.Proofs.Text.Pieces
import Tabular.Proofs.Position.Grammar
import Tabular.Proofs.Document.Spellings
import Tabular.Proofs.Json.Literal
import Tabular.Proofs.Document.Literals
import Tabular.Proofs.Text.Fit
import Tabular.Proofs.Table.Names
import Tabular.Proofs.Layout.Overflow
import Tabular.Proofs.Table.Unseen
