import StatementClient.Json.Value
import StatementClient.Text.Surrogate
import StatementClient.Decimal.Shortest
import StatementClient.Decimal.Nearest
import StatementClient.Decimal.Read
import StatementClient.Text.Printable
import StatementClient.Decimal.Text
import StatementClient.Text.Quoted
import StatementClient.Json.Literal
import StatementClient.Json.Compact
import StatementClient.Bytes.Codec
import StatementClient.Bytes.Inflate
import StatementClient.Bytes.Charmaps
import StatementClient.Bytes.Escapes
import StatementClient.Bytes.Utf7
import StatementClient.Bytes.Labels
import StatementClient.Bytes.Grid
import StatementClient.Bytes.Charset.JisX0208
import StatementClient.Bytes.Charset.JisX0212
import StatementClient.Bytes.Charset.JisX0213
import StatementClient.Bytes.Charset.KsX1001
import StatementClient.Bytes.Charset.Gb2312
import StatementClient.Bytes.Charset.Gbk
import StatementClient.Bytes.Charset.Big5
import StatementClient.Bytes.Charset.Cp932
import StatementClient.Bytes.Charset.Cp949
import StatementClient.Bytes.Multibyte
import StatementClient.Bytes.Chinese
import StatementClient.Bytes.Japanese
import StatementClient.Bytes.Korean
import StatementClient.Bytes.Iso2022
import StatementClient.Bytes.EastAsian
import StatementClient.Bytes.Registry
import StatementClient.Json.Reader
import StatementClient.Text.Blank
import StatementClient.Json.Number
import StatementClient.Wire.Table
import StatementClient.Wire.Enums
import StatementClient.Wire.Declare
import StatementClient.Schema.Issue
import StatementClient.Exchange.Error
import StatementClient.Exchange.Outcome
import StatementClient.Retry.Decision
import StatementClient.Schema.Check
import StatementClient.Schema.Request
import StatementClient.Schema.Response
import StatementClient.Config.Settings
import StatementClient.Exchange.Resolve
import StatementClient.Ingest.Rows
import StatementClient.Exchange.Request
import StatementClient.Exchange.Host
import StatementClient.Exchange.Address
import StatementClient.Exchange.MediaType
import StatementClient.Exchange.Transport
import StatementClient.Retry.Policy
import StatementClient.Retry.Run
import StatementClient.Session.Client
import StatementClient.Session.Simulation
import StatementClient.Logging.Processors
import StatementClient.Logging.Setup
import StatementClient.Text.Case
import StatementClient.Text.Punycode
import StatementClient.Text.Marks
import StatementClient.Text.Idna
import StatementClient.Text.Digits
import StatementClient.Text.NameTable
import StatementClient.Text.Names
import StatementClient.Proofs.Readers
import StatementClient.Proofs.Decisions
import StatementClient.Proofs.ReferenceLoop
import StatementClient.Proofs.Polling
import StatementClient.Proofs.Failures
import StatementClient.Proofs.WireNames
import StatementClient.Proofs.RemoteErrors
import StatementClient.Proofs.Submission
import StatementClient.Proofs.AttemptBudget
import StatementClient.Proofs.Counters
import StatementClient.Proofs.RequestBodies
import StatementClient.Proofs.TransportOutcomes
import StatementClient.Proofs.BatchRows
import StatementClient.Proofs.DoubleOrder
import StatementClient.Proofs.DoubleRounding
import StatementClient.Proofs.DoubleArithmetic
import StatementClient.Proofs.DoubleMonotone
import StatementClient.Proofs.LogConfiguration
import StatementClient.Proofs.CheckedSettings
