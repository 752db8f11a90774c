import MaskedLog.Unicode.Ranges
import MaskedLog.Unicode.CaseMap
import MaskedLog.Unicode.CaseContext
import MaskedLog.Unicode.Blank
import MaskedLog.Unicode.Digit
import MaskedLog.Unicode.Alnum
import MaskedLog.Unicode.Surrogate
import MaskedLog.Unicode.Printable
import MaskedLog.Unicode.Lower
import MaskedLog.Redact.Shadow
import MaskedLog.Redact.Span
import MaskedLog.Redact.Scan
import MaskedLog.Number.Binary64
import MaskedLog.Number.Shortest
import MaskedLog.Number.Read
import MaskedLog.Value.Basic
import MaskedLog.Value.SetOrder
import MaskedLog.Value.Text
import MaskedLog.Failure
import MaskedLog.Redact.Field
import MaskedLog.Redact.Scanner
import MaskedLog.Unicode.Upper
import MaskedLog.Unicode.CodeText
import MaskedLog.Unicode.NameData
import MaskedLog.Unicode.Names
import MaskedLog.Unicode.NormData
import MaskedLog.Unicode.Normalize
import MaskedLog.Unicode.PrepData
import MaskedLog.Unicode.Nameprep
import MaskedLog.Number.Fixed
import MaskedLog.Size
import MaskedLog.Text.Find
import MaskedLog.Text.Utf8
import MaskedLog.Text.CodePage
import MaskedLog.Text.Cells
import MaskedLog.Text.Tables.Jis
import MaskedLog.Text.Tables.Gb
import MaskedLog.Text.Tables.Big5
import MaskedLog.Text.Tables.Ksc
import MaskedLog.Text.EastAsian
import MaskedLog.Text.Fault
import MaskedLog.Text.Punycode
import MaskedLog.Text.Idna
import MaskedLog.Text.Codec
import MaskedLog.Value.Compare
import MaskedLog.Body.Policy
import MaskedLog.Body.Truncate
import MaskedLog.Settings.Basic
import MaskedLog.Settings.Mapping
import MaskedLog.Settings.Env
import MaskedLog.Body.Capture
import MaskedLog.Form.Params
import MaskedLog.Form.Reader
import MaskedLog.Form.Summary
import MaskedLog.Http.Headers
import MaskedLog.Exchange.Basic
import MaskedLog.Exchange.Recorder
import MaskedLog.Exchange.Serve
import MaskedLog.Log.Level
import MaskedLog.Number.Format
import MaskedLog.Log.Percent
import MaskedLog.Log.Json
import MaskedLog.Log.Time
import MaskedLog.Log.Record
import MaskedLog.Log.Filter
import MaskedLog.Log.Format
import MaskedLog.Log.Setup
import MaskedLog.Yaml.Token
import MaskedLog.Yaml.Token.Scan
import MaskedLog.Yaml.Tag
import MaskedLog.Yaml.Node
import MaskedLog.Number.Arith
import MaskedLog.Yaml.Timestamp
import MaskedLog.Text.Base64
import MaskedLog.Yaml.Document
import MaskedLog.Settings.File
import MaskedLog.Proofs.ValueScan
import MaskedLog.Proofs.Layout
import MaskedLog.Proofs.TableSearch
import MaskedLog.Proofs.Frame
import MaskedLog.Proofs.Shadow
import MaskedLog.Proofs.Offset
import MaskedLog.Proofs.Sequential
import MaskedLog.Proofs.Batching
import MaskedLog.Proofs.Idempotence
import MaskedLog.Proofs.JsonText
import MaskedLog.Proofs.JsonBody
import MaskedLog.Proofs.Replay
import MaskedLog.Proofs.FilteredRecord
import MaskedLog.Proofs.CaseFold
import MaskedLog.Proofs.CaseBlind
import MaskedLog.Proofs.Measure
import MaskedLog.Proofs.Forwarding
import MaskedLog.Proofs.Harmless
import MaskedLog.Proofs.ResponseCopy
import MaskedLog.Proofs.Truncation
import MaskedLog.Proofs.FormSummary
import MaskedLog.Proofs.StreamCapture
import MaskedLog.Proofs.Doubles
import MaskedLog.Proofs.SizeText
import MaskedLog.Proofs.SettingsFaults
import MaskedLog.Proofs.BinaryShare
import MaskedLog.Proofs.ScanLoop
import MaskedLog.Proofs.SizeDisplay
import MaskedLog.Proofs.NormalForm
