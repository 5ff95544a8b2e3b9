import Sheetflow.Number.Decimal
import Sheetflow.Number.Numeral
import Sheetflow.Text.Blank
import Sheetflow.Text.Case
import Sheetflow.Text.Identifier
import Sheetflow.Text.Letter
import Sheetflow.Text.Printable
import Sheetflow.Column.Reference
import Sheetflow.Csv.Reader
import Sheetflow.Csv.Writer
import Sheetflow.Csv.Encoding
import Sheetflow.Pattern.Match
import Sheetflow.Text.CharacterName
import Sheetflow.Text.Quoted
import Sheetflow.Pattern.Read
import Sheetflow.Run.Basic
import Sheetflow.Rule.Read
import Sheetflow.Document.Json.Read
import Sheetflow.Document.Json.Write
import Sheetflow.Document.Decode
import Sheetflow.Time.Read
import Sheetflow.Configuration.Document
import Sheetflow.Transform
import Sheetflow.Token.Basic
import Sheetflow.Table
import Sheetflow.Job.Basic
import Sheetflow.Job.Task
import Sheetflow.Service.Settings
import Sheetflow.Service.Error
import Sheetflow.Store.Basic
import Sheetflow.Service.World
import Sheetflow.Service.Submission
import Sheetflow.Service.Health
import Sheetflow.Service.Organization
import Sheetflow.Web.Endpoint
import Sheetflow.Proofs.Text.Utf8
import Sheetflow.Proofs.Csv.RoundTrip
import Sheetflow.Proofs.Matrix
import Sheetflow.Proofs.Column.Header
import Sheetflow.Proofs.Run.Steps
import Sheetflow.Proofs.Run.Paths
import Sheetflow.Proofs.Run.Stops
import Sheetflow.Proofs.Run.Invariant
import Sheetflow.Proofs.Run.MergeHeader
import Sheetflow.Proofs.Run.Merge
import Sheetflow.Proofs.Service.Exec
import Sheetflow.Proofs.Service.Trail
import Sheetflow.Proofs.Service.Failure
import Sheetflow.Proofs.Table
import Sheetflow.Proofs.Field.Restores
import Sheetflow.Proofs.Rule.Written
import Sheetflow.Proofs.Text.Trim
import Sheetflow.Proofs.Text.Base64
import Sheetflow.Proofs.Time.Month
import Sheetflow.Proofs.Time.Instant
import Sheetflow.Proofs.Configuration.Export
import Sheetflow.Proofs.Field.Reasons
import Sheetflow.Proofs.Rule.Ready
import Sheetflow.Proofs.Configuration.Gate
import Sheetflow.Proofs.Configuration.Stored
import Sheetflow.Proofs.Run.Limits
import Sheetflow.Proofs.Transform
import Sheetflow.Proofs.Service.Steady
import Sheetflow.Proofs.Service.Ending
import Sheetflow.Proofs.Service.Admission
import Sheetflow.Proofs.Service.Submitting
import Sheetflow.Proofs.Service.Delivery
import Sheetflow.Proofs.Service.Calls
import Sheetflow.Proofs.Service.Slots
import Sheetflow.Proofs.Service.Months
import Sheetflow.Proofs.Service.Modes
import Sheetflow.Proofs.Job.Record
import Sheetflow.Proofs.Job.Contest
import Sheetflow.Proofs.Service.Records
import Sheetflow.Proofs.Service.Interleaving
import Sheetflow.Proofs.Service.Owners
import Sheetflow.Proofs.Store.Keys
import Sheetflow.Proofs.Service.Tenants
import Sheetflow.Proofs.File.Tree
import Sheetflow.Proofs.Service.Artifacts
import Sheetflow.Proofs.Web.Answer
import Sheetflow.Proofs.Document.JsonString
import Sheetflow.Proofs.Document.Json
import Sheetflow.Proofs.Token.Signed
import Sheetflow.Proofs.Service.Links
import Sheetflow.Proofs.File.Name
import Sheetflow.Proofs.Service.Holds
import Sheetflow.Proofs.Service.Filing
import Sheetflow.Proofs.Service.History
import Sheetflow.Proofs.Web.Serving
import Sheetflow.Proofs.Web.Download
import Sheetflow.Proofs.Csv.Delimiter
import Sheetflow.Proofs.File.Place
import Sheetflow.Proofs.Service.Shelves
import Sheetflow.Proofs.Service.AllOrNothing
import Sheetflow.Proofs.Run.Origin
import Sheetflow.Proofs.Document.Reader
import Sheetflow.Proofs.Document.YamlReader
import Sheetflow.Proofs.Document.Decode
import Sheetflow.Proofs.Service.Listing
import Sheetflow.Proofs.Service.Replies
import Sheetflow.Proofs.Service.UnderWay
import Sheetflow.Proofs.Run.Gaps
import Sheetflow.Proofs.Run.RowDeletion
import Sheetflow.Proofs.Run.ColumnDeletion
import Sheetflow.Proofs.Run.Appending
import Sheetflow.Proofs.Run.AlignedSheets
import Sheetflow.Proofs.Run.Replacing
import Sheetflow.Proofs.Service.Creation
import Sheetflow.Proofs.Service.Crossing
import Sheetflow.Proofs.Column.Place
import Sheetflow.Proofs.Column.Spelling
import Sheetflow.Proofs.Run.Log
import Sheetflow.Proofs.Run.LogOnly
import Sheetflow.Proofs.Run.DeletionOrder
import Sheetflow.Proofs.Run.ReplacementOrder
import Sheetflow.Proofs.Column.References
import Sheetflow.Proofs.Csv.Encoding
import Sheetflow.Proofs.Number.Quotient
import Sheetflow.Proofs.Service.Expiry
import Sheetflow.Proofs.Service.Counters
