import TexCompletion.Catalog
import TexCompletion.Catalog.Bundled
import TexCompletion.Completion.Item
import TexCompletion.Completion.Provider
import TexCompletion.Completion.Request
import TexCompletion.Config
import TexCompletion.Decimal.Shortest
import TexCompletion.Declaration
import TexCompletion.Dictionary
import TexCompletion.Json.Cause
import TexCompletion.Json.Decoder
import TexCompletion.Json.Number
import TexCompletion.Json.Printer
import TexCompletion.Json.Reader
import TexCompletion.Json.Shape
import TexCompletion.Json.Value
import TexCompletion.Main
import TexCompletion.Metadata
import TexCompletion.Position
import TexCompletion.Proofs.Completion.CursorContent
import TexCompletion.Proofs.Completion.CursorLine
import TexCompletion.Proofs.Completion.Declared
import TexCompletion.Proofs.Completion.Offered
import TexCompletion.Proofs.Declaration.Scan
import TexCompletion.Proofs.Position.Point
import TexCompletion.Proofs.Session.History
import TexCompletion.Proofs.Session.Typing
import TexCompletion.Proofs.Text.Cut
import TexCompletion.Record.Basic
import TexCompletion.Record.Id
import TexCompletion.Record.InPlace
import TexCompletion.Record.Store
import TexCompletion.Registry
import TexCompletion.Server.Basic
import TexCompletion.Server.Client
import TexCompletion.Server.Frame
import TexCompletion.Server.Message
import TexCompletion.Server.Params
import TexCompletion.Server.Parts
import TexCompletion.Server.Requests
import TexCompletion.Server.Shapes
import TexCompletion.Session
import TexCompletion.Suggestion
import TexCompletion.Template
import TexCompletion.Text.Blank
import TexCompletion.Text.Composed
import TexCompletion.Text.Direction
import TexCompletion.Text.Hex
import TexCompletion.Text.Invisible
import TexCompletion.Text.Joining
import TexCompletion.Text.Lines
import TexCompletion.Text.Marks
import TexCompletion.Text.Quoted
import TexCompletion.Text.Runs
import TexCompletion.Text.Split
import TexCompletion.Text.Units
import TexCompletion.Text.Word
import TexCompletion.Trigger
import TexCompletion.Url.Address
import TexCompletion.Url.Basic
import TexCompletion.Url.Domain
import TexCompletion.Url.Error
import TexCompletion.Url.Host
import TexCompletion.Url.Path
import TexCompletion.Url.Percent
import TexCompletion.Url.Punycode
import TexCompletion.Url.Spelling
import TexCompletion.Proofs.Template.Marker
import TexCompletion.Proofs.Template.Snippet
import TexCompletion.Proofs.Position.Column
import TexCompletion.Proofs.Position.Protocol
import TexCompletion.Proofs.Text.Feeds
import TexCompletion.Proofs.Session.LeftOutLine
import TexCompletion.Proofs.Session.EditRange
import TexCompletion.Proofs.Text.Returns
import TexCompletion.Proofs.Session.LineEndings
import TexCompletion.Proofs.Session.Settings
import TexCompletion.Proofs.Json.Members
import TexCompletion.Proofs.Json.Document
import TexCompletion.Proofs.Json.Form
import TexCompletion.Proofs.Server.Written
import TexCompletion.Proofs.Metadata.Listing
import TexCompletion.Proofs.Completion.Contributed
import TexCompletion.Proofs.Server.MetadataOrder
import TexCompletion.Proofs.Session.OpenContributors
import TexCompletion.Proofs.Session.Separation
import TexCompletion.Proofs.Record.Operations
import TexCompletion.Proofs.Record.Paging
import TexCompletion.Proofs.Record.History
import TexCompletion.Proofs.Record.Listing
import TexCompletion.Proofs.Text.Ending
import TexCompletion.Proofs.Record.Spelling
import TexCompletion.Proofs.Record.Rooms
import TexCompletion.Proofs.Completion.Appended
import TexCompletion.Proofs.Declaration.Matches
import TexCompletion.Proofs.Declaration.Options
import TexCompletion.Proofs.Template.Lossless
import TexCompletion.Proofs.Trigger.Channels
import TexCompletion.Proofs.Text.LineSpan
import TexCompletion.Proofs.Position.Clamp
import TexCompletion.Proofs.Position.Readings
import TexCompletion.Proofs.Completion.SortText
import TexCompletion.Proofs.Session.SortOrder
import TexCompletion.Proofs.List.Places
import TexCompletion.Proofs.Registry.Enumeration
import TexCompletion.Proofs.Registry.History
import TexCompletion.Proofs.Record.Failures
import TexCompletion.Proofs.Record.Page
import TexCompletion.Proofs.Record.SeveralRooms
import TexCompletion.Proofs.Config.Reading
import TexCompletion.Proofs.Text.HexBytes
import TexCompletion.Proofs.Json.Strings
import TexCompletion.Proofs.Record.IdText
