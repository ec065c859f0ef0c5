import QmlExport.Answer
import QmlExport.Answer.Display
import QmlExport.Bench
import QmlExport.Catalog
import QmlExport.Code.Artboard
import QmlExport.Code.Export
import QmlExport.Code.Indent
import QmlExport.Code.Literal
import QmlExport.Code.Marker
import QmlExport.Code.Tree
import QmlExport.Command
import QmlExport.Command.Program
import QmlExport.Command.Reach
import QmlExport.CommandLine
import QmlExport.CommandLine.Reading
import QmlExport.Decimal.Numeral
import QmlExport.Decimal.Reading
import QmlExport.Decimal.Shortest
import QmlExport.Design.Alignment
import QmlExport.Design.Codec
import QmlExport.Design.Document
import QmlExport.Design.Options
import QmlExport.Disk
import QmlExport.Disk.Changes
import QmlExport.Failure
import QmlExport.Fonts.Fetch
import QmlExport.Fonts.Naming
import QmlExport.Fonts.Source
import QmlExport.Host
import QmlExport.Host.Address
import QmlExport.Host.Label
import QmlExport.Host.Mapping
import QmlExport.Host.Punycode
import QmlExport.Host.Replacement
import QmlExport.Identifier
import QmlExport.Json.Decoder
import QmlExport.Json.Lexer
import QmlExport.Json.Parser
import QmlExport.Json.Printer
import QmlExport.Json.Value
import QmlExport.Main
import QmlExport.Package
import QmlExport.Package.Name
import QmlExport.Path
import QmlExport.Progress
import QmlExport.Proofs.Code.Delimiters
import QmlExport.Proofs.Code.Families
import QmlExport.Proofs.Code.Layout
import QmlExport.Proofs.Code.Literals
import QmlExport.Proofs.Code.Markers
import QmlExport.Proofs.Code.Names
import QmlExport.Proofs.Code.Nesting
import QmlExport.Proofs.Code.Rows
import QmlExport.Proofs.Code.Sheets
import QmlExport.Proofs.Code.Texts
import QmlExport.Proofs.Code.Tidy
import QmlExport.Proofs.Decimal.Digits
import QmlExport.Proofs.Decimal.Doubles
import QmlExport.Proofs.Decimal.Reading
import QmlExport.Proofs.Decimal.Reread
import QmlExport.Proofs.Decimal.Rounding
import QmlExport.Proofs.Decimal.Shortest
import QmlExport.Proofs.Design.Codec
import QmlExport.Proofs.Design.Finite
import QmlExport.Proofs.Design.Numbers
import QmlExport.Proofs.Json.Decoding
import QmlExport.Proofs.Json.RoundTrip
import QmlExport.Proofs.Json.Tokens
import QmlExport.Proofs.Package.Build
import QmlExport.Proofs.Package.Images
import QmlExport.Proofs.Package.Members
import QmlExport.Proofs.Package.ReadOnly
import QmlExport.Proofs.Package.Sources
import QmlExport.Proofs.Run.Accepted
import QmlExport.Proofs.Run.Ends
import QmlExport.Proofs.Run.Fonts
import QmlExport.Proofs.Run.Lifecycle
import QmlExport.Proofs.Run.Outcome
import QmlExport.Proofs.Run.Preparation
import QmlExport.Proofs.Run.Provenance
import QmlExport.Proofs.Run.Retry
import QmlExport.Proofs.Run.Transformation
import QmlExport.Proofs.Store.Contents
import QmlExport.Proofs.Store.Documents
import QmlExport.Proofs.Store.Upload
import QmlExport.Proofs.Store.View
import QmlExport.Proofs.Text.Lines
import QmlExport.Proofs.Text.Octets
import QmlExport.Run
import QmlExport.Run.Report
import QmlExport.Run.Split
import QmlExport.Settings
import QmlExport.Settings.Duration
import QmlExport.Settings.Url
import QmlExport.Store.Database
import QmlExport.Store.Record
import QmlExport.Store.Storage
import QmlExport.Text.Alphanumeric
import QmlExport.Text.Base64
import QmlExport.Text.Blank
import QmlExport.Text.CodePage437
import QmlExport.Text.CombiningClass
import QmlExport.Text.Composite
import QmlExport.Text.Composition
import QmlExport.Text.Direction
import QmlExport.Text.Joining
import QmlExport.Text.LetterCase
import QmlExport.Text.Mark
import QmlExport.Text.Numeral
import QmlExport.Text.Ranges
import QmlExport.Text.Utf8
import QmlExport.Toml.Document
import QmlExport.Toml.Quoted
import QmlExport.Toml.Scalar
import QmlExport.Toml.Table
import QmlExport.Upload
import QmlExport.Zip.Archive
import QmlExport.Zip.Checksum
import QmlExport.Zip.Ending
import QmlExport.Zip.Extra
import QmlExport.Zip.Field
import QmlExport.Zip.Huffman
import QmlExport.Zip.Inflate
import QmlExport.Zip.Writer
import QmlExport.Proofs.Disk.Items
import QmlExport.Proofs.Disk.Paths
import QmlExport.Proofs.Store.Folder
import QmlExport.Proofs.Store.Opening
import QmlExport.Proofs.Disk.Making
import QmlExport.Proofs.Store.Mirror
import QmlExport.Proofs.Store.Operations
import QmlExport.Proofs.Run.Isolation
import QmlExport.Proofs.Run.Milestones
import QmlExport.Proofs.Run.Refetching
import QmlExport.Proofs.Store.Remains
import QmlExport.Proofs.Run.Resumption
import QmlExport.Proofs.Code.Shape
import QmlExport.Proofs.Store.RoundTrip
import QmlExport.Proofs.Store.Handles
import QmlExport.Proofs.Command.Conversion
import QmlExport.Proofs.Code.Identities
import QmlExport.Proofs.Run.Families
import QmlExport.Proofs.Package.Locations
import QmlExport.Proofs.Run.Sparing
import QmlExport.Proofs.Catalog
import QmlExport.Proofs.Fonts.Fetching
import QmlExport.Proofs.Run.Accounting
import QmlExport.Proofs.Run.Availability
import QmlExport.Proofs.Run.Classification
import QmlExport.Proofs.Run.Splitting
import QmlExport.Proofs.Run.Reordering
import QmlExport.Proofs.Code.Sanitized
import QmlExport.Proofs.Code.Spacing
import QmlExport.Proofs.Package.Names
import QmlExport.Proofs.Package.Milestones
import QmlExport.Proofs.Progress
import QmlExport.Proofs.Code.Insertion
import QmlExport.Proofs.Json.Layout
import QmlExport.Proofs.Answer
import QmlExport.Proofs.Disk.Depth
import QmlExport.Proofs.Store.Versions
import QmlExport.Proofs.Store.Reset
import QmlExport.Proofs.Code.Walk
import QmlExport.Proofs.Fonts.Naming
import QmlExport.Proofs.Code.Unwrapping
