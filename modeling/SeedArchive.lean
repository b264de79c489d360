import SeedArchive.Archive.Build
import SeedArchive.Archive.Layout
import SeedArchive.Archive.Listing
import SeedArchive.Archive.Manifest
import SeedArchive.Archive.Report
import SeedArchive.Archive.Timestamp
import SeedArchive.Command.Arguments
import SeedArchive.Command.Build
import SeedArchive.Command.Run
import SeedArchive.Csv.Draft
import SeedArchive.Csv.Records
import SeedArchive.Csv.Sheet
import SeedArchive.Csv.Table
import SeedArchive.Failure
import SeedArchive.Files.Disk
import SeedArchive.Files.Machine
import SeedArchive.Files.Path
import SeedArchive.Files.Replace
import SeedArchive.Files.SystemError
import SeedArchive.Json.Fault
import SeedArchive.Json.Node
import SeedArchive.Json.Record
import SeedArchive.Json.Token
import SeedArchive.Json.Value
import SeedArchive.Main
import SeedArchive.Number.Binary64
import SeedArchive.Number.Numeral
import SeedArchive.Number.Shortest
import SeedArchive.Proofs.Csv.Bytes
import SeedArchive.Proofs.Csv.Returns
import SeedArchive.Proofs.Csv.Rows
import SeedArchive.Proofs.Seed.Tables
import SeedArchive.Proofs.Text.Utf8
import SeedArchive.Seed.Account
import SeedArchive.Seed.Basic
import SeedArchive.Seed.Finding
import SeedArchive.Seed.Tables
import SeedArchive.Seed.Template
import SeedArchive.Settings
import SeedArchive.Text.Blank
import SeedArchive.Text.CodePage437
import SeedArchive.Text.Columns
import SeedArchive.Text.Emoji
import SeedArchive.Text.Follower
import SeedArchive.Text.Quoted
import SeedArchive.Text.Ranges
import SeedArchive.Text.Utf8
import SeedArchive.Text.Width
import SeedArchive.Workspace
import SeedArchive.Zip.Bytes
import SeedArchive.Zip.Checksum
import SeedArchive.Zip.Deflate
import SeedArchive.Zip.Directory
import SeedArchive.Zip.Entry
import SeedArchive.Zip.Fault
import SeedArchive.Zip.File
import SeedArchive.Zip.Header
import SeedArchive.Proofs.Seed.Written
import SeedArchive.Proofs.Zip.Stored
import SeedArchive.Proofs.Zip.Headers
import SeedArchive.Proofs.Zip.Directory
import SeedArchive.Proofs.Zip.RoundTrip
import SeedArchive.Proofs.Archive.Inspection
import SeedArchive.Proofs.Seed.Findings
import SeedArchive.Proofs.Seed.References
import SeedArchive.Proofs.Seed.Recovery
import SeedArchive.Proofs.Seed.Counting
import SeedArchive.Proofs.Text.Split
import SeedArchive.Proofs.Control.Except
import SeedArchive.Proofs.Files.Place
import SeedArchive.Proofs.Files.Machine
import SeedArchive.Proofs.Files.Replace
import SeedArchive.Proofs.Files.Calls
import SeedArchive.Proofs.Command.Build
import SeedArchive.Proofs.Json.Shape
import SeedArchive.Proofs.Json.Columns
import SeedArchive.Proofs.Seed.Accepted
import SeedArchive.Proofs.Seed.Cells
import SeedArchive.Proofs.Command.Strict
import SeedArchive.Proofs.Command.Arguments
import SeedArchive.Proofs.Archive.Verdict
import SeedArchive.Proofs.Json.Numerals
import SeedArchive.Proofs.Json.Blanks
import SeedArchive.Proofs.Json.Spacing
import SeedArchive.Proofs.Json.Bare
import SeedArchive.Proofs.Json.Reordered
import SeedArchive.Proofs.Seed.Edits
import SeedArchive.Proofs.Seed.Changes
import SeedArchive.Proofs.Number.Rounding
import SeedArchive.Proofs.Number.Shortest
import SeedArchive.Proofs.Number.Digits
import SeedArchive.Proofs.Number.Decimals
import SeedArchive.Proofs.Json.Literals
import SeedArchive.Proofs.Seed.Codes
import SeedArchive.Proofs.Archive.Manifest
import SeedArchive.Proofs.Archive.Repeats
import SeedArchive.Proofs.Csv.Unambiguous
import SeedArchive.Proofs.Settings
import SeedArchive.Proofs.Lists.Firsts
