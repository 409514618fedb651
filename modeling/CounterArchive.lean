import CounterArchive.Agent
import CounterArchive.Binary64
import CounterArchive.Calendar.Date
import CounterArchive.Calendar.DateTime
import CounterArchive.Calendar.Instant
import CounterArchive.Calendar.Reading
import CounterArchive.Clock
import CounterArchive.Collector.Archive
import CounterArchive.Collector.Basic
import CounterArchive.Connection
import CounterArchive.Counter.Basic
import CounterArchive.Counter.Document
import CounterArchive.Failure
import CounterArchive.FileTree.Basic
import CounterArchive.FileTree.Path
import CounterArchive.Gzip.Code
import CounterArchive.Gzip.Crc32
import CounterArchive.Gzip.Decoder
import CounterArchive.Gzip.Deflater
import CounterArchive.Gzip.Fault
import CounterArchive.Gzip.File
import CounterArchive.Gzip.Inflate
import CounterArchive.Gzip.Symbols
import CounterArchive.Host
import CounterArchive.Journal
import CounterArchive.Json.Basic
import CounterArchive.Json.Check
import CounterArchive.Json.Printer
import CounterArchive.Json.Reader
import CounterArchive.Metrics
import CounterArchive.Numeral
import CounterArchive.Numeral.Plain
import CounterArchive.Proofs.Archive.Accounts
import CounterArchive.Proofs.Archive.Activity
import CounterArchive.Proofs.Archive.Bare
import CounterArchive.Proofs.Archive.Changes
import CounterArchive.Proofs.Archive.Coverage
import CounterArchive.Proofs.Archive.Cutoff
import CounterArchive.Proofs.Archive.Damage
import CounterArchive.Proofs.Archive.Effects
import CounterArchive.Proofs.Archive.Entries
import CounterArchive.Proofs.Archive.Expiry
import CounterArchive.Proofs.Archive.Footprint
import CounterArchive.Proofs.Archive.Index
import CounterArchive.Proofs.Archive.Isolation
import CounterArchive.Proofs.Archive.Ledger
import CounterArchive.Proofs.Archive.NormalForm
import CounterArchive.Proofs.Archive.Ownership
import CounterArchive.Proofs.Archive.Places
import CounterArchive.Proofs.Archive.Purge
import CounterArchive.Proofs.Archive.ReadBack
import CounterArchive.Proofs.Archive.Refinement
import CounterArchive.Proofs.Archive.Replacement
import CounterArchive.Proofs.Archive.Restart
import CounterArchive.Proofs.Archive.Retention
import CounterArchive.Proofs.Archive.Rounds
import CounterArchive.Proofs.Archive.Sealed
import CounterArchive.Proofs.Archive.Session
import CounterArchive.Proofs.Archive.Start
import CounterArchive.Proofs.Archive.Stocked
import CounterArchive.Proofs.Archive.Store
import CounterArchive.Proofs.Archive.Sweep
import CounterArchive.Proofs.Archive.Transparency
import CounterArchive.Proofs.Archive.Trees
import CounterArchive.Proofs.Archive.Updates
import CounterArchive.Proofs.Archive.Window
import CounterArchive.Proofs.Archive.Writes
import CounterArchive.Proofs.Binary64
import CounterArchive.Proofs.Calendar.Days
import CounterArchive.Proofs.Calendar.Instants
import CounterArchive.Proofs.Calendar.Stored
import CounterArchive.Proofs.Clock
import CounterArchive.Proofs.Collector
import CounterArchive.Proofs.Connection.Date
import CounterArchive.Proofs.Connection.Trace
import CounterArchive.Proofs.Counter.Document
import CounterArchive.Proofs.Counter.Halt
import CounterArchive.Proofs.Counter.Integers
import CounterArchive.Proofs.Counter.Tally
import CounterArchive.Proofs.Counter.Uses
import CounterArchive.Proofs.FileTree.Changes
import CounterArchive.Proofs.FileTree.Growth
import CounterArchive.Proofs.FileTree.Listing
import CounterArchive.Proofs.FileTree.Losses
import CounterArchive.Proofs.FileTree.Path
import CounterArchive.Proofs.FileTree.Trails
import CounterArchive.Proofs.FileTree.WellFormed
import CounterArchive.Proofs.Gzip.RoundTrip
import CounterArchive.Proofs.Json.Depth
import CounterArchive.Proofs.Json.Integers
import CounterArchive.Proofs.Json.RoundTrip
import CounterArchive.Proofs.Json.Strings
import CounterArchive.Proofs.Numeral
import CounterArchive.Proofs.Numeral.Limit
import CounterArchive.Proofs.Numeral.Signed
import CounterArchive.Proofs.Snapshot.Codec
import CounterArchive.Proofs.Table
import CounterArchive.Proofs.Text.Utf8
import CounterArchive.Registry
import CounterArchive.Retention
import CounterArchive.Settings
import CounterArchive.Snapshot.Codec
import CounterArchive.Snapshot.Purge
import CounterArchive.Snapshot.Store
import CounterArchive.Table
import CounterArchive.Text.Blank
import CounterArchive.Text.DecimalDigit
import CounterArchive.Text.Printable
import CounterArchive.Text.Quoted
import CounterArchive.Text.Utf8
import CounterArchive.World
