import CrawlGraph.Adjacency
import CrawlGraph.Command.Request
import CrawlGraph.Console.Bench
import CrawlGraph.Console.Run
import CrawlGraph.Domain.Name
import CrawlGraph.Ingest.Import
import CrawlGraph.Json.Record
import CrawlGraph.Main
import CrawlGraph.Memory.Store
import CrawlGraph.Partition
import CrawlGraph.Proofs.Backends
import CrawlGraph.Proofs.Contract.Calls
import CrawlGraph.Proofs.Contract.Content
import CrawlGraph.Proofs.Contract.Draws
import CrawlGraph.Proofs.Contract.LawfulStore
import CrawlGraph.Proofs.Contract.Ledger
import CrawlGraph.Proofs.Contract.Past
import CrawlGraph.Proofs.Contract.Stamps
import CrawlGraph.Proofs.Ident.Canonical
import CrawlGraph.Proofs.Cursor.Draining
import CrawlGraph.Proofs.Identity
import CrawlGraph.Proofs.Ingest.Prune
import CrawlGraph.Proofs.Memory.Invariant
import CrawlGraph.Proofs.Memory.Lawful
import CrawlGraph.Proofs.Memory.Outcome
import CrawlGraph.Proofs.Memory.Reads
import CrawlGraph.Proofs.Outcomes
import CrawlGraph.Proofs.Partition
import CrawlGraph.Proofs.Results
import CrawlGraph.Proofs.Scan.Tiling
import CrawlGraph.Proofs.Sorting
import CrawlGraph.Proofs.Tables.Lawful
import CrawlGraph.Proofs.Tables.Outcome
import CrawlGraph.Proofs.Tables.Reading
import CrawlGraph.Proofs.Tables.Records
import CrawlGraph.Proofs.Text.ByteOrder
import CrawlGraph.Scan.Report
import CrawlGraph.Tables.Saved
import CrawlGraph.Url.Reading
import CrawlGraph.Proofs.Tables.StoredForm
import CrawlGraph.Proofs.Contract.ByUrl
import CrawlGraph.Proofs.Ingest.Entries
import CrawlGraph.Proofs.Ingest.Imported
import CrawlGraph.Proofs.Ingest.Parts
import CrawlGraph.Proofs.Ingest.Order
import CrawlGraph.Proofs.Ingest.Again
import CrawlGraph.Proofs.Removal
import CrawlGraph.Proofs.Tables.Selection
import CrawlGraph.Proofs.Tables.Keys
import CrawlGraph.Proofs.Tables.Refused
import CrawlGraph.Proofs.Domain.AsciiForm
import CrawlGraph.Proofs.Url.Redirected
import CrawlGraph.Proofs.Ingest.Spellings
import CrawlGraph.Proofs.Domain.LongLabels
import CrawlGraph.Proofs.Json.RoundTrip
import CrawlGraph.Proofs.Ident.Spelling
import CrawlGraph.Proofs.Scan.Report
import CrawlGraph.Proofs.Json.Members
import CrawlGraph.Proofs.Console.NamedDirectory
import CrawlGraph.Proofs.Tables.Saved
