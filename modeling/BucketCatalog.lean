import BucketCatalog.Asset
import BucketCatalog.Batch.Descriptor
import BucketCatalog.Batch.Overrides
import BucketCatalog.Batch.Request
import BucketCatalog.Bucket
import BucketCatalog.Bucket.StorageError
import BucketCatalog.Catalog
import BucketCatalog.Catalog.Action
import BucketCatalog.Catalog.Fleet
import BucketCatalog.Credentials
import BucketCatalog.Cursor
import BucketCatalog.Decimal.Shortest
import BucketCatalog.Fault
import BucketCatalog.Instant
import BucketCatalog.Json
import BucketCatalog.Json.Printer
import BucketCatalog.Json.Reader
import BucketCatalog.Json.Record
import BucketCatalog.Listing.Entry
import BucketCatalog.Listing.Page
import BucketCatalog.Listing.Request
import BucketCatalog.Locator
import BucketCatalog.Partition
import BucketCatalog.Regex.CharSet
import BucketCatalog.Regex.Parser
import BucketCatalog.Regex.Pattern
import BucketCatalog.Regex.Room
import BucketCatalog.Regex.Search
import BucketCatalog.Regex.Token
import BucketCatalog.Remote
import BucketCatalog.Remote.Chain
import BucketCatalog.Remote.Recorded
import BucketCatalog.Remote.Script
import BucketCatalog.Retrieved
import BucketCatalog.Session
import BucketCatalog.Settings
import BucketCatalog.StoreFailure
import BucketCatalog.StoredPath
import BucketCatalog.Table
import BucketCatalog.Text
import BucketCatalog.Text.Quoted
import BucketCatalog.Unicode.Age
import BucketCatalog.Unicode.Break
import BucketCatalog.Unicode.Category
import BucketCatalog.Unicode.Fold
import BucketCatalog.Unicode.Next
import BucketCatalog.Unicode.Property
import BucketCatalog.Unicode.Ranges
import BucketCatalog.Unicode.Script
import BucketCatalog.Unicode.Word
import BucketCatalog.Walk
import BucketCatalog.Proofs.Date
import BucketCatalog.Proofs.Instant
import BucketCatalog.Proofs.Partition
import BucketCatalog.Proofs.Regex.Matches
import BucketCatalog.Proofs.Regex.Plan
import BucketCatalog.Proofs.StoredPath
import BucketCatalog.Proofs.Gather
import BucketCatalog.Proofs.Bucket
import BucketCatalog.Proofs.Bucket.Failing
import BucketCatalog.Proofs.Bucket.Folders
import BucketCatalog.Proofs.Chain.Blocks
import BucketCatalog.Proofs.Chain.Edited
import BucketCatalog.Proofs.Chain.Offset
import BucketCatalog.Proofs.Chain.Tree
import BucketCatalog.Proofs.Walk
import BucketCatalog.Proofs.Walk.Draining
import BucketCatalog.Proofs.Walk.Listing
import BucketCatalog.Proofs.Walk.Retried
import BucketCatalog.Proofs.Walk.Abandoned
import BucketCatalog.Proofs.Walk.Ascending
import BucketCatalog.Proofs.Walk.Blocks
import BucketCatalog.Proofs.Walk.PageSize
import BucketCatalog.Proofs.Walk.Saved
import BucketCatalog.Proofs.Locator
import BucketCatalog.Proofs.Walk.Steady
import BucketCatalog.Proofs.Catalog
import BucketCatalog.Proofs.Session
import BucketCatalog.Proofs.Catalog.Addresses
import BucketCatalog.Proofs.Catalog.Fetching
import BucketCatalog.Proofs.Catalog.FolderBatches
import BucketCatalog.Proofs.Catalog.Partitions
import BucketCatalog.Proofs.Catalog.Interference
import BucketCatalog.Proofs.Catalog.Layers
import BucketCatalog.Proofs.Catalog.Provenance
import BucketCatalog.Proofs.Catalog.Remainders
import BucketCatalog.Proofs.Catalog.Sentinels
import BucketCatalog.Proofs.Json.Record
import BucketCatalog.Proofs.Json.RoundTrip
import BucketCatalog.Proofs.Regex.Search
import BucketCatalog.Proofs.Regex.Followed
import BucketCatalog.Proofs.Asset
import BucketCatalog.Proofs.Asset.Filter
