import ChartCatalog.Archive.Crc32
import ChartCatalog.Archive.Gzip
import ChartCatalog.Archive.Inflate
import ChartCatalog.Archive.Tar
import ChartCatalog.Catalog.Build
import ChartCatalog.Catalog.Jobs
import ChartCatalog.Catalog.Json
import ChartCatalog.Catalog.Model
import ChartCatalog.Cbor.Item
import ChartCatalog.Config.Duration
import ChartCatalog.Config.Settings
import ChartCatalog.Digest.Check
import ChartCatalog.Digest.Sha256
import ChartCatalog.Disk
import ChartCatalog.Error
import ChartCatalog.Http.Agent
import ChartCatalog.Http.Client
import ChartCatalog.Http.Exchange
import ChartCatalog.Http.Online
import ChartCatalog.Image.Icon
import ChartCatalog.Image.Jpeg
import ChartCatalog.Image.Png
import ChartCatalog.Image.Raster
import ChartCatalog.Image.Resize
import ChartCatalog.Json.Record
import ChartCatalog.Json.Text
import ChartCatalog.Json.Value
import ChartCatalog.Pool
import ChartCatalog.Pool.Runs
import ChartCatalog.Proofs.Archive.Extraction
import ChartCatalog.Proofs.Archive.Fields
import ChartCatalog.Proofs.Archive.Members
import ChartCatalog.Proofs.Archive.Reader
import ChartCatalog.Proofs.Archive.Truncation
import ChartCatalog.Proofs.Archive.Writer
import ChartCatalog.Proofs.Bytes
import ChartCatalog.Proofs.Catalog.Build
import ChartCatalog.Proofs.Catalog.Jobs
import ChartCatalog.Proofs.Catalog.RoundTrip
import ChartCatalog.Proofs.Catalog.StoredForms
import ChartCatalog.Proofs.Cbor.Summaries
import ChartCatalog.Proofs.Config.Duration
import ChartCatalog.Proofs.Http.Credentials
import ChartCatalog.Proofs.Json.Members
import ChartCatalog.Proofs.Json.Text
import ChartCatalog.Proofs.Pool.Delivery
import ChartCatalog.Proofs.Repository.Archive
import ChartCatalog.Proofs.Store.Backends
import ChartCatalog.Proofs.Store.Collection
import ChartCatalog.Proofs.Store.Mirror
import ChartCatalog.Proofs.Store.Reconcile
import ChartCatalog.Proofs.Store.Table
import ChartCatalog.Proofs.Sync.Artifacts
import ChartCatalog.Proofs.Sync.Exec
import ChartCatalog.Proofs.Sync.Files
import ChartCatalog.Proofs.Sync.Gate
import ChartCatalog.Proofs.Sync.Ledger
import ChartCatalog.Proofs.Sync.Pass
import ChartCatalog.Proofs.Sync.Provenance
import ChartCatalog.Proofs.Sync.Report
import ChartCatalog.Proofs.Text.Base64
import ChartCatalog.Proofs.Text.Utf8
import ChartCatalog.Proofs.Time.Calendar
import ChartCatalog.Proofs.Time.Timestamp
import ChartCatalog.Proofs.Watch.Handling
import ChartCatalog.Proofs.Watch.Readiness
import ChartCatalog.Proofs.Watch.SingleFlight
import ChartCatalog.Proofs.Web.Resolve
import ChartCatalog.Proofs.Yaml.Maps
import ChartCatalog.Repository.Address
import ChartCatalog.Repository.Index
import ChartCatalog.Store.Catalog
import ChartCatalog.Store.Collection
import ChartCatalog.Store.Documents
import ChartCatalog.Store.Filter
import ChartCatalog.Store.Open
import ChartCatalog.Store.Relational
import ChartCatalog.Store.Table
import ChartCatalog.Sync.Artifacts
import ChartCatalog.Sync.Pass
import ChartCatalog.Sync.Repository
import ChartCatalog.Text.Base64
import ChartCatalog.Text.Blank
import ChartCatalog.Text.Hex
import ChartCatalog.Text.Lowercase
import ChartCatalog.Text.Utf8
import ChartCatalog.Time.Instant
import ChartCatalog.Time.Rfc3339
import ChartCatalog.Tls.Der
import ChartCatalog.Tls.Pem
import ChartCatalog.Toml.Document
import ChartCatalog.Toml.Lexeme
import ChartCatalog.Toml.Value
import ChartCatalog.Watch.Cache
import ChartCatalog.Watch.Kv
import ChartCatalog.Watch.Loop
import ChartCatalog.Watch.Object
import ChartCatalog.Watch.Summaries
import ChartCatalog.Watch.Tasks
import ChartCatalog.Web.Address
import ChartCatalog.Web.Host
import ChartCatalog.Web.Idna
import ChartCatalog.Web.Percent
import ChartCatalog.Web.Punycode
import ChartCatalog.Web.Url
import ChartCatalog.Web.Url.Read
import ChartCatalog.Yaml.Decode
import ChartCatalog.Yaml.Document
import ChartCatalog.Yaml.Parser
import ChartCatalog.Yaml.Scanner
import ChartCatalog.Yaml.Token
