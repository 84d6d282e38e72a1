import FilterWatch.Address.IPv4
import FilterWatch.Address.IPv6
import FilterWatch.Address.Server
import FilterWatch.Batch
import FilterWatch.Cache
import FilterWatch.Cache.Custom
import FilterWatch.Cache.Key
import FilterWatch.Cache.Memory
import FilterWatch.Cache.Plain
import FilterWatch.Check
import FilterWatch.Checker
import FilterWatch.Cli.Arguments
import FilterWatch.Cli.Report
import FilterWatch.Config
import FilterWatch.Dns.Keyword
import FilterWatch.Dns.Message
import FilterWatch.Dns.Name
import FilterWatch.Dns.Query
import FilterWatch.Dns.Record
import FilterWatch.Dns.RecordType
import FilterWatch.Dns.TypeCode
import FilterWatch.Dns.Wire.Decode
import FilterWatch.Dns.Wire.Options
import FilterWatch.Dns.Wire.Reader
import FilterWatch.Domain
import FilterWatch.Domain.Scan
import FilterWatch.Duration
import FilterWatch.Error
import FilterWatch.Idna.Allowed
import FilterWatch.Idna.Composites
import FilterWatch.Idna.Composition
import FilterWatch.Idna.Direction
import FilterWatch.Idna.Joining
import FilterWatch.Idna.Label
import FilterWatch.Idna.Marks
import FilterWatch.Job
import FilterWatch.Live.Exchange
import FilterWatch.Live.Run
import FilterWatch.Main
import FilterWatch.Network
import FilterWatch.Network.Script
import FilterWatch.Outcome
import FilterWatch.Probe
import FilterWatch.Registry
import FilterWatch.Resolver
import FilterWatch.Slot
import FilterWatch.Stats
import FilterWatch.Text.Base64
import FilterWatch.Text.Blank
import FilterWatch.Text.CharClass
import FilterWatch.Text.Fields
import FilterWatch.Text.Lowercase
import FilterWatch.Text.Lowercase.Context
import FilterWatch.Text.Lowercase.Runs
import FilterWatch.Text.Number
import FilterWatch.Text.Numeral
import FilterWatch.Text.Punycode
import FilterWatch.Text.Quoted
import FilterWatch.Text.Quoted.Escaped
import FilterWatch.Text.Slice
import FilterWatch.Text.Utf8
import FilterWatch.Timer
import FilterWatch.Transport.SystemError
import FilterWatch.Transport.Tcp
import FilterWatch.Transport.Udp
import FilterWatch.World
import FilterWatch.Proofs.History
import FilterWatch.Proofs.Attempts
import FilterWatch.Proofs.Failover
import FilterWatch.Proofs.MemoryCache
import FilterWatch.Proofs.Recheck
import FilterWatch.Proofs.Labels
import FilterWatch.Proofs.CacheKey
import FilterWatch.Proofs.Settled
import FilterWatch.Session
import FilterWatch.Proofs.Addresses
import FilterWatch.Proofs.Placing
import FilterWatch.Proofs.Orders
import FilterWatch.Proofs.Transparency
import FilterWatch.Proofs.Advance
import FilterWatch.Proofs.Schedule
import FilterWatch.Proofs.Course
import FilterWatch.Proofs.Steady
import FilterWatch.Proofs.Singles
import FilterWatch.Proofs.Dispatch
import FilterWatch.Proofs.Admission
import FilterWatch.Proofs.Heeds
import FilterWatch.Proofs.Stopping
import FilterWatch.Proofs.Cancellation
import FilterWatch.Proofs.Reading
import FilterWatch.Proofs.Matching
import FilterWatch.Proofs.Beginning
import FilterWatch.Proofs.Crashes
import FilterWatch.Proofs.Expiry
import FilterWatch.Proofs.Versions
import FilterWatch.Proofs.Reload
import FilterWatch.Proofs.Exhausted
import FilterWatch.Proofs.Traces
import FilterWatch.Proofs.Endings
import FilterWatch.Proofs.Records
import FilterWatch.Proofs.Keeping
import FilterWatch.Proofs.Provenance
import FilterWatch.Proofs.Filing
import FilterWatch.Proofs.Flushes
import FilterWatch.Proofs.Renewal
import FilterWatch.Proofs.Naming
import FilterWatch.Proofs.TimedMap
import FilterWatch.Proofs.Eviction
import FilterWatch.Proofs.Tallies
import FilterWatch.Proofs.Audit
import FilterWatch.Proofs.Lowercase
import FilterWatch.Proofs.Spelling
import FilterWatch.Proofs.Retries
import FilterWatch.Proofs.Timing
import FilterWatch.Proofs.Items
import FilterWatch.Proofs.CommandLine
import FilterWatch.Proofs.Deadlines
import FilterWatch.Proofs.Casing
import FilterWatch.Proofs.Decoding
import FilterWatch.Proofs.Scanning
import FilterWatch.Proofs.ExtendedErrors
import FilterWatch.Proofs.Literals
import FilterWatch.Proofs.Trimming
import FilterWatch.Proofs.Separators
import FilterWatch.Proofs.NormalForm
import FilterWatch.Proofs.Numbers
import FilterWatch.Proofs.IPAddresses
import FilterWatch.Proofs.SocketAddresses
import FilterWatch.Proofs.DefaultPort
import FilterWatch.Proofs.Questions
import FilterWatch.Proofs.Grammar
import FilterWatch.Proofs.Canonical
import FilterWatch.Proofs.Datagrams
import FilterWatch.Proofs.Segments
import FilterWatch.Proofs.Encoding
import FilterWatch.Proofs.Errands
import FilterWatch.Proofs.HealthReports
import FilterWatch.Proofs.Counters
import FilterWatch.Proofs.Overlaps
import FilterWatch.Proofs.ResolverTexts
