import Zradar.Auth.FailClosed
import Zradar.Otlp.ContentHidden
import Zradar.Otlp.LogsRetry
import Zradar.Parquet.FileUrl
import Zradar.Parquet.Pruning
import Zradar.Parquet.SpanSchema
import Zradar.Parquet.StreamBinning
import Zradar.Policies.AllSignals
import Zradar.Policies.QuotaStatus
import Zradar.Query.GroupedTotals
import Zradar.Query.TraceAgreement
import Zradar.Retention.Coherence
import Zradar.Runtime.Pipeline
import Zradar.Runtime.ResourceSampler
import Zradar.Settings.ReadYourWrites
import Zradar.Storage.DailySnapshot
import Zradar.Storage.Orphans
import Zradar.Storage.ReaderSafety
import Zradar.Storage.StreamStats
import Zradar.Wal.FailedAppend
import Zradar.Wal.GroupCommit
import Zradar.Wal.Restart
import Zradar.Policies.Comparison
import Zradar.Wal.Envelope
import Zradar.Wal.Totality
import Zradar.Policies.Percentages
import Zradar.Policies.PostgresUsage
import Zradar.Lib.Batching
import Zradar.Wal.CheckpointOrder
import Zradar.Otlp.InertLimits
import Zradar.Policies.PolicyTable
import Zradar.Policies.StoreReads
import Zradar.Retention.Boundary
import Zradar.Lib.Buckets
import Zradar.Query.MetricSeries
import Zradar.Lib.Like
import Zradar.Lib.SqlLexer
import Zradar.Query.LiteralSearch
import Zradar.Query.WhereText
import Zradar.Otlp.TokenCounts
import Zradar.Lib.Budget
import Zradar.Otlp.EventCaps
import Zradar.Otlp.ScoreAlignment
import Zradar.Otlp.AttributeStream
import Zradar.Otlp.MetricLabels
import Zradar.Storage.LeaseCounts
import Zradar.Lib.RecencyList
import Zradar.Parquet.MemoryCache
import Zradar.Otlp.RateWindow
import Zradar.Otlp.AttrSources
import Zradar.Lib.ByteReader
import Zradar.Otlp.Encoding
import Zradar.Lib.Calendar
import Zradar.Parquet.HourBuckets
import Zradar.Policies.UsageWorker
import Zradar.Parquet.BufferConservation
import Zradar.Lib.PathComponents
import Zradar.Storage.ObjectKeys
import Zradar.Lib.Rollup
import Zradar.Policies.UsageAggregation
import Zradar.Lib.Separated
import Zradar.Parquet.QuoteIdentifier
import Zradar.Otlp.DiskUsage
import Zradar.Otlp.MetricRows
import Zradar.Query.PolicyRange
import Zradar.Storage.RetentionBuckets
import Zradar.Otlp.LogLimiter
import Zradar.Otlp.Admission
import Zradar.Wal.CheckpointStore
import Zradar.Parquet.Recovery
import Zradar.Parquet.AtomicWrites
import Zradar.Parquet.SignalSchemas
import Zradar.Metrics.Hub
import Zradar.Metrics.Observations
import Zradar.Policies.Administration
import Zradar.Lib.Awaiting
import Zradar.Lib.KeyedTable
import Zradar.Policies.Enforcement
import Zradar.Policies.EnforcementSpec
import Zradar.Policies.EnforcementTrail
import Zradar.Lib.RankedPages
import Zradar.Settings.AuditLog
import Zradar.Settings.AuditSpec
import Zradar.Settings.AuditTrail
