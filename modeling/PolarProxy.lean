import PolarProxy.Library.Runs
import PolarProxy.Library.Reclaim
import PolarProxy.Library.Lines
import PolarProxy.Library.SwapRemove
import PolarProxy.Library.Buckets
import PolarProxy.Library.Indexes
import PolarProxy.Library.Counts
import PolarProxy.Library.RefCounts
import PolarProxy.Policy
import PolarProxy.Scope
import PolarProxy.Split
import PolarProxy.Plan
import PolarProxy.Text
import PolarProxy.Session
import PolarProxy.Shapes
import PolarProxy.Cache
import PolarProxy.Result
import PolarProxy.Deferred
import PolarProxy.Wait
import PolarProxy.Events
import PolarProxy.TimedOut
import PolarProxy.Positions
import PolarProxy.Ledger
import PolarProxy.Aggregate
import PolarProxy.Writes
import PolarProxy.Snapshots
import PolarProxy.Reclamation
import PolarProxy.WriterEpoch
import PolarProxy.EpochInvariant
import PolarProxy.EpochRefresh
import PolarProxy.EpochSteps
import PolarProxy.EpochIsolation
import PolarProxy.MonitorEpoch
import PolarProxy.LsnPasses
import PolarProxy.LsnCoalescing
import PolarProxy.ConnList
import PolarProxy.ConnPlaces
import PolarProxy.MatchIndex
import PolarProxy.FreeList
import PolarProxy.ServerPool
import PolarProxy.PoolOps
import PolarProxy.PoolInvariant
import PolarProxy.PoolTaking
import PolarProxy.PoolSteps
import PolarProxy.PoolSystem
import PolarProxy.StartupIdentity
import PolarProxy.PoolKeys
import PolarProxy.IdentityPool
import PolarProxy.ReaderWakes
import PolarProxy.WakeCoverage
import PolarProxy.BackendIdentity
import PolarProxy.IdentityIsolation
import PolarProxy.TxnCommand
import PolarProxy.TxnState
import PolarProxy.TxnTracking
import PolarProxy.ExtendedFrame
import PolarProxy.BatchShape
import PolarProxy.CapacityRequests
import PolarProxy.PoolLimit
import PolarProxy.ReaderWaiters
import PolarProxy.WaiterAccounting
import PolarProxy.StmtRegistry
import PolarProxy.StmtInvariant
import PolarProxy.StmtReferences
import PolarProxy.ReadOnlyAction
import PolarProxy.MappingNodes
import PolarProxy.ReadOnlyMapping
import PolarProxy.Library.Partition
import PolarProxy.HeldConnections
import PolarProxy.WorkerCache
import PolarProxy.CacheLeaving
import PolarProxy.CacheConservation
import PolarProxy.Library.IntervalLists
import PolarProxy.GtidSet
import PolarProxy.QueryCache
import PolarProxy.QueryCacheIndex
import PolarProxy.QueryCacheLookup
import PolarProxy.QueryCacheAccounting
import PolarProxy.Library.Slices
import PolarProxy.Library.ExactOutcomes
import PolarProxy.ExtendedMessage
import PolarProxy.MessageEncoding
import PolarProxy.MessageParsers
import PolarProxy.BinlogReader
import PolarProxy.BinlogStream
import PolarProxy.BinlogLines
import PolarProxy.PortalMessages
import PolarProxy.BoundPortals
import PolarProxy.WrapDispatch
import PolarProxy.WrapFiltering
import PolarProxy.Library.Memory
import PolarProxy.Library.Loops
import PolarProxy.Library.PrefixBits
import PolarProxy.DigestState
import PolarProxy.DigestParsing
import PolarProxy.DigestStages
import PolarProxy.DigestSelection
import PolarProxy.DigestComments
import PolarProxy.DigestLiterals
import PolarProxy.DigestRounds
import PolarProxy.RowRuns
import PolarProxy.RowRunDetach
import PolarProxy.ReadyForQuery
import PolarProxy.PollTable
import PolarProxy.PollInvariant
import PolarProxy.WarmupTargets
import PolarProxy.WarmupExpansion
import PolarProxy.SubnetLists
import PolarProxy.SubnetMatching
import PolarProxy.TxnSlices
import PolarProxy.TxnGrammar
import PolarProxy.TxnScanning
import PolarProxy.TxnParsing
import PolarProxy.SplitTargets
import PolarProxy.ClientReadyLsn
import PolarProxy.DigestCompression
import PolarProxy.DigestIterations
import PolarProxy.DigestFrames
import PolarProxy.DigestFirstComment
import PolarProxy.DigestTermination
import PolarProxy.Library.Spreading
import PolarProxy.SelectionSequence
import PolarProxy.HostgroupLookup
import PolarProxy.RandomServer
import PolarProxy.DrawSafety
import PolarProxy.IdleMarks
import PolarProxy.IdleTrim
import PolarProxy.Library.SqlLiterals
import PolarProxy.WrapText
import PolarProxy.WaitInstall
import PolarProxy.WaitInstallRuns
import PolarProxy.ReaderSelection
import PolarProxy.ReaderGroupBusy
import PolarProxy.ReaderAcquire
import PolarProxy.TopologyReload
import PolarProxy.ReloadAtomicity
import PolarProxy.Library.Attempts
import PolarProxy.PolarWait
import PolarProxy.PolarWaitStaging
import PolarProxy.PolarWaitAtomicity
import PolarProxy.Library.SqlLexer
import PolarProxy.LockingWords
import PolarProxy.LockingDetection
import PolarProxy.Library.PrefixCodes
import PolarProxy.StartupKeys
import PolarProxy.Library.TaggedFields
import PolarProxy.NoticeResponse
import PolarProxy.ReaderFailure
import PolarProxy.FailureHandling
import PolarProxy.FailureRuns
import PolarProxy.FailureFrames
import PolarProxy.RetryPolicy
import PolarProxy.RetryCourse
import PolarProxy.SplitRetries
import PolarProxy.RetrySafety
import PolarProxy.RetryRuns
import PolarProxy.WarmupKeys
