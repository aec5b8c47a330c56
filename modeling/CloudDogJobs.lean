import CloudDogJobs.Admin.Clones
import CloudDogJobs.Admin.Lifecycle
import CloudDogJobs.Admin.Priority
import CloudDogJobs.Admin.Reassignment
import CloudDogJobs.Admin.Service
import CloudDogJobs.Backend.Base
import CloudDogJobs.Backend.Board
import CloudDogJobs.Backend.ClaimAccount
import CloudDogJobs.Backend.DispatchIndex
import CloudDogJobs.Backend.DispatchOrder
import CloudDogJobs.Backend.DoubleScores
import CloudDogJobs.Backend.Fencing
import CloudDogJobs.Backend.FilteredDequeue
import CloudDogJobs.Backend.Hybrid
import CloudDogJobs.Backend.HybridCrossing
import CloudDogJobs.Backend.HybridFailure
import CloudDogJobs.Backend.HybridSequential
import CloudDogJobs.Backend.Interchange
import CloudDogJobs.Backend.Journal
import CloudDogJobs.Backend.LeaseOperations
import CloudDogJobs.Backend.LeaseQueue
import CloudDogJobs.Backend.LeaseRefinement
import CloudDogJobs.Backend.Memory
import CloudDogJobs.Backend.Recording
import CloudDogJobs.Backend.Recovery
import CloudDogJobs.Backend.Redis
import CloudDogJobs.Backend.RedisEncoding
import CloudDogJobs.Backend.RedisLegibility
import CloudDogJobs.Backend.RedisSequential
import CloudDogJobs.Backend.RedisWorkers
import CloudDogJobs.Backend.Renewal
import CloudDogJobs.Backend.StatusWrites
import CloudDogJobs.Backend.Sweep
import CloudDogJobs.Backend.WaitingLine
import CloudDogJobs.Broker.AllOrNothing
import CloudDogJobs.Broker.Capacity
import CloudDogJobs.Broker.Deadlock
import CloudDogJobs.Broker.Discovery
import CloudDogJobs.Broker.FairShare
import CloudDogJobs.Broker.Priority
import CloudDogJobs.Broker.RateLimit
import CloudDogJobs.Broker.Registration
import CloudDogJobs.Broker.Registry
import CloudDogJobs.Broker.Usage
import CloudDogJobs.Callbacks.Delivery
import CloudDogJobs.Callbacks.Durability
import CloudDogJobs.Callbacks.Manager
import CloudDogJobs.Domain.Codec
import CloudDogJobs.Domain.Model
import CloudDogJobs.Domain.Nesting
import CloudDogJobs.Domain.Numerals
import CloudDogJobs.Domain.StateMachine
import CloudDogJobs.Domain.Texts
import CloudDogJobs.Extensions.Fallback
import CloudDogJobs.Extensions.SharedSets
import CloudDogJobs.Extensions.StateExtensions
import CloudDogJobs.Fanout.Aggregation
import CloudDogJobs.Fanout.Completion
import CloudDogJobs.Fanout.Manager
import CloudDogJobs.Fanout.Tracking
import CloudDogJobs.Foundation.Dict
import CloudDogJobs.Foundation.Doubles
import CloudDogJobs.Foundation.FixedWindow
import CloudDogJobs.Foundation.Greedy
import CloudDogJobs.Foundation.Heap
import CloudDogJobs.Foundation.Interleaving
import CloudDogJobs.Foundation.Objects
import CloudDogJobs.Foundation.Polling
import CloudDogJobs.Foundation.Program
import CloudDogJobs.Foundation.Records
import CloudDogJobs.Foundation.Refinement
import CloudDogJobs.Foundation.Search
import CloudDogJobs.Foundation.Sequence
import CloudDogJobs.Foundation.Spending
import CloudDogJobs.Foundation.StableSort
import CloudDogJobs.Foundation.Tally
import CloudDogJobs.Foundation.TextSize
import CloudDogJobs.Foundation.Tokens
import CloudDogJobs.Maintenance.Reaper
import CloudDogJobs.Maintenance.SweepAccount
import CloudDogJobs.Mcp.JobTools
import CloudDogJobs.Mcp.Session
import CloudDogJobs.Queue.Admission
import CloudDogJobs.Queue.Atomicity
import CloudDogJobs.Queue.Batch
import CloudDogJobs.Queue.Deduplication
import CloudDogJobs.Queue.DependencyGate
import CloudDogJobs.Queue.Queue
import CloudDogJobs.Queue.Submission
import CloudDogJobs.Scheduler.BlockedJobs
import CloudDogJobs.Scheduler.Concurrency
import CloudDogJobs.Scheduler.Dependency
import CloudDogJobs.Scheduler.Dispatcher
import CloudDogJobs.Scheduler.FailedDependency
import CloudDogJobs.Scheduler.GreedySelection
import CloudDogJobs.Scheduler.OwnLimits
import CloudDogJobs.Scheduler.ResourcePool
import CloudDogJobs.Scheduler.Selection
import CloudDogJobs.Scheduler.SlotAccount
import CloudDogJobs.Security.Payload
import CloudDogJobs.Security.StoredSecrets
import CloudDogJobs.Security.StoredSize
import CloudDogJobs.Storage.Metadata
import CloudDogJobs.Storage.Models
import CloudDogJobs.Storage.Repository
import CloudDogJobs.Storage.RoundTrip
import CloudDogJobs.Storage.Sequential
import CloudDogJobs.Storage.Statements
import CloudDogJobs.Storage.Workers
import CloudDogJobs.Worker.Bookkeeping
import CloudDogJobs.Worker.Cancellation
import CloudDogJobs.Worker.Commands
import CloudDogJobs.Worker.ConcurrencyAccount
import CloudDogJobs.Worker.Custody
import CloudDogJobs.Worker.DeadLetters
import CloudDogJobs.Worker.Drain
import CloudDogJobs.Worker.Draining
import CloudDogJobs.Worker.Ending
import CloudDogJobs.Worker.Footprint
import CloudDogJobs.Worker.HeadOfQueue
import CloudDogJobs.Worker.Letters
import CloudDogJobs.Worker.Limits
import CloudDogJobs.Worker.Line
import CloudDogJobs.Worker.Loop
import CloudDogJobs.Worker.Outcome
import CloudDogJobs.Worker.PoolAccount
import CloudDogJobs.Worker.Protocol
import CloudDogJobs.Worker.Restriction
import CloudDogJobs.Worker.Sequential
import CloudDogJobs.Worker.Starts
import CloudDogJobs.Worker.Watched
import CloudDogJobs.Worker.Worker
