import TskProtocol.Lib.Machine
import TskProtocol.Lib.OrderedMap
import TskProtocol.Core.MirrorHmac
import TskProtocol.Core.Agreement
import TskProtocol.Core.Roundtrip
import TskProtocol.Core.GenerateLaws
import TskProtocol.Server.OneTime
import TskProtocol.Server.Lifecycle
import TskProtocol.Client.Drift
import TskProtocol.Json
import TskProtocol.Bridge.UltraVerify
import TskProtocol.Bridge.HttpAdapters
import TskProtocol.Server.Fenced
import TskProtocol.Server.AccessOrder
import TskProtocol.Server.FileTransactions
import TskProtocol.Server.RateLimiter
import TskProtocol.Server.ProvisionRuns
import TskProtocol.Server.AnomalyWindow
import TskProtocol.Transactor.Runs
import TskProtocol.Replication.Receiver
import TskProtocol.Replication.Ingest
import TskProtocol.Replication.Source
import TskProtocol.Replication.Replay
import TskProtocol.Replication.Mirror
import TskProtocol.Replication.PromotionCheckpoint
import TskProtocol.Replication.Push
import TskProtocol.Replication.WireForm
import TskProtocol.Replication.WireEnvelope
import TskProtocol.Replication.WireChecks
import TskProtocol.Replication.WireTyped
import TskProtocol.Outbox.Admission
import TskProtocol.Outbox.Quarantine
import TskProtocol.Outbox.ReplayNonces
import TskProtocol.Outbox.Exchange
import TskProtocol.Outbox.Preimages
import TskProtocol.Lib.SignedChain
import TskProtocol.SourceFence.Lease
import TskProtocol.SourceFence.LeaseHistory
import TskProtocol.SourceFence.Witness
import TskProtocol.SourceFence.Freeze
import TskProtocol.SourceFence.HonestWitness
import TskProtocol.SourceFence.Receivers
import TskProtocol.Control.Leases
import TskProtocol.Control.Activations
import TskProtocol.Control.Installs
import TskProtocol.Principal.Commitment
import TskProtocol.Principal.Streams
import TskProtocol.Lib.Transaction
import TskProtocol.Server.RedisFencing
import TskProtocol.Principal.SingleUse
import TskProtocol.Cache.PrincipalCache
import TskProtocol.Cache.AgentCaches
import TskProtocol.Client.Failover
import TskProtocol.Client.Storage
import TskProtocol.Control.Evidence
import TskProtocol.Control.Provisioning
import TskProtocol.Control.Migration
import TskProtocol.Core.ConstantTime
import TskProtocol.Control.SignedHistories
import TskProtocol.Control.Pipeline
import TskProtocol.TumblerMapStore.Map
import TskProtocol.TumblerMapStore.Mutation
import TskProtocol.TumblerMapStore.MutationLaws
import TskProtocol.TumblerMapStore.Authority
import TskProtocol.TumblerMapStore.MapStore
import TskProtocol.TumblerMapStore.View
import TskProtocol.TumblerMapStore.AuthorityLaws
import TskProtocol.TumblerMapStore.Growth
import TskProtocol.TumblerMapStore.StoreCalls
import TskProtocol.TumblerMapStore.Runs
import TskProtocol.TumblerMapStore.Tickets
