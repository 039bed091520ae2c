import KuryrKubernetes.Transition.Run
import KuryrKubernetes.Objects
import KuryrKubernetes.Pool.Core
import KuryrKubernetes.Pool.Driver
import KuryrKubernetes.Pool.Accounting
import KuryrKubernetes.Pool.Recycling
import KuryrKubernetes.Pool.Exclusive
import KuryrKubernetes.Pool.Filing
import KuryrKubernetes.Pool.Truthful
import KuryrKubernetes.Pool.SecurityGroups
import KuryrKubernetes.Pool.GroupRuns
import KuryrKubernetes.Handlers.MultiVif
import KuryrKubernetes.Handlers.Vif
import KuryrKubernetes.Handlers.Events
import KuryrKubernetes.Handlers.Started
import KuryrKubernetes.Handlers.StaleEvents
import KuryrKubernetes.Cni.Registry
import KuryrKubernetes.Cni.Steps
import KuryrKubernetes.Cni.Identity
import KuryrKubernetes.Cni.Removal
import KuryrKubernetes.Cni.Ownership
import KuryrKubernetes.Policy.Rules
import KuryrKubernetes.Policy.Create
import KuryrKubernetes.Policy.Traffic
import KuryrKubernetes.Effect.Ensures
import KuryrKubernetes.Policy.Allowed
import KuryrKubernetes.Policy.Driver
import KuryrKubernetes.Policy.Safety
import KuryrKubernetes.Policy.Synced
import KuryrKubernetes.Policy.Deletion
import KuryrKubernetes.Policy.SyncRuns
import KuryrKubernetes.Policy.ServiceGroups
import KuryrKubernetes.Data.Conflation
import KuryrKubernetes.Handlers.Async
import KuryrKubernetes.Handlers.AsyncRuns
import KuryrKubernetes.Data.Replay
import KuryrKubernetes.K8sClient.Watch
import KuryrKubernetes.K8sClient.WatchRuns
import KuryrKubernetes.Effect.Returns
import KuryrKubernetes.Policy.Parse
import KuryrKubernetes.Policy.ParseReturns
import KuryrKubernetes.Policy.ParseShape
import KuryrKubernetes.Lbaas.Handler
import KuryrKubernetes.Effect.Completes
import KuryrKubernetes.Lbaas.Passes
import KuryrKubernetes.Lbaas.Additions
import KuryrKubernetes.Lbaas.Synced
import KuryrKubernetes.Lbaas.Settled
import KuryrKubernetes.Lbaas.Idempotent
import KuryrKubernetes.Effect.Leads
import KuryrKubernetes.Lbaas.FloatingIps
import KuryrKubernetes.Lbaas.Attempts
import KuryrKubernetes.Lbaas.AllocatedOnce
import KuryrKubernetes.Handlers.Retry
import KuryrKubernetes.K8sClient.Annotate
import KuryrKubernetes.Lbaas.SpecHandler
import KuryrKubernetes.Namespaces.KuryrNetwork
import KuryrKubernetes.Namespaces.Labels
import KuryrKubernetes.Namespaces.Neutron
import KuryrKubernetes.Namespaces.Provisioned
import KuryrKubernetes.Watching.Watcher
import KuryrKubernetes.Watching.Runs
import KuryrKubernetes.Lbaas.Leftovers
import KuryrKubernetes.Policy.Handler
import KuryrKubernetes.Policy.Stripped
import KuryrKubernetes.Lbaas.ListenerRules
import KuryrKubernetes.Policy.Lookups
import KuryrKubernetes.Policy.PodRules
import KuryrKubernetes.Policy.Complete
import KuryrKubernetes.Lbaas.Associated
import KuryrKubernetes.Cni.Daemon
import KuryrKubernetes.Nested.Ports
import KuryrKubernetes.Nested.Vlan
import KuryrKubernetes.Nested.VlanFailures
import KuryrKubernetes.Nested.Macvlan
import KuryrKubernetes.Nested.MacvlanFailures
import KuryrKubernetes.Pool.Pacing
import KuryrKubernetes.Lbaas.StateWriters
import KuryrKubernetes.Policy.Overlaps
import KuryrKubernetes.Transition.Serial
import KuryrKubernetes.Pool.Cleanup
import KuryrKubernetes.Nested.AddressPairs
import KuryrKubernetes.Nested.PairRuns
import KuryrKubernetes.Cmd.Migration
import KuryrKubernetes.KuryrCni.Ovo
import KuryrKubernetes.KuryrCni.Plugin
import KuryrKubernetes.KuryrCni.SameResult
import KuryrKubernetes.Pool.NestedPool
import KuryrKubernetes.Pool.Backed
import KuryrKubernetes.Pool.SoundPools
import KuryrKubernetes.Pool.Freed
import KuryrKubernetes.Pool.SoundRuns
import KuryrKubernetes.Effect.Adds
import KuryrKubernetes.Policy.Elements
import KuryrKubernetes.Policy.TextPorts
import KuryrKubernetes.Policy.NamedPorts
import KuryrKubernetes.Policy.PairedPorts
import KuryrKubernetes.Policy.IpBlocks
import KuryrKubernetes.Policy.PeerResources
import KuryrKubernetes.Policy.BlockPorts
import KuryrKubernetes.Policy.GroupCreation
import KuryrKubernetes.Policy.GroupRollback
import KuryrKubernetes.Policy.GroupUpdate
import KuryrKubernetes.Policy.GroupCompared
import KuryrKubernetes.Policy.GroupReplaced
import KuryrKubernetes.Policy.GroupUpdated
import KuryrKubernetes.Lbaas.Release
import KuryrKubernetes.Lbaas.ListenerAcls
import KuryrKubernetes.Policy.AffectedServices
import KuryrKubernetes.Pool.Requests
import KuryrKubernetes.Pool.Selection
import KuryrKubernetes.Pool.Reuse
import KuryrKubernetes.Pool.RecyclingPasses
import KuryrKubernetes.Pool.Limits
import KuryrKubernetes.Pool.GroupRemoval
import KuryrKubernetes.Pool.OnDemand
import KuryrKubernetes.Policy.PodCoverage
import KuryrKubernetes.Query.Labels
import KuryrKubernetes.Query.Url
import KuryrKubernetes.Policy.SelectorQueries
import KuryrKubernetes.Data.Arrangement
import KuryrKubernetes.Policy.BlockReturns
import KuryrKubernetes.Policy.PeerOrders
import KuryrKubernetes.Policy.BlockOrders
import KuryrKubernetes.Nested.SubportRequests
import KuryrKubernetes.Sriov.Binding
import KuryrKubernetes.Cni.Dpdk
import KuryrKubernetes.Data.JsonPatch
import KuryrKubernetes.Handlers.NetworkNotations
import KuryrKubernetes.Namespaces.Upgrade
import KuryrKubernetes.Effect.Memory
import KuryrKubernetes.Net.VifNetwork
import KuryrKubernetes.Watching.Leader
import KuryrKubernetes.Handlers.Dispatch
import KuryrKubernetes.Handlers.Pipeline
import KuryrKubernetes.Data.Split
import KuryrKubernetes.Namespaces.Deletion
import KuryrKubernetes.Namespaces.Emptied
import KuryrKubernetes.Namespaces.Spared
import KuryrKubernetes.Lbaas.Ensured
import KuryrKubernetes.Lbaas.Kept
import KuryrKubernetes.Lbaas.Recorded
import KuryrKubernetes.Cni.Interfaces
import KuryrKubernetes.Cni.Nested
import KuryrKubernetes.Cni.NestedApart
import KuryrKubernetes.Cni.NestedRecovery
import KuryrKubernetes.Lbaas.Listened
