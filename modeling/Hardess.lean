import Hardess.Lib.JsString
import Hardess.Lib.JsNumber
import Hardess.Lib.NumberText
import Hardess.Lib.Json
import Hardess.Lib.JsonParse
import Hardess.Lib.JsonRoundTrip
import Hardess.Lib.JsMap
import Hardess.Lib.Machine
import Hardess.Lib.NumberOrder
import Hardess.Lib.Zod
import Hardess.Shared.Types
import Hardess.Shared.Envelope
import Hardess.Shared.Schema
import Hardess.Cluster.Health
import Hardess.Cluster.HealthStep
import Hardess.Cluster.Suspicion
import Hardess.Cluster.HealthOrder
import Hardess.Cluster.HealthCalls
import Hardess.Cluster.AntiEntropy
import Hardess.Cluster.Schema
import Hardess.Cluster.Codec
import Hardess.Cluster.Locate
import Hardess.Cluster.Network
import Hardess.Cluster.NetworkStep
import Hardess.Cluster.NetworkEffects
import Hardess.Cluster.Gate
import Hardess.Cluster.Teardown
import Hardess.Cluster.Calm
import Hardess.Cluster.Connecting
import Hardess.Cluster.Membership
import Hardess.Cluster.Crossing
import Hardess.Cluster.SimultaneousConnect
import Hardess.Cluster.SendQueue
import Hardess.Cluster.ControlHttp
import Hardess.Cluster.Transports
import Hardess.Cluster.Reports
import Hardess.App.PeerHealth
import Hardess.Routing.PeerLocator
import Hardess.Routing.PeerCounts
import Hardess.Cluster.DistributedPeerLocator
import Hardess.Cluster.Invalidation
import Hardess.Ingress.Outbox
import Hardess.Ingress.WebSocket
import Hardess.Ingress.WebSocketStep
import Hardess.Ingress.WebSocketEvents
import Hardess.Ingress.Identity
import Hardess.Ingress.AfterClose
import Hardess.Ingress.Overflow
import Hardess.Ingress.Registrations
import Hardess.Ingress.Quotas
import Hardess.Ingress.EarlyAck
import Hardess.Ingress.Dedupe
import Hardess.Ingress.Groups
import Hardess.Ingress.FanOut
import Hardess.Ingress.Nodes
import Hardess.Ingress.HandleAck
import Hardess.Ingress.Receipts
import Hardess.Ingress.AtMostOnce
import Hardess.App.RoutingApp
import Hardess.App.StaticPeers
import Hardess.App.RoutingApps
import Hardess.App.GroupIsolation
import Hardess.Lib.PosixPath
import Hardess.Lib.ListMapM
import Hardess.Lib.SlashPath
import Hardess.Lib.StringToNumber
import Hardess.Lib.LongestMatch
import Hardess.Lib.JsMapIndex
import Hardess.Lib.KeyEdits
import Hardess.Shared.AdminTypes
import Hardess.Shared.Config
import Hardess.Control.ArtifactStore
import Hardess.Control.StagePlans
import Hardess.Control.StagedPaths
import Hardess.Control.Stagings
import Hardess.Control.StagedDigest
import Hardess.Control.ProjectInstalls
import Hardess.Protocol.Registry
import Hardess.Control.ServiceModuleManager
import Hardess.Control.Reconciliation
import Hardess.Control.ServiceModuleRuns
import Hardess.Control.RuntimeHostAdapter
import Hardess.Control.RegistryEdits
import Hardess.Control.ApplyOutcomes
import Hardess.Control.AssignmentFailures
import Hardess.Serve.App
import Hardess.Serve.Worker
import Hardess.Serve.MountedMiddleware
import Hardess.Control.TopologyStore
import Hardess.Ingress.Http
import Hardess.Ingress.ForwardHops
import Hardess.Control.Planning
import Hardess.Control.Placement
import Hardess.Control.HttpFleet
import Hardess.Ingress.LocationTransparency
import Hardess.Workers.WorkerRuntime
import Hardess.Workers.StagedWorkers
import Hardess.Workers.GenerationIsolation
import Hardess.Config.ModuleConfigStore
import Hardess.Config.Subscribers
import Hardess.Auth.JwtProvider
import Hardess.Auth.AcceptedTokens
import Hardess.Lib.BoundedReplacement
import Hardess.Lib.SortedFront
import Hardess.Control.Rollout
import Hardess.Control.RolloutRounds
import Hardess.Control.Replanning
import Hardess.Sdk.HardessClient
import Hardess.Sdk.Deliveries
import Hardess.Sdk.SettledWaits
import Hardess.Sdk.StableOutcomes
import Hardess.Proxy.UpstreamWebSocket
import Hardess.Lib.SortedPerm
import Hardess.Control.HostSelection
import Hardess.Control.RuntimeSummary
import Hardess.Control.RuntimeReadModel
import Hardess.Control.RuntimeIds
import Hardess.Control.ConvergedHosts
import Hardess.Control.AppliedHosts
import Hardess.Lib.OrderIndependence
import Hardess.Lib.JsMapGroup
import Hardess.Control.IngressRequirements
import Hardess.Control.PlacementContents
import Hardess.Control.RequirementContents
import Hardess.Control.SnapshotOrder
import Hardess.Lib.Fifo
import Hardess.Ingress.EgressOrder
import Hardess.Cluster.SendOrder
import Hardess.Control.TargetSelection
import Hardess.App.HealthMirror
import Hardess.Lib.JoinedKey
import Hardess.Protocol.RegistryMap
import Hardess.Lib.Regex
import Hardess.Lib.RegexSource
import Hardess.Serve.Patterns
import Hardess.Lib.UriComponent
import Hardess.Serve.Requests
import Hardess.Auth.TokenLifetime
import Hardess.Auth.AuthErrors
import Hardess.Auth.FailClosed
import Hardess.Lib.Utf8
import Hardess.Control.ProtocolPackages
import Hardess.Control.HostAgent
import Hardess.Control.HostPolling
import Hardess.Sdk.WebSocketTransport
import Hardess.Sdk.Reconnects
import Hardess.Lib.SlidingWindow
import Hardess.Ingress.RateLimit
import Hardess.Lib.ListRtake
import Hardess.Observability.Metrics
import Hardess.Lib.JsMapBuckets
import Hardess.Routing.PeerIndexes
import Hardess.Lib.ReadableStream
import Hardess.Proxy.Upstream
import Hardess.App.HttpLifecycle
import Hardess.Ingress.UpstreamIdentity
import Hardess.Protocol.SystemHandlers
import Hardess.Sdk.SystemFrames
import Hardess.Ingress.HeardFrames
import Hardess.Auth.AuthService
import Hardess.Auth.TokenRefusals
import Hardess.Ingress.SpokenFrames
import Hardess.Proxy.BridgeRuns
import Hardess.Control.AdminTransport
import Hardess.Control.HostResumption
import Hardess.Control.PolledHosts
import Hardess.Control.PolledConvergence
import Hardess.Lib.JustifiedLog
import Hardess.Sdk.ConnectedClient
import Hardess.Sdk.Sessions
import Hardess.Proxy.BridgeUpgrades
import Hardess.App.Deployment
import Hardess.App.KnownClients
