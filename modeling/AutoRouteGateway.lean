import AutoRouteGateway.Api.OpenAi
import AutoRouteGateway.Api.CommitBoundary
import AutoRouteGateway.Api.StreamShapes
import AutoRouteGateway.Library.UpsertTable
import AutoRouteGateway.Library.ScopeChain
import AutoRouteGateway.Library.Horizon
import AutoRouteGateway.Domain.Capability
import AutoRouteGateway.Domain.State
import AutoRouteGateway.Domain.Candidate
import AutoRouteGateway.Policy.ErrorClass
import AutoRouteGateway.Policy.RetryPolicy
import AutoRouteGateway.Policy.ErrorClassifier
import AutoRouteGateway.State.Store
import AutoRouteGateway.State.InMemory
import AutoRouteGateway.State.Sqlite
import AutoRouteGateway.State.Board
import AutoRouteGateway.State.DocumentedScopes
import AutoRouteGateway.State.ScopeConfusion
import AutoRouteGateway.State.Stores
import AutoRouteGateway.Runtime.Text
import AutoRouteGateway.Runtime.Json
import AutoRouteGateway.Config.Schema
import AutoRouteGateway.Config.Loader
import AutoRouteGateway.Config.CapabilityMatrix
import AutoRouteGateway.Routing.Fallback
import AutoRouteGateway.Routing.EngineBoard
import AutoRouteGateway.Routing.BlastRadius
import AutoRouteGateway.Routing.Cooldown
import AutoRouteGateway.Routing.Exhaustion
import AutoRouteGateway.Routing.Reenable
import AutoRouteGateway.Routing.CandidateBuilder
import AutoRouteGateway.Routing.SharedRows
import AutoRouteGateway.Routing.StoreAgreement
import AutoRouteGateway.Routing.Routability
import AutoRouteGateway.Routing.MatrixFrame
import AutoRouteGateway.Routing.CapabilityGate
import AutoRouteGateway.Routing.Scorer
import AutoRouteGateway.Routing.Transient
import AutoRouteGateway.Routing.Run
import AutoRouteGateway.Routing.RunSpec
import AutoRouteGateway.Service.Payload
import AutoRouteGateway.Providers.Gemini
import AutoRouteGateway.Service.Failure
import AutoRouteGateway.Service.Gateway
import AutoRouteGateway.Service.Chat
import AutoRouteGateway.Service.ChatStream
import AutoRouteGateway.Service.LocalProblem
import AutoRouteGateway.Service.StreamDelivery
import AutoRouteGateway.State.StoreMap
import AutoRouteGateway.Service.StoreMaps
import AutoRouteGateway.Service.TerminalEvents
import AutoRouteGateway.Service.NoMixedResponse
import AutoRouteGateway.Service.StreamFallback
import AutoRouteGateway.Service.RoutingAgreement
import AutoRouteGateway.Service.StoredSecrets
import AutoRouteGateway.Service.GeminiStreams
import AutoRouteGateway.Library.Coroutine
import AutoRouteGateway.Service.Awaiting
import AutoRouteGateway.Service.Interleaving
import AutoRouteGateway.Library.NullableKeys
import AutoRouteGateway.State.InitSchema
import AutoRouteGateway.Runtime.JsonText
import AutoRouteGateway.Runtime.JsonRoundTrip
import AutoRouteGateway.Runtime.JsonScan
import AutoRouteGateway.Providers.OpenAiCompatible
import AutoRouteGateway.Api.SseText
import AutoRouteGateway.Api.App
import AutoRouteGateway.Capture.SchemaExtract
import AutoRouteGateway.Capture.TextFree
import AutoRouteGateway.Service.RetryAfter
import AutoRouteGateway.Routing.RunMaps
import AutoRouteGateway.Routing.Replay
import AutoRouteGateway.Library.FairTurns
import AutoRouteGateway.Routing.RoundRobin
import AutoRouteGateway.Routing.ScoredOrder
import AutoRouteGateway.Service.ChatOrder
import AutoRouteGateway.Service.OwnSecret
import AutoRouteGateway.Routing.RunRecord
import AutoRouteGateway.Library.NullableUpsert
import AutoRouteGateway.Policy.QuotaSignals
import AutoRouteGateway.Routing.KeyOrder
import AutoRouteGateway.Service.CapabilityDerivation
import AutoRouteGateway.State.UsageDaily
import AutoRouteGateway.Service.ProvidersOverview
import AutoRouteGateway.Routing.CandidateLimit
import AutoRouteGateway.Service.ExecutorFailures
import AutoRouteGateway.Api.HostHeader
import AutoRouteGateway.Executors.Codex
import AutoRouteGateway.Library.Audit
import AutoRouteGateway.Routing.FailureWrites
import AutoRouteGateway.Service.FailureWrites
import AutoRouteGateway.Library.Protocol
import AutoRouteGateway.Library.Bisimulation
import AutoRouteGateway.Routing.CallEffects
import AutoRouteGateway.Service.RequestProtocol
import AutoRouteGateway.Service.Traffic
import AutoRouteGateway.Service.TrafficRows
import AutoRouteGateway.Service.Indistinct
import AutoRouteGateway.Service.RouteIsolation
import AutoRouteGateway.Service.StoreDouble
import AutoRouteGateway.Service.TextBlind
import AutoRouteGateway.Library.KeyedUpsert
import AutoRouteGateway.Library.Lives
import AutoRouteGateway.Providers.HttpAdapters
import AutoRouteGateway.State.StoreFile
import AutoRouteGateway.Service.Wire
import AutoRouteGateway.Service.CoroutineMaps
import AutoRouteGateway.Service.Restarts
import AutoRouteGateway.Service.Availability
import AutoRouteGateway.Service.Endings
import AutoRouteGateway.Api.Relay
import AutoRouteGateway.Config.DotEnv
import AutoRouteGateway.Config.Document
import AutoRouteGateway.Config.Written
import AutoRouteGateway.Routing.DefaultModel
import AutoRouteGateway.Library.Calendar
import AutoRouteGateway.Runtime.DateTime
import AutoRouteGateway.State.DeadlineText
import AutoRouteGateway.Service.StoredTexts
import AutoRouteGateway.Library.Stops
import AutoRouteGateway.Service.Search
import AutoRouteGateway.Executors.CodexExecutor
