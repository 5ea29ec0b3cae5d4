import SubstrateControl.Kit.Base64
import SubstrateControl.Kit.Backoff
import SubstrateControl.Kit.Float
import SubstrateControl.Kit.FloatError
import SubstrateControl.Kit.Loop
import SubstrateControl.Kit.Machine
import SubstrateControl.Kit.Percent
import SubstrateControl.Kit.RoundUp
import SubstrateControl.Kit.Separator
import SubstrateControl.Kit.Table
import SubstrateControl.Kit.Url
import SubstrateControl.Go.Strings
import SubstrateControl.Go.Json
import SubstrateControl.Go.Maps
import SubstrateControl.Go.Utf8
import SubstrateControl.Go.Bytes
import SubstrateControl.Go.Scanner
import SubstrateControl.Go.Query
import SubstrateControl.Go.Redact
import SubstrateControl.Go.JsonText
import SubstrateControl.Go.JsonCut
import SubstrateControl.Go.JsonRewrite
import SubstrateControl.Go.JsonRead
import SubstrateControl.Go.JsonEncode
import SubstrateControl.Go.Decode
import SubstrateControl.Go.Struct
import SubstrateControl.Go.Marshal
import SubstrateControl.Go.ServeMux
import SubstrateControl.Go.Dispatch
import SubstrateControl.Substrate.Client
import SubstrateControl.Substrate.Token
import SubstrateControl.Substrate.FileToken
import SubstrateControl.Substrate.Retry
import SubstrateControl.Substrate.Applied
import SubstrateControl.Gateway.Client
import SubstrateControl.Gateway.Keys
import SubstrateControl.Gateway.Models
import SubstrateControl.Gateway.Answers
import SubstrateControl.Gateway.Admin
import SubstrateControl.Gateway.KeyFlag
import SubstrateControl.Gateway.Registration
import SubstrateControl.Gateway.Created
import SubstrateControl.Gateway.ModelAnswers
import SubstrateControl.Gateway.Targets
import SubstrateControl.Gateway.UpstreamMessage
import SubstrateControl.Kube.Object
import SubstrateControl.Gateway.MasterKey
import SubstrateControl.Router.Proxy
import SubstrateControl.Router.Redirect
import SubstrateControl.Api.Monitoring
import SubstrateControl.Api.Attribution
import SubstrateControl.Api.PodMetrics
import SubstrateControl.Api.NodeMetrics
import SubstrateControl.Api.PodTotals
import SubstrateControl.Api.Proxy
import SubstrateControl.Api.Confinement
import SubstrateControl.Api.Relay
import SubstrateControl.Api.GatewaySection
import SubstrateControl.Api.Routes
import SubstrateControl.Api.Handler
import SubstrateControl.Api.Server
import SubstrateControl.Api.Actors
import SubstrateControl.Api.ActorMessages
import SubstrateControl.Api.K8sObjects
import SubstrateControl.Api.Specs
import SubstrateControl.Api.Keys
import SubstrateControl.Api.Models
import SubstrateControl.Api.Secrets
import SubstrateControl.Api.Mutations
import SubstrateControl.Api.Reads
import SubstrateControl.Api.ActorPatch
import SubstrateControl.Api.KeyAliases
import SubstrateControl.Api.Respond
import SubstrateControl.Api.BodyKinds
import SubstrateControl.Api.StaticFiles
import SubstrateControl.Api.Bodies
import SubstrateControl.Api.Calls
import SubstrateControl.Api.ReadOutcomes
import SubstrateControl.Api.ObjectList
import SubstrateControl.Api.WorkerMessages
import SubstrateControl.Api.Wire
import SubstrateControl.Api.Control
import SubstrateControl.Js.Number
import SubstrateControl.Js.Stringify
import SubstrateControl.Js.Object
import SubstrateControl.Js.Decoded
import SubstrateControl.Js.Parse
import SubstrateControl.Js.Parsed
import SubstrateControl.Js.Types
import SubstrateControl.Js.UrlPath
import SubstrateControl.Js.UrlQuery
import SubstrateControl.Frontend.Mutation
import SubstrateControl.Frontend.K8s
import SubstrateControl.Frontend.AcceptedSpecs
import SubstrateControl.Frontend.CreatePoolDialog
import SubstrateControl.Frontend.CreateTemplateDialog
import SubstrateControl.Frontend.TemplateContainer
import SubstrateControl.Frontend.CreateActorDialog
import SubstrateControl.Frontend.CreateAtespaceDialog
import SubstrateControl.Frontend.CreateSecretDialog
import SubstrateControl.Frontend.RowEditors
import SubstrateControl.Frontend.Manifests
import SubstrateControl.Frontend.GenerateKeyDialog
import SubstrateControl.Frontend.RegisterModelDialog
import SubstrateControl.Frontend.KeyBudget
import SubstrateControl.Frontend.KeyShown
import SubstrateControl.Frontend.ActorTaskPanel
import SubstrateControl.Pforward.Supervisor
import SubstrateControl.Pforward.Readiness
import SubstrateControl.Pforward.Stdout
import SubstrateControl.Pforward.Drain
import SubstrateControl.Pforward.Signals
import SubstrateControl.Frontend.ApiUrls
import SubstrateControl.Frontend.ActorsPage
import SubstrateControl.Frontend.SpendLimit
import SubstrateControl.Frontend.ApiClient
import SubstrateControl.Frontend.ApiResult
import SubstrateControl.Frontend.Submits
import SubstrateControl.Frontend.ReadResult
import SubstrateControl.Frontend.AppliedOnce
import SubstrateControl.Frontend.ListedObjects
import SubstrateControl.Frontend.ConfirmDelete
import SubstrateControl.Frontend.ActorActions
import SubstrateControl.Frontend.Types
import SubstrateControl.Frontend.TypedBodies
import SubstrateControl.Frontend.TypedResponses
import SubstrateControl.Frontend.OverviewCounts
import SubstrateControl.Frontend.NodeRows
