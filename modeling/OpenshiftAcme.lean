import OpenshiftAcme.Api.Meta
import OpenshiftAcme.Api.Types
import OpenshiftAcme.Json.Scanner
import OpenshiftAcme.Json.Encoder
import OpenshiftAcme.Json.Time
import OpenshiftAcme.Api.StatusJson
import OpenshiftAcme.Prog.Basic
import OpenshiftAcme.Prog.Trace
import OpenshiftAcme.Route.Status
import OpenshiftAcme.Route.Exposer
import OpenshiftAcme.Route.Handle
import OpenshiftAcme.Route.Worker
import OpenshiftAcme.Route.Secret
import OpenshiftAcme.Account.Controller
import OpenshiftAcme.World.Store
import OpenshiftAcme.World.Answer
import OpenshiftAcme.World.System
import OpenshiftAcme.World.Keys
import OpenshiftAcme.World.WorkQueue
import OpenshiftAcme.World.Workers
import OpenshiftAcme.World.RouteStore
import OpenshiftAcme.World.Versions
import OpenshiftAcme.World.Uids
import OpenshiftAcme.World.History
import OpenshiftAcme.World.Secrets
import OpenshiftAcme.Route.Lemmas.Entry
import OpenshiftAcme.Route.Lemmas.NewOrder
import OpenshiftAcme.Route.Lemmas.Queue
import OpenshiftAcme.Route.Lemmas.Finalize
import OpenshiftAcme.Route.Lemmas.Exposer
import OpenshiftAcme.Route.Lemmas.Chain
import OpenshiftAcme.Route.Lemmas.Writes
import OpenshiftAcme.Route.Lemmas.Orders
import OpenshiftAcme.Route.Lemmas.Runs
import OpenshiftAcme.Route.Lemmas.Persist
import OpenshiftAcme.Route.Lemmas.Lost
import OpenshiftAcme.Route.Lemmas.Renewal
import OpenshiftAcme.Route.Lemmas.Fixpoint
import OpenshiftAcme.Route.Lemmas.Wiring
import OpenshiftAcme.Route.Lemmas.RoundTrip
import OpenshiftAcme.Route.Lemmas.Secret
import OpenshiftAcme.Route.Lemmas.Adopt
import OpenshiftAcme.Route.Lemmas.Challenge
import OpenshiftAcme.Route.Lemmas.Workers
import OpenshiftAcme.Account.Lemmas.Queue
import OpenshiftAcme.Account.Lemmas.Sync
import OpenshiftAcme.Account.Lemmas.Merge
import OpenshiftAcme.Account.Lemmas.Fanout
import OpenshiftAcme.Account.Lemmas.Register
