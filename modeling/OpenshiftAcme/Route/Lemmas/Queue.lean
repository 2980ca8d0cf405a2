import OpenshiftAcme.Route.Worker
import OpenshiftAcme.Route.Lemmas.Entry

/-!
This module contains the route controller's work queue as its worker sees it. The worker runs
`handle` on a key and asserts of every item that it is a key string; the dispatch on an order the
CA is still processing puts the route object itself back in the queue, so the worker that takes
that item out panics.
-/

namespace OpenshiftAcme

namespace RouteController

open Prog (Steps send steps_call_cons_iff neverReturns_call neverReturns_panic)

variable (lib : Lib)

theorem steps_processNextItem_of_handle {T : Int} {k : String} {tr : List Exchange} {c : Call}
    {kk : c.Reply → Prog Unit} (h : Steps (handle lib T k) tr (.call c kk)) :
    ∃ k', Steps (processNextItem lib T) (⟨.queueGet .route, some (.key k)⟩ :: tr) (.call c k') :=
  ⟨_, .call _ ((Prog.Steps.bind h.toExcept).withDefer)⟩

theorem processNextItem_route_item_steps (T : Int) (r : Route) :
    Steps (processNextItem lib T)
      [⟨.queueGet .route, some (.route r)⟩, ⟨.queueDone .route (.route r), ()⟩]
      (.panic keyAssertionPanic) :=
  .call _ (.call _ (.refl _))

theorem processNextItem_route_item_neverReturns (T : Int) (r : Route) (tr : List Exchange)
    (b : Bool) :
    ¬ Steps (processNextItem lib T) (⟨.queueGet .route, some (.route r)⟩ :: tr) (.pure b) :=
  fun h => neverReturns_call (fun _ => neverReturns_panic _) tr b (steps_call_cons_iff.mp h)

theorem dispatchOrder_processing {key : String} {r : Route} {o : Acme.Order} {st : Status}
    (ho : o.status = Acme.statusProcessing) :
    dispatchOrder lib key r o st =
      .call (.queueAddAfter .route (.route r) processingDelay) fun _ => updateStatus lib r st := by
  simp [dispatchOrder, ho, Acme.statusProcessing, Acme.statusPending, Acme.statusValid,
    Acme.statusReady]

theorem pollOrder_processing_steps {T : Int} {key : String} {r : Route} {st : Status}
    {ps : ProvisioningStatus} {t : Int} {o : Acme.Order} (ht : t ≤ ps.startedAt + T)
    (ho : o.status = Acme.statusProcessing) :
    ∃ k, Steps (pollOrder lib T key r st ps) [⟨.now, t⟩, ⟨.getOrder ps.orderUri, .ok o⟩]
      (.call (.queueAddAfter .route (.route r) processingDelay) k) := by
  simp only [pollOrder, Prog.bind_eq, Prog.send_bind]
  constructor
  refine .call _ ?_
  rw [if_neg (Int.not_lt.mpr ht)]
  refine .call _ ?_
  show Steps (dispatchOrder lib key r o _) _ _
  rw [dispatchOrder_processing lib ho]
  exact .refl _

theorem handle_processing_order_steps {T : Int} {key : String} {nk : String × String} {r : Route}
    {status : Status} {ps : ProvisioningStatus} {t : Int} {o : Acme.Order}
    (hkey : splitMetaNamespaceKey key = .ok nk) (hdel : r.meta.deletionTimestamp = none)
    (hadm : r.isAdmitted = true) (hstatus : getStatus lib r = .ok status)
    (hps : status.provisioningStatus = some ps) (huri : ps.orderUri.length ≠ 0)
    (ht : t ≤ ps.startedAt + T) (ho : o.status = Acme.statusProcessing) :
    ∃ k, Steps (handle lib T key)
      [⟨.routeCacheGet key, .ok (some r)⟩, ⟨.getClient, .ok ()⟩, ⟨.now, t⟩,
        ⟨.getOrder ps.orderUri, .ok o⟩]
      (.call (.queueAddAfter .route (.route r) processingDelay) k) := by
  obtain ⟨k, hk⟩ := @pollOrder_processing_steps lib T key r status ps t o ht ho
  refine ⟨k, steps_handle_of_handleRoute lib hkey ?_⟩
  rw [steps_handleRoute_iff lib hdel hadm hstatus, provision_inFlight lib hps huri]
  exact hk

/--
The queue of the route controller does not hold only keys: a worker that handles a route whose
order the CA is processing puts the route object in the queue, and the worker that takes that
item out calls `Done` and panics on the assertion `key.(string)`, never returning.
-/
theorem processNextItem_enqueues_route_object (T : Int) (key : String) (nk : String × String)
    (r : Route) (status : Status) (ps : ProvisioningStatus) (t : Int) (o : Acme.Order)
    (hkey : splitMetaNamespaceKey key = .ok nk) (hdel : r.meta.deletionTimestamp = none)
    (hadm : r.isAdmitted = true) (hstatus : getStatus lib r = .ok status)
    (hps : status.provisioningStatus = some ps) (huri : ps.orderUri.length ≠ 0)
    (ht : t ≤ ps.startedAt + T) (ho : o.status = Acme.statusProcessing) :
    (∃ k, Steps (processNextItem lib T)
      [⟨.queueGet .route, some (.key key)⟩, ⟨.routeCacheGet key, .ok (some r)⟩,
        ⟨.getClient, .ok ()⟩, ⟨.now, t⟩, ⟨.getOrder ps.orderUri, .ok o⟩]
      (.call (.queueAddAfter .route (.route r) processingDelay) k)) ∧
    (QueueItem.route r).isKey = false ∧
    Steps (processNextItem lib T)
      [⟨.queueGet .route, some (.route r)⟩, ⟨.queueDone .route (.route r), ()⟩]
      (.panic keyAssertionPanic) ∧
    ∀ tr b, ¬ Steps (processNextItem lib T) (⟨.queueGet .route, some (.route r)⟩ :: tr) (.pure b) :=
  let ⟨_, h⟩ := handle_processing_order_steps lib hkey hdel hadm hstatus hps huri ht ho
  ⟨steps_processNextItem_of_handle lib h, rfl, processNextItem_route_item_steps lib T r,
    processNextItem_route_item_neverReturns lib T r⟩

def inflightStatus : Status :=
  ⟨some ⟨0, "https://ca.example/order/1", Acme.statusPending⟩, 0⟩

def inflightJson : String :=
  "\x7b\"provisioningStatus\":\x7b\"startedAt\":\"1970-01-01T00:00:00Z\"," ++
    "\"orderUri\":\"https://ca.example/order/1\",\"orderStatus\":\"pending\"\x7d," ++
    "\"observedGeneration\":0\x7d"

def trackedRoute : Route :=
  { meta := { ObjectMeta.named "web" with
      «namespace» := "acme", uid := "uid-web", resourceVersion := 2,
      annotations := some [("acme-status", inflightJson)] }
    spec := { host := "www.example.com", path := "", «to» := ⟨"Service", "web"⟩,
              alternateBackends := [], port := none, tls := none }
    status := ⟨[⟨"www.example.com", true⟩]⟩ }

def processingOrder : Acme.Order :=
  ⟨"https://ca.example/order/1", Acme.statusProcessing, [], "https://ca.example/finalize/1"⟩

theorem processNextItem_enqueues_trackedRoute :
    splitMetaNamespaceKey "acme/web" = .ok ("acme", "web") ∧
    trackedRoute.meta.deletionTimestamp = none ∧ trackedRoute.isAdmitted = true ∧
    getStatus exampleLib trackedRoute = .ok inflightStatus ∧
    (∃ k, Steps (processNextItem exampleLib 0)
      [⟨.queueGet .route, some (.key "acme/web")⟩, ⟨.routeCacheGet "acme/web", .ok (some trackedRoute)⟩,
        ⟨.getClient, .ok ()⟩, ⟨.now, 0⟩, ⟨.getOrder "https://ca.example/order/1", .ok processingOrder⟩]
      (.call (.queueAddAfter .route (.route trackedRoute) processingDelay) k)) ∧
    Steps (processNextItem exampleLib 0)
      [⟨.queueGet .route, some (.route trackedRoute)⟩, ⟨.queueDone .route (.route trackedRoute), ()⟩]
      (.panic keyAssertionPanic) :=
  have hst : getStatus exampleLib trackedRoute = .ok inflightStatus :=
    getStatus_of_marshal exampleLib rfl rfl
  have h := processNextItem_enqueues_route_object exampleLib 0 "acme/web" ("acme", "web")
    trackedRoute inflightStatus _ 0 processingOrder rfl rfl rfl hst rfl (by decide) (by decide) rfl
  ⟨rfl, rfl, rfl, hst, h.1, h.2.2.1⟩

end RouteController

end OpenshiftAcme
