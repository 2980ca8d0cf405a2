import OpenshiftAcme.Route.Lemmas.Entry
import OpenshiftAcme.Route.Worker

/-!
This module contains the feedback loop between the exposer Route and the route informer. The
exposer Route is a copy of the managed route: it keeps the labels that make a route managed and
the status annotation that records the order in flight. So the route handlers enqueue it, and
once the router admits it, `handle` polls the order for it and creates an exposer Route for the
exposer, a name derived from the exposer's own name.
-/

namespace OpenshiftAcme

namespace RouteController

open Prog (Steps)

variable (lib : Lib)

theorem isManaged_desiredExposerRoute {r : Route} {tmpName token : String}
    (htemp : ∀ kv ∈ lib.managedLabels, kv.1 ≠ lib.temporaryLabel) :
    isManaged lib (desiredExposerRoute lib r tmpName token).meta = isManaged lib r.meta := by
  unfold isManaged LabelSet.matches
  show List.all _ _ = List.all _ _
  refine Bool.eq_iff_iff.mpr ?_
  simp only [List.all_eq_true]
  refine forall₂_congr fun kv hkv => ?_
  show decide ((r.meta.labels.insert lib.temporaryLabel "true").lookup kv.1 = _) = true ↔ _
  rw [StringMap.lookup_insert_ne _ _ (htemp kv hkv)]

theorem dispatchOrder_pending {key : String} {r : Route} {o : Acme.Order} {st : Status}
    (ho : o.status = Acme.statusPending) :
    dispatchOrder lib key r o st =
      (satisfyAuthorizations lib key r.spec.host r o o.authzURLs >>= fun _ => updateStatus lib r st) := by
  simp [dispatchOrder, ho]

theorem steps_satisfyAuthorizations_pending {key domain authzUrl : String} {r : Route}
    {o : Acme.Order} {rest : List String} {authz : Acme.Authorization} {c : Acme.Challenge}
    (hauthz : authz.status = Acme.statusPending) (hch : selectChallenge authz.challenges = some c)
    (hc : c.status = Acme.statusPending) :
    Steps (satisfyAuthorizations lib key domain r o (authzUrl :: rest))
      [⟨.getAuthorization authzUrl, .ok authz⟩]
      (exposeChallenge lib key r o authzUrl c >>= fun _ => satisfyAuthorizations lib key domain r o rest) := by
  simp only [satisfyAuthorizations, Prog.bind_eq, Prog.send_bind, Prog.call_bind]
  refine .call _ ?_
  simp only [Prog.ofExcept_ok, Prog.pure_bind, hauthz, hch, hc, if_true]
  exact .refl _

theorem exposeChallenge_eq (key : String) (r : Route) (o : Acme.Order) (authzUrl : String)
    (c : Acme.Challenge) :
    ∃ k, exposeChallenge lib key r o authzUrl c =
      .call (.routeCreate r.meta.«namespace»
        (desiredExposerRoute lib r (exposerName lib r o authzUrl c) c.token)) k :=
  ⟨_, rfl⟩

/--
The exposer Route of a managed route is itself managed: any route carrying its labels and the
managed route's annotations is enqueued by the add and update handlers and, once admitted, is
handled as a managed route with the order in flight. Polled in time while the order and its
challenge are pending, `handle` makes its ACME calls for it and creates an exposer Route for it.
-/
theorem exposer_route_is_reconciled (T : Int) (r E old : Route) (tmpName token : String)
    (nk : String × String) (status : Status) (ps : ProvisioningStatus) (t : Int) (o : Acme.Order)
    (authzUrl : String) (rest : List String) (authz : Acme.Authorization) (c : Acme.Challenge)
    (hmanaged : isManaged lib r.meta = true)
    (htemp : ∀ kv ∈ lib.managedLabels, kv.1 ≠ lib.temporaryLabel)
    (hlabels : E.meta.labels = (desiredExposerRoute lib r tmpName token).meta.labels)
    (hann : E.meta.annotations = r.meta.annotations)
    (hkey : splitMetaNamespaceKey E.meta.key = .ok nk) (hdel : E.meta.deletionTimestamp = none)
    (hadm : E.isAdmitted = true) (hstatus : getStatus lib r = .ok status)
    (hps : status.provisioningStatus = some ps) (huri : ps.orderUri.length ≠ 0)
    (ht : t ≤ ps.startedAt + T) (ho : o.status = Acme.statusPending)
    (hauthzs : o.authzURLs = authzUrl :: rest) (hauthz : authz.status = Acme.statusPending)
    (hch : selectChallenge authz.challenges = some c) (hc : c.status = Acme.statusPending) :
    addRoute lib E = enqueueRoute E ∧ updateRoute lib old E = enqueueRoute E ∧
      ∃ k, Steps (handle lib T E.meta.key)
        [⟨.routeCacheGet E.meta.key, .ok (some E)⟩, ⟨.getClient, .ok ()⟩, ⟨.now, t⟩,
          ⟨.getOrder ps.orderUri, .ok o⟩, ⟨.getAuthorization authzUrl, .ok authz⟩]
        (.call (.routeCreate E.meta.«namespace»
          (desiredExposerRoute lib E (exposerName lib E o authzUrl c) c.token)) k) := by
  have hE : isManaged lib E.meta = true :=
    calc isManaged lib E.meta = isManaged lib (desiredExposerRoute lib r tmpName token).meta := by
          simp only [isManaged, hlabels]
      _ = isManaged lib r.meta := isManaged_desiredExposerRoute lib htemp
      _ = true := hmanaged
  refine ⟨by simp [addRoute, hE], by simp [updateRoute, hE], ?_⟩
  obtain ⟨k, hk⟩ := exposeChallenge_eq lib E.meta.key E o authzUrl c
  constructor
  apply steps_handle_of_handleRoute lib hkey
  rw [steps_handleRoute_iff lib hdel hadm ((getStatus_of_annotations_eq lib hann).trans hstatus),
    provision_inFlight lib hps huri]
  simp only [pollOrder, Prog.bind_eq, Prog.send_bind]
  refine .call _ ?_
  rw [if_neg (Int.not_lt.mpr ht)]
  refine .call _ ?_
  show Steps (dispatchOrder lib _ E o _) _ _
  rw [dispatchOrder_pending lib ho, hauthzs]
  have h := (@steps_satisfyAuthorizations_pending lib E.meta.key E.spec.host authzUrl E o rest authz c
    hauthz hch hc).bind (f := fun _ =>
      updateStatus lib E { status with provisioningStatus := some { ps with orderStatus := o.status } })
  rw [hk] at h
  exact h

def pendingStatus : Status :=
  ⟨some ⟨0, "https://ca.example/order/1", Acme.statusPending⟩, 0⟩

def pendingJson : String :=
  "\x7b\"provisioningStatus\":\x7b\"startedAt\":\"1970-01-01T00:00:00Z\"," ++
    "\"orderUri\":\"https://ca.example/order/1\",\"orderStatus\":\"pending\"\x7d," ++
    "\"observedGeneration\":0\x7d"

def managedRoute : Route :=
  { meta := { ObjectMeta.named "web" with
      «namespace» := "acme", uid := "uid-web", resourceVersion := 2,
      labels := some [("acme-managed", "true")],
      annotations := some [("acme-status", pendingJson)] }
    spec := { host := "www.example.com", path := "", «to» := ⟨"Service", "web"⟩,
              alternateBackends := [], port := none, tls := none }
    status := ⟨[⟨"www.example.com", true⟩]⟩ }

def admittedExposer : Route :=
  { desiredExposerRoute exampleLib managedRoute "acme-exposer-1" "tok" with
    meta := { (desiredExposerRoute exampleLib managedRoute "acme-exposer-1" "tok").meta with
      uid := "uid-exposer", resourceVersion := 3 }
    status := ⟨[⟨"www.example.com", true⟩]⟩ }

def pendingOrder : Acme.Order :=
  ⟨"https://ca.example/order/1", Acme.statusPending, ["https://ca.example/authz/1"],
    "https://ca.example/finalize/1"⟩

def pendingAuthz : Acme.Authorization :=
  ⟨"https://ca.example/authz/1", Acme.statusPending,
    [⟨"http-01", "https://ca.example/chall/1", "tok", Acme.statusPending⟩]⟩

theorem admittedExposer_gets_exposer :
    isManaged exampleLib managedRoute.meta = true ∧ admittedExposer.isAdmitted = true ∧
    getStatus exampleLib managedRoute = .ok pendingStatus ∧
    addRoute exampleLib admittedExposer = enqueueRoute admittedExposer ∧
    ∃ k, Steps (handle exampleLib 0 "acme/acme-exposer-1")
      [⟨.routeCacheGet "acme/acme-exposer-1", .ok (some admittedExposer)⟩, ⟨.getClient, .ok ()⟩,
        ⟨.now, 0⟩, ⟨.getOrder "https://ca.example/order/1", .ok pendingOrder⟩,
        ⟨.getAuthorization "https://ca.example/authz/1", .ok pendingAuthz⟩]
      (.call (.routeCreate "acme" (desiredExposerRoute exampleLib admittedExposer
        (exposerName exampleLib admittedExposer pendingOrder "https://ca.example/authz/1"
          ⟨"http-01", "https://ca.example/chall/1", "tok", Acme.statusPending⟩) "tok")) k) :=
  have hst : getStatus exampleLib managedRoute = .ok pendingStatus :=
    getStatus_of_marshal exampleLib rfl rfl
  have h := exposer_route_is_reconciled exampleLib 0 managedRoute admittedExposer admittedExposer
    "acme-exposer-1" "tok" ("acme", "acme-exposer-1") pendingStatus _ 0 pendingOrder
    "https://ca.example/authz/1" [] pendingAuthz _ rfl (by decide) rfl rfl rfl rfl rfl hst rfl
    (by decide) (by decide) rfl rfl rfl rfl rfl
  ⟨rfl, rfl, hst, h.1, h.2.2⟩

end RouteController

end OpenshiftAcme
