import OpenshiftAcme.Route.Lemmas.Chain
import OpenshiftAcme.Route.Lemmas.Renewal

/-!
This module contains the runs of `handle` that write nothing. `updateStatus` skips the update when
the status it writes is the one the annotation holds at the route's generation. So a route in its
steady state, whose certificate is valid and not yet in its renewal window, is a fixed point:
`handle` reads it, finds nothing to do and writes nothing, and the controller does not trigger
itself. A pending order polled again once its authorizations are answered ends in the same skipped
write, and then no call puts the key back into the queue: the order waits on no trigger.
-/

namespace OpenshiftAcme

namespace RouteController

open Prog (Steps)

variable (lib : Lib)

def Settled (authz : Acme.Authorization) : Prop :=
  authz.status ∈ [Acme.statusValid, Acme.statusInvalid, Acme.statusDeactivated, Acme.statusExpired,
    Acme.statusRevoked] ∨
  authz.status = Acme.statusPending ∧ ∃ c, selectChallenge authz.challenges = some c ∧
    c.status ∈ [Acme.statusProcessing, Acme.statusValid, Acme.statusInvalid]

theorem steps_satisfyAuthorizations_settled {key domain : String} {r : Route} {o : Acme.Order}
    (auths : List (String × Acme.Authorization)) (h : ∀ a ∈ auths, Settled a.2) :
    Steps (satisfyAuthorizations lib key domain r o (auths.map Prod.fst))
      (auths.map fun a => ⟨.getAuthorization a.1, .ok a.2⟩) (.pure ()) := by
  induction auths with
  | nil => exact .refl _
  | cons a rest ih =>
    have hrest := ih fun b hb => h b (List.mem_cons_of_mem _ hb)
    simp only [List.map_cons, satisfyAuthorizations, Prog.bind_eq, Prog.send_bind, Prog.call_bind]
    refine .call _ ?_
    simp only [Prog.ofExcept_ok, Prog.pure_bind]
    rcases h a (List.mem_cons_self _ _) with hs | ⟨hp, c, hc, hcs⟩
    · have hnp : a.2.status ≠ Acme.statusPending := by
        intro he
        rw [he] at hs
        revert hs
        decide
      simpa [hnp, hs] using hrest
    · have hnp : c.status ≠ Acme.statusPending := by
        intro he
        rw [he] at hcs
        revert hcs
        decide
      simpa [hp, hc, hnp, hcs] using hrest

/--
A route whose annotation records, at its generation, a pending order polled in time, whose
authorizations are all settled or have their challenge past pending, and whose recorded order
status is the one the CA answers: `handle` returns nil after its reads, with the order still in
flight, no write and no call to the queue.
-/
theorem handle_pending_order_waits_on_no_trigger (T : Int) (key : String) (nk : String × String)
    (r : Route) (st : Status) (ps : ProvisioningStatus) (t : Int) (o : Acme.Order)
    (auths : List (String × Acme.Authorization)) (hkey : splitMetaNamespaceKey key = .ok nk)
    (hdel : r.meta.deletionTimestamp = none) (hadm : r.isAdmitted = true)
    (hwritten : StatusWritten lib r st) (hps : st.provisioningStatus = some ps)
    (huri : ps.orderUri.length ≠ 0) (ht : t ≤ ps.startedAt + T) (ho : o.status = Acme.statusPending)
    (hos : ps.orderStatus = o.status) (hauthz : o.authzURLs = auths.map Prod.fst)
    (hsettled : ∀ a ∈ auths, Settled a.2) :
    Steps (handle lib T key)
      ([⟨.routeCacheGet key, .ok (some r)⟩, ⟨.getClient, .ok ()⟩, ⟨.now, t⟩,
        ⟨.getOrder ps.orderUri, .ok o⟩] ++ auths.map fun a => ⟨.getAuthorization a.1, .ok a.2⟩)
      (.pure ()) := by
  refine steps_handle_of_handleRoute lib hkey ?_
  show Steps _ (⟨.getClient, .ok ()⟩ :: ⟨.now, t⟩ :: ⟨.getOrder ps.orderUri, .ok o⟩ :: auths.map _) _
  have hps' : ({ st with observedGeneration := r.meta.generation } : Status).provisioningStatus =
    some ps := hps
  rw [steps_handleRoute_iff lib hdel hadm hwritten.getStatus, provision_inFlight lib hps' huri]
  simp only [pollOrder, Prog.bind_eq, Prog.send_bind]
  refine .call _ ?_
  rw [if_neg (Int.not_lt.mpr ht)]
  refine .call _ ?_
  show Steps (dispatchOrder lib _ r o _) _ _
  have hw : StatusWritten lib r { st with observedGeneration := r.meta.generation } := hwritten
  have hsame : ({ { st with observedGeneration := r.meta.generation } with
      provisioningStatus := some { ps with orderStatus := o.status } } : Status) =
      { st with observedGeneration := r.meta.generation } := by
    rw [← hos, ← hps]
  rw [dispatchOrder_pending lib ho, hauthz, hsame, updateStatus_of_setStatus_self lib hw.setStatus]
  exact (steps_satisfyAuthorizations_settled lib auths hsettled).bind

def acceptedAuthz : Acme.Authorization :=
  ⟨"https://ca.example/authz/1", Acme.statusPending,
    [⟨"http-01", "https://ca.example/chall/1", "tok", Acme.statusProcessing⟩]⟩

theorem managedRoute_pending_order_waits :
    StatusWritten exampleLib managedRoute pendingStatus ∧ Settled acceptedAuthz ∧
    Steps (handle exampleLib 0 "acme/web")
      ([⟨.routeCacheGet "acme/web", .ok (some managedRoute)⟩, ⟨.getClient, .ok ()⟩, ⟨.now, 0⟩,
        ⟨.getOrder "https://ca.example/order/1", .ok pendingOrder⟩] ++
        [("https://ca.example/authz/1", acceptedAuthz)].map fun a => ⟨.getAuthorization a.1, .ok a.2⟩)
      (.pure ()) :=
  have hw : StatusWritten exampleLib managedRoute pendingStatus := ⟨_, rfl, rfl⟩
  have hs : Settled acceptedAuthz := .inr ⟨rfl, _, rfl, by decide⟩
  ⟨hw, hs, handle_pending_order_waits_on_no_trigger exampleLib 0 "acme/web" ("acme", "web")
    managedRoute pendingStatus _ 0 pendingOrder [("https://ca.example/authz/1", acceptedAuthz)] rfl rfl
    rfl hw rfl (by decide) (by decide) rfl rfl rfl (by simpa using hs)⟩

/--
A route in its steady state: admitted, not being deleted, its certificate decoded for its host and
valid at `t` in the first half of its lifetime, its annotation recording no order in flight at its
generation. `updateStatus` finds the route unchanged, and once the clock reads `t`, `handle`
returns nil with no further call: no write.
-/
theorem handle_steady_state_writes_nothing (T : Int) (key : String) (nk : String × String)
    (r : Route) (st : Status) (c : Certificate) (t : Int) (hkey : splitMetaNamespaceKey key = .ok nk)
    (hdel : r.meta.deletionTimestamp = none) (hadm : r.isAdmitted = true)
    (hwritten : StatusWritten lib r st) (hps : st.provisioningStatus = none)
    (hcert : CertDecoded lib r c) (hvalid : isValid c t = true)
    (hremains : (c.notAfter - c.notBefore) / 2 < c.notAfter - t) :
    setStatus lib r { st with observedGeneration := r.meta.generation } = .ok r ∧
    ∀ tr q, Steps (handle lib T key)
        (⟨.routeCacheGet key, .ok (some r)⟩ :: ⟨.getClient, .ok ()⟩ :: ⟨.now, t⟩ :: tr) q ↔
      tr = [] ∧ q = .pure () := by
  have hw : StatusWritten lib r { st with observedGeneration := r.meta.generation } := hwritten
  have hset : setStatus lib r ⟨none, r.meta.generation⟩ = .ok r := hps ▸ hw.setStatus
  have hprov : ∀ tr q, Steps (provision lib T key r { st with observedGeneration := r.meta.generation })
      (⟨.now, t⟩ :: tr) q ↔ tr = [] ∧ q = .pure () := by
    intro tr q
    simp [provision, hps, needsCertKey_not_due hcert hvalid hremains,
      updateStatus_of_setStatus_self lib hset]
  refine ⟨hw.setStatus, fun tr q => ⟨fun h => ?_, fun h => ?_⟩⟩
  · have h' := steps_handle_of_cache lib h
    rwa [steps_handleRoute_iff lib hdel hadm hwritten.getStatus, hprov] at h'
  · exact steps_handle_of_handleRoute lib hkey
      ((steps_handleRoute_iff lib hdel hadm hwritten.getStatus).mpr ((hprov tr q).mpr h))

def steadyRoute : Route :=
  { tlsRoute with meta := { tlsRoute.meta with
      annotations := some [("acme-status",
        "\x7b\"provisioningStatus\":null,\"observedGeneration\":0\x7d")] } }

theorem steadyRoute_writes_nothing :
    StatusWritten certLib steadyRoute Status.zero ∧
    CertDecoded certLib steadyRoute ⟨0, 90, ["www.example.com"]⟩ ∧
    setStatus certLib steadyRoute { Status.zero with observedGeneration := 0 } = .ok steadyRoute ∧
    ∀ tr q, Steps (handle certLib 0 "acme/web")
        (⟨.routeCacheGet "acme/web", .ok (some steadyRoute)⟩ :: ⟨.getClient, .ok ()⟩ :: ⟨.now, 10⟩ :: tr) q ↔
      tr = [] ∧ q = .pure () :=
  have hw : StatusWritten certLib steadyRoute Status.zero := ⟨_, rfl, rfl⟩
  have hc : CertDecoded certLib steadyRoute ⟨0, 90, ["www.example.com"]⟩ :=
    ⟨⟨_, rfl, by decide, by decide, rfl⟩, rfl⟩
  ⟨hw, hc, handle_steady_state_writes_nothing certLib 0 "acme/web" ("acme", "web") steadyRoute
    Status.zero _ 10 rfl rfl rfl hw rfl hc rfl (by decide)⟩

end RouteController

end OpenshiftAcme
