import OpenshiftAcme.Route.Handle

/-!
This module contains the entry lemmas of `handle`: what the handler does once the cache answered
with a route, once the ACME client and the status are there, and once an order is in flight.
-/

namespace OpenshiftAcme

namespace RouteController

open Prog (Steps steps_call_cons_iff)

variable (lib : Lib)

theorem steps_handle_of_cache {T : Int} {key : String} {r : Route} {tr : List Exchange}
    {q : Prog Unit} (h : Steps (handle lib T key) (⟨.routeCacheGet key, .ok (some r)⟩ :: tr) q) :
    Steps (handleRoute lib T key r) tr q := by
  unfold handle at h
  split at h
  · simp at h
  · simpa using h

theorem steps_handle_of_handleRoute {T : Int} {key : String} {nk : String × String} {r : Route}
    {tr : List Exchange} {q : Prog Unit} (hkey : splitMetaNamespaceKey key = .ok nk)
    (h : Steps (handleRoute lib T key r) tr q) :
    Steps (handle lib T key) (⟨.routeCacheGet key, .ok (some r)⟩ :: tr) q := by
  simpa [handle, hkey] using h

theorem handleRoute_eq {T : Int} {key : String} {r : Route}
    (hdel : r.meta.deletionTimestamp = none) (hadm : r.isAdmitted = true) :
    handleRoute lib T key r = .call .getClient fun reply =>
      match reply with
      | .error e => .throw (e.wrap "failed to get ACME client: ")
      | .ok () =>
        match getStatus lib r with
        | .error e => .throw (e.wrap "can't get status: ")
        | .ok status => provision lib T key r status := by
  simp only [handleRoute, hdel, hadm, Option.isSome_none, Bool.not_true]
  rfl

theorem steps_handleRoute_iff {T : Int} {key : String} {r : Route} {status : Status}
    {tr : List Exchange} {q : Prog Unit} (hdel : r.meta.deletionTimestamp = none)
    (hadm : r.isAdmitted = true) (hstatus : getStatus lib r = .ok status) :
    Steps (handleRoute lib T key r) (⟨.getClient, .ok ()⟩ :: tr) q ↔
      Steps (provision lib T key r status) tr q := by
  rw [handleRoute_eq lib hdel hadm, steps_call_cons_iff]
  simp only [hstatus]

theorem provision_inFlight {T : Int} {key : String} {r : Route} {status : Status}
    {ps : ProvisioningStatus} (hps : status.provisioningStatus = some ps)
    (huri : ps.orderUri.length ≠ 0) :
    provision lib T key r status = pollOrder lib T key r status ps := by
  simp only [provision, hps, orderStep, huri, ne_eq, not_false_eq_true, if_true]

theorem steps_handle_newOrder {T : Int} {key : String} {nk : String × String} {r r' y : Route}
    {st : Status} {ps : ProvisioningStatus} {o : Acme.Order} {t : Int}
    (hkey : splitMetaNamespaceKey key = .ok nk) (hdel : r.meta.deletionTimestamp = none)
    (hadm : r.isAdmitted = true) (hstatus : getStatus lib r = .ok st)
    (hps : st.provisioningStatus = some ps) (huri : ps.orderUri.length = 0)
    (hset : setStatus lib r
      { st with provisioningStatus := some { ps with startedAt := t, orderUri := o.uri } } = .ok r')
    (hne : r' ≠ r) :
    Steps (handle lib T key)
      [⟨.routeCacheGet key, .ok (some r)⟩, ⟨.getClient, .ok ()⟩, ⟨.authorizeOrder r.spec.host, .ok o⟩,
        ⟨.now, t⟩, ⟨.routeUpdate r'.meta.«namespace» r', .ok y⟩] (.pure ()) := by
  refine steps_handle_of_handleRoute lib hkey ((steps_handleRoute_iff lib hdel hadm hstatus).mpr ?_)
  simp only [provision, hps, orderStep, huri, ne_eq, not_true_eq_false, if_false,
    orderStep.newOrder, Prog.bind_eq, Prog.send_bind]
  refine .call _ (.call _ ?_)
  simp only [Prog.ofExcept_ok, Prog.pure_bind, hps, updateStatus, hset, if_neg hne]
  exact .call _ (.refl _)

end RouteController

end OpenshiftAcme
