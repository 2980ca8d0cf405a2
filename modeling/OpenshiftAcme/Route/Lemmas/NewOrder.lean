import OpenshiftAcme.Route.Lemmas.Entry

/-!
This module contains the fate of the IDLE to NEW_ORDER transition: the IDLE branch falls through
without allocating a provisioning status, so the new-order step writes through nil and panics,
and a route whose annotation map holds no status does not even get there.
-/

namespace OpenshiftAcme

namespace RouteController

open Prog (Steps NeverReturns neverReturns_call neverReturns_throw neverReturns_panic)

variable (lib : Lib)

theorem needsCertKey_of_no_tls {r : Route}
    (htls : ∀ tls, r.spec.tls = some tls → tls.key = "" ∨ tls.certificate = "") (t : Int) :
    needsCertKey lib t r = .ok "Route is missing CertKey" := by
  unfold needsCertKey
  split
  · rfl
  · rename_i tls h
    rcases htls tls h with h | h <;> simp [h]

theorem provision_zero_of_no_tls {T : Int} {key : String} {r : Route}
    (htls : ∀ tls, r.spec.tls = some tls → tls.key = "" ∨ tls.certificate = "") :
    provision lib T key r Status.zero = .call .now fun _ => orderStep lib T key r Status.zero := by
  simp only [provision, Status.zero, Prog.send_bind]
  congr 1
  funext t
  simp only [Prog.bind_eq, Prog.pure_bind, needsCertKey_of_no_tls lib htls t, Prog.ofExcept_ok]
  rw [if_neg (by decide)]

theorem orderStep_neverReturns {T : Int} {key : String} {r : Route} {status : Status}
    (h : status.provisioningStatus = none) : NeverReturns (orderStep lib T key r status) := by
  simp only [orderStep, orderStep.newOrder, h]
  refine neverReturns_call fun reply => ?_
  cases reply with
  | error e => exact neverReturns_throw _
  | ok order => exact neverReturns_call fun _ => neverReturns_panic _

/--
A route with no status annotation (a nil annotation map, or one without the status key) and no
certificate never gets a nil return from `handle`: with a nil map the IDLE branch falls through
to a new order and panics writing its URI; with a map the empty annotation does not decode.
-/
theorem handle_without_status_annotation_never_returns_nil (T : Int) (key : String) (r : Route)
    (hdel : r.meta.deletionTimestamp = none) (hadm : r.isAdmitted = true)
    (hann : r.meta.annotations.lookup lib.statusAnnotation = none)
    (htls : ∀ tls, r.spec.tls = some tls → tls.key = "" ∨ tls.certificate = "")
    (tr : List Exchange) :
    ¬ Steps (handle lib T key) (⟨.routeCacheGet key, .ok (some r)⟩ :: tr) (.pure ()) := by
  intro h
  have h := steps_handle_of_cache lib h
  rw [handleRoute_eq lib hdel hadm] at h
  refine neverReturns_call (fun reply => ?_) tr () h
  cases reply with
  | error e => exact neverReturns_throw _
  | ok u =>
    cases hm : r.meta.annotations with
    | none =>
      simp only [getStatus_of_annotations_none lib hm, provision_zero_of_no_tls lib htls]
      exact neverReturns_call fun _ => orderStep_neverReturns lib rfl
    | some m =>
      have he := StatusJson.unmarshal_empty
      have hget : r.meta.annotations.get lib.statusAnnotation = "" := by
        simp [StringMap.get, hann]
      simp only [getStatus_of_annotations_some lib hm, hget, he, Except.mapError]
      exact neverReturns_throw _

def webRoute : Route :=
  { meta := { ObjectMeta.named "web" with «namespace» := "acme", uid := "uid-web", resourceVersion := 1 }
    spec := { host := "www.example.com", path := "", «to» := ⟨"Service", "web"⟩,
              alternateBackends := [], port := none, tls := none }
    status := ⟨[⟨"www.example.com", true⟩]⟩ }

def webOrder : Acme.Order :=
  ⟨"https://ca.example/order/1", Acme.statusPending, [], "https://ca.example/finalize/1"⟩

theorem handle_webRoute_panics :
    webRoute.meta.deletionTimestamp = none ∧ webRoute.isAdmitted = true ∧
      webRoute.meta.annotations.lookup exampleLib.statusAnnotation = none ∧
      Steps (handle exampleLib 0 "acme/web")
        [⟨.routeCacheGet "acme/web", .ok (some webRoute)⟩, ⟨.getClient, .ok ()⟩, ⟨.now, 0⟩,
          ⟨.authorizeOrder "www.example.com", .ok webOrder⟩, ⟨.now, 0⟩]
        (.panic nilPointerDereference) ∧
      ¬ Steps (handle exampleLib 0 "acme/web")
        [⟨.routeCacheGet "acme/web", .ok (some webRoute)⟩, ⟨.getClient, .ok ()⟩, ⟨.now, 0⟩,
          ⟨.authorizeOrder "www.example.com", .ok webOrder⟩, ⟨.now, 0⟩] (.pure ()) :=
  ⟨rfl, rfl, rfl,
    by
      refine @steps_handle_of_handleRoute exampleLib 0 "acme/web" ("acme", "web") _ _ _ rfl ?_
      have hann : webRoute.meta.annotations = none := rfl
      have htls : webRoute.spec.tls = none := rfl
      rw [@handleRoute_eq exampleLib 0 "acme/web" webRoute rfl rfl]
      simp only [getStatus_of_annotations_none exampleLib hann,
        @provision_zero_of_no_tls exampleLib 0 "acme/web" webRoute (by simp [htls])]
      simp only [orderStep, orderStep.newOrder, Status.zero, Prog.steps_call_cons_iff]
      refine Prog.steps_call_cons_iff.mpr ?_
      simp,
    handle_without_status_annotation_never_returns_nil exampleLib 0 "acme/web" webRoute rfl rfl rfl
      (by simp [webRoute]) _⟩

end RouteController

end OpenshiftAcme
