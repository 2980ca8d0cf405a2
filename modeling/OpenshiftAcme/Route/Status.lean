import Mathlib.Algebra.Group.Int
import OpenshiftAcme.Prog.Trace
import OpenshiftAcme.Api.StatusJson

/-!
This module contains the renewal policy of the route controller (`needsCertKey`) and the codec of
the provisioning status it keeps in the status annotation (`getStatus`, `setStatus`,
`updateStatus`), with the lemmas that say what reading back a written status gives and which
calls `updateStatus` makes.
-/

namespace OpenshiftAcme

namespace RouteController

open Prog (Steps Only send steps_call_iff)

/--
Modelled from the spec: `cert.IsValid` is not in the source. A certificate is valid from its
`NotBefore` to its `NotAfter`; outside that it is expired.
-/
def isValid (c : Certificate) (t : Int) : Bool :=
  c.notBefore ≤ t && t ≤ c.notAfter

/-- `t.Sub(u)`: the difference in nanoseconds, saturated to the range of a `time.Duration`. -/
def timeSub (t u : Int) : Int :=
  max (-2 ^ 63) (min (2 ^ 63 - 1) (t - u))

variable (lib : Lib)

def needsCertKey (t : Int) (route : Route) : Except Err String :=
  let ns := route.meta.«namespace»
  let name := route.meta.name
  match route.spec.tls with
  | none => .ok "Route is missing CertKey"
  | some tls =>
    if tls.key = "" || tls.certificate = "" then .ok "Route is missing CertKey" else
    match lib.decodeCertificate tls.key tls.certificate with
    | .error e => .error (.text s!"can't decode certificate from Route {ns}/{name}: {e}")
    | .ok certificate =>
      if !lib.verifyHostname certificate route.spec.host then
        let host := goQuote route.spec.host
        .error (.text s!"route {ns}/{name}: existing certificate doesn't match hostname {host}")
      else if !isValid certificate t then .ok "Already expired"
      else
        let remains := timeSub certificate.notAfter t
        let lifetime := timeSub certificate.notAfter certificate.notBefore
        if remains ≤ lifetime.tdiv 3 then .ok "In renewal period"
        else if remains ≤ lifetime.tdiv 2 && lib.proactiveDraw t then .ok "Proactive renewal"
        else .ok ""

def getStatus (routeReadOnly : Route) : Except Err Status :=
  match routeReadOnly.meta.annotations with
  | none => .ok Status.zero
  | some _ =>
    match StatusJson.unmarshal (routeReadOnly.meta.annotations.get lib.statusAnnotation) with
    | .ok status => .ok status
    | .error e => .error (.text s!"can't decode status annotation: {e}")

def setStatus (route : Route) (status : Status) : Except Err Route :=
  let status := { status with observedGeneration := route.meta.generation }
  match StatusJson.marshal status with
  | .error e => .error (.text s!"can't encode status annotation: {e}")
  | .ok bytes => .ok { route with meta := route.meta.setMetaDataAnnotation lib.statusAnnotation bytes }

def updateStatus (route : Route) (status : Status) : Prog Unit :=
  match setStatus lib route status with
  | .error e => throw (e.wrap "can't set status: ")
  | .ok newRoute =>
    if newRoute = route then pure () else do
      match ← send (.routeUpdate newRoute.meta.«namespace» newRoute) with
      | .ok _ => pure ()
      | .error e => throw (e.wrap "can't update status: ")

theorem getStatus_of_annotations_none {r : Route} (h : r.meta.annotations = none) :
    getStatus lib r = .ok Status.zero := by
  simp [getStatus, h]

theorem getStatus_of_annotations_some {r : Route} {m : List (String × String)}
    (h : r.meta.annotations = some m) :
    getStatus lib r = (StatusJson.unmarshal (r.meta.annotations.get lib.statusAnnotation)).mapError
      (fun e => .text s!"can't decode status annotation: {e}") := by
  simp only [getStatus, h]
  split <;> simp_all [Except.mapError]

theorem getStatus_of_annotations_eq {r r' : Route} (h : r'.meta.annotations = r.meta.annotations) :
    getStatus lib r' = getStatus lib r := by
  simp only [getStatus, h]

theorem setStatus_eq {r r' : Route} {st : Status} (h : setStatus lib r st = .ok r') :
    ∃ bytes, StatusJson.marshal { st with observedGeneration := r.meta.generation } = .ok bytes ∧
      r' = { r with meta := r.meta.setMetaDataAnnotation lib.statusAnnotation bytes } := by
  simp only [setStatus] at h
  split at h
  · cases h
  · rename_i bytes hb
    exact ⟨bytes, hb, (Except.ok.inj h).symm⟩

theorem getStatus_setStatus {r r' : Route} {st : Status} (h : setStatus lib r st = .ok r') :
    getStatus lib r' = .ok { st with observedGeneration := r.meta.generation } := by
  obtain ⟨bytes, hb, rfl⟩ := setStatus_eq lib h
  have hu := StatusJson.unmarshal_marshal hb
  simp [getStatus, ObjectMeta.setMetaDataAnnotation, StringMap.insert, StringMap.get,
    StringMap.lookup, StringMap.findEntry_setEntry, hu]

def StatusWritten (r : Route) (st : Status) : Prop :=
  ∃ bytes, StatusJson.marshal { st with observedGeneration := r.meta.generation } = .ok bytes ∧
    r.meta.annotations.lookup lib.statusAnnotation = some bytes

theorem getStatus_of_marshal {r : Route} {st : Status} {text : String}
    (hann : r.meta.annotations.lookup lib.statusAnnotation = some text)
    (hm : StatusJson.marshal st = .ok text) : getStatus lib r = .ok st := by
  have hget : r.meta.annotations.get lib.statusAnnotation = text := by simp [StringMap.get, hann]
  unfold RouteController.getStatus
  split
  · rename_i hm
    simp [hm, StringMap.lookup, StringMap.findEntry] at hann
  · rw [hget, StatusJson.unmarshal_marshal hm]

theorem StatusWritten.getStatus {r : Route} {st : Status} (h : StatusWritten lib r st) :
    getStatus lib r = .ok { st with observedGeneration := r.meta.generation } :=
  let ⟨_, hm, hann⟩ := h
  getStatus_of_marshal lib hann hm

theorem StatusWritten.setStatus {r : Route} {st : Status} (h : StatusWritten lib r st) :
    setStatus lib r st = .ok r := by
  obtain ⟨bytes, hb, hann⟩ := h
  simp only [RouteController.setStatus, hb, ObjectMeta.setMetaDataAnnotation,
    (StringMap.insert_eq_self_iff _ _ _).mpr hann]

theorem updateStatus_of_setStatus_self {r : Route} {st : Status} (h : setStatus lib r st = .ok r) :
    updateStatus lib r st = pure () := by
  simp [updateStatus, h]

theorem setStatus_meta_other {r r' : Route} {st : Status} (h : setStatus lib r st = .ok r') :
    r'.spec = r.spec ∧ r'.status = r.status ∧ r'.meta.name = r.meta.name ∧
      r'.meta.«namespace» = r.meta.«namespace» ∧ r'.meta.uid = r.meta.uid ∧
      r'.meta.resourceVersion = r.meta.resourceVersion ∧
      r'.meta.ownerReferences = r.meta.ownerReferences := by
  obtain ⟨bytes, -, rfl⟩ := setStatus_eq lib h
  simp [ObjectMeta.setMetaDataAnnotation]

theorem updateStatus_only (r : Route) (st : Status) :
    Only (fun c => ∃ r', setStatus lib r st = .ok r' ∧ r' ≠ r ∧
      c = .routeUpdate r'.meta.«namespace» r')
      (updateStatus lib r st) := by
  simp only [updateStatus]
  split
  · exact .throw _
  · rename_i r' hr
    split
    · exact .pure ()
    · rename_i hne
      refine .call ⟨r', hr, hne, rfl⟩ fun reply => ?_
      cases reply
      · exact .throw _
      · exact .pure ()

theorem updateStatus_returns {r : Route} {st : Status} {tr : List Exchange}
    (h : Steps (updateStatus lib r st) tr (.pure ())) :
    ∃ r', setStatus lib r st = .ok r' ∧
      ((r' = r ∧ tr = []) ∨ ∃ y, tr = [⟨.routeUpdate r'.meta.«namespace» r', .ok y⟩]) := by
  simp only [updateStatus] at h
  split at h
  · simp at h
  · rename_i r' hr
    refine ⟨r', hr, ?_⟩
    split at h
    · simp_all
    · rename_i hne
      simp only [bind, Prog.bind, send, steps_call_iff, Prog.steps_pure_iff,
        Prog.steps_throw_iff] at h
      rcases h with ⟨-, h⟩ | ⟨reply, tr', rfl, h⟩
      · cases h
      · cases reply with
        | ok y => simp_all
        | error e => simp at h

end RouteController

end OpenshiftAcme
