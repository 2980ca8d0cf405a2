import OpenshiftAcme.Route.Handle
import OpenshiftAcme.World.Versions

/-!
This module contains the finalize branch of `handle` (an order the CA reports ready or valid)
against the optimistic concurrency of the route store. The branch writes the route twice, and both
writes start from `routeReadOnly`: the route with the new certificate, then the route with the
provisioning status cleared. Both carry the resource version `routeReadOnly` was read at. Once the
certificate write has stored a new version, the status write carries a version the store no longer
holds, so the branch does not return nil: the certificate is installed, and the status annotation
still records the order as in flight.
-/

namespace OpenshiftAcme

namespace RouteController

open Prog (Steps steps_call_iff)
open Exchange (routeUpdated)

variable (lib : Lib)

@[simp] theorem withCertificate_meta (r : Route) (crt key : String) :
    (withCertificate r crt key).meta = r.meta :=
  rfl

theorem steps_finalizeOrder_nil {r : Route} {o : Acme.Order} {st : Status} {tr : List Exchange}
    (h : Steps (finalizeOrder lib r o st) tr (.pure ())) :
    ∃ tr₁ crt key y tr₂,
      tr = tr₁ ++ ⟨.routeUpdate r.meta.«namespace» (withCertificate r crt key), .ok y⟩ :: tr₂ ∧
      (∀ e ∈ tr₁, e.routeUpdated = none) ∧
      Steps (updateStatus lib r { st with provisioningStatus := none }) tr₂ (.pure ()) := by
  simp only [finalizeOrder, Prog.bind_eq, Prog.send_bind, Prog.call_bind] at h
  rcases steps_call_iff.mp h with ⟨-, h⟩ | ⟨rk, tr₁, rfl, h₁⟩
  · cases h
  cases rk with
  | error e => cases (Prog.steps_throw_iff.mp h₁).2
  | ok k =>
  simp only [Prog.pure_eq, Prog.pure_bind, Prog.send_bind, Prog.call_bind] at h₁
  rcases steps_call_iff.mp h₁ with ⟨-, h⟩ | ⟨rc, tr₂, rfl, h₂⟩
  · cases h
  cases rc with
  | error e => cases (Prog.steps_throw_iff.mp h₂).2
  | ok csr =>
  simp only [Prog.pure_eq, Prog.pure_bind, Prog.send_bind, Prog.call_bind] at h₂
  rcases steps_call_iff.mp h₂ with ⟨-, h⟩ | ⟨rd, tr₃, rfl, h₃⟩
  · cases h
  cases rd with
  | error e => cases (Prog.steps_throw_iff.mp h₃).2
  | ok du =>
  simp only [Prog.pure_eq, Prog.pure_bind, Prog.send_bind, Prog.call_bind, Prog.ofExcept_ok] at h₃
  split at h₃
  · rename_i pem _
    rcases steps_call_iff.mp h₃ with ⟨-, h⟩ | ⟨ru, tr₄, rfl, h₄⟩
    · cases h
    cases ru with
    | error e => cases (Prog.steps_throw_iff.mp h₄).2
    | ok y =>
      refine ⟨[_, _, _], pem.1, pem.2, y, tr₄, rfl, ?_, h₄⟩
      intro e he
      simp only [List.mem_cons, List.not_mem_nil, or_false] at he
      rcases he with rfl | rfl | rfl <;> rfl
  · simp at h₃

theorem setStatus_clear_ne {r r' : Route} {st st₀ : Status} (hst : getStatus lib r = .ok st₀)
    (hps : st₀.provisioningStatus.isSome)
    (h : setStatus lib r { st with provisioningStatus := none } = .ok r') : r' ≠ r := by
  rintro rfl
  rw [getStatus_setStatus lib h] at hst
  cases hst
  simp at hps

theorem setStatus_ne_withCertificate {r r' : Route} {st : Status} {crt key : String}
    (h : setStatus lib r st = .ok r') (hne : r' ≠ r) : withCertificate r crt key ≠ r' := by
  intro heq
  obtain ⟨bytes, -, rfl⟩ := setStatus_eq lib h
  apply hne
  have hm := congrArg Route.meta heq
  simp only [withCertificate_meta] at hm
  rw [← hm]

/--
The finalize branch, run from a store whose versions are in order with other clients writing in
between, on a route whose status annotation records an order in flight: once its certificate
write is answered with a version other than the one the route was read at, it does not return
nil. The status write that follows carries that old version too.
-/
theorem finalizeOrder_fails_after_certificate_write {Env : World → World → Prop}
    (henv : ∀ w w', Env w w' → World.RouteStep w w')
    {w w' : World} {r : Route} {o : Acme.Order} {st st₀ : Status} {tr : List Exchange}
    {q : Prog Unit} {crt key : String} {y : Route}
    (hw : w.RoutesWf) (hst : getStatus lib r = .ok st₀) (hps : st₀.provisioningStatus.isSome)
    (h : Prog.Exec Env w (finalizeOrder lib r o st) tr w' q)
    (hcert : ⟨.routeUpdate r.meta.«namespace» (withCertificate r crt key), .ok y⟩ ∈ tr)
    (hnew : y.meta.resourceVersion ≠ r.meta.resourceVersion) : q ≠ .pure () := by
  rintro rfl
  obtain ⟨-, hpair, hans⟩ := h.versionsOrdered henv hw
  obtain ⟨tr₁, crt₁, key₁, y₁, tr₂, rfl, hnone, hstat⟩ := steps_finalizeOrder_nil lib h.steps
  obtain ⟨r', hr', hcase⟩ := updateStatus_returns lib hstat
  have hne := setStatus_clear_ne lib hst hps hr'
  obtain ⟨y₂, rfl⟩ : ∃ y₂, tr₂ = [⟨.routeUpdate r'.meta.«namespace» r', .ok y₂⟩] :=
    hcase.resolve_left fun h => hne h.1
  obtain ⟨-, -, hname, hns, -, hrv, -⟩ := setStatus_meta_other lib hr'
  -- the certificate write of the hypothesis is the first of the two route writes
  have hy : y = y₁ := by
    rcases List.mem_append.mp hcert with he | he
    · exact absurd (hnone _ he) (by simp [routeUpdated])
    rcases List.mem_cons.mp he with he | he
    · have h₁ := congrArg routeUpdated he
      simp only [routeUpdated, Option.some.injEq, Prod.mk.injEq] at h₁
      exact h₁.2.2
    · have h₂ := congrArg routeUpdated (List.mem_singleton.mp he)
      simp only [routeUpdated, Option.some.injEq, Prod.mk.injEq] at h₂
      exact absurd h₂.2.1 (setStatus_ne_withCertificate lib hr' hne)
  subst hy
  have hlater : y.meta.resourceVersion ≤ r'.meta.resourceVersion :=
    (List.pairwise_cons.mp (List.pairwise_append.mp hpair).2.1).1 _ (List.mem_singleton_self _)
      r.meta.«namespace» _ y r' y₂ rfl (by rw [← hns]; rfl) hname
  have hearlier : r.meta.resourceVersion ≤ y.meta.resourceVersion :=
    hans _ (List.mem_append_right _ (List.mem_cons_self _ _)) r.meta.«namespace»
      (withCertificate r crt₁ key₁) y rfl
  exact hnew (le_antisymm (hrv ▸ hlater) hearlier)

def readyStatus : Status :=
  ⟨some ⟨0, "https://ca.example/order/1", Acme.statusReady⟩, 0⟩

def clearedStatus : Status := ⟨none, 0⟩

def readyJson : String :=
  "\x7b\"provisioningStatus\":\x7b\"startedAt\":\"1970-01-01T00:00:00Z\"," ++
    "\"orderUri\":\"https://ca.example/order/1\",\"orderStatus\":\"ready\"\x7d," ++
    "\"observedGeneration\":0\x7d"

def clearedJson : String :=
  "\x7b\"provisioningStatus\":null,\"observedGeneration\":0\x7d"

def certRoute : Route :=
  { meta := { ObjectMeta.named "web" with
      «namespace» := "acme", uid := "uid-web", resourceVersion := 2,
      annotations := some [("acme-status", readyJson)] }
    spec := { host := "www.example.com", path := "", «to» := ⟨"Service", "web"⟩,
              alternateBackends := [], port := none, tls := none }
    status := ⟨[⟨"www.example.com", true⟩]⟩ }

def readyOrder : Acme.Order :=
  ⟨"https://ca.example/order/1", Acme.statusReady, [], "https://ca.example/finalize/1"⟩

def certWorld : World :=
  { World.empty with routes := ⟨[certRoute], [certRoute]⟩, revision := 2 }

def certifiedRoute : Route :=
  { withCertificate certRoute "crt" "7" with meta := { certRoute.meta with resourceVersion := 3 } }

def certifiedWorld : World :=
  { certWorld with routes := ⟨[certifiedRoute], [certRoute, certifiedRoute]⟩, revision := 3 }

def clearedRoute : Route :=
  { certRoute with meta := certRoute.meta.setMetaDataAnnotation "acme-status" clearedJson }

def staleVersion : Err :=
  Store.conflict "web"
    "the object has been modified; please apply your changes to the latest version and try again"

theorem finalizeOrder_fails_on_certRoute :
    certWorld.RoutesWf ∧ getStatus exampleLib certRoute = .ok readyStatus ∧
    readyStatus.provisioningStatus.isSome ∧
    Prog.Exec World.Foreign certWorld (finalizeOrder exampleLib certRoute readyOrder readyStatus)
      [⟨.generateKey, .ok ⟨7⟩⟩, ⟨.createCertificateRequest "www.example.com" ⟨7⟩, .ok "csr"⟩,
        ⟨.createOrderCert "https://ca.example/finalize/1" "csr",
          .ok (["crt"], "https://ca.example/cert/1")⟩,
        ⟨.routeUpdate "acme" (withCertificate certRoute "crt" "7"), .ok certifiedRoute⟩,
        ⟨.routeUpdate "acme" clearedRoute, .error staleVersion⟩]
      certifiedWorld (.throw (staleVersion.wrap "can't update status: ")) ∧
    certifiedWorld.update World.routesL "acme" clearedRoute = .error staleVersion ∧
    certifiedRoute.meta.resourceVersion ≠ certRoute.meta.resourceVersion ∧
    (.throw (staleVersion.wrap "can't update status: ") : Prog Unit) ≠ .pure () := by
  have hw : certWorld.RoutesWf := ⟨by decide, by decide⟩
  have hst : getStatus exampleLib certRoute = .ok readyStatus := getStatus_of_marshal exampleLib rfl rfl
  refine ⟨hw, hst, rfl, ?run, rfl, by decide,
    finalizeOrder_fails_after_certificate_write exampleLib (fun _ _ => World.Foreign.routeStep)
      hw hst rfl ?run
      (.tail _ (.tail _ (.tail _ (.head _)))) (by decide)⟩
  case run =>
    exact .call _ rfl <| .call _ rfl <| .call _ rfl <| .call _ rfl <| .call _ (.inl rfl) <| .refl _ _

end RouteController

end OpenshiftAcme
