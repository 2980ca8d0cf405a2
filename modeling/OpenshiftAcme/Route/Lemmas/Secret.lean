import OpenshiftAcme.Route.Secret
import OpenshiftAcme.World.Secrets

/-!
This module proves that `syncSecret` converges and is then idempotent. Run against an up-to-date
lister and an API server that answers with its own outcome, from any state in which the Secret of
the route's name is absent or controlled by the route, a successful sync leaves a Secret under that
name exactly when the route has TLS, with the TLS type, the route's certificate and key, and the
route as its only owner; a second sync then reads that Secret and writes nothing. Both rest on
`newSecret` leaving such a Secret as it is, which the `DeepEqual` comparison sees.
-/

namespace OpenshiftAcme

namespace RouteController

open Prog (Steps steps_call_iff)

structure MirrorsTLS (routeReadOnly : Route) (tls : TLSConfig) (secret : Secret) : Prop where
  type : secret.type = secretTypeTLS
  tlsCrt : secret.data.lookup tlsCertKey = some tls.certificate
  tlsKey : secret.data.lookup tlsPrivateKeyKey = some tls.key
  ownerReferences : secret.meta.ownerReferences = [ownerRefToRoute routeReadOnly]

def SecretMirrors (routeReadOnly : Route) : Option Secret → Prop
  | none => routeReadOnly.spec.tls = none
  | some secret => ∃ tls, routeReadOnly.spec.tls = some tls ∧ MirrorsTLS routeReadOnly tls secret

variable {r : Route} {tls : TLSConfig} {x y : Secret}

theorem mirrorsTLS_newSecret (o : Option Secret) : MirrorsTLS r tls (newSecret r tls o) where
  type := rfl
  tlsCrt := by
    rw [newSecret, StringMap.lookup_insert_ne _ _ (by decide), StringMap.lookup_insert]
  tlsKey := StringMap.lookup_insert _ _ _
  ownerReferences := rfl

theorem MirrorsTLS.of_content (h : MirrorsTLS r tls x) (htype : y.type = x.type)
    (hdata : y.data = x.data) (howners : y.meta.ownerReferences = x.meta.ownerReferences) :
    MirrorsTLS r tls y :=
  ⟨htype ▸ h.type, hdata ▸ h.tlsCrt, hdata ▸ h.tlsKey, howners ▸ h.ownerReferences⟩

theorem MirrorsTLS.isControlledBy (h : MirrorsTLS r tls y) : y.meta.isControlledBy r.meta = true := by
  simp [ObjectMeta.isControlledBy, ObjectMeta.getControllerOf, h.ownerReferences, ownerRefToRoute]

theorem newSecret_of_mirrorsTLS (h : MirrorsTLS r tls y) : newSecret r tls (some y) = y := by
  have hcrt := (StringMap.insert_eq_self_iff _ _ _).2 h.tlsCrt
  have hkey := (StringMap.insert_eq_self_iff _ _ _).2 h.tlsKey
  simp only [newSecret, Option.getD_some, hcrt, hkey, ← h.type, ← h.ownerReferences]

theorem SecretMirrors.owned {o : Option Secret} (h : SecretMirrors r o) :
    ∀ y, o = some y → y.meta.isControlledBy r.meta = true := by
  rintro y rfl
  obtain ⟨tls, -, hm⟩ := h
  exact hm.isControlledBy

section Synced

variable {s : Store Secret} {tr : List Exchange} {q : Prog Unit}

theorem steps_syncSecret_synced
    (hs : ∀ y, s.find r.meta.«namespace» r.meta.name = some y → y.meta.isControlledBy r.meta = true) :
    Steps (syncSecret r)
        (⟨.secretListerGet r.meta.«namespace» r.meta.name, s.get r.meta.«namespace» r.meta.name⟩ :: tr) q ↔
      Steps (syncOwnedSecret r (s.find r.meta.«namespace» r.meta.name)) tr q := by
  unfold Store.get
  cases hf : s.find r.meta.«namespace» r.meta.name with
  | none => simp [syncSecret, Store.notFound, Err.isNotFound]
  | some y => simp [syncSecret, hs y hf]

theorem steps_syncSecret_of_mirrors (h : SecretMirrors r (s.find r.meta.«namespace» r.meta.name)) :
    Steps (syncSecret r)
        (⟨.secretListerGet r.meta.«namespace» r.meta.name, s.get r.meta.«namespace» r.meta.name⟩ :: tr) q ↔
      tr = [] ∧ q = .pure () := by
  rw [steps_syncSecret_synced h.owned]
  cases hf : s.find r.meta.«namespace» r.meta.name with
  | none =>
    rw [hf] at h
    have hrun : syncOwnedSecret r none = .pure () := by
      unfold syncOwnedSecret
      rw [show r.spec.tls = none from h]
      rfl
    rw [hrun, Prog.steps_pure_iff]
  | some y =>
    rw [hf] at h
    obtain ⟨tls, htls, hm⟩ := h
    have hrun : syncOwnedSecret r (some y) = .pure () := by
      unfold syncOwnedSecret
      rw [htls]
      exact if_pos (newSecret_of_mirrorsTLS hm).symm
    rw [hrun, Prog.steps_pure_iff]

end Synced

section Run

variable {w w' : World} {tr : List Exchange}

theorem name_of_find {s : Store Secret} {ns name : String} {old : Secret}
    (h : s.find ns name = some old) : old.meta.name = name := by
  have hk := List.find?_some h
  simp only [Store.keyIs, Bool.and_eq_true, decide_eq_true_eq] at hk
  exact hk.2

theorem syncOwnedSecret_mirrors
    (hdelete : ∀ uid reply, (⟨.secretDelete r.meta.«namespace» r.meta.name uid, reply⟩ : Exchange) ∈ tr →
      reply = (w.secrets.delete r.meta.«namespace» r.meta.name uid).map fun _ => ())
    (hrun : Steps (syncOwnedSecret r (w.secrets.find r.meta.«namespace» r.meta.name)) tr (.pure ()))
    (hans : World.Answers w tr w') :
    SecretMirrors r (w'.secrets.find r.meta.«namespace» r.meta.name) := by
  unfold syncOwnedSecret at hrun
  cases hf : w.secrets.find r.meta.«namespace» r.meta.name with
  | none =>
    cases htls : r.spec.tls with
    | none =>
      rw [hf, htls] at hrun
      obtain ⟨rfl, -⟩ := Prog.steps_pure_iff.mp hrun
      rw [show w' = w from hans, hf]
      exact htls
    | some tls =>
      rw [hf, htls] at hrun
      obtain ⟨-, h⟩ | ⟨reply, tr', rfl, h⟩ := steps_call_iff.mp hrun
      · cases h
      cases reply with
      | error e => simp at h
      | ok y =>
        obtain ⟨rfl, -⟩ := Prog.steps_pure_iff.mp h
        obtain ⟨w₁, ha, rfl⟩ := hans
        obtain ⟨hy, htype, hdata, howners⟩ := World.secretCreate_ok ha
        rw [show r.meta.name = (newSecret r tls none).meta.name from rfl, hy]
        exact ⟨tls, htls, (mirrorsTLS_newSecret none).of_content htype hdata howners⟩
  | some old =>
    cases htls : r.spec.tls with
    | none =>
      rw [hf, htls] at hrun
      obtain ⟨-, h⟩ | ⟨reply, tr', rfl, h⟩ := steps_call_iff.mp hrun
      · cases h
      have hreply : reply = .ok () := by
        rw [hdelete _ reply (List.mem_cons_self _ _)]
        simp only [Store.delete, hf]
        rw [if_neg fun h => h.2 rfl]
        rfl
      subst hreply
      obtain ⟨rfl, -⟩ := Prog.steps_pure_iff.mp h
      obtain ⟨w₁, ha, rfl⟩ := hans
      rw [World.secretDelete_ok ha]
      exact htls
    | some tls =>
      rw [hf, htls] at hrun
      dsimp only at hrun
      have hname : old.meta.name = r.meta.name := name_of_find hf
      by_cases hold : old = newSecret r tls (some old)
      · rw [if_pos hold] at hrun
        obtain ⟨rfl, -⟩ := Prog.steps_pure_iff.mp hrun
        rw [show w' = w from hans, hf]
        exact ⟨tls, htls, hold ▸ mirrorsTLS_newSecret (some old)⟩
      · rw [if_neg hold] at hrun
        obtain ⟨-, h⟩ | ⟨reply, tr', rfl, h⟩ := steps_call_iff.mp hrun
        · cases h
        cases reply with
        | error e => simp at h
        | ok y =>
          obtain ⟨rfl, -⟩ := Prog.steps_pure_iff.mp h
          obtain ⟨w₁, ha, rfl⟩ := hans
          obtain ⟨hy, htype, hdata, howners⟩ := World.secretUpdate_ok ha
          rw [show r.meta.name = (newSecret r tls (some old)).meta.name from hname.symm, hy]
          exact ⟨tls, htls, (mirrorsTLS_newSecret (some old)).of_content htype hdata howners⟩

/--
`syncSecret` converges and is then idempotent. From any store in which the Secret of the route's
name is absent or controlled by the route, a sync that succeeds, read through an up-to-date lister
and answered on its delete by the API server's own outcome, leaves that Secret present exactly when
the route has TLS, of the TLS type, with the route's certificate and key and the route as its
controller; a second sync on the resulting store reads the Secret and writes nothing.
-/
theorem syncSecret_converges
    (hstate : ∀ y, w.secrets.find r.meta.«namespace» r.meta.name = some y →
      y.meta.isControlledBy r.meta = true)
    (hlister : ∀ reply, (⟨.secretListerGet r.meta.«namespace» r.meta.name, reply⟩ : Exchange) ∈ tr →
      reply = w.secrets.get r.meta.«namespace» r.meta.name)
    (hdelete : ∀ uid reply, (⟨.secretDelete r.meta.«namespace» r.meta.name uid, reply⟩ : Exchange) ∈ tr →
      reply = (w.secrets.delete r.meta.«namespace» r.meta.name uid).map fun _ => ())
    (hrun : Steps (syncSecret r) tr (.pure ()))
    (hans : World.Answers w tr w') :
    SecretMirrors r (w'.secrets.find r.meta.«namespace» r.meta.name) ∧
      ∀ tr₂ q, Steps (syncSecret r) (⟨.secretListerGet r.meta.«namespace» r.meta.name,
          w'.secrets.get r.meta.«namespace» r.meta.name⟩ :: tr₂) q ↔ tr₂ = [] ∧ q = .pure () := by
  obtain ⟨-, h⟩ | ⟨reply, tr', rfl, -⟩ := steps_call_iff.mp hrun
  · cases h
  obtain rfl := hlister reply (List.mem_cons_self _ _)
  obtain ⟨w₁, ⟨rfl, -⟩, hans⟩ := hans
  have hm := syncOwnedSecret_mirrors (fun uid reply h => hdelete uid reply (List.mem_cons_of_mem _ h))
    ((steps_syncSecret_synced hstate).mp hrun) hans
  exact ⟨hm, fun _ _ => steps_syncSecret_of_mirrors hm⟩

def secretTLS : TLSConfig := ⟨"edge", "crt", "key", "Redirect"⟩

def secretRoute : Route :=
  { meta := { ObjectMeta.named "web" with «namespace» := "acme", uid := "uid-web" }
    spec := { host := "www.example.com", path := "", «to» := ⟨"Service", "web"⟩,
              alternateBackends := [], port := none, tls := some secretTLS }
    status := ⟨[]⟩ }

def createdSecret : Secret :=
  let x := newSecret secretRoute secretTLS none
  { x with meta := { x.meta with «namespace» := "acme", uid := "uid-1", resourceVersion := 1 } }

def createTrace : List Exchange :=
  [⟨.secretListerGet "acme" "web", .error (Store.notFound "web")⟩,
   ⟨.secretCreate "acme" (newSecret secretRoute secretTLS none), .ok createdSecret⟩]

def createdWorld : World :=
  { World.empty with secrets := ⟨[createdSecret], [createdSecret]⟩, revision := 1, uids := ["uid-1"] }

theorem secretRoute_syncs_secret :
    SecretMirrors secretRoute (createdWorld.secrets.find "acme" "web") ∧
      ∀ tr₂ q, Steps (syncSecret secretRoute)
          (⟨.secretListerGet "acme" "web", createdWorld.secrets.get "acme" "web"⟩ :: tr₂) q ↔
        tr₂ = [] ∧ q = .pure () :=
  syncSecret_converges (w := World.empty) (fun _ h => nomatch h)
    (by intro reply h; simp [createTrace, secretRoute] at h; exact h.2)
    (by intro uid reply h; simp [createTrace] at h)
    (show Steps (syncSecret secretRoute) createTrace (.pure ()) from .call _ (.call _ (.refl _)))
    ⟨World.empty, ⟨rfl, trivial⟩, createdWorld, ⟨"uid-1", ⟨by decide, List.not_mem_nil _⟩, rfl⟩, rfl⟩

end Run

end RouteController

end OpenshiftAcme
