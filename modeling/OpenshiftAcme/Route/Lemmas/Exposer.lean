import OpenshiftAcme.Route.Exposer
import OpenshiftAcme.World.Uids

/-!
This module contains the create-or-adopt step of the challenge exposer against the store's UID
preconditions. Adoption replaces an existing object by the desired one at the version read, and
the desired exposer Route is a copy of the managed route, UID included. The store answers an
update whose UID is not the stored one with a conflict, so the exposer Route step returns only
after creating the exposer Route itself: one left by an earlier run is never adopted. The
ReplicaSet and Service the step creates carry no controller reference, so the adopt check, which
asks whether the managed route controls them, fails on them too.
-/

namespace OpenshiftAcme

namespace RouteController

open Prog (Steps steps_call_iff)

variable (lib : Lib)

section CreateOrAdopt

variable {α : Type} [Resource α] {tr : List Exchange} {a : α}

omit [Resource α] in
theorem retryOnConflict_pure {fn : Prog α} {n : Nat} (h : Steps (retryOnConflict fn n) tr (.pure a)) :
    ∃ tr₁ tr₂, tr = tr₁ ++ tr₂ ∧ Steps fn tr₂ (.pure a) := by
  induction n generalizing tr with
  | zero => exact ⟨[], tr, rfl, h⟩
  | succ n ih =>
    rcases Prog.Steps.tryCatch_pure_inv h with h | ⟨tr₁, tr₂, e, rfl, -, h₂⟩
    · exact ⟨[], tr, rfl, h⟩
    · split at h₂
      · obtain ⟨tr₃, tr₄, rfl, h₄⟩ := ih h₂
        exact ⟨tr₁ ++ tr₃, tr₄, by simp, h₄⟩
      · simp at h₂

variable {get : String → Prog (Except Err α)} {update : α → Prog (Except Err α)} {what key : String}
  {owner : ObjectMeta} {desired : α}

theorem steps_adoptAttempt_pure (h : Steps (adoptAttempt get update what key owner desired) tr (.pure a)) :
    ∃ tr₁ tr₂ existing, tr = tr₁ ++ tr₂ ∧
      Steps (get (Resource.meta desired).name) tr₁ (.pure (.ok existing)) ∧
      (Resource.meta existing).isControlledBy owner = true ∧
      Steps (update (Resource.withMeta desired { Resource.meta desired with
        resourceVersion := (Resource.meta existing).resourceVersion })) tr₂ (.pure (.ok a)) := by
  obtain ⟨tr₁, tr', l, rfl, h₁, h'⟩ := Prog.Steps.bind_pure_inv h
  obtain ⟨tr₂, tr₃, existing, rfl, h₂, h₃⟩ := Prog.Steps.bind_pure_inv h'
  cases l with
  | error e => simp at h₂
  | ok x =>
  obtain ⟨rfl, rfl⟩ : tr₂ = [] ∧ existing = x := by simpa using h₂
  dsimp only at h₃
  split at h₃
  · simp at h₃
  · rename_i hc
    simp only [Prog.pure_eq, Prog.pure_bind] at h₃
    obtain ⟨tr₄, tr₅, l', rfl, h₄, h₅⟩ := Prog.Steps.bind_pure_inv h₃
    cases l' with
    | error e => simp at h₅
    | ok y =>
      obtain ⟨rfl, rfl⟩ : tr₅ = [] ∧ a = y := by simpa using h₅
      exact ⟨tr₁, tr₄, existing, by simp, h₁, by simpa using hc, by simpa using h₄⟩

variable {create : α → Prog (Except Err α)}

theorem steps_createOrAdopt_pure
    (h : Steps (createOrAdopt create get update what key owner desired) tr (.pure a)) :
    Steps (create desired) tr (.pure (.ok a)) ∨
      ∃ tr₁ tr₂, ∃ existing : α, tr = tr₁ ++ tr₂ ∧
        (Resource.meta existing).isControlledBy owner = true ∧
        Steps (update (Resource.withMeta desired { Resource.meta desired with
          resourceVersion := (Resource.meta existing).resourceVersion })) tr₂ (.pure (.ok a)) := by
  obtain ⟨tr₁, tr₂, l, rfl, h₁, h₂⟩ := Prog.Steps.bind_pure_inv h
  cases l with
  | ok x =>
    obtain ⟨rfl, rfl⟩ : tr₂ = [] ∧ a = x := by simpa using h₂
    exact .inl (by simpa using h₁)
  | error err =>
    dsimp only at h₂
    split at h₂
    · obtain ⟨tr₃, tr₄, rfl, h₄⟩ := retryOnConflict_pure h₂
      obtain ⟨tr₅, tr₆, existing, rfl, -, hc, h₆⟩ := steps_adoptAttempt_pure h₄
      exact .inr ⟨tr₁ ++ tr₃ ++ tr₅, tr₆, existing, by simp, hc, h₆⟩
    · simp at h₂

end CreateOrAdopt

theorem steps_send_pure {c : Call} {r : c.Reply} {tr : List Exchange}
    (h : Steps (Prog.send c) tr (.pure r)) : tr = [⟨c, r⟩] := by
  rcases steps_call_iff.mp h with ⟨-, h'⟩ | ⟨r', tr', rfl, h'⟩
  · cases h'
  · obtain ⟨rfl, he⟩ := Prog.steps_pure_iff.mp h'
    cases he
    rfl

theorem steps_createExposerRoute_pure {key : String} {r desired E : Route} {tr : List Exchange}
    (h : Steps (createExposerRoute key r desired) tr (.pure E)) :
    tr = [⟨.routeCreate r.meta.«namespace» desired, .ok E⟩] ∨
      ∃ rv, ⟨.routeUpdate r.meta.«namespace»
        { desired with meta := { desired.meta with resourceVersion := rv } }, .ok E⟩ ∈ tr := by
  unfold createExposerRoute at h
  rcases steps_createOrAdopt_pure h with h | ⟨tr₁, tr₂, existing, rfl, -, h₂⟩
  · exact .inl (steps_send_pure h)
  · exact .inr ⟨_, List.mem_append_right _ (by rw [steps_send_pure h₂]; exact List.mem_singleton_self _)⟩

/--
Run from a store where no route under the exposer's name has the managed route's UID (in
particular when an earlier run left its exposer Route there), with other clients acting in
between, the exposer Route step returns only after creating the exposer Route: an existing one is
never adopted, since the update carries the managed route's UID. The ReplicaSet and Service the
step creates are controlled by no object, so the adopt check fails on them as well.
-/
theorem createExposerRoute_never_adopts {Env : World → World → Prop}
    (henv : ∀ w w', Env w w' → World.RouteStep w w') {w w' : World} {key tmpName token : String}
    {r E : Route} {tr : List Exchange} (ha : w.UidAbsent r.meta.«namespace» tmpName r.meta.uid)
    (h : Prog.Exec Env w (createExposerRoute key r (desiredExposerRoute lib r tmpName token)) tr w'
      (.pure E)) :
    tr = [⟨.routeCreate r.meta.«namespace» (desiredExposerRoute lib r tmpName token), .ok E⟩] ∧
      ∀ exposerRoute : Route,
        (desiredExposerRS lib tmpName (ownerRefToExposerRoute exposerRoute)).meta.isControlledBy
          r.meta = false ∧
        (desiredExposerService lib tmpName (ownerRefToExposerRoute exposerRoute)).meta.isControlledBy
          r.meta = false := by
  refine ⟨?_, fun _ => ⟨rfl, rfl⟩⟩
  rcases steps_createExposerRoute_pure h.steps with htr | ⟨rv, he⟩
  · exact htr
  · exact ((h.uidAbsent henv ha).2 _ he _ E rfl rfl rfl).elim

def exposedRoute : Route :=
  { meta := { ObjectMeta.named "web" with «namespace» := "acme", uid := "uid-web", resourceVersion := 1 }
    spec := { host := "www.example.com", path := "", «to» := ⟨"Service", "web"⟩,
              alternateBackends := [], port := none, tls := none }
    status := ⟨[⟨"www.example.com", true⟩]⟩ }

def exposerWorld : World :=
  { World.empty with routes := ⟨[exposedRoute], [exposedRoute]⟩, revision := 1, uids := ["uid-web"] }

def createdExposer : Route :=
  { desiredExposerRoute exampleLib exposedRoute "acme-exposer-1" "tok" with
    meta := { (desiredExposerRoute exampleLib exposedRoute "acme-exposer-1" "tok").meta with
      uid := "uid-exposer", resourceVersion := 2 }
    status := ⟨[]⟩ }

def exposedWorld : World :=
  { exposerWorld with
    routes := ⟨[exposedRoute, createdExposer], [exposedRoute, createdExposer]⟩, revision := 2,
    uids := ["uid-exposer", "uid-web"] }

theorem createExposerRoute_creates_exposer :
    exposerWorld.UidAbsent "acme" "acme-exposer-1" "uid-web" ∧
    Prog.Exec World.Foreign exposerWorld
      (createExposerRoute "acme/web" exposedRoute
        (desiredExposerRoute exampleLib exposedRoute "acme-exposer-1" "tok"))
      [⟨.routeCreate "acme" (desiredExposerRoute exampleLib exposedRoute "acme-exposer-1" "tok"),
        .ok createdExposer⟩] exposedWorld (.pure createdExposer) ∧
    exposedWorld.UidAbsent "acme" "acme-exposer-1" "uid-web" ∧
    ∀ exposerRoute : Route,
      (desiredExposerRS exampleLib "acme-exposer-1" (ownerRefToExposerRoute exposerRoute)).meta.isControlledBy
        exposedRoute.meta = false ∧
      (desiredExposerService exampleLib "acme-exposer-1"
        (ownerRefToExposerRoute exposerRoute)).meta.isControlledBy exposedRoute.meta = false := by
  have ha : exposerWorld.UidAbsent "acme" "acme-exposer-1" "uid-web" :=
    ⟨by decide, by decide, fun z hz => nomatch hz⟩
  refine ⟨ha, ?run, (Prog.Exec.uidAbsent (fun _ _ => World.Foreign.routeStep) ?run ha).1,
    (createExposerRoute_never_adopts exampleLib (fun _ _ => World.Foreign.routeStep) ha ?run).2⟩
  case run => exact .call _ ⟨"uid-exposer", ⟨by decide, by decide⟩, rfl⟩ (.refl _ _)

end RouteController

end OpenshiftAcme
