import OpenshiftAcme.Route.Lemmas.Writes

/-!
This module contains the names and the links of the exposer triple that `handle` writes for a
pending challenge. Every write of the triple names its object after the challenge's temporary
name; the exposer Route is a copy of the managed route with only its name, owner, labels, path and
target changed, so it keeps the route's alternate backends and target port; and the ReplicaSet and
Service point at the exposer Route through an owner reference whose API version is the core one,
not the route group's. The temporary name itself is the prefix and the 64 raw bytes of a digest:
77 characters, too long for a DNS-1035 label, though distinct digests give distinct names.
-/

namespace OpenshiftAcme

namespace RouteController

open Prog (Only)

variable (lib : Lib)

def WiredCall (r : Route) (n token : String) : Call → Prop
  | .routeCreate ns x | .routeUpdate ns x =>
    ns = r.meta.«namespace» ∧ x.meta.name = n ∧ x.meta.ownerReferences = [ownerRefToRoute r] ∧
      x.spec = { r.spec with path := Acme.http01ChallengePath token, «to» := ⟨"Service", n⟩ }
  | .replicaSetCreate ns x | .replicaSetUpdate ns x =>
    ns = r.meta.«namespace» ∧ x.meta.name = n ∧
      (∃ E, x.meta.ownerReferences = [ownerRefToExposerRoute E]) ∧
      x.spec.selector = podLabels n ∧ x.spec.templateLabels = podLabels n
  | .serviceCreate ns x | .serviceUpdate ns x =>
    ns = r.meta.«namespace» ∧ x.meta.name = n ∧
      (∃ E, x.meta.ownerReferences = [ownerRefToExposerRoute E]) ∧ x.spec.selector = podLabels n
  | _ => True

variable {r : Route} {key n token : String}

theorem createExposerRoute_wired :
    Only (WiredCall r n token) (createExposerRoute key r (desiredExposerRoute lib r n token)) := by
  unfold createExposerRoute
  exact createOrAdopt_only (Only.send ⟨rfl, rfl, rfl, rfl⟩) (fun _ => Only.send trivial)
    (fun _ => Only.send ⟨rfl, rfl, rfl, rfl⟩)

theorem createExposerRS_wired (E : Route) :
    Only (WiredCall r n token)
      (createExposerRS key r (desiredExposerRS lib n (ownerRefToExposerRoute E))) := by
  unfold createExposerRS
  exact createOrAdopt_only (Only.send ⟨rfl, rfl, ⟨E, rfl⟩, rfl, rfl⟩) (fun _ => Only.send trivial)
    (fun _ => Only.send ⟨rfl, rfl, ⟨E, rfl⟩, rfl, rfl⟩)

theorem createExposerService_wired (E : Route) :
    Only (WiredCall r n token)
      (createExposerService key r (desiredExposerService lib n (ownerRefToExposerRoute E))) := by
  unfold createExposerService
  exact createOrAdopt_only (Only.send ⟨rfl, rfl, ⟨E, rfl⟩, rfl⟩) (fun _ => Only.send trivial)
    (fun _ => Only.send ⟨rfl, rfl, ⟨E, rfl⟩, rfl⟩)

/--
Every write `handle` makes for a pending challenge, create or adopting update, is wired under the
challenge's temporary name: the exposer Route is the managed route with only its path and target
replaced, alternate backends and target port included, and the ReplicaSet and Service are owned,
through the core API version, by the exposer Route the first step returned.
-/
theorem exposeChallenge_wiring (key : String) (r : Route) (o : Acme.Order) (authzUrl : String)
    (c : Acme.Challenge) :
    Only (WiredCall r (exposerName lib r o authzUrl c) c.token) (exposeChallenge lib key r o authzUrl c) ∧
    ∀ E, (ownerRefToExposerRoute E).apiVersion = coreGroupVersion ∧ coreGroupVersion ≠ routeGroupVersion :=
  ⟨(createExposerRoute_wired lib).bind fun E => (createExposerRS_wired lib E).bind fun _ =>
    (createExposerService_wired lib E).bind fun _ =>
      (Only.send trivial).bind fun l => (Only.ofExcept l).bind fun _ => .pure _,
    fun _ => ⟨rfl, by decide⟩⟩

def canaryRoute : Route :=
  { meta := { ObjectMeta.named "web" with «namespace» := "acme", uid := "uid-web" }
    spec := { host := "www.example.com", path := "", «to» := ⟨"Service", "web"⟩,
              alternateBackends := [⟨"Service", "canary"⟩], port := some "https", tls := none }
    status := ⟨[⟨"www.example.com", true⟩]⟩ }

def canaryChallenge : Acme.Challenge :=
  ⟨"http-01", "https://ca.example/chall/1", "tok", Acme.statusPending⟩

def canaryOrder : Acme.Order :=
  ⟨"https://ca.example/order/1", Acme.statusPending, ["https://ca.example/authz/1"], ""⟩

theorem canaryRoute_exposer_keeps_backends :
    ∃ x k, exposeChallenge exampleLib "acme/web" canaryRoute canaryOrder
        "https://ca.example/authz/1" canaryChallenge =
        .call (.routeCreate "acme" x) k ∧
      x.spec.alternateBackends = [⟨"Service", "canary"⟩] ∧ x.spec.port = some "https" ∧
      (ownerRefToExposerRoute x).apiVersion = "v1" := by
  have h := exposeChallenge_wiring exampleLib "acme/web" canaryRoute canaryOrder
    "https://ca.example/authz/1" canaryChallenge
  refine ⟨_, _, rfl, ?_⟩
  have hw : WiredCall canaryRoute
      (exposerName exampleLib canaryRoute canaryOrder "https://ca.example/authz/1" canaryChallenge)
      canaryChallenge.token (.routeCreate "acme" (desiredExposerRoute exampleLib canaryRoute
        (exposerName exampleLib canaryRoute canaryOrder "https://ca.example/authz/1" canaryChallenge)
        canaryChallenge.token)) := by
    cases h.1 with
    | call hc _ => exact hc
  obtain ⟨-, -, -, hspec⟩ := hw
  exact ⟨by rw [hspec]; rfl, by rw [hspec]; rfl, (h.2 _).1⟩

/--
Modelled from the API server's validation, which is not in the source: a DNS-1035 label has at most
63 characters and matches `[a-z]([-a-z0-9]*[a-z0-9])?`. Service names and label values must be such.
-/
def isDNS1035Label (s : String) : Bool :=
  s.length ≤ 63 &&
    match s.data with
    | [] => false
    | c :: rest =>
      c.isLower && rest.all (fun c => c.isLower || c.isDigit || c == '-') &&
        (s.data.getLast?.all fun c => c.isLower || c.isDigit)

theorem toNat_ofNat_byte (b : UInt8) : (Char.ofNat b.toNat).toNat = b.toNat := by
  have hb : b.toNat < 256 := b.val.isLt
  rw [Char.ofNat, dif_pos (Or.inl (by omega))]
  simp [Char.ofNatAux, Char.toNat, UInt32.toNat]

theorem length_getTemporaryName (key : String) : (getTemporaryName lib key).length = 77 := by
  simp [getTemporaryName, String.length_append, (lib.sum512 key).length_bytes]
  rfl

/--
The temporary name that `handle` gives the exposer Route, ReplicaSet and Service and their `app`
label is 77 characters long for every key, so it is no DNS-1035 label; distinct digests give
distinct names.
-/
theorem getTemporaryName_not_dns_label (key : String) :
    (getTemporaryName lib key).length = 77 ∧ isDNS1035Label (getTemporaryName lib key) = false ∧
    ∀ key', lib.sum512 key ≠ lib.sum512 key' → getTemporaryName lib key ≠ getTemporaryName lib key' := by
  refine ⟨length_getTemporaryName lib key, by simp [isDNS1035Label, length_getTemporaryName], ?_⟩
  intro key' hne heq
  have hdata := List.append_cancel_left (congrArg String.data heq)
  simp only [String.data] at hdata
  have hinj : Function.Injective fun b : UInt8 => Char.ofNat b.toNat := fun b b' h =>
    UInt8.eq_of_val_eq (Fin.eq_of_val_eq (by simpa [toNat_ofNat_byte] using congrArg Char.toNat h))
  apply hne
  have hb := List.map_injective_iff.mpr hinj hdata
  cases h₁ : lib.sum512 key
  cases h₂ : lib.sum512 key'
  simp_all

theorem canaryRoute_name_not_dns_label :
    (exposerName exampleLib canaryRoute canaryOrder "https://ca.example/authz/1" canaryChallenge).length = 77 ∧
    isDNS1035Label (exposerName exampleLib canaryRoute canaryOrder "https://ca.example/authz/1"
      canaryChallenge) = false :=
  let h := getTemporaryName_not_dns_label exampleLib
    "web:https://ca.example/order/1:https://ca.example/authz/1:https://ca.example/chall/1"
  ⟨h.1, h.2.1⟩

end RouteController

end OpenshiftAcme
