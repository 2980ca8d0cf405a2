import OpenshiftAcme.Route.Status

/-!
This module contains the challenge exposer of the route controller: the temporary name of the
objects that serve one HTTP-01 token, the exposer Route, ReplicaSet and Service that `handle`
builds, the `RetryOnConflict` loop, and the create-or-adopt step that `handle` runs for each of the
three objects.
-/

namespace OpenshiftAcme

namespace RouteController

open Prog (Steps Only send)

variable (lib : Lib)

/--
`fmt.Sprintf("acme-exposer-%s", sha512.Sum512([]byte(key)))`. The `%s` verb writes the digest as
its 64 raw bytes, one character each.
-/
def getTemporaryName (key : String) : String :=
  "acme-exposer-" ++ String.mk ((lib.sum512 key).bytes.map fun b => Char.ofNat b.toNat)

def ownerRefToRoute (routeReadOnly : Route) : OwnerReference :=
  { apiVersion := routeGroupVersion, kind := "Route", name := routeReadOnly.meta.name,
    uid := routeReadOnly.meta.uid, controller := some true }

def desiredExposerRoute (routeReadOnly : Route) (tmpName token : String) : Route :=
  { routeReadOnly with
    meta := { routeReadOnly.meta with
      name := tmpName
      resourceVersion := 0
      ownerReferences := [ownerRefToRoute routeReadOnly]
      labels := routeReadOnly.meta.labels.insert lib.temporaryLabel "true" }
    spec := { routeReadOnly.spec with
      path := Acme.http01ChallengePath token
      «to» := { kind := "Service", name := tmpName } } }

def ownerRefToExposerRoute (exposerRoute : Route) : OwnerReference :=
  { apiVersion := coreGroupVersion, kind := "Route", name := exposerRoute.meta.name,
    uid := exposerRoute.meta.uid, controller := none }

def podLabels (tmpName : String) : StringMap :=
  some [("app", tmpName)]

def desiredExposerRS (tmpName : String) (ownerRef : OwnerReference) : ReplicaSet :=
  { meta := { ObjectMeta.named tmpName with
      ownerReferences := [ownerRef]
      labels := some [(lib.temporaryLabel, "true")] }
    spec := { replicas := 2, selector := podLabels tmpName, templateLabels := podLabels tmpName } }

def desiredExposerService (tmpName : String) (ownerRef : OwnerReference) : Service :=
  { meta := { ObjectMeta.named tmpName with
      ownerReferences := [ownerRef]
      labels := some [(lib.temporaryLabel, "true")] }
    spec := { selector := podLabels tmpName, type := "ClusterIP" } }

def defaultBackoffSteps : Nat := 4

/--
`retry.RetryOnConflict`: `retryOnConflict fn n` runs `fn` at most `n + 1` times, again after each
conflict, and returns the last conflict when no attempt is left.
-/
def retryOnConflict (fn : Prog α) : Nat → Prog α
  | 0 => fn
  | n + 1 => tryCatch fn fun e => if e.isConflict then retryOnConflict fn n else throw e

def adoptAttempt [Resource α] (get : String → Prog (Except Err α))
    (update : α → Prog (Except Err α)) (what key : String) (owner : ObjectMeta) (desired : α) :
    Prog α := do
  let existing ← Prog.ofExcept (← get (Resource.meta desired).name)
  let m := Resource.meta existing
  if !m.isControlledBy owner then
    let ns := m.«namespace»
    let name := m.name
    throw (.text s!"{what} {ns}/{name} already exists and isn't owned by route {key}")
  Prog.ofExcept (← update (Resource.withMeta desired
    { Resource.meta desired with resourceVersion := m.resourceVersion }))

def createOrAdopt [Resource α] (create : α → Prog (Except Err α)) (get : String → Prog (Except Err α))
    (update : α → Prog (Except Err α)) (what key : String) (owner : ObjectMeta) (desired : α) :
    Prog α := do
  match ← create desired with
  | .ok x => pure x
  | .error err =>
    if err.isAlreadyExists then
      retryOnConflict (adoptAttempt get update what key owner desired) (defaultBackoffSteps - 1)
    else throw err

def createExposerRoute (key : String) (routeReadOnly desired : Route) : Prog Route :=
  let ns := routeReadOnly.meta.«namespace»
  createOrAdopt (fun x => send (.routeCreate ns x)) (fun n => send (.routeGet ns n))
    (fun x => send (.routeUpdate ns x)) "exposer Route" key routeReadOnly.meta desired

def createExposerRS (key : String) (routeReadOnly : Route) (desired : ReplicaSet) :
    Prog ReplicaSet :=
  let ns := routeReadOnly.meta.«namespace»
  createOrAdopt (fun x => send (.replicaSetCreate ns x)) (fun n => send (.replicaSetGet ns n))
    (fun x => send (.replicaSetUpdate ns x)) "pod" key routeReadOnly.meta desired

def createExposerService (key : String) (routeReadOnly : Route) (desired : Service) :
    Prog Service :=
  let ns := routeReadOnly.meta.«namespace»
  createOrAdopt (fun x => send (.serviceCreate ns x)) (fun n => send (.serviceGet ns n))
    (fun x => send (.serviceUpdate ns x)) "pod" key routeReadOnly.meta desired

def exposerName (routeReadOnly : Route) (order : Acme.Order) (authzUrl : String)
    (challenge : Acme.Challenge) : String :=
  getTemporaryName lib (routeReadOnly.meta.name ++ ":" ++ order.uri ++ ":" ++ authzUrl ++ ":" ++
    challenge.uri)

def exposeChallenge (key : String) (routeReadOnly : Route) (order : Acme.Order) (authzUrl : String)
    (challenge : Acme.Challenge) : Prog Unit := do
  let tmpName := exposerName lib routeReadOnly order authzUrl challenge
  let exposerRoute ← createExposerRoute key routeReadOnly
    (desiredExposerRoute lib routeReadOnly tmpName challenge.token)
  let ownerRef := ownerRefToExposerRoute exposerRoute
  let _ ← createExposerRS key routeReadOnly (desiredExposerRS lib tmpName ownerRef)
  let _ ← createExposerService key routeReadOnly (desiredExposerService lib tmpName ownerRef)
  let _ ← Prog.ofExcept (← send (.accept challenge))

end RouteController

end OpenshiftAcme
