import OpenshiftAcme.Route.Exposer

/-!
This module contains `syncSecret` of the route controller, which mirrors the certificate and key of
a managed route into the Secret of the route's name, controlled by the route, and deletes that
Secret once the route has no TLS. A Secret of that name that the route does not control is left
alone with a warning event. `GetControllerRef` is read as `metav1.GetControllerOf`, the function
the Secret event handlers call. Nothing in the repository calls `syncSecret`.
-/

namespace OpenshiftAcme

namespace RouteController

open Prog (send)

def secretTypeTLS : String := "kubernetes.io/tls"

def tlsCertKey : String := "tls.crt"

def tlsPrivateKeyKey : String := "tls.key"

def newSecret (routeReadOnly : Route) (tls : TLSConfig) (oldSecret : Option Secret) : Secret :=
  let secret := oldSecret.getD ⟨ObjectMeta.named routeReadOnly.meta.name, "", none⟩
  { secret with
    meta := { secret.meta with ownerReferences := [ownerRefToRoute routeReadOnly] }
    type := secretTypeTLS
    data := (secret.data.insert tlsCertKey tls.certificate).insert tlsPrivateKeyKey tls.key }

def syncOwnedSecret (routeReadOnly : Route) (oldSecret : Option Secret) : Prog Unit := do
  let ns := routeReadOnly.meta.«namespace»
  let secretName := routeReadOnly.meta.name
  match routeReadOnly.spec.tls, oldSecret with
  | none, none => pure ()
  | none, some old =>
    match ← send (.secretDelete ns secretName old.meta.uid) with
    | .ok () => pure ()
    | .error err =>
      if !err.isNotFound then throw (err.wrap s!"failed to delete oldSecret {ns}/{secretName}: ")
      else pure ()
  | some tls, none =>
    let secret := newSecret routeReadOnly tls none
    let name := secret.meta.name
    match ← send (.secretCreate ns secret) with
    | .ok _ => pure ()
    | .error err => throw (err.wrap s!"failed to create Secret {ns}/{name} with TLS data: ")
  | some tls, some old =>
    let secret := newSecret routeReadOnly tls (some old)
    let name := secret.meta.name
    if old = secret then pure ()
    else
      match ← send (.secretUpdate ns secret) with
      | .ok _ => pure ()
      | .error err => throw (err.wrap s!"failed to update Secret {ns}/{name} with TLS data: ")

def syncSecret (routeReadOnly : Route) : Prog Unit := do
  let ns := routeReadOnly.meta.«namespace»
  let routeName := routeReadOnly.meta.name
  let secretName := routeReadOnly.meta.name
  match ← send (.secretListerGet ns secretName) with
  | .error err =>
    if !err.isNotFound then throw (err.wrap s!"failed to get Secret {ns}/{secretName}: ")
    else syncOwnedSecret routeReadOnly none
  | .ok oldSecret =>
    if !oldSecret.meta.isControlledBy routeReadOnly.meta then
      send (.event routeReadOnly.meta "Warning" "CollidingSecret"
        s!"Can't sync certificates for Route {ns}/{routeName} into Secret {ns}/{secretName} because it already exists and isn't owned by the Route!")
    else syncOwnedSecret routeReadOnly (some oldSecret)

end RouteController

end OpenshiftAcme
