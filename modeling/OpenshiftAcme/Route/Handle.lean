import OpenshiftAcme.Route.Exposer

/-!
This module contains `handle`, the per-key handler of the route controller, cut along its state
machine: the entry guards, the renewal check of a route with no order in flight (IDLE), the new
order (NEW_ORDER), the stuck and missing orders, the dispatch on the order's status, the loop over
the pending authorizations, and the finalization of a ready or valid order.
-/

namespace OpenshiftAcme

namespace RouteController

open Prog (send)

variable (lib : Lib)

/-- The challenge `handle` acts on: the loop over the challenges keeps the last `http-01` one. -/
def selectChallenge (challenges : List Acme.Challenge) : Option Acme.Challenge :=
  challenges.foldl (fun acc c => if c.type = "http-01" then some c else acc) none

def satisfyAuthorizations (key domain : String) (routeReadOnly : Route) (order : Acme.Order) :
    List String → Prog Unit
  | [] => pure ()
  | authzUrl :: rest => do
    let authz ← Prog.ofExcept (← send (.getAuthorization authzUrl))
    let orderUri := goQuote order.uri
    let authzUri := goQuote authz.uri
    if authz.status = Acme.statusPending then
      match selectChallenge authz.challenges with
      | none =>
        let types := authz.challenges.map (·.type)
        throw (.text s!"route {goQuote key}: unable to satisfy authorization {authzUri} for domain {goQuote domain}: no viable challenge type found in {types}")
      | some challenge =>
        if challenge.status = Acme.statusPending then do
          exposeChallenge lib key routeReadOnly order authzUrl challenge
          satisfyAuthorizations key domain routeReadOnly order rest
        else if challenge.status ∈ [Acme.statusProcessing, Acme.statusValid, Acme.statusInvalid] then
          satisfyAuthorizations key domain routeReadOnly order rest
        else
          let status := goQuote challenge.status
          let challengeUri := goQuote challenge.uri
          throw (.text s!"route {goQuote key}: order {orderUri}: authz {authzUri}: invalid status {status} for challenge {challengeUri}")
    else if authz.status ∈ [Acme.statusValid, Acme.statusInvalid, Acme.statusDeactivated,
        Acme.statusExpired, Acme.statusRevoked] then
      satisfyAuthorizations key domain routeReadOnly order rest
    else
      let status := goQuote authz.status
      throw (.text s!"route {goQuote key}: order {orderUri}: authz {authzUri} has invalid status {status}")

def defaultTLSConfig : TLSConfig :=
  { termination := "edge", certificate := "", key := "", insecureEdgeTerminationPolicy := "Redirect" }

def withCertificate (routeReadOnly : Route) (crt key : String) : Route :=
  { routeReadOnly with
    spec := { routeReadOnly.spec with
      tls := some { (routeReadOnly.spec.tls.getD defaultTLSConfig) with key := key, certificate := crt } } }

def finalizeOrder (routeReadOnly : Route) (order : Acme.Order) (status : Status) : Prog Unit := do
  let host := routeReadOnly.spec.host
  let privateKey ← match ← send .generateKey with
    | .ok k => pure k
    | .error e => throw (e.wrap "failed to generate RSA key: ")
  let csr ← match ← send (.createCertificateRequest host privateKey) with
    | .ok csr => pure csr
    | .error e => throw (e.wrap "failed to create certificate request: ")
  let (der, _) ← Prog.ofExcept (← send (.createOrderCert order.finalizeURL csr))
  let (crt, key) ← match lib.newCertificateFromDER der privateKey with
    | .ok pem => pure pem
    | .error e => throw (.text s!"can't convert certificate from DER to PEM: {e}")
  let route := withCertificate routeReadOnly crt key
  let ns := routeReadOnly.meta.«namespace»
  match ← send (.routeUpdate ns route) with
  | .error e =>
    let name := route.meta.name
    throw (e.wrap s!"can't update route {ns}/{name} with new certificates: ")
  | .ok _ => updateStatus lib routeReadOnly { status with provisioningStatus := none }

def processingDelay : Int := 15 * 1000000000

def dispatchOrder (key : String) (routeReadOnly : Route) (order : Acme.Order) (status : Status) :
    Prog Unit :=
  if order.status = Acme.statusPending then do
    satisfyAuthorizations lib key routeReadOnly.spec.host routeReadOnly order order.authzURLs
    updateStatus lib routeReadOnly status
  else if order.status = Acme.statusValid ∨ order.status = Acme.statusReady then
    finalizeOrder lib routeReadOnly order status
  else if order.status = Acme.statusProcessing then do
    send (.queueAddAfter .route (.route routeReadOnly) processingDelay)
    updateStatus lib routeReadOnly status
  else if order.status = Acme.statusInvalid then do
    let host := goQuote routeReadOnly.spec.host
    send (.event routeReadOnly.meta "Warning" "AcmeFailedAuthorization"
      s!"Acme provider failed to validate domain {host}: ")
    updateStatus lib routeReadOnly status
  else
    let orderStatus := goQuote order.status
    let orderUri := goQuote order.uri
    throw (.text s!"route {goQuote key}: invalid new order status {orderStatus}; order URL: {orderUri}")

def pollOrder (orderTimeout : Int) (key : String) (routeReadOnly : Route) (status : Status)
    (ps : ProvisioningStatus) : Prog Unit := do
  let now ← send .now
  if now > ps.startedAt + orderTimeout then
    updateStatus lib routeReadOnly { status with provisioningStatus := none }
  else
    match ← send (.getOrder ps.orderUri) with
    | .error (.acme 404 _ _) =>
      updateStatus lib routeReadOnly { status with provisioningStatus := some { ps with orderUri := "" } }
    | .error e => throw e
    | .ok order =>
      dispatchOrder lib key routeReadOnly order
        { status with provisioningStatus := some { ps with orderStatus := order.status } }

/--
From the line `domain := routeReadOnly.Spec.Host` on: a new order when none is recorded, else the
order in flight. The new order is written through the provisioning status, which is nil when the
IDLE branch fell through.
-/
def orderStep (orderTimeout : Int) (key : String) (routeReadOnly : Route) (status : Status) :
    Prog Unit :=
  let domain := routeReadOnly.spec.host
  match status.provisioningStatus with
  | some ps =>
    if ps.orderUri.length ≠ 0 then pollOrder lib orderTimeout key routeReadOnly status ps
    else newOrder domain
  | none => newOrder domain
where
  newOrder (domain : String) : Prog Unit := do
    let order ← Prog.ofExcept (← send (.authorizeOrder domain))
    let now ← send .now
    match status.provisioningStatus with
    | none => .panic nilPointerDereference
    | some ps =>
      updateStatus lib routeReadOnly
        { status with provisioningStatus := some { ps with startedAt := now, orderUri := order.uri } }

def provision (orderTimeout : Int) (key : String) (routeReadOnly : Route) (status : Status) :
    Prog Unit :=
  match status.provisioningStatus with
  | some _ => orderStep lib orderTimeout key routeReadOnly status
  | none => do
    let now ← send .now
    let reason ← Prog.ofExcept (needsCertKey lib now routeReadOnly)
    if reason.length = 0 then updateStatus lib routeReadOnly status
    else orderStep lib orderTimeout key routeReadOnly status

def handleRoute (orderTimeout : Int) (key : String) (routeReadOnly : Route) : Prog Unit :=
  if routeReadOnly.meta.deletionTimestamp.isSome then pure ()
  else if !routeReadOnly.isAdmitted then pure ()
  else do
    match ← send .getClient with
    | .error e => throw (e.wrap "failed to get ACME client: ")
    | .ok () =>
      match getStatus lib routeReadOnly with
      | .error e => throw (e.wrap "can't get status: ")
      | .ok status => provision lib orderTimeout key routeReadOnly status

/-- `(*RouteController).handle`: the business logic for one key. -/
def handle (orderTimeout : Int) (key : String) : Prog Unit :=
  match splitMetaNamespaceKey key with
  | .error e => throw (.text e)
  | .ok _ => do
    match ← Prog.ofExcept (← send (.routeCacheGet key)) with
    | none => pure ()
    | some routeReadOnly => handleRoute lib orderTimeout key routeReadOnly

end RouteController

end OpenshiftAcme
