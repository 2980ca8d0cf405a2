import OpenshiftAcme.Route.Handle

/-!
This module contains the rest of the route controller: the informer event handlers, which put the
key of a managed route in the work queue, and the worker, which takes an item off the queue, runs
`handle` on it and requeues it on error. The queue holds `interface{}` items; the worker asserts
that each is a string.
-/

namespace OpenshiftAcme

namespace RouteController

open Prog (send)

variable (lib : Lib)

def controllerKindName : String := "Route"

def enqueueRoute (route : Route) : Prog Unit :=
  send (.queueAdd .route (.key route.meta.key))

def addRoute (route : Route) : Prog Unit :=
  if !isManaged lib route.meta then pure () else enqueueRoute route

def updateRoute (_old cur : Route) : Prog Unit :=
  if !isManaged lib cur.meta then pure () else enqueueRoute cur

def deleteRoute (route : Route) : Prog Unit :=
  if !isManaged lib route.meta then pure () else enqueueRoute route

def resolveControllerRef («namespace» : String) (controllerRef : OwnerReference) :
    Prog (Option Route) :=
  if controllerRef.kind ≠ controllerKindName then pure none
  else do
    match ← send (.routeListerGet «namespace» controllerRef.name) with
    | .error _ => pure none
    | .ok route => pure (if route.meta.uid ≠ controllerRef.uid then none else some route)

def enqueueController (secret : Secret) : Prog Unit :=
  match secret.meta.getControllerOf with
  | none => pure ()
  | some ref => do
    match ← resolveControllerRef secret.meta.«namespace» ref with
    | none => pure ()
    | some route => enqueueRoute route

def updateSecret (old cur : Secret) : Prog Unit :=
  if old.meta.resourceVersion = cur.meta.resourceVersion then pure ()
  else enqueueController cur

def deleteSecret (secret : Secret) : Prog Unit :=
  enqueueController secret

def maxRetries : Nat := 2

def handleErr (err : Except Err Unit) (key : QueueItem) : Prog Unit :=
  match err with
  | .ok () => send (.queueForget .route key)
  | .error _ => do
    if (← send (.queueNumRequeues .route key)) < maxRetries then
      send (.queueAddRateLimited .route key)
    else
      send (.queueForget .route key)

def processNextItem (orderTimeout : Int) : Prog Bool := do
  match ← send (.queueGet .route) with
  | none => pure false
  | some key =>
    Prog.withDefer (send (.queueDone .route key)) do
      match key with
      | .route _ => .panic keyAssertionPanic
      | .key k =>
        let err ← (handle lib orderTimeout k).toExcept
        handleErr err key
        pure true

/--
What the route controller process runs: workers (`runWorker` calls `processNextItem` again and
again), and the handlers the informers call on the objects they see.
-/
inductive Task (orderTimeout : Int) : Prog Unit → Prop
  | worker : Task orderTimeout (processNextItem lib orderTimeout >>= fun _ => pure ())
  | addRoute (route : Route) : Task orderTimeout (addRoute lib route)
  | updateRoute (old cur : Route) : Task orderTimeout (updateRoute lib old cur)
  | deleteRoute (route : Route) : Task orderTimeout (deleteRoute lib route)
  | updateSecret (old cur : Secret) : Task orderTimeout (updateSecret old cur)
  | deleteSecret (secret : Secret) : Task orderTimeout (deleteSecret secret)

end RouteController

end OpenshiftAcme
