import OpenshiftAcme.Api.Types

/-!
This module contains the programs the controllers are modelled as: a tree of the calls a handler
makes to the world outside it (informer caches, the API server, the CA, the clock, the work
queue), each with a continuation for every reply the call can get. A handler ends by returning,
by returning a Go `error`, or by a runtime panic.
-/

namespace OpenshiftAcme

inductive Controller where
  | route
  | account
  deriving DecidableEq, Repr

inductive QueueItem where
  | key (k : String)
  | route (r : Route)
  deriving DecidableEq, Repr

def QueueItem.isKey : QueueItem → Bool
  | .key _ => true
  | .route _ => false

def nilPointerDereference : String :=
  "runtime error: invalid memory address or nil pointer dereference"

def keyAssertionPanic : String :=
  "interface conversion: interface \x7b\x7d is *v1.Route, not string"

/-- A call a handler makes to the world outside it. -/
inductive Call where
  /-- `Informer().GetIndexer().GetByKey(key)` on the route informer -/
  | routeCacheGet (key : String)
  /-- `Informer().GetIndexer().GetByKey(key)` on the config map informer -/
  | configMapCacheGet (key : String)
  /-- `Lister().Secrets(ns).Get(name)` -/
  | secretListerGet (ns name : String)
  /-- `Lister().Routes(ns).Get(name)` -/
  | routeListerGet (ns name : String)
  /-- `Lister().ConfigMaps(ns).List(selector)`: the config maps of `ns` matching `selector` -/
  | configMapListerList (ns : String) (selector : LabelSet)
  /-- `Routes(ns).Create(r)`; the API server calls are made in a namespace. -/
  | routeCreate (ns : String) (r : Route)
  | routeGet (ns name : String)
  | routeUpdate (ns : String) (r : Route)
  | replicaSetCreate (ns : String) (x : ReplicaSet)
  | replicaSetGet (ns name : String)
  | replicaSetUpdate (ns : String) (x : ReplicaSet)
  | serviceCreate (ns : String) (x : Service)
  | serviceGet (ns name : String)
  | serviceUpdate (ns : String) (x : Service)
  | secretCreate (ns : String) (x : Secret)
  | secretUpdate (ns : String) (x : Secret)
  /-- A delete with a UID precondition. -/
  | secretDelete (ns name uid : String)
  | configMapUpdate (ns : String) (x : ConfigMap)
  /-- `acmeClientFactory.GetClient(ctx)` -/
  | getClient
  | authorizeOrder (domain : String)
  | getOrder (uri : String)
  | getAuthorization (url : String)
  | accept (challenge : Acme.Challenge)
  /-- `CreateOrderCert(ctx, finalizeURL, csr, true)` -/
  | createOrderCert (finalizeURL csr : String)
  /-- `Register` by a client of the given directory holding the given key -/
  | register (directoryUrl : String) (key : PrivateKey) (account : Acme.Account)
  | updateReg (directoryUrl : String) (key : PrivateKey) (account : Acme.Account)
  | getReg (directoryUrl : String) (key : PrivateKey)
  /-- `time.Now()` -/
  | now
  /-- `rsa.GenerateKey(rand.Reader, 4096)` -/
  | generateKey
  /-- `x509.CreateCertificateRequest` for a template with common name and DNS name `host` -/
  | createCertificateRequest (host : String) (key : PrivateKey)
  | queueGet (q : Controller)
  | queueDone (q : Controller) (item : QueueItem)
  | queueAdd (q : Controller) (item : QueueItem)
  /-- `AddAfter(item, delay)`, the delay in nanoseconds -/
  | queueAddAfter (q : Controller) (item : QueueItem) (delay : Int)
  | queueAddRateLimited (q : Controller) (item : QueueItem)
  | queueForget (q : Controller) (item : QueueItem)
  | queueNumRequeues (q : Controller) (item : QueueItem)
  /-- `recorder.Eventf(object, type, reason, message)` -/
  | event (object : ObjectMeta) (type reason message : String)

/-- What a call can reply; a Go `(value, error)` pair is an `Except`. -/
@[reducible] def Call.Reply : Call → Type
  | .routeCacheGet _ => Except Err (Option Route)
  | .configMapCacheGet _ => Except Err (Option ConfigMap)
  | .secretListerGet _ _ => Except Err Secret
  | .routeListerGet _ _ => Except Err Route
  | .configMapListerList _ _ => Except Err (List ConfigMap)
  | .routeCreate _ _ | .routeGet _ _ | .routeUpdate _ _ => Except Err Route
  | .replicaSetCreate _ _ | .replicaSetGet _ _ | .replicaSetUpdate _ _ => Except Err ReplicaSet
  | .serviceCreate _ _ | .serviceGet _ _ | .serviceUpdate _ _ => Except Err Service
  | .secretCreate _ _ | .secretUpdate _ _ => Except Err Secret
  | .secretDelete _ _ _ => Except Err Unit
  | .configMapUpdate _ _ => Except Err ConfigMap
  | .getClient => Except Err Unit
  | .authorizeOrder _ | .getOrder _ => Except Err Acme.Order
  | .getAuthorization _ => Except Err Acme.Authorization
  | .accept _ => Except Err Acme.Challenge
  | .createOrderCert _ _ => Except Err (List String × String)
  | .register _ _ _ | .updateReg _ _ _ | .getReg _ _ => Except Err Acme.Account
  | .now => Int
  | .generateKey => Except Err PrivateKey
  | .createCertificateRequest _ _ => Except Err String
  | .queueGet _ => Option QueueItem
  | .queueNumRequeues _ _ => Nat
  | .queueDone _ _ | .queueAdd _ _ | .queueAddAfter _ _ _ | .queueAddRateLimited _ _
  | .queueForget _ _ | .event _ _ _ _ => Unit

/-- A handler: calls, each continued by what follows each reply. -/
inductive Prog (α : Type) where
  | pure (a : α)
  /-- The handler returns a non-nil `error`. -/
  | throw (e : Err)
  /-- A Go runtime panic. -/
  | panic (msg : String)
  | call (c : Call) (k : c.Reply → Prog α)

namespace Prog

def bind : Prog α → (α → Prog β) → Prog β
  | .pure a, f => f a
  | .throw e, _ => .throw e
  | .panic m, _ => .panic m
  | .call c k, f => .call c fun r => (k r).bind f

instance : Monad Prog where
  pure := .pure
  bind := bind

def tryCatch : Prog α → (Err → Prog α) → Prog α
  | .pure a, _ => .pure a
  | .throw e, h => h e
  | .panic m, _ => .panic m
  | .call c k, h => .call c fun r => (k r).tryCatch h

instance : MonadExceptOf Err Prog where
  throw := .throw
  tryCatch := tryCatch

def send (c : Call) : Prog c.Reply :=
  .call c .pure

def ofExcept : Except Err α → Prog α
  | .ok a => .pure a
  | .error e => .throw e

def toExcept : Prog α → Prog (Except Err α)
  | .pure a => .pure (.ok a)
  | .throw e => .pure (.error e)
  | .panic m => .panic m
  | .call c k => .call c fun r => (k r).toExcept

/-- `defer d`: `d` runs when `p` ends, whether `p` returns, returns an error or panics. -/
def withDefer (d : Prog Unit) : Prog α → Prog α
  | .pure a => d >>= fun _ => .pure a
  | .throw e => d >>= fun _ => .throw e
  | .panic m => d >>= fun _ => .panic m
  | .call c k => .call c fun r => withDefer d (k r)

@[simp] theorem bind_eq (p : Prog α) (f : α → Prog β) : p.bind f = p >>= f := rfl

@[simp] theorem pure_eq (a : α) : (Pure.pure a : Prog α) = .pure a := rfl

@[simp] theorem throw_eq (e : Err) : (MonadExcept.throw e : Prog α) = .throw e := rfl

@[simp] theorem throwThe_eq (e : Err) : (throwThe Err e : Prog α) = .throw e := rfl

@[simp] theorem pure_bind (a : α) (f : α → Prog β) : (Prog.pure a >>= f) = f a := rfl

@[simp] theorem throw_bind (e : Err) (f : α → Prog β) : (Prog.throw e >>= f) = .throw e := rfl

@[simp] theorem panic_bind (m : String) (f : α → Prog β) : (Prog.panic m >>= f) = .panic m := rfl

@[simp] theorem call_bind (c : Call) (k : c.Reply → Prog α) (f : α → Prog β) :
    (Prog.call c k >>= f) = .call c fun r => k r >>= f := rfl

@[simp] theorem send_bind (c : Call) (f : c.Reply → Prog β) : (send c >>= f) = .call c f := rfl

@[simp] theorem ofExcept_ok (a : α) : ofExcept (.ok a : Except Err α) = .pure a := rfl

@[simp] theorem ofExcept_error (e : Err) : ofExcept (.error e : Except Err α) = .throw e := rfl

@[simp] theorem toExcept_pure (a : α) : toExcept (.pure a) = .pure (.ok a) := rfl

@[simp] theorem toExcept_throw (e : Err) : toExcept (.throw e : Prog α) = .pure (.error e) := rfl

@[simp] theorem toExcept_panic (m : String) : toExcept (.panic m : Prog α) = .panic m := rfl

@[simp] theorem toExcept_call (c : Call) (k : c.Reply → Prog α) :
    toExcept (.call c k) = .call c fun r => (k r).toExcept := rfl

@[simp] theorem withDefer_panic (d : Prog Unit) (m : String) :
    withDefer d (.panic m : Prog α) = d >>= fun _ => .panic m := rfl

@[simp] theorem withDefer_call (d : Prog Unit) (c : Call) (k : c.Reply → Prog α) :
    withDefer d (.call c k) = .call c fun r => withDefer d (k r) := rfl

theorem bind_assoc (p : Prog α) (f : α → Prog β) (g : β → Prog γ) :
    (p >>= f) >>= g = p >>= fun a => f a >>= g := by
  induction p with
  | pure a => rfl
  | throw e => rfl
  | panic m => rfl
  | call c k ih =>
    show Prog.call c _ = Prog.call c _
    exact congrArg _ (funext ih)

@[simp] theorem bind_pure (p : Prog α) : p >>= Prog.pure = p := by
  induction p with
  | pure a => rfl
  | throw e => rfl
  | panic m => rfl
  | call c k ih =>
    show Prog.call c _ = Prog.call c _
    exact congrArg _ (funext ih)

end Prog

end OpenshiftAcme
