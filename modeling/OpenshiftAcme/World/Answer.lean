import OpenshiftAcme.World.Store

/-!
This module contains the world the handlers run against and how it answers each call. The API
server answers from its stores, an informer cache or lister from any version its store has held,
the CA and the clock with anything, and the work queues as client-go does. Any call to the API
server may also fail; a write that fails may or may not have taken effect. Other clients write to
the stores in between, and routers report on routes.
-/

namespace OpenshiftAcme

structure World where
  routes : Store Route
  replicaSets : Store ReplicaSet
  services : Store Service
  secrets : Store Secret
  configMaps : Store ConfigMap
  /-- The last resource version handed out. -/
  revision : Nat
  /-- Every UID handed out. -/
  uids : List String
  routeQueue : WorkQueue
  accountQueue : WorkQueue

namespace World

def empty : World :=
  ⟨⟨[], []⟩, ⟨[], []⟩, ⟨[], []⟩, ⟨[], []⟩, ⟨[], []⟩, 0, [], WorkQueue.empty, WorkQueue.empty⟩

def queue (w : World) : Controller → WorkQueue
  | .route => w.routeQueue
  | .account => w.accountQueue

def setQueue (w : World) : Controller → WorkQueue → World
  | .route, q => { w with routeQueue := q }
  | .account, q => { w with accountQueue := q }

@[simp] theorem queue_setQueue_self (w : World) (q : Controller) (wq : WorkQueue) :
    (w.setQueue q wq).queue q = wq := by
  cases q <;> rfl

@[simp] theorem queue_setQueue_ne {w : World} {q q' : Controller} (wq : WorkQueue) (h : q' ≠ q) :
    (w.setQueue q' wq).queue q = w.queue q := by
  cases q <;> cases q' <;> first | rfl | exact absurd rfl h

structure Lens (α : Type) where
  get : World → Store α
  set : World → Store α → World
  queue_set : ∀ w s q, (set w s).queue q = w.queue q

def routesL : Lens Route :=
  ⟨World.routes, fun w s => { w with routes := s }, fun _ _ q => by cases q <;> rfl⟩
@[simp] theorem routesL_get (w : World) : routesL.get w = w.routes := rfl

@[simp] theorem routes_routesL_set (w : World) (s : Store Route) : (routesL.set w s).routes = s := rfl

def replicaSetsL : Lens ReplicaSet :=
  ⟨World.replicaSets, fun w s => { w with replicaSets := s }, fun _ _ q => by cases q <;> rfl⟩
def servicesL : Lens Service :=
  ⟨World.services, fun w s => { w with services := s }, fun _ _ q => by cases q <;> rfl⟩
def secretsL : Lens Secret :=
  ⟨World.secrets, fun w s => { w with secrets := s }, fun _ _ q => by cases q <;> rfl⟩
def configMapsL : Lens ConfigMap :=
  ⟨World.configMaps, fun w s => { w with configMaps := s }, fun _ _ q => by cases q <;> rfl⟩

variable {α β : Type} [Resource α]

def Fresh (w : World) (uid : String) : Prop :=
  uid ≠ "" ∧ uid ∉ w.uids

def create (w : World) (L : Lens α) (ns : String) (x : α) (uid : String) :
    Except Err (α × World) :=
  (L.get w |>.create ns x uid (w.revision + 1)).map fun (y, s) =>
    (y, { L.set w s with revision := w.revision + 1, uids := uid :: w.uids })

def update [DecidableEq α] (w : World) (L : Lens α) (ns : String) (x : α) :
    Except Err (α × World) :=
  (L.get w |>.update ns x (w.revision + 1)).map fun (y, s) =>
    (y, { L.set w s with revision := w.revision + 1 })

def delete (w : World) (L : Lens α) (ns name uid : String) : Except Err (Unit × World) :=
  (L.get w |>.delete ns name uid).map fun s => ((), L.set w s)

theorem create_queue {L : Lens α} {w w' : World} {ns : String} {x y : α} {uid : String}
    (h : w.create L ns x uid = .ok (y, w')) (q : Controller) : w'.queue q = w.queue q := by
  simp only [create] at h
  cases hs : (L.get w).create ns x uid (w.revision + 1) with
  | error e => simp [hs, Except.map] at h
  | ok p =>
    simp only [hs, Except.map, Except.ok.injEq, Prod.mk.injEq] at h
    rw [← h.2]
    exact L.queue_set w p.2 q

theorem update_queue [DecidableEq α] {L : Lens α} {w w' : World} {ns : String} {x y : α}
    (h : w.update L ns x = .ok (y, w')) (q : Controller) : w'.queue q = w.queue q := by
  simp only [update] at h
  cases hs : (L.get w).update ns x (w.revision + 1) with
  | error e => simp [hs, Except.map] at h
  | ok p =>
    simp only [hs, Except.map, Except.ok.injEq, Prod.mk.injEq] at h
    rw [← h.2]
    exact L.queue_set w p.2 q

theorem delete_queue {L : Lens α} {w w' : World} {ns name uid : String}
    (h : w.delete L ns name uid = .ok ((), w')) (q : Controller) : w'.queue q = w.queue q := by
  simp only [delete] at h
  cases hs : (L.get w).delete ns name uid with
  | error e => simp [hs, Except.map] at h
  | ok s =>
    simp only [hs, Except.map, Except.ok.injEq, Prod.mk.injEq] at h
    rw [← h.2]
    exact L.queue_set w s q

def ReadAnswer (outcome : Except Err β) : Except Err β → Prop
  | .ok b => outcome = .ok b
  | .error _ => True

/--
A write's answer: the server's outcome with its effect, or an error the client sees, after which
the effect may or may not have happened.
-/
def WriteAnswer (w : World) (outcome : Except Err (β × World)) (r : Except Err β) (w' : World) :
    Prop :=
  match r with
  | .ok b => outcome = .ok (b, w')
  | .error _ => w' = w ∨ ∃ b, outcome = .ok (b, w')

theorem writeAnswer_queue {w w' : World} {outcome : Except Err (β × World)} {r : Except Err β}
    {q : Controller} (ho : ∀ b w'', outcome = .ok (b, w'') → w''.queue q = w.queue q)
    (h : WriteAnswer w outcome r w') : w'.queue q = w.queue q := by
  cases r with
  | ok b => exact ho b w' h
  | error e =>
    rcases h with rfl | ⟨b, hb⟩
    · rfl
    · exact ho b w' hb

def QueueGetAnswer (w : World) (q : Controller) (r : Option QueueItem) (w' : World) : Prop :=
  match (w.queue q).get with
  | some (item, wq) => r = some item ∧ w' = w.setQueue q wq
  | none => (w.queue q).shuttingDown ∧ r = none ∧ w' = w

/-- How the world can answer call `c` with reply `r`, becoming `w'`. -/
def Answer (w : World) : (c : Call) → c.Reply → World → Prop
  | .routeCacheGet key, r, w' => w' = w ∧ w.routes.CacheReply key r
  | .configMapCacheGet key, r, w' => w' = w ∧ w.configMaps.CacheReply key r
  | .secretListerGet ns name, r, w' => w' = w ∧ w.secrets.ListerReply ns name r
  | .routeListerGet ns name, r, w' => w' = w ∧ w.routes.ListerReply ns name r
  | .configMapListerList ns selector, r, w' =>
    w' = w ∧ w.configMaps.ListerListReply ns selector r
  | .routeCreate ns x, r, w' => ∃ uid, w.Fresh uid ∧ WriteAnswer w (w.create routesL ns x uid) r w'
  | .routeGet ns name, r, w' => w' = w ∧ ReadAnswer (w.routes.get ns name) r
  | .routeUpdate ns x, r, w' => WriteAnswer w (w.update routesL ns x) r w'
  | .replicaSetCreate ns x, r, w' =>
    ∃ uid, w.Fresh uid ∧ WriteAnswer w (w.create replicaSetsL ns x uid) r w'
  | .replicaSetGet ns name, r, w' => w' = w ∧ ReadAnswer (w.replicaSets.get ns name) r
  | .replicaSetUpdate ns x, r, w' => WriteAnswer w (w.update replicaSetsL ns x) r w'
  | .serviceCreate ns x, r, w' =>
    ∃ uid, w.Fresh uid ∧ WriteAnswer w (w.create servicesL ns x uid) r w'
  | .serviceGet ns name, r, w' => w' = w ∧ ReadAnswer (w.services.get ns name) r
  | .serviceUpdate ns x, r, w' => WriteAnswer w (w.update servicesL ns x) r w'
  | .secretCreate ns x, r, w' =>
    ∃ uid, w.Fresh uid ∧ WriteAnswer w (w.create secretsL ns x uid) r w'
  | .secretUpdate ns x, r, w' => WriteAnswer w (w.update secretsL ns x) r w'
  | .secretDelete ns name uid, r, w' => WriteAnswer w (w.delete secretsL ns name uid) r w'
  | .configMapUpdate ns x, r, w' => WriteAnswer w (w.update configMapsL ns x) r w'
  | .getClient, _, w' | .authorizeOrder _, _, w' | .getOrder _, _, w'
  | .getAuthorization _, _, w' | .accept _, _, w' | .createOrderCert _ _, _, w'
  | .register _ _ _, _, w' | .updateReg _ _ _, _, w' | .getReg _ _, _, w' => w' = w
  | .now, _, w' | .generateKey, _, w' | .createCertificateRequest _ _, _, w' => w' = w
  | .queueGet q, r, w' => QueueGetAnswer w q r w'
  | .queueDone q item, _, w' => w' = w.setQueue q ((w.queue q).done item)
  | .queueAdd q item, _, w' => w' = w.setQueue q ((w.queue q).add item)
  | .queueAddAfter q item delay, _, w' => w' = w.setQueue q ((w.queue q).addAfter item delay)
  | .queueAddRateLimited q item, _, w' => w' = w.setQueue q ((w.queue q).addRateLimited item)
  | .queueForget q item, _, w' => w' = w.setQueue q ((w.queue q).forget item)
  | .queueNumRequeues q item, r, w' => r = (w.queue q).numRequeues item ∧ w' = w
  | .event _ _ _ _, _, w' => w' = w

def IsStoreWrite : Call → Prop
  | .routeCreate _ _ | .routeUpdate _ _ | .replicaSetCreate _ _ | .replicaSetUpdate _ _
  | .serviceCreate _ _ | .serviceUpdate _ _ | .secretCreate _ _ | .secretUpdate _ _
  | .secretDelete _ _ _ | .configMapUpdate _ _ => True
  | _ => False

def setRouteStatus (w : World) (ns name : String) (status : RouteStatus) : Option World :=
  (w.routes.find ns name).map fun cur =>
    let y := { cur with status := status,
                        meta := { cur.meta with resourceVersion := w.revision + 1 } }
    { w with routes := { objects := w.routes.objects.map
                           (fun z => if Store.keyIs ns name z then y else z),
                         history := w.routes.history ++ [y] },
             revision := w.revision + 1 }

theorem setRouteStatus_queue {w w' : World} {ns name : String} {status : RouteStatus}
    (h : setRouteStatus w ns name status = some w') (q : Controller) : w'.queue q = w.queue q := by
  simp only [setRouteStatus, Option.map_eq_some'] at h
  obtain ⟨_, -, rfl⟩ := h
  cases q <;> rfl

/-- What happens in the world besides the handler under study. -/
inductive Foreign : World → World → Prop
  /-- Another client writes to the API server. -/
  | write {w w' : World} {c : Call} {r : c.Reply} : IsStoreWrite c → Answer w c r w' → Foreign w w'
  /-- Another client deletes a route, a replica set, a service or a config map. -/
  | deleteRoute {w w' : World} (ns name : String) :
      w.delete routesL ns name "" = .ok ((), w') → Foreign w w'
  | deleteReplicaSet {w w' : World} (ns name : String) :
      w.delete replicaSetsL ns name "" = .ok ((), w') → Foreign w w'
  | deleteService {w w' : World} (ns name : String) :
      w.delete servicesL ns name "" = .ok ((), w') → Foreign w w'
  | deleteConfigMap {w w' : World} (ns name : String) :
      w.delete configMapsL ns name "" = .ok ((), w') → Foreign w w'
  /-- A router reports on a route. -/
  | routerStatus {w w' : World} (ns name : String) (status : RouteStatus) :
      setRouteStatus w ns name status = some w' → Foreign w w'
  /-- The delay of a parked queue item passes. -/
  | fire (w : World) (q : Controller) (i : Nat) : Foreign w (w.setQueue q ((w.queue q).fire i))

end World

end OpenshiftAcme
