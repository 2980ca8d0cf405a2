import OpenshiftAcme.Route.Worker
import OpenshiftAcme.Route.Lemmas.Writes
import OpenshiftAcme.World.Workers
import OpenshiftAcme.World.Secrets

/-!
This module contains the route controller's workers over whole runs. `handle` makes only the calls
of `HandleCall`: it never takes an item from the work queue, marks one done or requeues one. The
worker takes a key, defers `Done` on it, and after `handle` requeues the key rate-limited only when
`NumRequeues` has just read fewer than `MaxRetries` requeues of it. So in every run of the process,
however its workers and event handlers interleave and crash, the queue processes exactly the items
the workers hold, no key is processed by two workers at once, the rate limiter never counts more
than `MaxRetries` failures of a key, and the deferred `Done` loses no add of a key. No task of the
process writes a Secret, so the process leaves the Secrets as it found them.
-/

namespace OpenshiftAcme

namespace RouteController

open Prog (Only OnlyAfter send)

variable (lib : Lib)

def HandleCall : Call → Prop
  | .routeCacheGet _ | .getClient | .now | .getOrder _ | .authorizeOrder _ | .getAuthorization _
  | .accept _ | .generateKey | .createCertificateRequest _ _ | .createOrderCert _ _
  | .routeCreate _ _ | .routeGet _ _ | .routeUpdate _ _ | .replicaSetCreate _ _ | .replicaSetGet _ _
  | .replicaSetUpdate _ _ | .serviceCreate _ _ | .serviceGet _ _ | .serviceUpdate _ _
  | .event _ _ _ _ => True
  | .queueAddAfter q _ _ => q = .route
  | _ => False

def EventCall : Call → Prop
  | .queueAdd .route (.key _) | .routeListerGet _ _ => True
  | _ => False

theorem not_workerCall_of_handleCall {c : Call} (h : HandleCall c) : ¬WorkerCall .route c := by
  cases c <;> first | exact id | exact absurd h id

theorem not_workerCall_of_eventCall {c : Call} (h : EventCall c) : ¬WorkerCall .route c := by
  cases c <;> first | exact id | exact absurd h id

theorem not_holdCall_of_handleCall {c : Call} (h : HandleCall c) : ¬HoldCall .route c :=
  not_holdCall_of_not_workerCall (not_workerCall_of_handleCall h)

theorem not_holdCall_of_eventCall {c : Call} (h : EventCall c) : ¬HoldCall .route c :=
  not_holdCall_of_not_workerCall (not_workerCall_of_eventCall h)

variable {r : Route} {key : String}

theorem updateStatus_handleCall (st : Status) : Only HandleCall (updateStatus lib r st) :=
  (updateStatus_only lib r st).mono fun _ ⟨_, _, _, hc⟩ => hc ▸ trivial

theorem exposeChallenge_handleCall {o : Acme.Order} {authzUrl : String} {challenge : Acme.Challenge} :
    Only HandleCall (exposeChallenge lib key r o authzUrl challenge) := by
  unfold exposeChallenge createExposerRoute createExposerRS createExposerService
  exact (createOrAdopt_only (Only.send trivial) (fun _ => Only.send trivial)
    (fun _ => Only.send trivial)).bind fun _ =>
    (createOrAdopt_only (Only.send trivial) (fun _ => Only.send trivial)
      (fun _ => Only.send trivial)).bind fun _ =>
    (createOrAdopt_only (Only.send trivial) (fun _ => Only.send trivial)
      (fun _ => Only.send trivial)).bind fun _ =>
    (Only.send trivial).bind fun l => (Only.ofExcept l).bind fun _ => .pure _

theorem satisfyAuthorizations_handleCall {domain : String} {o : Acme.Order} (authzUrls : List String) :
    Only HandleCall (satisfyAuthorizations lib key domain r o authzUrls) := by
  induction authzUrls with
  | nil => exact .pure _
  | cons authzUrl rest ih =>
    refine (Only.send trivial).bind fun l => (Only.ofExcept l).bind fun authz => ?_
    dsimp only
    split
    · split
      · exact .throw _
      · split
        · exact (exposeChallenge_handleCall lib).bind fun _ => ih
        · split
          · exact ih
          · exact .throw _
    · split
      · exact ih
      · exact .throw _

theorem finalizeOrder_handleCall {o : Acme.Order} {status : Status} :
    Only HandleCall (finalizeOrder lib r o status) := by
  simp only [finalizeOrder, Prog.bind_eq, Prog.send_bind]
  refine .call trivial fun reply => ?_
  cases reply with
  | error e => exact .throw _
  | ok k =>
  simp only [Prog.pure_eq, Prog.pure_bind, Prog.send_bind]
  refine .call trivial fun reply => ?_
  cases reply with
  | error e => exact .throw _
  | ok csr =>
  simp only [Prog.pure_eq, Prog.pure_bind, Prog.send_bind]
  refine .call trivial fun reply => ?_
  cases reply with
  | error e => exact .throw _
  | ok der =>
  simp only [Prog.pure_eq, Prog.pure_bind, Prog.send_bind, Prog.ofExcept_ok]
  split
  · refine .call trivial fun reply => ?_
    cases reply with
    | error e => exact .throw _
    | ok _ => exact updateStatus_handleCall lib _
  · exact .throw _

theorem dispatchOrder_handleCall {o : Acme.Order} {status : Status} :
    Only HandleCall (dispatchOrder lib key r o status) := by
  have hu := updateStatus_handleCall lib (r := r) status
  unfold dispatchOrder
  split
  · exact (satisfyAuthorizations_handleCall lib _).bind fun _ => hu
  split
  · exact finalizeOrder_handleCall lib
  split
  · exact (Only.send (show HandleCall (.queueAddAfter .route _ _) from rfl)).bind fun _ => hu
  split
  · exact (Only.send trivial).bind fun _ => hu
  · exact .throw _

theorem pollOrder_handleCall {T : Int} {status : Status} {ps : ProvisioningStatus} :
    Only HandleCall (pollOrder lib T key r status ps) := by
  simp only [pollOrder, Prog.bind_eq, Prog.send_bind]
  refine .call trivial fun now => ?_
  split
  · exact updateStatus_handleCall lib _
  refine .call trivial fun reply => ?_
  split
  · exact updateStatus_handleCall lib _
  · exact .throw _
  · exact dispatchOrder_handleCall lib

theorem orderStep_handleCall {T : Int} {status : Status} :
    Only HandleCall (orderStep lib T key r status) := by
  have hnew : ∀ domain, Only HandleCall (orderStep.newOrder lib r status domain) := fun domain => by
    simp only [orderStep.newOrder, Prog.bind_eq, Prog.send_bind]
    refine .call trivial fun reply => ?_
    cases reply with
    | error e => exact .throw _
    | ok o =>
    simp only [Prog.ofExcept_ok, Prog.pure_bind, Prog.send_bind]
    refine .call trivial fun t => ?_
    split
    · exact .panic _
    · exact updateStatus_handleCall lib _
  simp only [orderStep]
  split
  · split
    · exact pollOrder_handleCall lib
    · exact hnew _
  · exact hnew _

theorem provision_handleCall {T : Int} {status : Status} :
    Only HandleCall (provision lib T key r status) := by
  unfold provision
  split
  · exact orderStep_handleCall lib
  · simp only [Prog.bind_eq, Prog.send_bind]
    refine .call trivial fun now => (Only.ofExcept _).bind fun reason => ?_
    split
    · exact updateStatus_handleCall lib _
    · exact orderStep_handleCall lib

theorem handleRoute_handleCall {T : Int} : Only HandleCall (handleRoute lib T key r) := by
  unfold handleRoute
  split
  · exact .pure _
  split
  · exact .pure _
  simp only [Prog.bind_eq, Prog.send_bind]
  refine .call trivial fun reply => ?_
  split
  · exact .throw _
  · split
    · exact .throw _
    · exact provision_handleCall lib

theorem handle_handleCall (T : Int) (key : String) : Only HandleCall (handle lib T key) := by
  unfold handle
  split
  · exact .throw _
  simp only [Prog.bind_eq, Prog.send_bind]
  refine .call trivial fun reply => ?_
  cases reply with
  | error e => exact .throw _
  | ok l =>
    cases l with
    | none => exact .pure _
    | some r => exact handleRoute_handleCall lib

theorem enqueueController_eventCall (secret : Secret) : Only EventCall (enqueueController secret) := by
  unfold enqueueController
  split
  · exact .pure ()
  · refine Only.bind ?_ fun l => ?_
    · unfold resolveControllerRef
      split
      · exact .pure _
      · exact .call trivial fun reply => by cases reply <;> exact .pure _
    · cases l with
      | none => exact .pure ()
      | some route => exact Only.send trivial

theorem processNextItem_body_only {P : Call → Prop} (hh : ∀ c, HandleCall c → P c)
    (hq : ∀ item, P (.queueForget .route item) ∧ P (.queueNumRequeues .route item) ∧
      P (.queueAddRateLimited .route item)) (T : Int) (key : QueueItem) :
    Only P (match key with
      | .route _ => .panic keyAssertionPanic
      | .key k => do
        let err ← (handle lib T k).toExcept
        handleErr err key
        pure true : Prog Bool) := by
  cases key with
  | route _ => exact .panic _
  | key k =>
    refine ((handle_handleCall lib T k).mono hh).toExcept.bind fun err => ?_
    refine Only.bind ?_ fun _ => .pure true
    cases err with
    | ok _ => exact Only.send (hq _).1
    | error _ =>
      refine .call (hq _).2.1 fun n => ?_
      show Only _ (if n < maxRetries then _ else _)
      split
      · exact Only.send (hq _).2.2
      · exact Only.send (hq _).1

theorem processNextItem_only {P : Call → Prop} (hh : ∀ c, HandleCall c → P c)
    (hq : ∀ c, IsQueueCall c → P c) (T : Int) : Only P (processNextItem lib T) := by
  refine .call (hq _ trivial) fun r => ?_
  rcases r with _ | item
  · exact .pure false
  exact (Only.send (hq _ (by trivial))).withDefer (processNextItem_body_only lib hh
    (fun _ => ⟨hq _ (by trivial), hq _ (by trivial), hq _ (by trivial)⟩) T item)

theorem processNextItem_workerRules (T : Int) :
    OnlyAfter (DoneHeld .route) (processNextItem lib T) ∧
      OnlyAfter (RetryBounded .route maxRetries) (processNextItem lib T) := by
  have hh : ∀ k, Only (¬WorkerCall .route ·) (handle lib T k) := fun k =>
    (handle_handleCall lib T k).mono fun _ => not_workerCall_of_handleCall
  constructor
  · refine .call trivial fun r => ?_
    rcases r with _ | item
    · exact Prog.onlyAfter_pure false
    exact onlyAfter_withDefer_done
      (processNextItem_body_only lib (fun _ => not_holdCall_of_handleCall) (fun _ => ⟨id, id, id⟩) T item)
  · refine .call trivial fun r => ?_
    rcases r with _ | item
    · exact Prog.onlyAfter_pure false
    refine OnlyAfter.withDefer ?_ fun _ _ _ => Prog.onlyAfter_send trivial
    cases item with
    | route _ => exact Prog.onlyAfter_panic _
    | key k =>
      refine ((hh k).toExcept.onlyAfter fun _ _ hc => retryBounded_of_not_workerCall hc).bind
        fun tr err hs => ?_
      have htr : ∀ e ∈ tr, ¬HoldCall .route e.call := fun e he =>
        not_holdCall_of_not_workerCall (((hh k).toExcept.steps hs).1 e he)
      refine OnlyAfter.bind ?_ fun _ _ _ => Prog.onlyAfter_pure true
      cases err with
      | ok _ => exact Prog.onlyAfter_send trivial
      | error _ =>
        refine .call trivial fun n => ?_
        show OnlyAfter _ (if n < maxRetries then _ else _)
        split
        · rename_i hn
          refine Prog.onlyAfter_send fun _ => ⟨?_, n, hn, List.getLast?_concat (_ :: tr)⟩
          rw [heldItems_get_cons (List.forall_mem_append.mpr ⟨htr, List.forall_mem_singleton.mpr id⟩)]
          exact List.mem_singleton_self _
        · exact Prog.onlyAfter_send trivial

theorem processNextItem_releases (T : Int) : Releases .route (processNextItem lib T) := by
  intro tr r hs hr
  rcases Prog.steps_call_iff.mp hs with ⟨-, rfl⟩ | ⟨reply, tr', rfl, hs'⟩
  · exact hr.elim
  rcases reply with _ | item
  · obtain ⟨rfl, -⟩ := Prog.steps_pure_iff.mp hs'
    rfl
  · exact releases_withDefer_done
      (processNextItem_body_only lib (fun _ => not_holdCall_of_handleCall) (fun _ => ⟨id, id, id⟩) T item) hs' hr

theorem task_cases {T : Int} {p : Prog Unit} (h : Task lib T p) :
    p = (processNextItem lib T >>= fun _ => pure ()) ∨ Only EventCall p := by
  cases h with
  | worker => exact .inl rfl
  | addRoute route | updateRoute _ route | deleteRoute route =>
    refine .inr ?_
    simp only [addRoute, updateRoute, deleteRoute]
    split
    · exact .pure ()
    · exact Only.send trivial
  | updateSecret old cur =>
    refine .inr ?_
    unfold updateSecret
    split
    · exact .pure ()
    · exact enqueueController_eventCall cur
  | deleteSecret secret => exact .inr (enqueueController_eventCall secret)

theorem task_workerRules {T : Int} {p : Prog Unit} (h : Task lib T p) :
    OnlyAfter (DoneHeld .route) p ∧ OnlyAfter (RetryBounded .route maxRetries) p := by
  rcases task_cases lib h with rfl | hp
  · obtain ⟨h₁, h₂⟩ := processNextItem_workerRules lib T
    exact ⟨h₁.bind fun _ _ _ => Prog.onlyAfter_pure _, h₂.bind fun _ _ _ => Prog.onlyAfter_pure _⟩
  · exact ⟨hp.doneHeld fun _ => not_holdCall_of_eventCall,
      hp.retryBounded fun _ => not_workerCall_of_eventCall⟩

theorem task_releases {T : Int} {p : Prog Unit} (h : Task lib T p) : Releases .route p := by
  rcases task_cases lib h with rfl | hp
  · exact (processNextItem_releases lib T).bind_pure ()
  · exact hp.releases fun _ => not_holdCall_of_eventCall

theorem not_isSecretWrite_of_handleCall {c : Call} (h : HandleCall c) : ¬World.IsSecretWrite c := by
  cases c <;> first | exact id | exact absurd h id

theorem task_no_secretWrite {T : Int} {p : Prog Unit} (h : Task lib T p) :
    Only (¬World.IsSecretWrite ·) p := by
  rcases task_cases lib h with rfl | hp
  · refine (processNextItem_only lib (fun _ => not_isSecretWrite_of_handleCall) (fun c hc => ?_) T).bind
      fun _ => .pure ()
    cases c <;> first | exact id | exact absurd hc id
  · exact hp.mono fun c hc => by cases c <;> first | exact id | exact absurd hc id

/--
In every run of the route controller process from a state with no invocation and nothing being
processed, however its workers and event handlers interleave and crash and whatever the world's
other actors do, the route queue processes exactly the items the invocations hold, and no item is
held by two invocations: two workers never handle the same key at once.
-/
theorem routeQueue_key_held_once (T : Int) {Init : Sys → Prop}
    (hinit : ∀ s, Init s → s.world.routeQueue.Wf ∧ s.world.routeQueue.processing = [] ∧
      s.invocations = [])
    {s : Sys} (h : Sys.Reachable (Task lib T) World.Foreign Init s) :
    s.world.routeQueue.processing.Perm (s.held .route) ∧
      ∀ (i j : Nat) (inv inv' : Invocation) (item : QueueItem), s.invocations[i]? = some inv → s.invocations[j]? = some inv' →
        item ∈ heldItems .route inv.trace → item ∈ heldItems .route inv'.trace → i = j :=
  have hh := h.holding (fun _ hp => (task_workerRules lib hp).1) Sys.envFires_foreign hinit
  ⟨hh.processing, fun _ _ _ _ _ hi hj hx hx' => hh.holder_unique hi hj hx hx'⟩

/-!
## A run of the route controller

A worker takes the key of `queuedRoute`, an event handler adds it again while it is held, the
worker's `handle` fails to get the ACME client and `handleErr` requeues the key, the deferred
`Done` puts the key back, and the delay of the parked item passes.
-/

def queuedRoute : Route :=
  { meta := { ObjectMeta.named "web" with
      «namespace» := "acme", uid := "uid-web", resourceVersion := 1,
      labels := some [("acme-managed", "true")] }
    spec := { host := "www.example.com", path := "", «to» := ⟨"Service", "web"⟩,
              alternateBackends := [], port := none, tls := none }
    status := ⟨[⟨"www.example.com", true⟩]⟩ }

def webSecret : Secret :=
  ⟨{ ObjectMeta.named "web-tls" with «namespace» := "acme", uid := "uid-tls", resourceVersion := 1 },
    "kubernetes.io/tls", some [("tls.crt", "crt"), ("tls.key", "key")]⟩

def routeWorkWorld : World :=
  { World.empty with
    routes := ⟨[queuedRoute], [queuedRoute]⟩, secrets := ⟨[webSecret], [webSecret]⟩, revision := 1,
    uids := ["uid-tls", "uid-web"],
    routeQueue := ⟨[.key "acme/web"], [.key "acme/web"], [], [], [], false⟩ }

def workerCont : Prog Unit :=
  Prog.withDefer (send (.queueDone .route (.key "acme/web"))) (do
    let err ← (handle exampleLib 0 "acme/web").toExcept
    handleErr err (.key "acme/web")
    pure true) >>= fun _ => pure ()

def clientFailedTrace : List Exchange :=
  [⟨.routeCacheGet "acme/web", .ok (some queuedRoute)⟩, ⟨.getClient, .error (.text "connection refused")⟩,
    ⟨.queueNumRequeues .route (.key "acme/web"), 0⟩, ⟨.queueAddRateLimited .route (.key "acme/web"), ()⟩,
    ⟨.queueDone .route (.key "acme/web"), ()⟩]

def reAddedSys : Sys :=
  ⟨{ routeWorkWorld with routeQueue := ⟨[], [.key "acme/web"], [.key "acme/web"], [], [], false⟩ },
    [⟨processNextItem exampleLib 0 >>= fun _ => pure (), [⟨.queueGet .route, some (.key "acme/web")⟩],
      workerCont, false⟩,
     ⟨addRoute exampleLib queuedRoute, [⟨.queueAdd .route (.key "acme/web"), ()⟩], .pure (), false⟩]⟩

def requeuedSys : Sys :=
  ⟨{ routeWorkWorld with
      routeQueue := ⟨[.key "acme/web"], [.key "acme/web"], [], [], [(.key "acme/web", 1)], false⟩ },
    [⟨processNextItem exampleLib 0 >>= fun _ => pure (),
      ⟨.queueGet .route, some (.key "acme/web")⟩ :: clientFailedTrace, .pure (), false⟩,
     ⟨addRoute exampleLib queuedRoute, [⟨.queueAdd .route (.key "acme/web"), ()⟩], .pure (), false⟩]⟩

theorem routeWorkWorld_queue_wf : routeWorkWorld.routeQueue.Wf :=
  ⟨List.nodup_singleton _, .nil, fun _ h => h, (fun _ _ h => nomatch h), fun _ h => .inl h⟩

theorem reAddedSys_reachable {Env : World → World → Prop} :
    Sys.Reachable (Task exampleLib 0) Env (· = ⟨routeWorkWorld, []⟩) reAddedSys := by
  have h₀ : Sys.Reachable (Task exampleLib 0) Env (· = ⟨routeWorkWorld, []⟩) ⟨routeWorkWorld, []⟩ :=
    .init rfl
  exact (h₀.spawn_exec .worker (Prog.Exec.of_steps (.call _ (.refl _)) ⟨_, ⟨rfl, rfl⟩, rfl⟩)).spawn_exec
    (.addRoute queuedRoute) (Prog.Exec.of_steps (.call _ (.refl _)) ⟨_, rfl, rfl⟩)

theorem requeuedSys_reachable {Env : World → World → Prop}
    (henv : ∀ w, Env w (w.setQueue .route ((w.queue .route).fire 0))) :
    Sys.Reachable (Task exampleLib 0) Env (· = ⟨routeWorkWorld, []⟩) requeuedSys := by
  have hw : Prog.Steps workerCont clientFailedTrace (.pure ()) :=
    .call _ (.call _ (.call _ (.call _ (.call _ (.refl _)))))
  have ha : World.Answers reAddedSys.world clientFailedTrace _ :=
    ⟨_, ⟨rfl, List.mem_singleton_self _, rfl⟩, _, rfl, _, ⟨rfl, rfl⟩, _, rfl, _, rfl, rfl⟩
  exact (Sys.Reachable.exec (Prog.Exec.of_steps hw ha) reAddedSys_reachable rfl (i := 0) rfl rfl
    rfl).step (.env _ _ (henv _))

theorem routeQueue_key_held_once_reAdded :
    reAddedSys.world.routeQueue.processing = [.key "acme/web"] ∧
    reAddedSys.world.routeQueue.processing.Perm (reAddedSys.held .route) ∧
      ∀ (i j : Nat) (inv inv' : Invocation) (item : QueueItem), reAddedSys.invocations[i]? = some inv →
        reAddedSys.invocations[j]? = some inv' → item ∈ heldItems .route inv.trace →
          item ∈ heldItems .route inv'.trace → i = j :=
  ⟨rfl, routeQueue_key_held_once exampleLib 0
    (fun s hs => by subst hs; exact ⟨routeWorkWorld_queue_wf, rfl, rfl⟩) reAddedSys_reachable⟩

/--
In every run of the route controller process from a state with no invocation, nothing being
processed and no count above `MaxRetries`, the rate limiter never counts more than `MaxRetries`
failures of an item: `handleErr` requeues a key only after reading fewer than `MaxRetries`
requeues of it, and no other invocation holds the key to requeue it in between.
-/
theorem routeQueue_requeues_le_maxRetries (T : Int) {Init : Sys → Prop}
    (hinit : ∀ s, Init s → s.world.routeQueue.Wf ∧ s.world.routeQueue.processing = [] ∧
      (∀ item, s.world.routeQueue.numRequeues item ≤ maxRetries) ∧ s.invocations = [])
    {s : Sys} (h : Sys.Reachable (Task lib T) World.Foreign Init s) (item : QueueItem) :
    s.world.routeQueue.numRequeues item ≤ maxRetries :=
  (h.retries (fun _ hp => task_workerRules lib hp) Sys.envFires_foreign hinit).2.bounded item

theorem routeQueue_requeues_le_maxRetries_requeued :
    requeuedSys.world.routeQueue.numRequeues (.key "acme/web") = 1 ∧
    requeuedSys.world.routeQueue.numRequeues (.key "acme/web") ≤ maxRetries :=
  ⟨rfl, routeQueue_requeues_le_maxRetries exampleLib 0
    (fun s hs => by subst hs; exact ⟨routeWorkWorld_queue_wf, rfl, fun _ => Nat.zero_le _, rfl⟩)
    (requeuedSys_reachable fun w => .fire w .route 0) _⟩

/--
In every run of the route controller process from a state with no invocation and nothing being
processed, however its workers and event handlers interleave and crash and whatever the world's
other actors do, no add of a key is lost: every key that needs processing is ready in the queue, or
is held by an invocation that has not stopped. The deferred `Done` of `processNextItem` gives the
key back however the worker stops, and puts it back in the queue if it was added again meanwhile.
-/
theorem routeQueue_no_lost_add (T : Int) {Init : Sys → Prop}
    (hinit : ∀ s, Init s → s.world.routeQueue.Wf ∧ s.world.routeQueue.processing = [] ∧
      s.invocations = [])
    {s : Sys} (h : Sys.Reachable (Task lib T) World.Foreign Init s) :
    ∀ item ∈ s.world.routeQueue.dirty, item ∈ s.world.routeQueue.queue ∨
      ∃ inv ∈ s.invocations, item ∈ heldItems .route inv.trace ∧ ¬inv.cont.Stopped := fun _ hx =>
  (h.holding (fun _ hp => (task_workerRules lib hp).1) Sys.envFires_foreign hinit).dirty_ready
    (h.invocationsRun fun s hs => (hinit s hs).2.2) (fun _ hp => task_releases lib hp) hx

theorem routeQueue_no_lost_add_reAdded :
    QueueItem.key "acme/web" ∈ reAddedSys.world.routeQueue.dirty ∧
    QueueItem.key "acme/web" ∉ reAddedSys.world.routeQueue.queue ∧
    (QueueItem.key "acme/web" ∈ reAddedSys.world.routeQueue.queue ∨
      ∃ inv ∈ reAddedSys.invocations, QueueItem.key "acme/web" ∈ heldItems .route inv.trace ∧
        ¬inv.cont.Stopped) :=
  ⟨List.mem_singleton_self _, List.not_mem_nil _, routeQueue_no_lost_add exampleLib 0
    (fun s hs => by subst hs; exact ⟨routeWorkWorld_queue_wf, rfl, rfl⟩) reAddedSys_reachable _
    (List.mem_singleton_self _)⟩

/--
The route controller process never creates, updates or deletes a Secret: in every run in which the
world's other actors leave the Secrets alone, however the workers and event handlers interleave and
crash, the Secrets stay as they were at the start. Nothing the process runs calls `syncSecret`, the
only code of the controller that would mirror a route's certificate into a Secret.
-/
theorem routeController_keeps_secrets (T : Int) {Env : World → World → Prop} {Init : Sys → Prop}
    {secrets : Store Secret} (henv : ∀ w w', Env w w' → w'.secrets = w.secrets)
    (hinit : ∀ s, Init s → s.invocations = [] ∧ s.world.secrets = secrets)
    {s : Sys} (h : Sys.Reachable (Task lib T) Env Init s) : s.world.secrets = secrets :=
  h.keeps (fun w => w.secrets = secrets) (fun _ hp => task_no_secretWrite lib hp)
    (fun _ _ _ _ hc ha hw => (World.Answer.secrets_eq hc ha).trans hw)
    (fun _ _ he hw => (henv _ _ he).trans hw) hinit

theorem routeController_keeps_secrets_requeued :
    Sys.Reachable (Task exampleLib 0) (fun w w' => World.Foreign w w' ∧ w'.secrets = w.secrets)
      (· = ⟨routeWorkWorld, []⟩) requeuedSys ∧
    requeuedSys.world.secrets = routeWorkWorld.secrets :=
  have hs : Sys.Reachable (Task exampleLib 0) (fun w w' => World.Foreign w w' ∧ w'.secrets = w.secrets)
      (· = ⟨routeWorkWorld, []⟩) requeuedSys := requeuedSys_reachable fun w => ⟨.fire w .route 0, rfl⟩
  ⟨hs, routeController_keeps_secrets exampleLib 0 (fun _ _ h => h.2)
    (fun s hs => by subst hs; exact ⟨rfl, rfl⟩) hs⟩

end RouteController

end OpenshiftAcme
