import OpenshiftAcme.Account.Lemmas.Register
import OpenshiftAcme.World.Keys
import OpenshiftAcme.World.Workers
import OpenshiftAcme.World.Secrets

/-!
This module contains the work queue of the account controller over whole runs. Its handlers put
only keys into the queue: the event handlers add `KeyFunc(cm)`, `sync` does not touch the queue,
and the worker re-adds the key it took out. So in every run, however its invocations interleave
with one another, with crashes and with the world's other actors, the queue holds only keys, and
every item a worker takes out is a key string. The worker also marks done only the key it took, so
the queue processes exactly the keys the workers hold and no key is synced by two workers at once;
and it gives the key back however it stops, so no add of a key is lost. No task of the process
updates or deletes a Secret, so every Secret stored stays as it is.
-/

namespace OpenshiftAcme

namespace AccountController

open Prog (Only OnlyAfter Guarded send)

variable (lib : Lib) {q : Controller}

theorem enqueueAccount_only (cm : ConfigMap) : Only (AddsKey q) (enqueueAccount cm) :=
  Only.send fun _ => rfl

theorem enqueueUsers_only_of {P : Call → Prop} (hP : ∀ cm, Only P (enqueueAccount cm))
    (name : String) (cms : List ConfigMap) : Only P (enqueueUsers lib name cms) := by
  induction cms with
  | nil => exact .pure ()
  | cons cm rest ih =>
    simp only [enqueueUsers]
    split
    · exact ih
    · split
      · exact ih
      · split
        · split
          · exact .panic _
          · split
            · exact (hP cm).bind fun _ => ih
            · exact ih
        · exact ih

theorem enqueueUsers_only (name : String) (cms : List ConfigMap) :
    Only (AddsKey q) (enqueueUsers lib name cms) :=
  enqueueUsers_only_of lib enqueueAccount_only name cms

theorem sync_only (key : String) : Only (AddsKey q) (sync lib key) :=
  (sync_syncCall lib key).mono fun c _ => by cases c <;> trivial

theorem processNextItem_guarded :
    Guarded (AddsKey .account) (GetsKey .account) (processNextItem lib) := by
  refine .call trivial fun r hr => ?_
  rcases r with _ | item
  · exact .pure false
  obtain ⟨k, rfl⟩ : ∃ k, item = .key k := by
    cases item with
    | key k => exact ⟨k, rfl⟩
    | route _ => exact absurd (hr rfl _ rfl) (by simp [QueueItem.isKey])
  refine Guarded.withDefer (Only.send trivial).guarded ?_
  refine (sync_only lib k).guarded.toExcept.bind fun e => ?_
  cases e with
  | ok _ => exact .call trivial fun _ _ => .pure true
  | error _ => exact .call (fun _ => rfl) fun _ _ => .pure true

theorem task_guarded {p : Prog Unit} (h : Task lib p) :
    Guarded (AddsKey .account) (GetsKey .account) p := by
  cases h with
  | worker => exact (processNextItem_guarded lib).bind fun _ => .pure ()
  | addConfigMap cm =>
    unfold addConfigMap
    split
    · exact .pure ()
    · exact (enqueueAccount_only cm).guarded
  | updateConfigMap old cm =>
    unfold updateConfigMap
    split
    · exact .pure ()
    · exact (enqueueAccount_only cm).guarded
  | deleteConfigMap cm =>
    unfold deleteConfigMap
    split
    · exact .pure ()
    · exact (enqueueAccount_only cm).guarded
  | deleteSecret secret =>
    refine .call trivial fun r _ => ?_
    cases r with
    | error _ => exact .pure ()
    | ok cms => exact (enqueueUsers_only lib _ cms).guarded

/--
In every run of the account controller process that starts with no invocation and a queue of keys,
with the world's other actors acting in between, the account queue holds only keys and every item
a worker took out of it was a key: the assertion `key.(string)` never fails.
-/
theorem accountQueue_holds_keys {Init : Sys → Prop}
    (hinit : ∀ s, Init s → s.world.accountQueue.HoldsKeys ∧ s.invocations = []) {s : Sys}
    (h : Sys.Reachable (Task lib) World.Foreign Init s) :
    s.world.accountQueue.HoldsKeys ∧
      ∀ inv ∈ s.invocations, ∀ e ∈ inv.trace, GetsKey .account e.call e.reply :=
  have hi := h.keysInv (fun _ hp => task_guarded lib hp) (fun _ _ he hq => he.holdsKeys hq) hinit
  ⟨hi.1, fun inv hinv => (hi.2 inv hinv).2⟩

/-!
## A run of the account controller

A worker takes the key of `accountConfigMap`, an event handler adds it again while it is held, the
worker's `sync` registers because its lister does not see the credentials Secret yet, the API
server refuses the create under the taken name, the worker requeues the key, the deferred `Done`
puts it back, and the delay of the parked item passes.
-/

def accountWorkWorld : World :=
  { World.empty with
    configMaps := ⟨[accountConfigMap], [accountConfigMap]⟩, secrets := ⟨[accountSecret], [accountSecret]⟩,
    revision := 1,
    accountQueue := ⟨[.key "acme/acme-account-config"], [.key "acme/acme-account-config"], [], [], [], false⟩ }

def accountWorkerCont : Prog Unit :=
  Prog.withDefer (send (.queueDone .account (.key "acme/acme-account-config"))) (do
    match ← (sync accountLib "acme/acme-account-config").toExcept with
    | .ok () => send (.queueForget .account (.key "acme/acme-account-config"))
    | .error _ => send (.queueAddRateLimited .account (.key "acme/acme-account-config"))
    pure true) >>= fun _ => pure ()

def takenTrace : List Exchange :=
  registerTrace accountLib "acme/acme-account-config" accountConfigMap
    ⟨"https://ca.example/directory", ⟨accountContacts, ⟨"", "", "", ""⟩⟩, "acme-account"⟩ ⟨1⟩ caAccount
    (.error (.status .alreadyExists "acme-account already exists"))

def accountReAddedSys : Sys :=
  ⟨{ accountWorkWorld with
      accountQueue := ⟨[], [.key "acme/acme-account-config"], [.key "acme/acme-account-config"], [], [], false⟩ },
    [⟨processNextItem accountLib >>= fun _ => pure (),
      [⟨.queueGet .account, some (.key "acme/acme-account-config")⟩], accountWorkerCont, false⟩,
     ⟨addConfigMap accountLib accountConfigMap, [⟨.queueAdd .account (.key "acme/acme-account-config"), ()⟩],
      .pure (), false⟩]⟩

def accountRequeuedSys : Sys :=
  ⟨{ accountWorkWorld with
      accountQueue := ⟨[.key "acme/acme-account-config"], [.key "acme/acme-account-config"], [], [],
        [(.key "acme/acme-account-config", 1)], false⟩ },
    [⟨processNextItem accountLib >>= fun _ => pure (),
      ⟨.queueGet .account, some (.key "acme/acme-account-config")⟩ :: takenTrace ++
        [⟨.queueAddRateLimited .account (.key "acme/acme-account-config"), ()⟩,
          ⟨.queueDone .account (.key "acme/acme-account-config"), ()⟩], .pure (), false⟩,
     ⟨addConfigMap accountLib accountConfigMap, [⟨.queueAdd .account (.key "acme/acme-account-config"), ()⟩],
      .pure (), false⟩]⟩

theorem accountWorkWorld_queue_wf : accountWorkWorld.accountQueue.Wf :=
  ⟨List.nodup_singleton _, .nil, fun _ h => h, (fun _ _ h => nomatch h), fun _ h => .inl h⟩

theorem accountWorkWorld_holdsKeys : accountWorkWorld.accountQueue.HoldsKeys :=
  have hk : ∀ i ∈ [QueueItem.key "acme/acme-account-config"], i.isKey := fun _ h =>
    List.mem_singleton.mp h ▸ rfl
  ⟨hk, hk, fun _ h => nomatch h⟩

theorem accountReAddedSys_reachable {Env : World → World → Prop} :
    Sys.Reachable (Task accountLib) Env (· = ⟨accountWorkWorld, []⟩) accountReAddedSys := by
  have h₀ : Sys.Reachable (Task accountLib) Env (· = ⟨accountWorkWorld, []⟩) ⟨accountWorkWorld, []⟩ :=
    .init rfl
  exact (h₀.spawn_exec .worker (Prog.Exec.of_steps (.call _ (.refl _)) ⟨_, ⟨rfl, rfl⟩, rfl⟩)).spawn_exec
    (.addConfigMap accountConfigMap) (Prog.Exec.of_steps (.call _ (.refl _)) ⟨_, rfl, rfl⟩)

theorem accountRequeuedSys_reachable {Env : World → World → Prop}
    (henv : ∀ w, Env w (w.setQueue .account ((w.queue .account).fire 0))) :
    Sys.Reachable (Task accountLib) Env (· = ⟨accountWorkWorld, []⟩) accountRequeuedSys := by
  obtain ⟨q, hq, hthrow⟩ : ∃ q, Prog.Steps (sync accountLib "acme/acme-account-config") takenTrace q ∧
      ∀ e, (.error (.status .alreadyExists "acme-account already exists") : Except Err Secret) = .error e →
        q = .throw e :=
    steps_sync_register accountLib (by rfl) (by rfl) (by rfl) (by rfl) (by rfl) (by rfl) _ _ _
  cases hthrow _ rfl
  have hw : Prog.Steps accountWorkerCont (takenTrace ++
      [⟨.queueAddRateLimited .account (.key "acme/acme-account-config"), ()⟩,
        ⟨.queueDone .account (.key "acme/acme-account-config"), ()⟩]) (.pure ()) :=
    hq.toExcept.bind.withDefer.bind.trans (.call _ (.call _ (.refl _)))
  have ha : World.Answers accountReAddedSys.world (takenTrace ++
      [⟨.queueAddRateLimited .account (.key "acme/acme-account-config"), ()⟩,
        ⟨.queueDone .account (.key "acme/acme-account-config"), ()⟩]) _ :=
    ⟨_, ⟨rfl, List.mem_singleton_self _, rfl⟩, _, ⟨rfl, trivial⟩, _, rfl, _, rfl,
      _, ⟨"uid-1", ⟨by decide, List.not_mem_nil _⟩, .inl rfl⟩, _, rfl, _, rfl, rfl⟩
  exact (Sys.Reachable.exec (Prog.Exec.of_steps hw ha) accountReAddedSys_reachable rfl (i := 0) rfl rfl
    rfl).step (.env _ _ (henv _))

theorem accountQueue_holds_keys_requeued :
    accountRequeuedSys.world.accountQueue.HoldsKeys ∧
      ∀ inv ∈ accountRequeuedSys.invocations, ∀ e ∈ inv.trace, GetsKey .account e.call e.reply :=
  accountQueue_holds_keys accountLib
    (fun s hs => by subst hs; exact ⟨accountWorkWorld_holdsKeys, rfl⟩)
    (accountRequeuedSys_reachable fun w => .fire w .account 0)

def EventCall : Call → Prop
  | .queueAdd .account (.key _) | .configMapListerList _ _ => True
  | _ => False

theorem processNextItem_body_only {P : Call → Prop} (hs : ∀ c, SyncCall c → P c)
    (hq : ∀ item, P (.queueForget .account item) ∧ P (.queueAddRateLimited .account item))
    (key : QueueItem) :
    Only P (match key with
      | .route _ => .panic keyAssertionPanic
      | .key k => do
        match ← (sync lib k).toExcept with
        | .ok () => Prog.send (.queueForget .account key)
        | .error _ => Prog.send (.queueAddRateLimited .account key)
        pure true : Prog Bool) := by
  cases key with
  | route _ => exact .panic _
  | key k =>
    refine ((sync_syncCall lib k).mono hs).toExcept.bind fun e => ?_
    cases e with
    | ok _ => exact .call (hq _).1 fun _ => .pure true
    | error _ => exact .call (hq _).2 fun _ => .pure true

theorem processNextItem_only {P : Call → Prop} (hs : ∀ c, SyncCall c → P c)
    (hq : ∀ c, IsQueueCall c → P c) : Only P (processNextItem lib) := by
  refine .call (hq _ trivial) fun r => ?_
  rcases r with _ | item
  · exact .pure false
  exact (Only.send (hq _ (by trivial))).withDefer
    (processNextItem_body_only lib hs (fun _ => ⟨hq _ (by trivial), hq _ (by trivial)⟩) item)

theorem not_holdCall_of_syncCall {c : Call} (h : SyncCall c) : ¬HoldCall .account c := by
  cases c <;> first | exact id | exact absurd h id

theorem processNextItem_doneHeld : OnlyAfter (DoneHeld .account) (processNextItem lib) := by
  refine .call trivial fun r => ?_
  rcases r with _ | item
  · exact Prog.onlyAfter_pure false
  exact onlyAfter_withDefer_done
    (processNextItem_body_only lib (fun _ => not_holdCall_of_syncCall) (fun _ => ⟨id, id⟩) item)

theorem processNextItem_releases : Releases .account (processNextItem lib) := by
  intro tr r hs hr
  rcases Prog.steps_call_iff.mp hs with ⟨-, rfl⟩ | ⟨reply, tr', rfl, hs'⟩
  · exact hr.elim
  rcases reply with _ | item
  · obtain ⟨rfl, -⟩ := Prog.steps_pure_iff.mp hs'
    rfl
  · exact releases_withDefer_done
      (processNextItem_body_only lib (fun _ => not_holdCall_of_syncCall) (fun _ => ⟨id, id⟩) item) hs' hr

theorem not_holdCall_of_eventCall {c : Call} (h : EventCall c) : ¬HoldCall .account c := by
  cases c <;> first | exact id | exact absurd h id

theorem task_cases {p : Prog Unit} (h : Task lib p) :
    p = (processNextItem lib >>= fun _ => pure ()) ∨ Only EventCall p := by
  cases h with
  | worker => exact .inl rfl
  | addConfigMap cm | updateConfigMap _ cm | deleteConfigMap cm =>
    refine .inr ?_
    simp only [addConfigMap, updateConfigMap, deleteConfigMap]
    split
    · exact .pure ()
    · exact Only.send trivial
  | deleteSecret secret =>
    refine .inr (.call trivial fun r => ?_)
    cases r with
    | error _ => exact .pure ()
    | ok cms => exact enqueueUsers_only_of lib (fun _ => Only.send trivial) _ cms

theorem task_doneHeld {p : Prog Unit} (h : Task lib p) : OnlyAfter (DoneHeld .account) p := by
  rcases task_cases lib h with rfl | hp
  · exact (processNextItem_doneHeld lib).bind fun _ _ _ => Prog.onlyAfter_pure _
  · exact hp.doneHeld fun _ => not_holdCall_of_eventCall

theorem task_releases {p : Prog Unit} (h : Task lib p) : Releases .account p := by
  rcases task_cases lib h with rfl | hp
  · exact (processNextItem_releases lib).bind_pure ()
  · exact hp.releases fun _ => not_holdCall_of_eventCall

theorem task_no_secretOverwrite {p : Prog Unit} (h : Task lib p) :
    Only (¬World.IsSecretOverwrite ·) p := by
  rcases task_cases lib h with rfl | hp
  · refine (processNextItem_only lib (fun c hc => ?_) (fun c hc => ?_)).bind fun _ => .pure ()
    all_goals cases c <;> first | exact id | exact absurd hc id
  · exact hp.mono fun c hc => by cases c <;> first | exact id | exact absurd hc id

/--
In every run of the account controller process from a state with no invocation and nothing being
processed, however its invocations interleave and crash and whatever the world's other actors do,
the account queue processes exactly the items the invocations hold, and no item is held by two
invocations: two workers never sync the same config map at once.
-/
theorem accountQueue_key_held_once {Init : Sys → Prop}
    (hinit : ∀ s, Init s → s.world.accountQueue.Wf ∧ s.world.accountQueue.processing = [] ∧
      s.invocations = [])
    {s : Sys} (h : Sys.Reachable (Task lib) World.Foreign Init s) :
    s.world.accountQueue.processing.Perm (s.held .account) ∧
      ∀ (i j : Nat) (inv inv' : Invocation) (item : QueueItem), s.invocations[i]? = some inv →
        s.invocations[j]? = some inv' → item ∈ heldItems .account inv.trace →
          item ∈ heldItems .account inv'.trace → i = j :=
  have hh := h.holding (fun _ hp => task_doneHeld lib hp) Sys.envFires_foreign hinit
  ⟨hh.processing, fun _ _ _ _ _ hi hj hx hx' => hh.holder_unique hi hj hx hx'⟩

theorem accountQueue_key_held_once_reAdded :
    accountReAddedSys.world.accountQueue.processing = [.key "acme/acme-account-config"] ∧
    accountReAddedSys.world.accountQueue.processing.Perm (accountReAddedSys.held .account) ∧
      ∀ (i j : Nat) (inv inv' : Invocation) (item : QueueItem),
        accountReAddedSys.invocations[i]? = some inv → accountReAddedSys.invocations[j]? = some inv' →
          item ∈ heldItems .account inv.trace → item ∈ heldItems .account inv'.trace → i = j :=
  ⟨rfl, accountQueue_key_held_once accountLib
    (fun s hs => by subst hs; exact ⟨accountWorkWorld_queue_wf, rfl, rfl⟩) accountReAddedSys_reachable⟩

/--
In every run of the account controller process from a state with no invocation and nothing being
processed, however its invocations interleave and crash and whatever the world's other actors do,
no add of a key is lost: every key that needs processing is ready in the queue, or is held by an
invocation that has not stopped. The deferred `Done` of `processNextItem` gives the key back
however the worker stops, and puts it back in the queue if it was added again meanwhile.
-/
theorem accountQueue_no_lost_add {Init : Sys → Prop}
    (hinit : ∀ s, Init s → s.world.accountQueue.Wf ∧ s.world.accountQueue.processing = [] ∧
      s.invocations = [])
    {s : Sys} (h : Sys.Reachable (Task lib) World.Foreign Init s) :
    ∀ item ∈ s.world.accountQueue.dirty, item ∈ s.world.accountQueue.queue ∨
      ∃ inv ∈ s.invocations, item ∈ heldItems .account inv.trace ∧ ¬inv.cont.Stopped := fun _ hx =>
  (h.holding (fun _ hp => task_doneHeld lib hp) Sys.envFires_foreign hinit).dirty_ready
    (h.invocationsRun fun s hs => (hinit s hs).2.2) (fun _ hp => task_releases lib hp) hx

theorem accountQueue_no_lost_add_reAdded :
    QueueItem.key "acme/acme-account-config" ∈ accountReAddedSys.world.accountQueue.dirty ∧
    QueueItem.key "acme/acme-account-config" ∉ accountReAddedSys.world.accountQueue.queue ∧
    (QueueItem.key "acme/acme-account-config" ∈ accountReAddedSys.world.accountQueue.queue ∨
      ∃ inv ∈ accountReAddedSys.invocations,
        QueueItem.key "acme/acme-account-config" ∈ heldItems .account inv.trace ∧ ¬inv.cont.Stopped) :=
  ⟨List.mem_singleton_self _, List.not_mem_nil _, accountQueue_no_lost_add accountLib
    (fun s hs => by subst hs; exact ⟨accountWorkWorld_queue_wf, rfl, rfl⟩) accountReAddedSys_reachable _
    (List.mem_singleton_self _)⟩

/--
The account controller process never overwrites or deletes a Secret: in every run in which the
world's other actors leave a stored Secret alone, however the workers and event handlers interleave
and crash, that Secret stays stored as it was. `sync` only creates the credentials Secret, and a
create under a name that is taken fails; so the key of a registered ACME account is never lost to
the controller.
-/
theorem accountController_keeps_stored_secrets {Env : World → World → Prop} {Init : Sys → Prop}
    {ns name : String} {y : Secret}
    (henv : ∀ w w', Env w w' → w.secrets.find ns name = some y → w'.secrets.find ns name = some y)
    (hinit : ∀ s, Init s → s.invocations = [] ∧ s.world.secrets.find ns name = some y)
    {s : Sys} (h : Sys.Reachable (Task lib) Env Init s) : s.world.secrets.find ns name = some y :=
  h.keeps (fun w => w.secrets.find ns name = some y) (fun _ hp => task_no_secretOverwrite lib hp)
    (fun _ _ _ _ hc ha hw => World.Answer.find_secret_kept hc ha hw) henv hinit

theorem accountController_keeps_stored_secrets_taken :
    Sys.Reachable (Task accountLib) (fun w w' => World.Foreign w w' ∧ w'.secrets = w.secrets)
      (· = ⟨accountWorkWorld, []⟩) accountRequeuedSys ∧
    accountRequeuedSys.world.secrets.find "acme" "acme-account" = some accountSecret :=
  have hs : Sys.Reachable (Task accountLib) (fun w w' => World.Foreign w w' ∧ w'.secrets = w.secrets)
      (· = ⟨accountWorkWorld, []⟩) accountRequeuedSys :=
    accountRequeuedSys_reachable fun w => ⟨.fire w .account 0, rfl⟩
  ⟨hs, accountController_keeps_stored_secrets accountLib (fun _ _ h hy => h.2 ▸ hy)
    (fun s hs => by subst hs; exact ⟨rfl, rfl⟩) hs⟩

end AccountController

end OpenshiftAcme
