import OpenshiftAcme.Route.Lemmas.Writes
import OpenshiftAcme.Route.Lemmas.Exposer
import OpenshiftAcme.Route.Secret
import OpenshiftAcme.Route.Lemmas.Entry
import OpenshiftAcme.Route.Lemmas.Finalize

/-!
This module contains the ownership checks of the route controller's writes. The create-or-adopt
steps of the exposer objects and `syncSecret` update an existing Route, ReplicaSet, Service or
Secret only right after reading it, when the managed route controls what they read, and at the
version read; `syncSecret` deletes the Secret only with the UID of the one it read, which the
route controls. `handle` also writes the managed route itself, its status and its certificate, at
the version the cache gave it, with no read before the write and no ownership check.
-/

namespace OpenshiftAcme

namespace RouteController

open Prog (Steps Only OnlyAfter Stable onlyAfter_send)

variable (lib : Lib)

inductive Kind
  | route | replicaSet | service | secret
  deriving DecidableEq

def readMeta : Exchange → Option (Kind × String × String × ObjectMeta)
  | ⟨.routeGet ns name, .ok y⟩ => some (.route, ns, name, y.meta)
  | ⟨.replicaSetGet ns name, .ok y⟩ => some (.replicaSet, ns, name, y.meta)
  | ⟨.serviceGet ns name, .ok y⟩ => some (.service, ns, name, y.meta)
  | ⟨.secretListerGet ns name, .ok y⟩ => some (.secret, ns, name, y.meta)
  | _ => none

def ReadNamed (e : Exchange) : Prop :=
  ∀ kind ns name m, readMeta e = some (kind, ns, name, m) → m.name = name

def ReadsNamed (tr : List Exchange) : Prop :=
  ∀ e ∈ tr, ReadNamed e

def Adopted (owner : ObjectMeta) (tr : List Exchange) (kind : Kind) (ns : String) (m : ObjectMeta) :
    Prop :=
  ∃ m', tr.getLast?.bind readMeta = some (kind, ns, m.name, m') ∧ m'.isControlledBy owner = true ∧
    m.resourceVersion = m'.resourceVersion

def GuardedWrite (owner : ObjectMeta) (tr : List Exchange) : Call → Prop
  | .routeUpdate ns x => Adopted owner tr .route ns x.meta
  | .replicaSetUpdate ns x => Adopted owner tr .replicaSet ns x.meta
  | .serviceUpdate ns x => Adopted owner tr .service ns x.meta
  | .secretUpdate ns x => Adopted owner tr .secret ns x.meta
  | .secretDelete ns name uid => ∃ m', tr.getLast?.bind readMeta = some (.secret, ns, name, m') ∧
      m'.isControlledBy owner = true ∧ uid = m'.uid
  | _ => True

def SelfWrite (r : Route) : Call → Prop
  | .routeUpdate ns x => ns = r.meta.«namespace» ∧
      ((∃ text, x = { r with meta := r.meta.setMetaDataAnnotation lib.statusAnnotation text }) ∨
        ∃ tls, x = { r with spec := { r.spec with tls := tls } })
  | _ => False

def OwnerWrite (r : Route) (tr : List Exchange) (c : Call) : Prop :=
  GuardedWrite r.meta tr c ∨ SelfWrite lib r c

theorem getLast?_bind_append {β : Type} {f : Exchange → Option β} {b : β} {tr : List Exchange}
    (pre : List Exchange) (h : tr.getLast?.bind f = some b) : (pre ++ tr).getLast?.bind f = some b := by
  rw [List.getLast?_append]
  cases htr : tr.getLast? with
  | none => simp [htr] at h
  | some e => simpa [htr] using h

theorem guardedWrite_stable (owner : ObjectMeta) : Stable (GuardedWrite owner) := by
  intro pre tr c h
  cases c
  all_goals first
    | trivial
    | (obtain ⟨m', hm, hc⟩ := h; exact ⟨m', getLast?_bind_append pre hm, hc⟩)

theorem ownerWrite_stable (r : Route) : Stable (OwnerWrite lib r) :=
  fun pre tr c h => h.imp (guardedWrite_stable r.meta pre tr c) id

theorem readsNamed_guarded_stable (owner : ObjectMeta) :
    Stable fun tr c => ReadsNamed tr → GuardedWrite owner tr c :=
  fun pre tr c h hr => guardedWrite_stable owner pre tr c
    (h fun e he => hr e (List.mem_append_right _ he))

section CreateOrAdopt

variable {α : Type} [Resource α] {P : List Exchange → Call → Prop}

omit [Resource α] in
theorem retryOnConflict_onlyAfter (hP : Stable P) {fn : Prog α} (h : OnlyAfter P fn) (n : Nat) :
    OnlyAfter P (retryOnConflict fn n) := by
  induction n with
  | zero => exact h
  | succ n ih =>
    refine h.tryCatch_of_stable hP fun e => ?_
    split
    · exact ih
    · exact Prog.onlyAfter_throw e

theorem adoptAttempt_onlyAfter {get : String → Prog (Except Err α)} {update : α → Prog (Except Err α)}
    {what key : String} {owner : ObjectMeta} {desired : α}
    (hget : OnlyAfter P (get (Resource.meta desired).name))
    (hupd : ∀ tr y, Steps (get (Resource.meta desired).name) tr (.pure (.ok y)) →
      (Resource.meta y).isControlledBy owner = true →
      OnlyAfter (fun tr' => P (tr ++ tr')) (update (Resource.withMeta desired
        { Resource.meta desired with resourceVersion := (Resource.meta y).resourceVersion }))) :
    OnlyAfter P (adoptAttempt get update what key owner desired) := by
  unfold adoptAttempt
  refine hget.bind fun tr l hl => ?_
  cases l with
  | error e => exact Prog.onlyAfter_throw e
  | ok y =>
    simp only [Prog.ofExcept_ok, Prog.pure_bind]
    split
    · exact Prog.onlyAfter_throw _
    · rename_i hc
      exact (hupd tr y hl (by simpa using hc)).bind fun _ _ _ => Prog.onlyAfter_ofExcept _

theorem createOrAdopt_onlyAfter (hP : Stable P) {create : α → Prog (Except Err α)}
    {get : String → Prog (Except Err α)} {update : α → Prog (Except Err α)} {what key : String}
    {owner : ObjectMeta} {desired : α} (hc : OnlyAfter P (create desired))
    (hadopt : OnlyAfter P (adoptAttempt get update what key owner desired)) :
    OnlyAfter P (createOrAdopt create get update what key owner desired) := by
  unfold createOrAdopt
  refine .bind_of_stable hP hc fun reply => ?_
  cases reply with
  | ok x => exact Prog.onlyAfter_pure x
  | error e =>
    dsimp only
    split
    · exact retryOnConflict_onlyAfter hP hadopt _
    · exact Prog.onlyAfter_throw e

end CreateOrAdopt

variable {r : Route}

theorem createExposerRoute_guarded {key : String} {desired : Route} :
    OnlyAfter (GuardedWrite r.meta) (createExposerRoute key r desired) := by
  unfold createExposerRoute
  refine createOrAdopt_onlyAfter (guardedWrite_stable _) (onlyAfter_send trivial)
    (adoptAttempt_onlyAfter (onlyAfter_send trivial) fun _ y hl hc => ?_)
  obtain rfl := steps_send_pure hl
  exact onlyAfter_send ⟨y.meta, rfl, hc, rfl⟩

theorem createExposerRS_guarded {key : String} {desired : ReplicaSet} :
    OnlyAfter (GuardedWrite r.meta) (createExposerRS key r desired) := by
  unfold createExposerRS
  refine createOrAdopt_onlyAfter (guardedWrite_stable _) (onlyAfter_send trivial)
    (adoptAttempt_onlyAfter (onlyAfter_send trivial) fun _ y hl hc => ?_)
  obtain rfl := steps_send_pure hl
  exact onlyAfter_send ⟨y.meta, rfl, hc, rfl⟩

theorem createExposerService_guarded {key : String} {desired : Service} :
    OnlyAfter (GuardedWrite r.meta) (createExposerService key r desired) := by
  unfold createExposerService
  refine createOrAdopt_onlyAfter (guardedWrite_stable _) (onlyAfter_send trivial)
    (adoptAttempt_onlyAfter (onlyAfter_send trivial) fun _ y hl hc => ?_)
  obtain rfl := steps_send_pure hl
  exact onlyAfter_send ⟨y.meta, rfl, hc, rfl⟩

theorem exposeChallenge_guarded {key : String} {o : Acme.Order} {authzUrl : String}
    {challenge : Acme.Challenge} :
    OnlyAfter (GuardedWrite r.meta) (exposeChallenge lib key r o authzUrl challenge) :=
  have hs := guardedWrite_stable r.meta
  .bind_of_stable hs createExposerRoute_guarded fun _ =>
    .bind_of_stable hs createExposerRS_guarded fun _ =>
      .bind_of_stable hs createExposerService_guarded fun _ =>
        .bind_of_stable hs (onlyAfter_send trivial) fun l =>
          .bind_of_stable hs (Prog.onlyAfter_ofExcept l) fun _ => Prog.onlyAfter_pure _

theorem satisfyAuthorizations_guarded {key domain : String} {o : Acme.Order} (authzUrls : List String) :
    OnlyAfter (GuardedWrite r.meta) (satisfyAuthorizations lib key domain r o authzUrls) := by
  have hs := guardedWrite_stable r.meta
  induction authzUrls with
  | nil => exact Prog.onlyAfter_pure _
  | cons authzUrl rest ih =>
    refine .bind_of_stable hs (onlyAfter_send trivial) fun l =>
      .bind_of_stable hs (Prog.onlyAfter_ofExcept l) fun authz => ?_
    dsimp only
    split
    · split
      · exact Prog.onlyAfter_throw _
      · split
        · exact .bind_of_stable hs (exposeChallenge_guarded lib) fun _ => ih
        · split
          · exact ih
          · exact Prog.onlyAfter_throw _
    · split
      · exact ih
      · exact Prog.onlyAfter_throw _

theorem syncOwnedSecret_none_creates :
    Only (fun c => ∃ ns x, c = .secretCreate ns x) (syncOwnedSecret r none) := by
  unfold syncOwnedSecret
  cases r.spec.tls with
  | none => exact .pure _
  | some tls => exact .call ⟨_, _, rfl⟩ fun reply => by cases reply <;> first | exact .pure _ | exact .throw _

theorem syncOwnedSecret_guarded {old : Secret} (hc : old.meta.isControlledBy r.meta = true) :
    OnlyAfter (fun tr c =>
        ReadsNamed (⟨.secretListerGet r.meta.«namespace» r.meta.name, .ok old⟩ :: tr) →
          GuardedWrite r.meta (⟨.secretListerGet r.meta.«namespace» r.meta.name, .ok old⟩ :: tr) c)
      (syncOwnedSecret r (some old)) := by
  unfold syncOwnedSecret
  cases r.spec.tls with
  | none =>
    refine .call (fun _ => ⟨old.meta, rfl, hc, rfl⟩) fun reply => ?_
    cases reply with
    | ok _ => exact Prog.onlyAfter_pure _
    | error e =>
      show OnlyAfter _ (if _ then _ else _)
      split
      · exact Prog.onlyAfter_throw _
      · exact Prog.onlyAfter_pure _
  | some tls =>
    show OnlyAfter _ (if _ then _ else _)
    split
    · exact Prog.onlyAfter_pure _
    · refine .call (fun hr => ?_) fun reply => ?_
      · have hname : old.meta.name = r.meta.name :=
          hr _ (List.mem_cons_self _ _) _ _ _ _ rfl
        exact ⟨old.meta, by simp only [newSecret, Option.getD_some, hname]; rfl, hc, rfl⟩
      cases reply with
      | ok _ => exact Prog.onlyAfter_pure _
      | error e => exact Prog.onlyAfter_throw _

theorem syncSecret_guarded :
    OnlyAfter (fun tr c => ReadsNamed tr → GuardedWrite r.meta tr c) (syncSecret r) := by
  unfold syncSecret
  refine .call (fun _ => trivial) fun reply => ?_
  cases reply with
  | error e =>
    show OnlyAfter _ (if _ then _ else _)
    split
    · exact Prog.onlyAfter_throw _
    · exact syncOwnedSecret_none_creates.onlyAfter fun _ _ ⟨_, _, h⟩ => h ▸ fun _ => trivial
  | ok old =>
    show OnlyAfter _ (if _ then _ else _)
    split
    · exact onlyAfter_send fun _ => trivial
    · rename_i hc
      exact syncOwnedSecret_guarded (by simpa using hc)

/-! The writes of `handle` once it has read `r` from the cache. -/

theorem selfWrite_of_setStatus {st : Status} {r' : Route} (h : setStatus lib r st = .ok r') :
    SelfWrite lib r (.routeUpdate r'.meta.«namespace» r') := by
  obtain ⟨bytes, -, rfl⟩ := setStatus_eq lib h
  exact ⟨rfl, .inl ⟨bytes, rfl⟩⟩

theorem updateStatus_ownerWrite {st : Status} : OnlyAfter (OwnerWrite lib r) (updateStatus lib r st) :=
  (updateStatus_only lib r st).onlyAfter fun _ _ ⟨_, hr', _, hc⟩ =>
    .inr (hc ▸ selfWrite_of_setStatus lib hr')

theorem finalizeOrder_ownerWrite {o : Acme.Order} {status : Status} :
    OnlyAfter (OwnerWrite lib r) (finalizeOrder lib r o status) := by
  have hs := ownerWrite_stable lib r
  simp only [finalizeOrder, Prog.bind_eq, Prog.send_bind]
  refine .call_of_stable hs (.inl trivial) fun reply => ?_
  cases reply with
  | error e => exact Prog.onlyAfter_throw _
  | ok k =>
  simp only [Prog.pure_eq, Prog.pure_bind, Prog.send_bind]
  refine .call_of_stable hs (.inl trivial) fun reply => ?_
  cases reply with
  | error e => exact Prog.onlyAfter_throw _
  | ok csr =>
  simp only [Prog.pure_eq, Prog.pure_bind, Prog.send_bind]
  refine .call_of_stable hs (.inl trivial) fun reply => ?_
  cases reply with
  | error e => exact Prog.onlyAfter_throw _
  | ok der =>
  simp only [Prog.pure_eq, Prog.pure_bind, Prog.send_bind, Prog.ofExcept_ok]
  split
  · refine .call_of_stable hs (.inr ⟨rfl, .inr ⟨_, rfl⟩⟩) fun reply => ?_
    cases reply with
    | error e => exact Prog.onlyAfter_throw _
    | ok _ => exact updateStatus_ownerWrite lib
  · exact Prog.onlyAfter_throw _

theorem dispatchOrder_ownerWrite {key : String} {o : Acme.Order} {status : Status} :
    OnlyAfter (OwnerWrite lib r) (dispatchOrder lib key r o status) := by
  have hs := ownerWrite_stable lib r
  unfold dispatchOrder
  split
  · exact .bind_of_stable hs ((satisfyAuthorizations_guarded lib _).mono fun _ _ h => .inl h)
      fun _ => updateStatus_ownerWrite lib
  split
  · exact finalizeOrder_ownerWrite lib
  split
  · exact .bind_of_stable hs (onlyAfter_send (.inl trivial)) fun _ => updateStatus_ownerWrite lib
  split
  · exact .bind_of_stable hs (onlyAfter_send (.inl trivial)) fun _ => updateStatus_ownerWrite lib
  · exact Prog.onlyAfter_throw _

theorem pollOrder_ownerWrite {T : Int} {key : String} {status : Status} {ps : ProvisioningStatus} :
    OnlyAfter (OwnerWrite lib r) (pollOrder lib T key r status ps) := by
  have hs := ownerWrite_stable lib r
  simp only [pollOrder, Prog.bind_eq, Prog.send_bind]
  refine .call_of_stable hs (.inl trivial) fun now => ?_
  split
  · exact updateStatus_ownerWrite lib
  refine .call_of_stable hs (.inl trivial) fun reply => ?_
  split
  · exact updateStatus_ownerWrite lib
  · exact Prog.onlyAfter_throw _
  · exact dispatchOrder_ownerWrite lib

theorem newOrder_ownerWrite {status : Status} {domain : String} :
    OnlyAfter (OwnerWrite lib r) (orderStep.newOrder lib r status domain) := by
  have hs := ownerWrite_stable lib r
  simp only [orderStep.newOrder, Prog.bind_eq, Prog.send_bind]
  refine .call_of_stable hs (.inl trivial) fun reply =>
    .bind_of_stable hs (Prog.onlyAfter_ofExcept reply) fun o => ?_
  refine .call_of_stable hs (.inl trivial) fun t => ?_
  split
  · exact Prog.onlyAfter_panic _
  · exact updateStatus_ownerWrite lib

theorem orderStep_ownerWrite {T : Int} {key : String} {status : Status} :
    OnlyAfter (OwnerWrite lib r) (orderStep lib T key r status) := by
  simp only [orderStep]
  split
  · split
    · exact pollOrder_ownerWrite lib
    · exact newOrder_ownerWrite lib
  · exact newOrder_ownerWrite lib

theorem provision_ownerWrite {T : Int} {key : String} {status : Status} :
    OnlyAfter (OwnerWrite lib r) (provision lib T key r status) := by
  have hs := ownerWrite_stable lib r
  unfold provision
  split
  · exact orderStep_ownerWrite lib
  · simp only [Prog.bind_eq, Prog.send_bind]
    refine .call_of_stable hs (.inl trivial) fun now =>
      .bind_of_stable hs (Prog.onlyAfter_ofExcept _) fun reason => ?_
    split
    · exact updateStatus_ownerWrite lib
    · exact orderStep_ownerWrite lib

theorem handleRoute_ownerWrite {T : Int} {key : String} :
    OnlyAfter (OwnerWrite lib r) (handleRoute lib T key r) := by
  unfold handleRoute
  split
  · exact Prog.onlyAfter_pure _
  split
  · exact Prog.onlyAfter_pure _
  simp only [Prog.bind_eq, Prog.send_bind]
  refine .call_of_stable (ownerWrite_stable lib r) (.inl trivial) fun reply => ?_
  split
  · exact Prog.onlyAfter_throw _
  · split
    · exact Prog.onlyAfter_throw _
    · exact provision_ownerWrite lib

def IsOverwrite : Call → Prop
  | .routeUpdate .. | .replicaSetUpdate .. | .serviceUpdate .. | .secretUpdate ..
  | .secretDelete .. => True
  | _ => False

def WritesAfterRead (W : Route → List Exchange → Call → Prop) (key : String) (tr : List Exchange)
    (c : Call) : Prop :=
  IsOverwrite c → ∃ r tr', tr = ⟨.routeCacheGet key, .ok (some r)⟩ :: tr' ∧ W r tr' c

theorem handle_ownerWrite {T : Int} {key : String} :
    OnlyAfter (WritesAfterRead (OwnerWrite lib) key) (handle lib T key) := by
  unfold handle
  split
  · exact Prog.onlyAfter_throw _
  simp only [Prog.bind_eq, Prog.send_bind]
  refine .call (fun h => h.elim) fun reply => ?_
  cases reply with
  | error e => exact Prog.onlyAfter_throw _
  | ok l =>
    cases l with
    | none => exact Prog.onlyAfter_pure _
    | some r => exact (handleRoute_ownerWrite lib).mono fun tr _ h _ => ⟨r, tr, rfl, h⟩

/-! The reads of the world get the object they name. -/

theorem name_of_get {α : Type} [Resource α] {s : Store α} {ns name : String} {x : α}
    (h : s.get ns name = .ok x) : (Resource.meta x).name = name := by
  unfold Store.get Store.find at h
  split at h
  · rename_i y hy
    cases h
    have hkey := List.find?_some hy
    simp only [Store.keyIs, Bool.and_eq_true, decide_eq_true_eq] at hkey
    exact hkey.2
  · cases h

theorem readNamed_of_answer {w w' : World} {c : Call} {r : c.Reply} (h : w.Answer c r w') :
    ReadNamed ⟨c, r⟩ := by
  intro kind ns name m hm
  cases c <;> try cases hm
  all_goals
    rcases r with _ | y
    · cases hm
    simp only [readMeta, Option.some.injEq, Prod.mk.injEq] at hm
    obtain ⟨-, rfl, rfl, rfl⟩ := hm
    first
      | exact name_of_get h.2
      | exact h.2.2.2

theorem Exec.readsNamed {α : Type} {Env : World → World → Prop} {w w' : World} {p q : Prog α}
    {tr : List Exchange} (h : Prog.Exec Env w p tr w' q) : ReadsNamed tr := by
  induction h with
  | refl => exact fun _ he => nomatch he
  | call r ha _ ih =>
    intro e he
    rcases List.mem_cons.1 he with rfl | he
    · exact readNamed_of_answer ha
    · exact ih e he
  | env _ _ ih => exact ih

/--
The ownership checks of the route controller, in every run and whatever the API server, the CA
and the other clients answer. Each update or delete of `handle` follows its read of a route `r`
from the cache. It updates the object it has just read under that object's name, which `r`
controls, at the version read; or it writes `r` itself, at the version the cache gave, with only
its status annotation or its TLS configuration changed. Each update or delete of `syncSecret r`
is of the Secret it has just read, which `r` controls, when the read got the Secret of the name
it asked for, as the world's lister does.
-/
theorem handle_syncSecret_writes_owned (T : Int) (key : String) :
    OnlyAfter (WritesAfterRead (OwnerWrite lib) key) (handle lib T key) ∧
      ∀ r : Route, OnlyAfter (fun tr c => ReadsNamed tr → GuardedWrite r.meta tr c) (syncSecret r) ∧
        ∀ (Env : World → World → Prop) w tr w' c (k : c.Reply → Prog Unit),
          Prog.Exec Env w (syncSecret r) tr w' (.call c k) → GuardedWrite r.meta tr c :=
  ⟨handle_ownerWrite lib, fun _ => ⟨syncSecret_guarded,
    fun _ _ _ _ _ _ h => syncSecret_guarded _ _ _ h.steps (Exec.readsNamed h)⟩⟩

/-! A run that writes the managed route itself. -/

theorem dispatchOrder_ready {key : String} {o : Acme.Order} {st : Status}
    (ho : o.status = Acme.statusReady) : dispatchOrder lib key r o st = finalizeOrder lib r o st := by
  simp [dispatchOrder, ho, Acme.statusReady, Acme.statusPending]

theorem finalizeOrder_certificate_steps {o : Acme.Order} {st : Status} {k : PrivateKey}
    {csr : String} {der : List String} {url crt key : String}
    (hpem : lib.newCertificateFromDER der k = .ok (crt, key)) :
    ∃ kont, Steps (finalizeOrder lib r o st)
      [⟨.generateKey, .ok k⟩, ⟨.createCertificateRequest r.spec.host k, .ok csr⟩,
        ⟨.createOrderCert o.finalizeURL csr, .ok (der, url)⟩]
      (.call (.routeUpdate r.meta.«namespace» (withCertificate r crt key)) kont) := by
  simp only [finalizeOrder, Prog.bind_eq, Prog.send_bind]
  constructor
  refine .call _ ?_
  simp only [Prog.pure_eq, Prog.pure_bind, Prog.send_bind]
  refine .call _ ?_
  simp only [Prog.pure_eq, Prog.pure_bind, Prog.send_bind]
  refine .call _ ?_
  simp only [Prog.pure_eq, Prog.pure_bind, Prog.send_bind, Prog.ofExcept_ok, hpem]
  exact .refl _

theorem handle_ready_order_steps {T : Int} {key : String} {nk : String × String}
    {status : Status} {ps : ProvisioningStatus} {t : Int} {o : Acme.Order} {k : PrivateKey}
    {csr : String} {der : List String} {url crt pemKey : String}
    (hkey : splitMetaNamespaceKey key = .ok nk) (hdel : r.meta.deletionTimestamp = none)
    (hadm : r.isAdmitted = true) (hstatus : getStatus lib r = .ok status)
    (hps : status.provisioningStatus = some ps) (huri : ps.orderUri.length ≠ 0)
    (ht : t ≤ ps.startedAt + T) (ho : o.status = Acme.statusReady)
    (hpem : lib.newCertificateFromDER der k = .ok (crt, pemKey)) :
    ∃ kont, Steps (handle lib T key)
      [⟨.routeCacheGet key, .ok (some r)⟩, ⟨.getClient, .ok ()⟩, ⟨.now, t⟩,
        ⟨.getOrder ps.orderUri, .ok o⟩, ⟨.generateKey, .ok k⟩,
        ⟨.createCertificateRequest r.spec.host k, .ok csr⟩,
        ⟨.createOrderCert o.finalizeURL csr, .ok (der, url)⟩]
      (.call (.routeUpdate r.meta.«namespace» (withCertificate r crt pemKey)) kont) := by
  constructor
  refine steps_handle_of_handleRoute lib hkey ?_
  rw [steps_handleRoute_iff lib hdel hadm hstatus, provision_inFlight lib hps huri]
  simp only [pollOrder, Prog.bind_eq, Prog.send_bind]
  refine .call _ ?_
  rw [if_neg (Int.not_lt.mpr ht)]
  refine .call _ ?_
  show Steps (dispatchOrder lib key r o _) _ _
  rw [dispatchOrder_ready lib ho]
  exact (finalizeOrder_certificate_steps lib hpem).choose_spec

theorem certRoute_written_unguarded :
    certRoute.meta.isControlledBy certRoute.meta = false ∧
      ¬OnlyAfter (WritesAfterRead (fun r => GuardedWrite r.meta) "acme/web")
        (handle exampleLib 0 "acme/web") := by
  refine ⟨rfl, fun h => ?_⟩
  have hrun : ∃ kont, Steps (handle exampleLib 0 "acme/web")
      [⟨.routeCacheGet "acme/web", .ok (some certRoute)⟩, ⟨.getClient, .ok ()⟩, ⟨.now, 0⟩,
        ⟨.getOrder "https://ca.example/order/1", .ok readyOrder⟩, ⟨.generateKey, .ok ⟨7⟩⟩,
        ⟨.createCertificateRequest "www.example.com" ⟨7⟩, .ok "csr"⟩,
        ⟨.createOrderCert "https://ca.example/finalize/1" "csr",
          .ok (["crt"], "https://ca.example/cert/1")⟩]
      (.call (.routeUpdate "acme" (withCertificate certRoute "crt" "7")) kont) :=
    handle_ready_order_steps exampleLib (r := certRoute)
      (rfl : splitMetaNamespaceKey "acme/web" = .ok ("acme", "web")) rfl rfl
      (getStatus_of_marshal exampleLib rfl rfl : getStatus exampleLib certRoute = .ok readyStatus)
      (rfl : readyStatus.provisioningStatus = some ⟨0, "https://ca.example/order/1", Acme.statusReady⟩)
      (by decide) (by decide) rfl rfl
  obtain ⟨kont, hk⟩ := hrun
  obtain ⟨r, tr, htr, m', hm, -⟩ := h _ _ _ hk trivial
  injection htr with _ htr
  subst htr
  exact Option.noConfusion hm

end RouteController

end OpenshiftAcme
