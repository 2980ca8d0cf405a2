import OpenshiftAcme.Route.Handle

/-!
This module contains the route writes of `handle`. Once it has read a route from the cache,
`handle` updates only that route, at the version it read, and routes under an exposer name. The
update carries the annotations it read, or a status that follows from the one it read: no order,
the order in flight with what the CA reported on it, the order forgotten after the CA lost it, or
the order this invocation has just created, with the instant it read right after.
-/

namespace OpenshiftAcme

namespace RouteController

open Prog (Steps Only OnlyAfter send)

variable (lib : Lib)

def IsExposerName (name : String) : Prop :=
  ∃ s, name = getTemporaryName lib s

def NewOrderCall : Call → Prop
  | .authorizeOrder _ => True
  | _ => False

def OrderStarted (tr : List Exchange) (uri : String) (t : Int) : Prop :=
  ∃ domain, ∃ o : Acme.Order, o.uri = uri ∧ [⟨.authorizeOrder domain, .ok o⟩, ⟨.now, t⟩] <:+: tr

theorem OrderStarted.mono {tr tr' : List Exchange} {uri : String} {t : Int}
    (h : OrderStarted tr uri t) (htr : tr <:+: tr') : OrderStarted tr' uri t := by
  obtain ⟨d, o, ho, hi⟩ := h
  exact ⟨d, o, ho, hi.trans htr⟩

inductive StatusStep (tr : List Exchange) (st₀ : Status) : Status → Prop
  /-- No order: nothing to renew, a stuck order, a finalized one. -/
  | clear {st : Status} : st.provisioningStatus = none → StatusStep tr st₀ st
  /-- The order in flight, with what the CA reported on it. -/
  | poll {st : Status} {ps₀ ps : ProvisioningStatus} : st₀.provisioningStatus = some ps₀ →
      st.provisioningStatus = some ps → ps.orderUri = ps₀.orderUri → ps.startedAt = ps₀.startedAt →
      StatusStep tr st₀ st
  /-- The CA lost the order: a new one is due. -/
  | forget {st : Status} {ps : ProvisioningStatus} : st.provisioningStatus = some ps →
      ps.orderUri.length = 0 → StatusStep tr st₀ st
  /-- A new order where none was recorded. -/
  | start {st : Status} {ps₀ ps : ProvisioningStatus} : st₀.provisioningStatus = some ps₀ →
      ps₀.orderUri.length = 0 → st.provisioningStatus = some ps →
      OrderStarted tr ps.orderUri ps.startedAt → StatusStep tr st₀ st

theorem StatusStep.mono {tr tr' : List Exchange} {st₀ st : Status} (h : StatusStep tr st₀ st)
    (htr : tr <:+: tr') : StatusStep tr' st₀ st := by
  cases h with
  | clear h => exact .clear h
  | poll h₀ h hu ht => exact .poll h₀ h hu ht
  | forget h hu => exact .forget h hu
  | start h₀ hl h ho => exact .start h₀ hl h (ho.mono htr)

def WriteOf (r : Route) (tr : List Exchange) (ns : String) (x : Route) : Prop :=
  ns = r.meta.«namespace» ∧ x.meta.name = r.meta.name ∧
    x.meta.resourceVersion = r.meta.resourceVersion ∧
    (x.meta.annotations = r.meta.annotations ∨
      ∃ st₀ st, getStatus lib r = .ok st₀ ∧ setStatus lib r st = .ok x ∧ StatusStep tr st₀ st)

def RouteWrites (r : Route) (tr : List Exchange) : Call → Prop
  | .routeCreate _ x => IsExposerName lib x.meta.name
  | .routeUpdate ns x => IsExposerName lib x.meta.name ∨ WriteOf lib r tr ns x
  | _ => True

theorem RouteWrites.mono {r : Route} {tr tr' : List Exchange} {c : Call}
    (h : RouteWrites lib r tr c) (htr : tr <:+: tr') : RouteWrites lib r tr' c := by
  cases c with
  | routeUpdate ns x =>
    rcases h with h | ⟨hns, hname, hrv, hann | ⟨st₀, st, hst, hset, hs⟩⟩
    · exact .inl h
    · exact .inr ⟨hns, hname, hrv, .inl hann⟩
    · exact .inr ⟨hns, hname, hrv, .inr ⟨st₀, st, hst, hset, hs.mono htr⟩⟩
  | _ => exact h

theorem routeWrites_stable (r : Route) : Prog.Stable (RouteWrites lib r) :=
  fun pre tr _ h => h.mono lib (List.suffix_append pre tr).isInfix

def ExposerWrites : Call → Prop
  | .routeCreate _ x | .routeUpdate _ x => IsExposerName lib x.meta.name
  | .authorizeOrder _ => False
  | _ => True

theorem ExposerWrites.routeWrites {c : Call} (h : ExposerWrites lib c) (r : Route)
    (tr : List Exchange) : RouteWrites lib r tr c := by
  cases c with
  | routeUpdate ns x => exact .inl h
  | authorizeOrder _ => exact h.elim
  | _ => exact h

theorem ExposerWrites.not_newOrder {c : Call} (h : ExposerWrites lib c) : ¬NewOrderCall c := by
  cases c with
  | authorizeOrder _ => exact fun _ => h
  | _ => exact id

def PollCall (r : Route) (c : Call) : Prop :=
  (∀ tr, RouteWrites lib r tr c) ∧ ¬NewOrderCall c

section CreateOrAdopt

variable {α : Type} [Resource α] {P : Call → Prop}

omit [Resource α] in
theorem retryOnConflict_only {fn : Prog α} (h : Only P fn) (n : Nat) :
    Only P (retryOnConflict fn n) := by
  induction n with
  | zero => exact h
  | succ n ih =>
    refine h.tryCatch fun e => ?_
    split
    · exact ih
    · exact .throw e

theorem createOrAdopt_only {create : α → Prog (Except Err α)} {get : String → Prog (Except Err α)}
    {update : α → Prog (Except Err α)} {what key : String} {owner : ObjectMeta} {desired : α}
    (hc : Only P (create desired)) (hg : ∀ name, Only P (get name))
    (hu : ∀ rv, Only P (update (Resource.withMeta desired
      { Resource.meta desired with resourceVersion := rv }))) :
    Only P (createOrAdopt create get update what key owner desired) := by
  refine hc.bind fun reply => ?_
  cases reply with
  | ok x => exact .pure x
  | error e =>
    dsimp only
    split
    · refine retryOnConflict_only ((hg _).bind fun l => (Only.ofExcept l).bind fun existing => ?_) _
      dsimp only
      split
      · exact .throw _
      · exact (hu _).bind fun l => Only.ofExcept l
    · exact .throw e

end CreateOrAdopt

variable {r : Route}

theorem createExposerRoute_only {key tmpName token : String} (hname : IsExposerName lib tmpName) :
    Only (ExposerWrites lib) (createExposerRoute key r (desiredExposerRoute lib r tmpName token)) := by
  unfold createExposerRoute
  exact createOrAdopt_only (Only.send hname) (fun _ => Only.send trivial) (fun _ => Only.send hname)

theorem createExposerRS_only {key : String} {desired : ReplicaSet} :
    Only (ExposerWrites lib) (createExposerRS key r desired) := by
  unfold createExposerRS
  exact createOrAdopt_only (Only.send trivial) (fun _ => Only.send trivial) (fun _ => Only.send trivial)

theorem createExposerService_only {key : String} {desired : Service} :
    Only (ExposerWrites lib) (createExposerService key r desired) := by
  unfold createExposerService
  exact createOrAdopt_only (Only.send trivial) (fun _ => Only.send trivial) (fun _ => Only.send trivial)

theorem exposeChallenge_only {key : String} {o : Acme.Order} {authzUrl : String}
    {challenge : Acme.Challenge} :
    Only (ExposerWrites lib) (exposeChallenge lib key r o authzUrl challenge) :=
  (createExposerRoute_only lib ⟨_, rfl⟩).bind fun _ => (createExposerRS_only lib).bind fun _ =>
    (createExposerService_only lib).bind fun _ =>
      (Only.send trivial).bind fun l => (Only.ofExcept l).bind fun _ => .pure _

theorem satisfyAuthorizations_only {key domain : String} {o : Acme.Order} (authzUrls : List String) :
    Only (ExposerWrites lib) (satisfyAuthorizations lib key domain r o authzUrls) := by
  induction authzUrls with
  | nil => exact .pure _
  | cons authzUrl rest ih =>
    refine (Only.send trivial).bind fun l => (Only.ofExcept l).bind fun authz => ?_
    dsimp only
    split
    · split
      · exact .throw _
      · split
        · exact (exposeChallenge_only lib).bind fun _ => ih
        · split
          · exact ih
          · exact .throw _
    · split
      · exact ih
      · exact .throw _

theorem setStatus_routeWrites {st₀ st : Status} {r' : Route} {tr : List Exchange}
    (hst : getStatus lib r = .ok st₀) (hr' : setStatus lib r st = .ok r') (hs : StatusStep tr st₀ st) :
    RouteWrites lib r tr (.routeUpdate r'.meta.«namespace» r') := by
  obtain ⟨-, -, hname, hns, -, hrv, -⟩ := setStatus_meta_other lib hr'
  exact .inr ⟨hns, hname, hrv, .inr ⟨st₀, st, hst, hr', hs⟩⟩

theorem updateStatus_routeWrites {st₀ st : Status} (pre : List Exchange)
    (hst : getStatus lib r = .ok st₀) (hs : StatusStep pre st₀ st) :
    OnlyAfter (fun tr => RouteWrites lib r (pre ++ tr)) (updateStatus lib r st) :=
  (updateStatus_only lib r st).onlyAfter fun tr _ ⟨_, hr', _, hc⟩ =>
    hc ▸ setStatus_routeWrites lib hst hr' (hs.mono (List.prefix_append pre tr).isInfix)

theorem updateStatus_only_routeWrites {st₀ st : Status} (hst : getStatus lib r = .ok st₀)
    (hs : ∀ tr, StatusStep tr st₀ st) :
    Only (PollCall lib r) (updateStatus lib r st) :=
  (updateStatus_only lib r st).mono fun _ ⟨_, hr', _, hc⟩ =>
    hc ▸ ⟨fun tr => setStatus_routeWrites lib hst hr' (hs tr), id⟩

theorem finalizeOrder_routeWrites {o : Acme.Order} {st₀ status : Status}
    (hst : getStatus lib r = .ok st₀) :
    Only (PollCall lib r) (finalizeOrder lib r o status) := by
  simp only [finalizeOrder, Prog.bind_eq, Prog.send_bind]
  refine .call ⟨fun _ => trivial, id⟩ fun reply => ?_
  cases reply with
  | error e => exact .throw _
  | ok k =>
  simp only [Prog.pure_eq, Prog.pure_bind, Prog.send_bind]
  refine .call ⟨fun _ => trivial, id⟩ fun reply => ?_
  cases reply with
  | error e => exact .throw _
  | ok csr =>
  simp only [Prog.pure_eq, Prog.pure_bind, Prog.send_bind]
  refine .call ⟨fun _ => trivial, id⟩ fun reply => ?_
  cases reply with
  | error e => exact .throw _
  | ok der =>
  simp only [Prog.pure_eq, Prog.pure_bind, Prog.send_bind, Prog.ofExcept_ok]
  split
  · refine .call ⟨fun _ => .inr ⟨rfl, rfl, rfl, .inl rfl⟩, id⟩ fun reply => ?_
    cases reply with
    | error e => exact .throw _
    | ok _ => exact updateStatus_only_routeWrites lib hst fun _ => .clear rfl
  · exact .throw _

theorem dispatchOrder_routeWrites {key : String} {o : Acme.Order} {st₀ status : Status}
    (hst : getStatus lib r = .ok st₀) (hs : ∀ tr, StatusStep tr st₀ status) :
    Only (PollCall lib r) (dispatchOrder lib key r o status) := by
  have hu := updateStatus_only_routeWrites lib hst hs
  unfold dispatchOrder
  split
  · exact (satisfyAuthorizations_only lib _).mono (fun _ h => ⟨h.routeWrites lib r, h.not_newOrder lib⟩)
      |>.bind fun _ => hu
  split
  · exact finalizeOrder_routeWrites lib hst
  split
  · exact (Only.send ⟨fun _ => trivial, id⟩).bind fun _ => hu
  split
  · exact (Only.send ⟨fun _ => trivial, id⟩).bind fun _ => hu
  · exact .throw _

theorem pollOrder_routeWrites {T : Int} {key : String} {status : Status} {ps : ProvisioningStatus}
    (hst : getStatus lib r = .ok status) (hps : status.provisioningStatus = some ps) :
    Only (PollCall lib r) (pollOrder lib T key r status ps) := by
  simp only [pollOrder, Prog.bind_eq, Prog.send_bind]
  refine .call ⟨fun _ => trivial, id⟩ fun now => ?_
  split
  · exact updateStatus_only_routeWrites lib hst fun _ => .clear rfl
  refine .call ⟨fun _ => trivial, id⟩ fun reply => ?_
  split
  · exact updateStatus_only_routeWrites lib hst fun _ => .forget rfl rfl
  · exact .throw _
  · exact dispatchOrder_routeWrites lib hst fun _ => .poll hps rfl rfl rfl

theorem newOrder_routeWrites {status : Status} {domain : String} (hst : getStatus lib r = .ok status)
    (hnone : ∀ ps, status.provisioningStatus = some ps → ps.orderUri.length = 0) :
    OnlyAfter (RouteWrites lib r) (orderStep.newOrder lib r status domain) := by
  simp only [orderStep.newOrder, Prog.bind_eq, Prog.send_bind]
  refine .call trivial fun reply => ?_
  cases reply with
  | error e => exact Prog.onlyAfter_throw _
  | ok o =>
  simp only [Prog.ofExcept_ok, Prog.pure_bind, Prog.send_bind]
  refine .call trivial fun t => ?_
  split
  · exact Prog.onlyAfter_panic _
  · rename_i ps hps
    exact updateStatus_routeWrites lib [⟨.authorizeOrder domain, .ok o⟩, ⟨.now, t⟩] hst
      (.start hps (hnone ps hps) rfl ⟨domain, o, rfl, List.infix_refl _⟩)

theorem orderStep_routeWrites {T : Int} {key : String} {status : Status}
    (hst : getStatus lib r = .ok status) :
    OnlyAfter (RouteWrites lib r) (orderStep lib T key r status) := by
  simp only [orderStep]
  split
  · rename_i ps hps
    split
    · exact (pollOrder_routeWrites lib hst hps).onlyAfter fun tr _ h => h.1 tr
    · rename_i hlen
      exact newOrder_routeWrites lib hst fun ps' h => by
        rw [hps] at h
        cases h
        exact not_not.mp hlen
  · rename_i hnone
    exact newOrder_routeWrites lib hst fun ps h => by
      rw [hnone] at h
      cases h

theorem provision_routeWrites {T : Int} {key : String} {status : Status}
    (hst : getStatus lib r = .ok status) :
    OnlyAfter (RouteWrites lib r) (provision lib T key r status) := by
  unfold provision
  split
  · exact orderStep_routeWrites lib hst
  · rename_i hnone
    simp only [Prog.bind_eq, Prog.send_bind]
    refine .call_of_stable (routeWrites_stable lib r) trivial fun now => ?_
    refine .bind_of_stable (routeWrites_stable lib r) (Prog.onlyAfter_ofExcept _) fun reason => ?_
    split
    · exact (updateStatus_only_routeWrites lib hst fun _ => .clear hnone).onlyAfter fun tr _ h => h.1 tr
    · exact orderStep_routeWrites lib hst

theorem handleRoute_routeWrites {T : Int} {key : String} :
    OnlyAfter (RouteWrites lib r) (handleRoute lib T key r) := by
  unfold handleRoute
  split
  · exact Prog.onlyAfter_pure _
  split
  · exact Prog.onlyAfter_pure _
  simp only [Prog.bind_eq, Prog.send_bind]
  refine .call_of_stable (routeWrites_stable lib r) trivial fun reply => ?_
  split
  · exact Prog.onlyAfter_throw _
  · split
    · exact Prog.onlyAfter_throw _
    · exact provision_routeWrites lib ‹_›

def HandleWrites (key : String) (tr : List Exchange) (c : Call) : Prop :=
  ∀ ns x, (c = .routeCreate ns x ∨ c = .routeUpdate ns x) →
    ∃ r tr', tr = ⟨.routeCacheGet key, .ok (some r)⟩ :: tr' ∧ RouteWrites lib r tr' c

theorem handle_routeWrites {T : Int} {key : String} :
    OnlyAfter (HandleWrites lib key) (handle lib T key) := by
  unfold handle
  split
  · exact Prog.onlyAfter_throw _
  simp only [Prog.bind_eq, Prog.send_bind]
  refine .call (fun ns x h => by rcases h with h | h <;> cases h) fun reply => ?_
  cases reply with
  | error e => exact Prog.onlyAfter_throw _
  | ok l =>
    cases l with
    | none => exact Prog.onlyAfter_pure _
    | some r => exact (handleRoute_routeWrites lib).mono fun tr _ h _ _ _ => ⟨r, tr, rfl, h⟩

end RouteController

end OpenshiftAcme
