import OpenshiftAcme.Route.Lemmas.Writes

/-!
This module contains the orders a run of `handle` creates. A run calls `AuthorizeOrder` at most
once, in the new-order step; and a run that returns nil after creating an order has written the
order's URI into the route it read, or found it recorded there already.
-/

namespace OpenshiftAcme

namespace Exchange

def createdOrder : Exchange → Option Acme.Order
  | ⟨.authorizeOrder _, .ok o⟩ => some o
  | _ => none

end Exchange

namespace RouteController

open Prog (Steps Only OnlyAfter Returns)

variable (lib : Lib)

theorem newOrderCall_of_createdOrder {e : Exchange} {o : Acme.Order} (h : e.createdOrder = some o) :
    NewOrderCall e.call := by
  obtain ⟨c, r⟩ := e
  cases c with
  | authorizeOrder _ => trivial
  | _ => cases h

def NewOrderOnce (tr : List Exchange) (c : Call) : Prop :=
  NewOrderCall c → ∀ e ∈ tr, ¬NewOrderCall e.call

section NewOrderOnce

variable {α β : Type} {p : Prog α}

theorem Only.newOrderOnce (hp : Only (¬NewOrderCall ·) p) : OnlyAfter NewOrderOnce p :=
  hp.onlyAfter fun _ _ hc hnew => (hc hnew).elim

theorem newOrderOnce_call {c : Call} {k : c.Reply → Prog α} (hc : ¬NewOrderCall c)
    (hk : ∀ r, OnlyAfter NewOrderOnce (k r)) : OnlyAfter NewOrderOnce (.call c k) :=
  .call (fun _ _ he => (List.not_mem_nil _ he).elim) fun r => (hk r).mono fun _ _ h hnew e he => by
    rcases List.mem_cons.mp he with rfl | he
    · exact hc
    · exact h hnew e he

theorem newOrderOnce_bind {f : α → Prog β} (hp : Only (¬NewOrderCall ·) p)
    (hf : ∀ a, OnlyAfter NewOrderOnce (f a)) : OnlyAfter NewOrderOnce (p >>= f) :=
  (Only.newOrderOnce hp).bind fun _ a hs => (hf a).mono fun _ _ h hnew e he => by
    rcases List.mem_append.mp he with he | he
    · exact (hp.steps hs).1 e he
    · exact h hnew e he

theorem createdOrders_le_one {tr : List Exchange}
    (h : ∀ tr₁ e tr₂, tr = tr₁ ++ e :: tr₂ → NewOrderOnce tr₁ e.call) :
    (tr.filterMap Exchange.createdOrder).length ≤ 1 := by
  induction tr with
  | nil => simp
  | cons e tr ih =>
    cases ho : e.createdOrder with
    | none =>
      rw [List.filterMap_cons_none ho]
      exact ih fun tr₁ e' tr₂ htr hnew e'' he'' =>
        h (e :: tr₁) e' tr₂ (by rw [htr]; rfl) hnew e'' (List.mem_cons_of_mem _ he'')
    | some o =>
      have hnone : tr.filterMap Exchange.createdOrder = [] := by
        refine List.filterMap_eq_nil_iff.mpr fun e' he' => ?_
        cases ho' : e'.createdOrder with
        | none => rfl
        | some o' =>
          obtain ⟨l₁, l₂, rfl⟩ := List.append_of_mem he'
          exact absurd (newOrderCall_of_createdOrder ho)
            (h (e :: l₁) e' l₂ rfl (newOrderCall_of_createdOrder ho') e (List.mem_cons_self _ _))
      simp [List.filterMap_cons_some ho, hnone]

end NewOrderOnce

variable {r : Route}

theorem updateStatus_no_newOrder {st : Status} : Only (¬NewOrderCall ·) (updateStatus lib r st) :=
  (updateStatus_only lib r st).mono fun _ ⟨_, _, _, hc⟩ => hc ▸ id

theorem newOrder_newOrderOnce {status : Status} {domain : String} :
    OnlyAfter NewOrderOnce (orderStep.newOrder lib r status domain) := by
  simp only [orderStep.newOrder, Prog.bind_eq, Prog.send_bind]
  refine .call (fun _ _ he => (List.not_mem_nil _ he).elim) fun reply =>
    Only.onlyAfter (Q := (¬NewOrderCall ·)) ?_ fun _ _ hc hnew => (hc hnew).elim
  refine (Only.ofExcept reply).bind fun o => .call id fun t => ?_
  split
  · exact .panic _
  · exact updateStatus_no_newOrder lib

theorem orderStep_newOrderOnce {T : Int} {key : String} {status : Status}
    (hst : getStatus lib r = .ok status) : OnlyAfter NewOrderOnce (orderStep lib T key r status) := by
  simp only [orderStep]
  split
  · rename_i ps hps
    split
    · exact Only.newOrderOnce ((pollOrder_routeWrites lib hst hps).mono fun _ h => h.2)
    · exact newOrder_newOrderOnce lib
  · exact newOrder_newOrderOnce lib

theorem provision_newOrderOnce {T : Int} {key : String} {status : Status}
    (hst : getStatus lib r = .ok status) : OnlyAfter NewOrderOnce (provision lib T key r status) := by
  unfold provision
  split
  · exact orderStep_newOrderOnce lib hst
  · simp only [Prog.bind_eq, Prog.send_bind]
    refine newOrderOnce_call (c := .now) id fun now => newOrderOnce_bind (Only.ofExcept _) fun reason => ?_
    split
    · exact Only.newOrderOnce (updateStatus_no_newOrder lib)
    · exact orderStep_newOrderOnce lib hst

theorem handleRoute_newOrderOnce {T : Int} {key : String} :
    OnlyAfter NewOrderOnce (handleRoute lib T key r) := by
  unfold handleRoute
  split
  · exact Prog.onlyAfter_pure _
  split
  · exact Prog.onlyAfter_pure _
  simp only [Prog.bind_eq, Prog.send_bind]
  refine newOrderOnce_call (c := .getClient) id fun reply => ?_
  split
  · exact Prog.onlyAfter_throw _
  · split
    · exact Prog.onlyAfter_throw _
    · exact provision_newOrderOnce lib ‹_›

theorem handle_newOrderOnce {T : Int} {key : String} : OnlyAfter NewOrderOnce (handle lib T key) := by
  unfold handle
  split
  · exact Prog.onlyAfter_throw _
  simp only [Prog.bind_eq, Prog.send_bind]
  refine newOrderOnce_call (c := .routeCacheGet key) id fun reply =>
    newOrderOnce_bind (Only.ofExcept _) fun l => ?_
  cases l with
  | none => exact Prog.onlyAfter_pure _
  | some r => exact handleRoute_newOrderOnce lib

theorem handle_createdOrders_le_one {T : Int} {key : String} {tr : List Exchange} {q : Prog Unit}
    (h : Steps (handle lib T key) tr q) : (tr.filterMap Exchange.createdOrder).length ≤ 1 :=
  createdOrders_le_one fun _ _ _ htr => (handle_newOrderOnce lib).exchange (htr ▸ h)

def recordsOrder (y : Route) (uri : String) : Bool :=
  match getStatus lib y with
  | .ok st => st.provisioningStatus.any (·.orderUri == uri)
  | .error _ => false

theorem recordsOrder_of_annotations_eq {x y : Route} (h : y.meta.annotations = x.meta.annotations)
    (uri : String) : recordsOrder lib y uri = recordsOrder lib x uri := by
  simp only [recordsOrder, getStatus_of_annotations_eq lib h]

def OrdersPersisted (r : Route) (tr : List Exchange) : Prop :=
  ∀ e ∈ tr, ∀ o, e.createdOrder = some o → recordsOrder lib r o.uri = true ∨
    ∃ x y, (⟨.routeUpdate r.meta.«namespace» x, .ok y⟩ : Exchange) ∈ tr ∧
      x.meta.name = r.meta.name ∧ recordsOrder lib x o.uri = true

variable {tr tr₁ tr₂ : List Exchange}

theorem ordersPersisted_of_no_order (h : ∀ e ∈ tr, ¬NewOrderCall e.call) : OrdersPersisted lib r tr :=
  fun _ he _ ho => absurd (newOrderCall_of_createdOrder ho) (h _ he)

theorem OrdersPersisted.append (h₁ : OrdersPersisted lib r tr₁) (h₂ : OrdersPersisted lib r tr₂) :
    OrdersPersisted lib r (tr₁ ++ tr₂) := by
  intro e he o ho
  rcases List.mem_append.mp he with he | he
  · exact (h₁ e he o ho).imp_right fun ⟨x, y, hx, hn, hr⟩ => ⟨x, y, List.mem_append_left _ hx, hn, hr⟩
  · exact (h₂ e he o ho).imp_right fun ⟨x, y, hx, hn, hr⟩ => ⟨x, y, List.mem_append_right _ hx, hn, hr⟩

theorem OrdersPersisted.cons {c : Call} (h : OrdersPersisted lib r tr) (hc : ¬NewOrderCall c)
    (reply : c.Reply) : OrdersPersisted lib r (⟨c, reply⟩ :: tr) := by
  have h₁ : OrdersPersisted lib r [⟨c, reply⟩] :=
    ordersPersisted_of_no_order lib fun e he => by rw [List.mem_singleton.mp he]; exact hc
  exact h₁.append lib h

theorem newOrder_returns {status : Status} {domain : String} :
    Returns (OrdersPersisted lib r) (orderStep.newOrder lib r status domain) := by
  simp only [orderStep.newOrder, Prog.bind_eq, Prog.send_bind]
  refine Prog.Returns.call fun reply => ?_
  cases reply with
  | error e => exact Prog.returns_throw _
  | ok o =>
  simp only [Prog.ofExcept_ok, Prog.pure_bind, Prog.send_bind]
  refine Prog.Returns.call fun t => ?_
  split
  · exact Prog.returns_panic _
  intro tr _ h
  obtain ⟨r', hr', hcase⟩ := updateStatus_returns lib h
  have hrec : recordsOrder lib r' o.uri = true := by simp [recordsOrder, getStatus_setStatus lib hr']
  obtain ⟨-, -, hname, hns, -⟩ := setStatus_meta_other lib hr'
  intro e he o' ho'
  rcases List.mem_cons.mp he with rfl | he
  · cases ho'
    rcases hcase with ⟨rfl, -⟩ | ⟨y, rfl⟩
    · exact .inl hrec
    · exact .inr ⟨r', y, by rw [← hns]; simp, hname, hrec⟩
  rcases List.mem_cons.mp he with rfl | he
  · cases ho'
  rcases hcase with ⟨-, rfl⟩ | ⟨y, rfl⟩
  · cases he
  · rw [List.mem_singleton.mp he] at ho'
    cases ho'

theorem Only.ordersPersisted {α : Type} {p : Prog α} (hp : Only (¬NewOrderCall ·) p) :
    Returns (OrdersPersisted lib r) p :=
  hp.returns fun _ h => ordersPersisted_of_no_order lib h

theorem orderStep_returns {T : Int} {key : String} {status : Status}
    (hst : getStatus lib r = .ok status) : Returns (OrdersPersisted lib r) (orderStep lib T key r status) := by
  simp only [orderStep]
  split
  · rename_i ps hps
    split
    · exact Only.ordersPersisted lib ((pollOrder_routeWrites lib hst hps).mono fun _ h => h.2)
    · exact newOrder_returns lib
  · exact newOrder_returns lib

theorem provision_returns {T : Int} {key : String} {status : Status}
    (hst : getStatus lib r = .ok status) : Returns (OrdersPersisted lib r) (provision lib T key r status) := by
  unfold provision
  split
  · exact orderStep_returns lib hst
  · simp only [Prog.bind_eq, Prog.send_bind]
    refine Prog.Returns.call_of_cons (fun _ _ h => h.cons lib id _) fun now => ?_
    refine (Prog.returns_ofExcept _ (ordersPersisted_of_no_order lib fun _ h => (List.not_mem_nil _ h).elim)).bind
      (fun reason => ?_) fun _ _ h₁ h₂ => h₁.append lib h₂
    split
    · exact Only.ordersPersisted lib (updateStatus_no_newOrder lib)
    · exact orderStep_returns lib hst

theorem handleRoute_returns {T : Int} {key : String} :
    Returns (OrdersPersisted lib r) (handleRoute lib T key r) := by
  have hnil : OrdersPersisted lib r [] := ordersPersisted_of_no_order lib fun _ h => (List.not_mem_nil _ h).elim
  unfold handleRoute
  split
  · exact Prog.returns_pure _ hnil
  split
  · exact Prog.returns_pure _ hnil
  simp only [Prog.bind_eq, Prog.send_bind]
  refine Prog.Returns.call_of_cons (fun _ _ h => h.cons lib id _) fun reply => ?_
  split
  · exact Prog.returns_throw _
  · split
    · exact Prog.returns_throw _
    · exact provision_returns lib ‹_›

theorem handle_returns {T : Int} {key : String} {a : Unit} (h : Steps (handle lib T key) tr (.pure a)) :
    ∀ e ∈ tr, ∀ o, e.createdOrder = some o → ∃ r tr', tr = ⟨.routeCacheGet key, .ok (some r)⟩ :: tr' ∧
      (recordsOrder lib r o.uri = true ∨ ∃ x y, (⟨.routeUpdate r.meta.«namespace» x, .ok y⟩ : Exchange) ∈ tr' ∧
        x.meta.name = r.meta.name ∧ recordsOrder lib x o.uri = true) := by
  unfold handle at h
  split at h
  · simp at h
  simp only [Prog.bind_eq, Prog.send_bind] at h
  rcases Prog.steps_call_iff.mp h with ⟨-, h⟩ | ⟨reply, tr', rfl, h'⟩
  · cases h
  cases reply with
  | error err => simp at h'
  | ok l =>
  intro e he o ho
  rcases List.mem_cons.mp he with rfl | he'
  · cases ho
  cases l with
  | none =>
    obtain ⟨rfl, -⟩ := Prog.steps_pure_iff.mp h'
    cases he'
  | some r => exact ⟨r, tr', rfl, handleRoute_returns lib tr' a h' e he' o ho⟩

end RouteController

end OpenshiftAcme
