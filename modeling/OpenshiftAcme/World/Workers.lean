import OpenshiftAcme.World.WorkQueue
import OpenshiftAcme.World.System

/-!
This module contains the work queue as the workers of a controller process use it. A worker takes
an item with `Get` and gives it back with the deferred `Done`; `heldItems` follows, along the
exchanges of an invocation, the items it holds. In every run whose handlers mark done only items
they hold, the queue's `processing` is, up to order, the items the invocations hold, so no item is
held by two invocations at once: "two Routes with the same key are never processed in parallel".
In every run whose handlers requeue a failed item only right after reading fewer than `bound`
requeues of it, the rate limiter's count of failures of every item stays at most `bound`. In every
run whose handlers hold nothing once they have stopped, as the deferred `Done` ensures, no add is
lost: an item that needs processing is ready, or held by an invocation that has not stopped.
-/

namespace OpenshiftAcme

def holdStep (q : Controller) (held : List QueueItem) : Exchange → List QueueItem
  | ⟨.queueGet q', some item⟩ => if q' = q then item :: held else held
  | ⟨.queueDone q' item, _⟩ => if q' = q then held.erase item else held
  | _ => held

def heldItems (q : Controller) (tr : List Exchange) : List QueueItem :=
  tr.foldl (holdStep q) []

def HoldCall (q : Controller) : Call → Prop
  | .queueGet q' | .queueDone q' _ => q' = q
  | _ => False

def WorkerCall (q : Controller) : Call → Prop
  | .queueGet q' | .queueDone q' _ | .queueAddRateLimited q' _ => q' = q
  | _ => False

def DoneHeld (q : Controller) (tr : List Exchange) : Call → Prop
  | .queueDone q' item => q' = q → item ∈ heldItems q tr
  | _ => True

def RetryBounded (q : Controller) (bound : Nat) (tr : List Exchange) : Call → Prop
  | .queueAddRateLimited q' item => q' = q → item ∈ heldItems q tr ∧
      ∃ n, n < bound ∧ tr.getLast? = some ⟨.queueNumRequeues q item, n⟩
  | _ => True

def IsQueueCall : Call → Prop
  | .queueGet _ | .queueDone _ _ | .queueAdd _ _ | .queueAddAfter _ _ _ | .queueAddRateLimited _ _
  | .queueForget _ _ | .queueNumRequeues _ _ => True
  | _ => False

section Hold

variable {q : Controller} {held : List QueueItem} {tr : List Exchange} {e : Exchange}
  {c : Call} {item : QueueItem}

theorem not_holdCall_of_not_workerCall (h : ¬WorkerCall q c) : ¬HoldCall q c := by
  cases c <;> first | exact id | exact h

theorem doneHeld_of_not_holdCall (h : ¬HoldCall q c) : DoneHeld q tr c := by
  cases c <;> first | trivial | exact fun hq => absurd hq h

theorem retryBounded_of_not_workerCall {bound : Nat} (h : ¬WorkerCall q c) :
    RetryBounded q bound tr c := by
  cases c <;> first | trivial | exact fun hq => absurd hq h

@[simp] theorem holdStep_get (q' : Controller) :
    holdStep q held ⟨.queueGet q', some item⟩ = if q' = q then item :: held else held := rfl

@[simp] theorem holdStep_done (q' : Controller) (u : Unit) :
    holdStep q held ⟨.queueDone q' item, u⟩ = if q' = q then held.erase item else held := rfl

theorem holdStep_of_not_holdCall (h : ¬HoldCall q e.call) : holdStep q held e = held := by
  obtain ⟨c, r⟩ := e
  cases c
  case queueGet q' =>
    cases r with
    | none => rfl
    | some item => exact if_neg h
  case queueDone q' item => exact if_neg h
  all_goals rfl

theorem holdStep_cases (q : Controller) (e : Exchange) :
    (∃ item, ∀ held, holdStep q held e = item :: held) ∨
    (∃ item, e.call = .queueDone q item ∧ ∀ held, holdStep q held e = held.erase item) ∨
    (∀ held, holdStep q held e = held) := by
  obtain ⟨c, r⟩ := e
  cases c
  case queueGet q' =>
    by_cases hq : q' = q
    · subst hq
      cases r with
      | none => exact .inr (.inr fun _ => rfl)
      | some item => exact .inl ⟨item, fun _ => if_pos rfl⟩
    · exact .inr (.inr fun _ => holdStep_of_not_holdCall hq)
  case queueDone q' item =>
    by_cases hq : q' = q
    · subst hq
      exact .inr (.inl ⟨item, rfl, fun _ => if_pos rfl⟩)
    · exact .inr (.inr fun _ => if_neg hq)
  all_goals exact .inr (.inr fun _ => rfl)

theorem heldItems_append_singleton : heldItems q (tr ++ [e]) = holdStep q (heldItems q tr) e :=
  List.foldl_append _ _ _ _

theorem foldl_holdStep_of_forall (h : ∀ e ∈ tr, ¬HoldCall q e.call) :
    tr.foldl (holdStep q) held = held := by
  induction tr generalizing held with
  | nil => rfl
  | cons e tr ih =>
    rw [List.foldl_cons, holdStep_of_not_holdCall (h e (.head _))]
    exact ih fun e he => h e (.tail _ he)

theorem heldItems_get_cons (h : ∀ e ∈ tr, ¬HoldCall q e.call) :
    heldItems q (⟨.queueGet q, some item⟩ :: tr) = [item] := by
  rw [heldItems, List.foldl_cons, holdStep_get, if_pos rfl]
  exact foldl_holdStep_of_forall h

theorem Prog.Only.doneHeld {α : Type} {p : Prog α} {P : Call → Prop} (hP : ∀ c, P c → ¬HoldCall q c)
    (hp : Prog.Only P p) : Prog.OnlyAfter (DoneHeld q) p :=
  hp.onlyAfter fun _ c hc => doneHeld_of_not_holdCall (hP c hc)

theorem Prog.Only.retryBounded {α : Type} {p : Prog α} {P : Call → Prop} {bound : Nat}
    (hP : ∀ c, P c → ¬WorkerCall q c) (hp : Prog.Only P p) : Prog.OnlyAfter (RetryBounded q bound) p :=
  hp.onlyAfter fun _ c hc => retryBounded_of_not_workerCall (hP c hc)

theorem onlyAfter_withDefer_done {α : Type} {p : Prog α} (hp : Prog.Only (¬HoldCall q ·) p) :
    Prog.OnlyAfter (fun tr => DoneHeld q (⟨.queueGet q, some item⟩ :: tr))
      (Prog.withDefer (Prog.send (.queueDone q item)) p) :=
  (hp.onlyAfter fun _ _ hc => doneHeld_of_not_holdCall hc).withDefer fun _ _ hs =>
    Prog.onlyAfter_send fun _ => by
      rw [List.append_nil, heldItems_get_cons (hp.steps hs).1]
      exact List.mem_singleton_self _

def Releases {α : Type} (q : Controller) (p : Prog α) : Prop :=
  ∀ tr r, Prog.Steps p tr r → r.Stopped → heldItems q tr = []

theorem Prog.Only.releases {α : Type} {p : Prog α} {P : Call → Prop} (hP : ∀ c, P c → ¬HoldCall q c)
    (hp : Prog.Only P p) : Releases q p :=
  fun _ _ hs _ => foldl_holdStep_of_forall fun e he => hP _ ((hp.steps hs).1 e he)

theorem Releases.bind_pure {α β : Type} {p : Prog α} (hp : Releases q p) (b : β) :
    Releases q (p >>= fun _ => .pure b) := by
  intro tr r hs hr
  rcases hs.bind_inv with ⟨p₁, h₁, rfl⟩ | ⟨tr₁, tr₂, _, rfl, h₁, h₂⟩
  · exact hp _ _ h₁ hr.of_bind
  · rw [(Prog.steps_pure_iff.mp h₂).1, List.append_nil]
    exact hp _ _ h₁ trivial

theorem releases_withDefer_done {α : Type} {p : Prog α} (hp : Prog.Only (¬HoldCall q ·) p)
    {r : Prog α} (hs : Prog.Steps (Prog.withDefer (Prog.send (.queueDone q item)) p) tr r)
    (hr : r.Stopped) : heldItems q (⟨.queueGet q, some item⟩ :: tr) = [] := by
  obtain ⟨tr₁, tr₂, p₁, d₁, rfl, h₁, -, h₂, hd₁⟩ := hs.withDefer_stopped hr
  rcases Prog.steps_call_iff.mp h₂ with ⟨-, rfl⟩ | ⟨u, tr', rfl, h'⟩
  · exact hd₁.elim
  · obtain ⟨rfl, -⟩ := Prog.steps_pure_iff.mp h'
    rw [← List.cons_append, heldItems_append_singleton, heldItems_get_cons (hp.steps h₁).1,
      holdStep_done, if_pos rfl, List.erase_cons_head]

end Hold

namespace World

variable {q : Controller} {c : Call} {w w' : World} {r : c.Reply}

theorem not_isQueueCall_of_isStoreWrite (hc : IsStoreWrite c) : ¬IsQueueCall c := by
  cases c <;> first | exact id | exact absurd hc id

theorem Answer.queue_eq (hc : ¬IsQueueCall c) (h : w.Answer c r w') : w'.queue q = w.queue q := by
  cases c
  case routeCreate | replicaSetCreate | serviceCreate | secretCreate =>
    obtain ⟨_, -, h⟩ := h
    exact writeAnswer_queue (fun _ _ hb => create_queue hb q) h
  case routeUpdate | replicaSetUpdate | serviceUpdate | secretUpdate | configMapUpdate =>
    exact writeAnswer_queue (fun _ _ hb => update_queue hb q) h
  case secretDelete => exact writeAnswer_queue (fun _ _ hb => delete_queue hb q) h
  case routeCacheGet | configMapCacheGet | secretListerGet | routeListerGet | configMapListerList
    | routeGet | replicaSetGet | serviceGet => rw [h.1]
  case queueGet | queueDone | queueAdd | queueAddAfter | queueAddRateLimited | queueForget
    | queueNumRequeues => exact absurd trivial hc
  all_goals rw [h]

theorem wf_setQueue {q' : Controller} (f : WorkQueue → WorkQueue)
    (hf : ∀ wq : WorkQueue, wq.Wf → (f wq).Wf ∧ (f wq).processing = wq.processing)
    (hwf : (w.queue q).Wf) :
    ((w.setQueue q' (f (w.queue q'))).queue q).Wf ∧
      ((w.setQueue q' (f (w.queue q'))).queue q).processing = (w.queue q).processing := by
  by_cases h : q' = q
  · subst h
    simpa using hf _ hwf
  · simpa [h] using hwf

theorem numRequeues_setQueue {q' : Controller} (f : WorkQueue → WorkQueue)
    (hf : ∀ wq : WorkQueue, (f wq).failures = wq.failures) :
    ((w.setQueue q' (f (w.queue q'))).queue q).numRequeues = (w.queue q).numRequeues := by
  by_cases h : q' = q
  · subst h
    simpa using WorkQueue.numRequeues_congr (hf _)
  · simp [h]

theorem Answer.processing (hwf : (w.queue q).Wf)
    (hdone : ∀ x, c = .queueDone q x → x ∈ (w.queue q).processing) (h : w.Answer c r w') :
    (w'.queue q).Wf ∧ (w'.queue q).processing = holdStep q (w.queue q).processing ⟨c, r⟩ := by
  cases c
  case queueGet q' =>
    change QueueGetAnswer w q' r w' at h
    unfold QueueGetAnswer at h
    split at h
    · rename_i item wq hg
      obtain ⟨rfl, rfl⟩ := h
      by_cases hq : q' = q
      · subst hq
        obtain ⟨rest, -, rfl⟩ := WorkQueue.get_eq_some hg
        exact ⟨by simpa using hwf.get hg, by simp⟩
      · simpa [hq] using hwf
    · obtain ⟨-, rfl, rfl⟩ := h
      exact ⟨hwf, rfl⟩
  case queueDone q' x =>
    subst h
    by_cases hq : q' = q
    · subst hq
      simpa using hwf.done (hdone x rfl)
    · simpa [hq] using hwf
  case queueAdd q' x =>
    subst h
    exact wf_setQueue (·.add x) (fun _ h => ⟨h.add, WorkQueue.add_processing⟩) hwf
  case queueAddAfter q' x d =>
    subst h
    exact wf_setQueue (·.addAfter x d) (fun _ h => ⟨h.addAfter d, WorkQueue.addAfter_processing d⟩) hwf
  case queueAddRateLimited q' x =>
    subst h
    exact wf_setQueue (·.addRateLimited x)
      (fun _ h => ⟨h.addRateLimited, WorkQueue.addRateLimited_processing⟩) hwf
  case queueForget q' x =>
    subst h
    exact wf_setQueue (·.forget x) (fun _ h => ⟨h.forget, WorkQueue.forget_processing⟩) hwf
  case queueNumRequeues =>
    obtain ⟨-, rfl⟩ := h
    exact ⟨hwf, rfl⟩
  all_goals
    rw [Answer.queue_eq id h]
    exact ⟨hwf, rfl⟩

theorem Answer.numRequeues (h : w.Answer c r w') (y : QueueItem) :
    (w'.queue q).numRequeues y ≤ (w.queue q).numRequeues y ∨
      (c = .queueAddRateLimited q y ∧ (w'.queue q).numRequeues y = (w.queue q).numRequeues y + 1) := by
  cases c
  case queueGet q' =>
    change QueueGetAnswer w q' r w' at h
    unfold QueueGetAnswer at h
    split at h
    · rename_i item wq hg
      obtain ⟨rfl, rfl⟩ := h
      refine .inl (le_of_eq ?_)
      by_cases hq : q' = q
      · subst hq
        simp [WorkQueue.numRequeues_congr (WorkQueue.get_failures hg)]
      · simp [hq]
    · obtain ⟨-, -, rfl⟩ := h
      exact .inl le_rfl
  case queueDone q' x =>
    subst h
    exact .inl (le_of_eq (congrFun (numRequeues_setQueue (·.done x) (fun _ => WorkQueue.done_failures)) y))
  case queueAdd q' x =>
    subst h
    exact .inl (le_of_eq (congrFun (numRequeues_setQueue (·.add x) (fun _ => WorkQueue.add_failures)) y))
  case queueAddAfter q' x d =>
    subst h
    exact .inl (le_of_eq (congrFun
      (numRequeues_setQueue (·.addAfter x d) (fun _ => WorkQueue.addAfter_failures d)) y))
  case queueAddRateLimited q' x =>
    subst h
    by_cases hq : q' = q
    · subst hq
      simp only [queue_setQueue_self, WorkQueue.numRequeues_addRateLimited]
      by_cases hy : y = x
      · exact .inr ⟨hy ▸ rfl, by rw [if_pos hy, hy]⟩
      · exact .inl (by rw [if_neg hy])
    · simp [hq]
  case queueForget q' x =>
    subst h
    by_cases hq : q' = q
    · subst hq
      simp only [queue_setQueue_self, WorkQueue.numRequeues_forget]
      exact .inl (by split <;> omega)
    · simp [hq]
  case queueNumRequeues =>
    obtain ⟨-, rfl⟩ := h
    exact .inl le_rfl
  all_goals exact .inl (by rw [Answer.queue_eq id h])

theorem Foreign.queue_cases (h : Foreign w w') :
    w'.queue q = w.queue q ∨ ∃ i, w'.queue q = (w.queue q).fire i := by
  cases h with
  | write hc ha => exact .inl (ha.queue_eq (not_isQueueCall_of_isStoreWrite hc))
  | deleteRoute _ _ hd | deleteReplicaSet _ _ hd | deleteService _ _ hd | deleteConfigMap _ _ hd =>
    exact .inl (delete_queue hd q)
  | routerStatus ns name status hs => exact .inl (setRouteStatus_queue hs q)
  | fire q' i =>
    by_cases hq : q' = q
    · subst hq
      exact .inr ⟨i, by simp⟩
    · exact .inl (by simp [hq])

end World

namespace Sys

def held (q : Controller) (s : Sys) : List QueueItem :=
  s.invocations.flatMap fun inv => heldItems q inv.trace

structure Holding (q : Controller) (s : Sys) : Prop where
  wf : (s.world.queue q).Wf
  processing : (s.world.queue q).processing.Perm (s.held q)

structure Retries (q : Controller) (bound : Nat) (s : Sys) : Prop where
  bounded : ∀ x, (s.world.queue q).numRequeues x ≤ bound
  read : ∀ inv ∈ s.invocations, ∀ x n, inv.trace.getLast? = some ⟨.queueNumRequeues q x, n⟩ →
    x ∈ heldItems q inv.trace → (s.world.queue q).numRequeues x ≤ n

theorem flatMap_set_perm {l : List Invocation} {i : Nat} {a b : Invocation}
    (f : Invocation → List QueueItem) (hi : l[i]? = some a) :
    ((l.set i b).flatMap f ++ f a).Perm (l.flatMap f ++ f b) := by
  induction l generalizing i with
  | nil => cases hi
  | cons x t ih =>
    cases i with
    | zero =>
      simp only [List.getElem?_cons_zero, Option.some.injEq] at hi
      subst hi
      refine List.perm_iff_count.mpr fun y => ?_
      simp only [List.set_cons_zero, List.flatMap_cons, List.count_append]
      omega
    | succ n =>
      rw [List.getElem?_cons_succ] at hi
      simp only [List.set_cons_succ, List.flatMap_cons, List.append_assoc]
      exact (ih hi).append_left _

theorem holdStep_perm {P F F' h : List QueueItem} {e : Exchange} (hP : P.Perm F)
    (hF : (F' ++ h).Perm (F ++ holdStep q h e)) (hdone : ∀ x, e.call = .queueDone q x → x ∈ h) :
    (holdStep q P e).Perm F' := by
  rcases holdStep_cases q e with ⟨item, hs⟩ | ⟨x, hx, hs⟩ | hs
  · rw [hs] at hF ⊢
    have : F'.Perm (item :: F) :=
      (List.perm_append_right_iff h).mp (hF.trans List.perm_middle)
    exact (hP.cons item).trans this.symm
  · rw [hs] at hF ⊢
    have hcons : (x :: F').Perm F := by
      refine (List.perm_append_right_iff (h.erase x)).mp ?_
      exact (List.perm_middle.symm.trans ((List.perm_cons_erase (hdone x hx)).symm.append_left F')).trans hF
    exact (hP.erase x).trans ((hcons.erase x).symm.trans (by rw [List.erase_cons_head]))
  · rw [hs] at hF ⊢
    exact hP.trans ((List.perm_append_right_iff h).mp hF).symm

variable {q : Controller} {Start : Prog Unit → Prop} {Env : World → World → Prop}
  {Init : Sys → Prop} {s s' : Sys}

def EnvFires (Env : World → World → Prop) (q : Controller) : Prop :=
  ∀ w w', Env w w' → w'.queue q = w.queue q ∨ ∃ i, w'.queue q = (w.queue q).fire i

theorem envFires_foreign : EnvFires World.Foreign q := fun _ _ h => h.queue_cases

theorem holding_step (hstart : ∀ p, Start p → Prog.OnlyAfter (DoneHeld q) p)
    (henv : EnvFires Env q) (hrun : InvocationsRun Start s) (hi : Holding q s)
    (hs : Step Start Env s s') : Holding q s' := by
  cases hs with
  | spawn p _ =>
    refine ⟨hi.wf, ?_⟩
    simpa [held, heldItems] using hi.processing
  | @exchange i inv₀ c k r w' hget hc hk ha =>
    obtain ⟨hst, hsteps⟩ := hrun inv₀ (List.getElem?_mem hget)
    have hdh : DoneHeld q inv₀.trace c := hstart _ hst _ _ _ (hk ▸ hsteps)
    have hmem : ∀ x, x ∈ heldItems q inv₀.trace → x ∈ (s.world.queue q).processing := fun x hx =>
      hi.processing.symm.subset (List.mem_flatMap.mpr ⟨inv₀, List.getElem?_mem hget, hx⟩)
    have hdone : ∀ x, c = .queueDone q x → x ∈ heldItems q inv₀.trace := by
      rintro x rfl
      exact hdh rfl
    obtain ⟨hwf, hp⟩ := World.Answer.processing hi.wf (fun x hx => hmem x (hdone x hx)) ha
    refine ⟨hwf, hp ▸ holdStep_perm hi.processing ?_ hdone⟩
    have := flatMap_set_perm (b := { inv₀ with trace := inv₀.trace ++ [⟨c, r⟩], cont := k r })
      (fun inv => heldItems q inv.trace) hget
    simpa only [heldItems_append_singleton] using this
  | crash i inv₀ hget =>
    refine ⟨hi.wf, hi.processing.trans ?_⟩
    exact ((List.perm_append_right_iff _).mp
      (flatMap_set_perm (a := inv₀) (b := { inv₀ with crashed := true }) (fun inv => heldItems q inv.trace) hget)).symm
  | env w' he =>
    rcases henv _ _ he with hq | ⟨j, hq⟩
    · exact ⟨hq ▸ hi.wf, hq ▸ hi.processing⟩
    · exact ⟨hq ▸ hi.wf.fire j, hq ▸ (WorkQueue.fire_processing j).symm ▸ hi.processing⟩

theorem Reachable.holding (hstart : ∀ p, Start p → Prog.OnlyAfter (DoneHeld q) p)
    (henv : EnvFires Env q)
    (hinit : ∀ s, Init s → (s.world.queue q).Wf ∧ (s.world.queue q).processing = [] ∧
      s.invocations = [])
    (h : Reachable Start Env Init s) : Holding q s := by
  have := h.induction (I := fun s => InvocationsRun Start s ∧ Holding q s)
    (fun s hs => by
      obtain ⟨hwf, hp, hinv⟩ := hinit s hs
      exact ⟨by simp [InvocationsRun, hinv], hwf, by simp [held, hp, hinv]⟩)
    (fun _ _ hi hs => ⟨invocationsRun_step hi.1 hs, holding_step hstart henv hi.1 hi.2 hs⟩)
  exact this.2

theorem Holding.holder_unique (h : Holding q s) {i j : Nat} {inv inv' : Invocation} {x : QueueItem}
    (hi : s.invocations[i]? = some inv) (hj : s.invocations[j]? = some inv')
    (hx : x ∈ heldItems q inv.trace) (hx' : x ∈ heldItems q inv'.trace) : i = j := by
  have hp := (List.nodup_flatMap.mp (h.processing.nodup_iff.mp h.wf.processing_nodup)).2
  obtain ⟨hil, rfl⟩ := List.getElem?_eq_some_iff.mp hi
  obtain ⟨hjl, rfl⟩ := List.getElem?_eq_some_iff.mp hj
  by_contra hne
  rcases Nat.lt_or_gt_of_ne hne with hlt | hlt
  · exact List.pairwise_iff_getElem.mp hp i j hil hjl hlt hx hx'
  · exact List.pairwise_iff_getElem.mp hp j i hjl hil hlt hx' hx

theorem Holding.dirty_ready (h : Holding q s) (hrun : InvocationsRun Start s)
    (hrel : ∀ p, Start p → Releases q p) {x : QueueItem} (hx : x ∈ (s.world.queue q).dirty) :
    x ∈ (s.world.queue q).queue ∨
      ∃ inv ∈ s.invocations, x ∈ heldItems q inv.trace ∧ ¬inv.cont.Stopped := by
  refine (h.wf.dirty_queue x hx).imp_right fun hp => ?_
  obtain ⟨inv, hinv, hx⟩ := List.mem_flatMap.mp (h.processing.subset hp)
  obtain ⟨hst, hsteps⟩ := hrun inv hinv
  refine ⟨inv, hinv, hx, fun hs => ?_⟩
  rw [hrel _ hst _ _ hsteps hs] at hx
  exact List.not_mem_nil x hx

theorem retries_step {bound : Nat} (hstart : ∀ p, Start p → Prog.OnlyAfter (RetryBounded q bound) p)
    (henv : EnvFires Env q) (hrun : InvocationsRun Start s) (hh : Holding q s)
    (hi : Retries q bound s) (hs : Step Start Env s s') : Retries q bound s' := by
  cases hs with
  | spawn p _ =>
    refine ⟨hi.bounded, fun inv hinv x n hl hx => ?_⟩
    rcases List.mem_append.mp hinv with hinv | hinv
    · exact hi.read inv hinv x n hl hx
    · rw [List.mem_singleton.mp hinv] at hl
      cases hl
  | @exchange i inv₀ c k r w' hget hc hk ha =>
    obtain ⟨hst, hsteps⟩ := hrun inv₀ (List.getElem?_mem hget)
    have hrb : RetryBounded q bound inv₀.trace c := hstart _ hst _ _ _ (hk ▸ hsteps)
    have hup : ∀ y, c = .queueAddRateLimited q y →
        y ∈ heldItems q inv₀.trace ∧ (s.world.queue q).numRequeues y < bound := by
      rintro y rfl
      obtain ⟨hy, n, hn, hl⟩ := hrb rfl
      exact ⟨hy, lt_of_le_of_lt (hi.read inv₀ (List.getElem?_mem hget) y n hl hy) hn⟩
    refine ⟨fun y => ?_, fun inv hinv x n hl hx => ?_⟩
    · rcases World.Answer.numRequeues ha y with hle | ⟨hc', heq⟩
      · exact hle.trans (hi.bounded y)
      · exact heq ▸ (hup y hc').2
    obtain ⟨j, hj⟩ := List.mem_iff_getElem?.mp hinv
    by_cases hij : i = j
    · subst hij
      rw [List.getElem?_set_self (List.getElem?_eq_some_iff.mp hget).1, Option.some.injEq] at hj
      subst hj
      rw [List.getLast?_concat, Option.some.injEq, Exchange.mk.injEq] at hl
      obtain ⟨rfl, hr⟩ := hl
      cases hr
      obtain ⟨rfl, rfl⟩ := ha
      exact le_rfl
    · rw [List.getElem?_set_ne hij] at hj
      rcases World.Answer.numRequeues ha x with hle | ⟨hc', -⟩
      · exact hle.trans (hi.read inv (List.getElem?_mem hj) x n hl hx)
      · exact absurd (hh.holder_unique hget hj (hup x hc').1 hx) hij
  | crash i inv₀ hget =>
    refine ⟨hi.bounded, fun inv hinv x n hl hx => ?_⟩
    rcases List.mem_or_eq_of_mem_set hinv with hinv | rfl
    · exact hi.read inv hinv x n hl hx
    · exact hi.read inv₀ (List.getElem?_mem hget) x n hl hx
  | env w' he =>
    have hq : (w'.queue q).numRequeues = (s.world.queue q).numRequeues := by
      rcases henv _ _ he with hq | ⟨j, hq⟩
      · rw [hq]
      · rw [hq, WorkQueue.numRequeues_congr (WorkQueue.fire_failures j)]
    exact ⟨hq ▸ hi.bounded, hq ▸ hi.read⟩

theorem Reachable.retries {bound : Nat}
    (hstart : ∀ p, Start p → Prog.OnlyAfter (DoneHeld q) p ∧ Prog.OnlyAfter (RetryBounded q bound) p)
    (henv : EnvFires Env q)
    (hinit : ∀ s, Init s → (s.world.queue q).Wf ∧ (s.world.queue q).processing = [] ∧
      (∀ x, (s.world.queue q).numRequeues x ≤ bound) ∧ s.invocations = [])
    (h : Reachable Start Env Init s) : Holding q s ∧ Retries q bound s := by
  have := h.induction (I := fun s => InvocationsRun Start s ∧ Holding q s ∧ Retries q bound s)
    (fun s hs => by
      obtain ⟨hwf, hp, hb, hinv⟩ := hinit s hs
      exact ⟨by simp [InvocationsRun, hinv], ⟨hwf, by simp [held, hp, hinv]⟩, hb,
        by simp [hinv]⟩)
    (fun _ _ hi hs => ⟨invocationsRun_step hi.1 hs,
      holding_step (fun p hp => (hstart p hp).1) henv hi.1 hi.2.1 hs,
      retries_step (fun p hp => (hstart p hp).2) henv hi.1 hi.2.1 hi.2.2 hs⟩)
  exact this.2

end Sys

end OpenshiftAcme
