import OpenshiftAcme.World.System

/-!
This module contains the invariant that a work queue holds only key strings: what each queue
operation and each answer of the world does to it, and the run lemma. A controller process whose
handlers put only keys into its queue, as long as they take only keys out of it, has a queue that
holds only keys in every reachable state, so the assertion `key.(string)` of its worker never fails.
-/

namespace OpenshiftAcme

namespace WorkQueue

structure HoldsKeys (q : WorkQueue) : Prop where
  queue : ∀ i ∈ q.queue, i.isKey
  dirty : ∀ i ∈ q.dirty, i.isKey
  waiting : ∀ i ∈ q.waiting, i.isKey

theorem holdsKeys_empty : empty.HoldsKeys :=
  ⟨(fun _ h => nomatch h), (fun _ h => nomatch h), (fun _ h => nomatch h)⟩

variable {q : WorkQueue} {item : QueueItem}

theorem HoldsKeys.add (h : q.HoldsKeys) (hi : item.isKey) : (q.add item).HoldsKeys := by
  have hd : ∀ i ∈ item :: q.dirty, i.isKey := List.forall_mem_cons.mpr ⟨hi, h.dirty⟩
  unfold WorkQueue.add
  split
  · exact h
  · split
    · exact ⟨h.queue, hd, h.waiting⟩
    · exact ⟨List.forall_mem_append.mpr ⟨h.queue, List.forall_mem_singleton.mpr hi⟩, hd, h.waiting⟩

theorem HoldsKeys.get {q' : WorkQueue} (h : q.HoldsKeys) (hg : q.get = some (item, q')) :
    q'.HoldsKeys ∧ item.isKey := by
  unfold WorkQueue.get at hg
  split at hg
  · rename_i x rest hq
    simp only [Option.some.injEq, Prod.mk.injEq] at hg
    obtain ⟨hx, rfl⟩ := hg
    have hk : ∀ i ∈ x :: rest, i.isKey := hq ▸ h.queue
    exact ⟨⟨fun i hi => hk i (.tail _ hi), fun i hi => h.dirty i (List.mem_of_mem_erase hi),
      h.waiting⟩, hx ▸ hk x (.head _)⟩
  · cases hg

theorem HoldsKeys.done (h : q.HoldsKeys) : (q.done item).HoldsKeys := by
  unfold WorkQueue.done
  dsimp only
  split
  · rename_i hi
    exact ⟨List.forall_mem_append.mpr ⟨h.queue, List.forall_mem_singleton.mpr (h.dirty item hi)⟩,
      h.dirty, h.waiting⟩
  · exact ⟨h.queue, h.dirty, h.waiting⟩

theorem HoldsKeys.addAfter (h : q.HoldsKeys) (hi : item.isKey) (delay : Int) :
    (q.addAfter item delay).HoldsKeys := by
  unfold WorkQueue.addAfter
  split
  · exact h
  · split
    · exact h.add hi
    · exact ⟨h.queue, h.dirty, List.forall_mem_append.mpr ⟨h.waiting, List.forall_mem_singleton.mpr hi⟩⟩

theorem HoldsKeys.addRateLimited (h : q.HoldsKeys) (hi : item.isKey) :
    (q.addRateLimited item).HoldsKeys := by
  unfold WorkQueue.addRateLimited
  refine HoldsKeys.addAfter ?_ hi 1
  exact ⟨h.queue, h.dirty, h.waiting⟩

theorem HoldsKeys.forget (h : q.HoldsKeys) : (q.forget item).HoldsKeys :=
  ⟨h.queue, h.dirty, h.waiting⟩

theorem HoldsKeys.fire (h : q.HoldsKeys) (i : Nat) : (q.fire i).HoldsKeys := by
  unfold WorkQueue.fire
  split
  · rename_i item hi
    exact HoldsKeys.add ⟨h.queue, h.dirty, fun j hj => h.waiting j (List.mem_of_mem_eraseIdx hj)⟩
      (h.waiting item (List.getElem?_mem hi))
  · exact h

end WorkQueue

def AddsKey (q : Controller) : Call → Prop
  | .queueAdd q' item | .queueAddAfter q' item _ | .queueAddRateLimited q' item =>
    q' = q → item.isKey
  | _ => True

def GetsKey (q : Controller) : (c : Call) → c.Reply → Prop
  | .queueGet q', r => q' = q → ∀ item, r = some item → item.isKey
  | _, _ => True

namespace World

variable {w w' : World} {q : Controller}

theorem addsKey_of_isStoreWrite {c : Call} (hc : IsStoreWrite c) : AddsKey q c := by
  cases c <;> trivial

theorem holdsKeys_setQueue {q' : Controller} (f : WorkQueue → WorkQueue)
    (hq : (w.queue q).HoldsKeys) (hf : q' = q → (f (w.queue q)).HoldsKeys) :
    ((w.setQueue q' (f (w.queue q'))).queue q).HoldsKeys := by
  by_cases h : q' = q
  · subst h
    simpa using hf rfl
  · simpa [h] using hq

theorem Answer.holdsKeys {c : Call} {r : c.Reply} (hq : (w.queue q).HoldsKeys)
    (hc : AddsKey q c) (h : w.Answer c r w') : (w'.queue q).HoldsKeys ∧ GetsKey q c r := by
  cases c
  case queueGet q' =>
    change QueueGetAnswer w q' r w' at h
    simp only [QueueGetAnswer] at h
    split at h
    · rename_i item wq hg
      obtain ⟨rfl, rfl⟩ := h
      by_cases hqq : q' = q
      · subst hqq
        obtain ⟨hwq, hi⟩ := hq.get hg
        exact ⟨by simpa using hwq, fun _ _ he => Option.some.inj he ▸ hi⟩
      · exact ⟨by simpa [hqq] using hq, fun h => absurd h hqq⟩
    · obtain ⟨-, rfl, rfl⟩ := h
      exact ⟨hq, fun _ _ he => nomatch he⟩
  case queueDone q' item =>
    subst h
    exact ⟨holdsKeys_setQueue (·.done item) hq fun _ => hq.done, trivial⟩
  case queueAdd q' item =>
    subst h
    exact ⟨holdsKeys_setQueue (·.add item) hq fun hqq => hq.add (hc hqq), trivial⟩
  case queueAddAfter q' item d =>
    subst h
    exact ⟨holdsKeys_setQueue (·.addAfter item d) hq fun hqq => hq.addAfter (hc hqq) d, trivial⟩
  case queueAddRateLimited q' item =>
    subst h
    exact ⟨holdsKeys_setQueue (·.addRateLimited item) hq fun hqq => hq.addRateLimited (hc hqq), trivial⟩
  case queueForget q' item =>
    subst h
    exact ⟨holdsKeys_setQueue (·.forget item) hq fun _ => hq.forget, trivial⟩
  case routeCreate | replicaSetCreate | serviceCreate | secretCreate =>
    obtain ⟨_, -, h⟩ := h
    exact ⟨writeAnswer_queue (fun _ _ hb => create_queue hb q) h ▸ hq, trivial⟩
  case routeUpdate | replicaSetUpdate | serviceUpdate | secretUpdate | configMapUpdate =>
    exact ⟨writeAnswer_queue (fun _ _ hb => update_queue hb q) h ▸ hq, trivial⟩
  case secretDelete => exact ⟨writeAnswer_queue (fun _ _ hb => delete_queue hb q) h ▸ hq, trivial⟩
  case routeCacheGet | configMapCacheGet | secretListerGet | routeListerGet | configMapListerList
    | routeGet | replicaSetGet | serviceGet => exact ⟨h.1 ▸ hq, trivial⟩
  case queueNumRequeues => exact ⟨h.2 ▸ hq, trivial⟩
  all_goals exact ⟨h ▸ hq, trivial⟩

theorem Foreign.holdsKeys (hq : (w.queue q).HoldsKeys) (h : Foreign w w') :
    (w'.queue q).HoldsKeys := by
  cases h with
  | write hc ha => exact (Answer.holdsKeys hq (addsKey_of_isStoreWrite hc) ha).1
  | deleteRoute _ _ hd | deleteReplicaSet _ _ hd | deleteService _ _ hd | deleteConfigMap _ _ hd =>
    rw [delete_queue hd]; exact hq
  | routerStatus ns name status hs => rw [setRouteStatus_queue hs]; exact hq
  | fire q' i => exact holdsKeys_setQueue (·.fire i) hq fun _ => hq.fire i

end World

namespace Sys

variable {Start : Prog Unit → Prop} {Env : World → World → Prop} {Init : Sys → Prop}
  {q : Controller}

def KeysInv (q : Controller) (s : Sys) : Prop :=
  (s.world.queue q).HoldsKeys ∧
    ∀ inv ∈ s.invocations, Prog.Guarded (AddsKey q) (GetsKey q) inv.cont ∧
      ∀ e ∈ inv.trace, GetsKey q e.call e.reply

theorem keysInv_step {s s' : Sys}
    (hstart : ∀ p, Start p → Prog.Guarded (AddsKey q) (GetsKey q) p)
    (henv : ∀ w w', Env w w' → (w.queue q).HoldsKeys → (w'.queue q).HoldsKeys)
    (hi : KeysInv q s) (hs : Step Start Env s s') : KeysInv q s' := by
  obtain ⟨hq, hinv⟩ := hi
  cases hs with
  | spawn p hp =>
    refine ⟨hq, fun inv hmem => ?_⟩
    rcases List.mem_append.mp hmem with hmem | hmem
    · exact hinv inv hmem
    · rw [List.mem_singleton.mp hmem]
      exact ⟨hstart p hp, fun _ he => nomatch he⟩
  | exchange i inv₀ r w' hget _ hc ha =>
    obtain ⟨hg, htr⟩ := hinv inv₀ (List.getElem?_mem hget)
    rw [hc] at hg
    obtain ⟨hq', hr⟩ := World.Answer.holdsKeys hq hg.head ha
    refine ⟨hq', fun inv hmem => ?_⟩
    rcases List.mem_or_eq_of_mem_set hmem with hmem | rfl
    · exact hinv inv hmem
    · refine ⟨hg.next hr, fun e he => ?_⟩
      rcases List.mem_append.mp he with he | he
      · exact htr e he
      · rw [List.mem_singleton.mp he]
        exact hr
  | crash i inv₀ hget =>
    refine ⟨hq, fun inv hmem => ?_⟩
    rcases List.mem_or_eq_of_mem_set hmem with hmem | rfl
    · exact hinv inv hmem
    · exact hinv inv₀ (List.getElem?_mem hget)
  | env w' he => exact ⟨henv _ _ he hq, hinv⟩

theorem Reachable.keysInv
    (hstart : ∀ p, Start p → Prog.Guarded (AddsKey q) (GetsKey q) p)
    (henv : ∀ w w', Env w w' → (w.queue q).HoldsKeys → (w'.queue q).HoldsKeys)
    (hinit : ∀ s, Init s → (s.world.queue q).HoldsKeys ∧ s.invocations = [])
    {s : Sys} (h : Reachable Start Env Init s) : KeysInv q s :=
  h.induction (fun s hs => ⟨(hinit s hs).1, by simp [(hinit s hs).2]⟩)
    (fun _ _ hi hs => keysInv_step hstart henv hi hs)

end Sys

end OpenshiftAcme
