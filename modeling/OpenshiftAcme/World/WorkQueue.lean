import OpenshiftAcme.World.Store
import Mathlib.Data.List.Nodup

/-!
This module contains the bookkeeping of the client-go work queue that both controllers rely on. An
item is ready at most once, only while it is dirty and not being processed, and is processed at
most once at a time; every dirty item is ready or being processed, so an item added while it is
processed waits for its `Done`. Every operation keeps this, `Done` as long as it is called on an
item being processed. The module also says what each operation does to the items being processed
and to the rate limiter's count of failures, which `NumRequeues` reads.
-/

namespace OpenshiftAcme

namespace WorkQueue

structure Wf (q : WorkQueue) : Prop where
  queue_nodup : q.queue.Nodup
  processing_nodup : q.processing.Nodup
  queue_dirty : ∀ x ∈ q.queue, x ∈ q.dirty
  queue_processing : ∀ x ∈ q.queue, x ∉ q.processing
  dirty_queue : ∀ x ∈ q.dirty, x ∈ q.queue ∨ x ∈ q.processing

theorem wf_empty : empty.Wf :=
  ⟨.nil, .nil, (fun _ h => nomatch h), (fun _ h => nomatch h), (fun _ h => nomatch h)⟩

variable {q q' : WorkQueue} {item x : QueueItem}

theorem get_eq_some (hg : q.get = some (item, q')) :
    ∃ rest, q.queue = item :: rest ∧ q' =
      { q with queue := rest, processing := item :: q.processing, dirty := q.dirty.erase item } := by
  unfold get at hg
  split at hg
  · rename_i y rest hq
    simp only [Option.some.injEq, Prod.mk.injEq] at hg
    obtain ⟨rfl, rfl⟩ := hg
    exact ⟨rest, hq, rfl⟩
  · cases hg

theorem Wf.of_eq (h : q.Wf) (hq : q'.queue = q.queue) (hd : q'.dirty = q.dirty)
    (hp : q'.processing = q.processing) : q'.Wf := by
  obtain ⟨h₁, h₂, h₃, h₄, h₅⟩ := h
  rw [← hq, ← hd, ← hp] at *
  exact ⟨h₁, h₂, h₃, h₄, h₅⟩

theorem get_failures (hg : q.get = some (item, q')) : q'.failures = q.failures := by
  obtain ⟨rest, -, rfl⟩ := get_eq_some hg
  rfl

@[simp] theorem add_processing : (q.add item).processing = q.processing := by
  unfold add
  split
  · rfl
  · split <;> rfl

@[simp] theorem add_failures : (q.add item).failures = q.failures := by
  unfold add
  split
  · rfl
  · split <;> rfl

@[simp] theorem addAfter_processing (delay : Int) : (q.addAfter item delay).processing = q.processing := by
  unfold addAfter
  split
  · rfl
  · split
    · exact add_processing
    · rfl

@[simp] theorem addAfter_failures (delay : Int) : (q.addAfter item delay).failures = q.failures := by
  unfold addAfter
  split
  · rfl
  · split
    · exact add_failures
    · rfl

@[simp] theorem addRateLimited_processing : (q.addRateLimited item).processing = q.processing :=
  addAfter_processing 1

@[simp] theorem forget_processing : (q.forget item).processing = q.processing := rfl

@[simp] theorem done_processing : (q.done item).processing = q.processing.erase item := by
  unfold done
  dsimp only
  split <;> rfl

@[simp] theorem done_failures : (q.done item).failures = q.failures := by
  unfold done
  dsimp only
  split <;> rfl

@[simp] theorem fire_processing (i : Nat) : (q.fire i).processing = q.processing := by
  unfold fire
  split
  · exact add_processing
  · rfl

@[simp] theorem fire_failures (i : Nat) : (q.fire i).failures = q.failures := by
  unfold fire
  split
  · exact add_failures
  · rfl

theorem Wf.add (h : q.Wf) : (q.add item).Wf := by
  unfold WorkQueue.add
  split
  · exact h
  · rename_i hd
    simp only [Bool.or_eq_true, decide_eq_true_eq, not_or] at hd
    split
    · rename_i hp
      refine ⟨h.queue_nodup, h.processing_nodup, fun y hy => .tail _ (h.queue_dirty y hy),
        h.queue_processing, fun y hy => ?_⟩
      rcases List.mem_cons.mp hy with rfl | hy
      · exact .inr hp
      · exact h.dirty_queue y hy
    · rename_i hp
      refine ⟨h.queue_nodup.append (List.nodup_singleton _) ?_, h.processing_nodup, fun y hy => ?_,
        fun y hy => ?_, fun y hy => ?_⟩
      · exact List.disjoint_singleton.mpr fun hq => hd.2 (h.queue_dirty _ hq)
      · rcases List.mem_append.mp hy with hy | hy
        · exact .tail _ (h.queue_dirty y hy)
        · rw [List.mem_singleton.mp hy]
          exact .head _
      · rcases List.mem_append.mp hy with hy | hy
        · exact h.queue_processing y hy
        · rw [List.mem_singleton.mp hy]
          exact hp
      · rcases List.mem_cons.mp hy with rfl | hy
        · exact .inl (List.mem_append_right _ (List.mem_singleton_self _))
        · exact (h.dirty_queue y hy).imp_left (List.mem_append_left _)

theorem Wf.get (h : q.Wf) (hg : q.get = some (item, q')) : q'.Wf := by
  obtain ⟨rest, hq, rfl⟩ := get_eq_some hg
  have hn : (item :: rest).Nodup := hq ▸ h.queue_nodup
  have hd : ∀ y ∈ item :: rest, y ∈ q.dirty := hq ▸ h.queue_dirty
  have hp : ∀ y ∈ item :: rest, y ∉ q.processing := hq ▸ h.queue_processing
  refine ⟨hn.of_cons, List.nodup_cons.mpr ⟨hp item (.head _), h.processing_nodup⟩,
    fun y hy => ?_, fun y hy => ?_, fun y hy => ?_⟩
  · have hne : y ≠ item := fun he => (List.nodup_cons.mp hn).1 (he ▸ hy)
    exact (List.mem_erase_of_ne hne).mpr (hd y (.tail _ hy))
  · have hne : y ≠ item := fun he => (List.nodup_cons.mp hn).1 (he ▸ hy)
    exact List.not_mem_cons_of_ne_of_not_mem hne (hp y (.tail _ hy))
  · rcases h.dirty_queue y (List.mem_of_mem_erase hy) with hy | hy
    · rw [hq] at hy
      rcases List.mem_cons.mp hy with rfl | hy
      · exact .inr (.head _)
      · exact .inl hy
    · exact .inr (.tail _ hy)

theorem Wf.done (h : q.Wf) (hx : x ∈ q.processing) : (q.done x).Wf := by
  have hpe : ∀ y ∈ q.queue, y ∉ q.processing.erase x := fun y hy hy' =>
    h.queue_processing y hy (List.mem_of_mem_erase hy')
  have hde : ∀ y ∈ q.dirty, y ≠ x → y ∈ q.queue ∨ y ∈ q.processing.erase x := fun y hy hne =>
    (h.dirty_queue y hy).imp_right (List.mem_erase_of_ne hne).mpr
  unfold WorkQueue.done
  dsimp only
  split
  · rename_i hd
    refine ⟨h.queue_nodup.append (List.nodup_singleton _) ?_, h.processing_nodup.erase x, fun y hy => ?_,
      fun y hy => ?_, fun y hy => ?_⟩
    · exact List.disjoint_singleton.mpr fun hq => h.queue_processing x hq hx
    · rcases List.mem_append.mp hy with hy | hy
      · exact h.queue_dirty y hy
      · exact List.mem_singleton.mp hy ▸ hd
    · rcases List.mem_append.mp hy with hy | hy
      · exact hpe y hy
      · exact List.mem_singleton.mp hy ▸ h.processing_nodup.not_mem_erase
    · by_cases hne : y = x
      · exact .inl (List.mem_append_right _ (hne ▸ List.mem_singleton_self _))
      · exact (hde y hy hne).imp_left (List.mem_append_left _)
  · rename_i hd
    exact ⟨h.queue_nodup, h.processing_nodup.erase x, h.queue_dirty, hpe,
      fun y hy => hde y hy fun he => hd (he ▸ hy)⟩

theorem Wf.addAfter (h : q.Wf) (delay : Int) : (q.addAfter item delay).Wf := by
  unfold WorkQueue.addAfter
  split
  · exact h
  · split
    · exact h.add
    · exact h.of_eq rfl rfl rfl

theorem Wf.addRateLimited (h : q.Wf) : (q.addRateLimited item).Wf := by
  unfold WorkQueue.addRateLimited
  refine Wf.addAfter ?_ 1
  exact h.of_eq rfl rfl rfl

theorem Wf.forget (h : q.Wf) : (q.forget item).Wf :=
  h.of_eq rfl rfl rfl

theorem Wf.fire (h : q.Wf) (i : Nat) : (q.fire i).Wf := by
  unfold WorkQueue.fire
  split
  · exact Wf.add (h.of_eq rfl rfl rfl)
  · exact h

theorem numRequeues_congr (h : q'.failures = q.failures) : q'.numRequeues = q.numRequeues := by
  funext y
  simp only [numRequeues, h]

theorem numRequeues_filter_ne {l : List (QueueItem × Nat)} {y : QueueItem} (hy : y ≠ x) :
    ((l.filter (·.1 ≠ x)).find? (·.1 = y)) = l.find? (·.1 = y) := by
  rw [List.find?_filter]
  congr 1
  funext a
  by_cases h : a.1 = y <;> simp [h, hy]

theorem numRequeues_filter_self {l : List (QueueItem × Nat)} :
    (l.filter (·.1 ≠ x)).find? (·.1 = x) = none :=
  List.find?_eq_none.mpr fun a ha => by simpa using (List.mem_filter.mp ha).2

theorem numRequeues_addRateLimited (y : QueueItem) :
    (q.addRateLimited x).numRequeues y = if y = x then q.numRequeues x + 1 else q.numRequeues y := by
  rw [addRateLimited, numRequeues_congr (addAfter_failures 1)]
  by_cases hy : y = x
  · subst hy
    simp [numRequeues]
  · simp only [numRequeues, List.find?_cons, Ne.symm hy, decide_False, hy, if_false,
      numRequeues_filter_ne hy]

theorem numRequeues_forget (y : QueueItem) :
    (q.forget x).numRequeues y = if y = x then 0 else q.numRequeues y := by
  by_cases hy : y = x
  · subst hy
    simp only [numRequeues, forget, numRequeues_filter_self, if_true, Option.map_none', Option.getD_none]
  · simp only [numRequeues, forget, numRequeues_filter_ne hy, hy, if_false]

end WorkQueue

end OpenshiftAcme
