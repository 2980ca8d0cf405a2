import OpenshiftAcme.World.System

/-!
This module contains what one step of the world can do to the route store, said once. The API
server's answer to a call, and every action of the world's other actors, leaves the routes alone,
creates a route under a free key with a fresh UID at the next revision, replaces the route stored
under a key by one with the same UID at the next revision, or deletes what is stored under a key;
the revision and the UIDs handed out only grow. Every invariant of the route store is derived from
this, not from the answers themselves.
-/

namespace OpenshiftAcme

namespace Store

variable {α : Type} [Resource α] {s s' : Store α} {ns : String} {x y : α}

theorem namespaceCheck_ok {m : ObjectMeta} (h : namespaceCheck x ns = .ok m) :
    m = { Resource.meta x with «namespace» := ns } := by
  simp only [namespaceCheck] at h
  split at h
  · exact (Except.ok.inj h).symm
  · cases h

def replace (s : Store α) (ns name : String) (y : α) : List α :=
  s.objects.map fun z => if keyIs ns name z then y else z

theorem find?_replace_self {name : String} (hy : keyIs ns name y) :
    (s.replace ns name y).find? (keyIs ns name) = (s.find ns name).map fun _ => y := by
  have hp : (keyIs ns name ∘ fun z => if keyIs ns name z then y else z) = keyIs ns name := by
    funext z
    by_cases hz : keyIs ns name z <;> simp [hz, hy]
  rw [replace, List.find?_map, hp]
  cases hf : s.objects.find? (keyIs ns name) with
  | none => simp [find, hf]
  | some z => simp [find, hf, List.find?_some hf]

theorem keyIs_eq_false {ns' name' name : String} {z : α} (hne : ¬ (ns' = ns ∧ name' = name))
    (hz : keyIs ns name z) : keyIs ns' name' z = false := by
  simp only [keyIs, Bool.and_eq_true, decide_eq_true_eq] at hz
  simp only [keyIs, Bool.and_eq_false_iff, decide_eq_false_iff_not]
  by_contra hc
  push_neg at hc
  exact hne ⟨hc.1 ▸ hz.1, hc.2 ▸ hz.2⟩

theorem find?_replace_other {name ns' name' : String} (hy : keyIs ns name y)
    (hne : ¬ (ns' = ns ∧ name' = name)) :
    (s.replace ns name y).find? (keyIs ns' name') = s.find ns' name' := by
  have hp : (keyIs ns' name' ∘ fun z => if keyIs ns name z then y else z) = keyIs ns' name' := by
    funext z
    by_cases hz : keyIs ns name z <;> simp [hz, keyIs_eq_false hne hy, keyIs_eq_false hne]
  rw [replace, List.find?_map, hp]
  cases hf : s.objects.find? (keyIs ns' name') with
  | none => simp [find, hf]
  | some z =>
    have hz : keyIs ns name z = false := by
      cases hk : keyIs ns name z with
      | false => rfl
      | true =>
        have h := List.find?_some hf
        rw [keyIs_eq_false hne hk] at h
        cases h
    simp [find, hf, hz]

theorem delete_ok {name uid : String} (h : s.delete ns name uid = .ok s') :
    s' = { s with objects := s.objects.filter fun z => !keyIs ns name z } := by
  unfold delete at h
  split at h
  · cases h
  · split at h
    · cases h
    · exact (Except.ok.inj h).symm

theorem find_filter {name ns' name' : String} :
    (s.objects.filter fun z => !keyIs ns name z).find? (keyIs ns' name') =
      if ns' = ns ∧ name' = name then none else s.find ns' name' := by
  rw [List.find?_filter]
  split
  · rename_i hk
    obtain ⟨rfl, rfl⟩ := hk
    simp
  · rename_i hk
    congr 1
    funext z
    by_cases hz : keyIs ns name z <;> simp [hz, keyIs_eq_false hk]

theorem update_ok [DecidableEq α] {rev : Nat} (h : s.update ns x rev = .ok (y, s')) :
    ∃ cur, s.find ns (Resource.meta x).name = some cur ∧
      (Resource.meta x).resourceVersion = (Resource.meta cur).resourceVersion ∧
      ((Resource.meta x).uid = "" ∨ (Resource.meta x).uid = (Resource.meta cur).uid) ∧
      (Resource.meta y).annotations = (Resource.meta x).annotations ∧
      ((y = cur ∧ s' = s) ∨
        (keyIs ns (Resource.meta x).name y ∧ (Resource.meta y).uid = (Resource.meta cur).uid ∧
          (Resource.meta y).resourceVersion = rev ∧
          s' = ⟨s.replace ns (Resource.meta x).name y, s.history ++ [y]⟩)) := by
  unfold update at h
  cases hm : namespaceCheck x ns with
  | error e => simp [hm, bind, Except.bind] at h
  | ok m =>
    obtain rfl := namespaceCheck_ok hm
    simp only [hm, bind, Except.bind] at h
    split at h
    · cases h
    · rename_i cur hcur
      split at h
      · cases h
      · rename_i huid
        split at h
        · cases h
        · rename_i hrv
          refine ⟨cur, hcur, not_not.mp hrv, (not_and_or.mp huid).imp not_not.mp not_not.mp, ?_⟩
          split at h
          · rename_i hsame
            simp only [Except.ok.injEq, Prod.mk.injEq] at h
            obtain ⟨rfl, rfl⟩ := h
            exact ⟨by rw [← hsame]; simp, .inl ⟨rfl, rfl⟩⟩
          · simp only [Except.ok.injEq, Prod.mk.injEq] at h
            obtain ⟨rfl, rfl⟩ := h
            exact ⟨by simp, .inr ⟨by simp [keyIs], by simp, by simp, rfl⟩⟩

theorem create_ok {uid : String} {rev : Nat} (h : s.create ns x uid rev = .ok (y, s')) :
    s.find ns (Resource.meta x).name = none ∧ keyIs ns (Resource.meta x).name y ∧
      (Resource.meta y).uid = uid ∧ (Resource.meta y).annotations = (Resource.meta x).annotations ∧
      (Resource.meta y).resourceVersion = rev ∧
      s' = ⟨s.objects ++ [y], s.history ++ [y]⟩ := by
  unfold create at h
  cases hm : namespaceCheck x ns with
  | error e => simp [hm, bind, Except.bind] at h
  | ok m =>
    obtain rfl := namespaceCheck_ok hm
    simp only [hm, bind, Except.bind] at h
    split at h
    · cases h
    · rename_i hnone
      simp only [Except.ok.injEq, Prod.mk.injEq] at h
      obtain ⟨rfl, rfl⟩ := h
      exact ⟨hnone, by simp [keyIs], by simp, by simp, by simp, rfl⟩

theorem find_append {name ns' name' : String} (hnone : s.find ns name = none) (hy : keyIs ns name y) :
    (s.objects ++ [y]).find? (keyIs ns' name') =
      if ns' = ns ∧ name' = name then some y else s.find ns' name' := by
  rw [List.find?_append]
  split
  · rename_i hk
    obtain ⟨rfl, rfl⟩ := hk
    rw [show s.objects.find? _ = none from hnone]
    simp [hy]
  · rename_i hk
    cases hf : s.find ns' name' with
    | some z => simp [show s.objects.find? (keyIs ns' name') = some z from hf]
    | none => simp [show s.objects.find? (keyIs ns' name') = none from hf, keyIs_eq_false hk hy]

theorem find_replace {name ns' name' : String} {cur : α} (hcur : s.find ns name = some cur)
    (hy : keyIs ns name y) :
    (s.replace ns name y).find? (keyIs ns' name') =
      if ns' = ns ∧ name' = name then some y else s.find ns' name' := by
  split
  · rename_i hk
    obtain ⟨rfl, rfl⟩ := hk
    rw [find?_replace_self hy, hcur]
    rfl
  · exact find?_replace_other hy ‹_›

end Store

namespace World

variable {w w' : World}

theorem find_mem {s : Store Route} {ns name : String} {y : Route} (h : s.find ns name = some y) :
    y ∈ s.objects :=
  List.mem_of_find?_eq_some h

inductive RouteEffect (w w' : World) : Prop
  /-- The routes are left alone. -/
  | keep : w'.routes = w.routes → RouteEffect w w'
  /-- A route is stored under a key that held none, with a fresh UID, at the next revision. -/
  | create (ns name : String) (y : Route) : w.routes.find ns name = none → Store.keyIs ns name y →
      y.meta.uid ∉ w.uids → y.meta.resourceVersion = w.revision + 1 →
      w'.revision = w.revision + 1 → w'.routes = ⟨w.routes.objects ++ [y], w.routes.history ++ [y]⟩ →
      RouteEffect w w'
  /-- The route stored under a key is replaced by one with its UID, at the next revision. -/
  | replace (ns name : String) (cur y : Route) : w.routes.find ns name = some cur →
      Store.keyIs ns name y → y.meta.uid = cur.meta.uid → y.meta.resourceVersion = w.revision + 1 →
      w'.revision = w.revision + 1 → w'.routes = ⟨w.routes.replace ns name y, w.routes.history ++ [y]⟩ →
      RouteEffect w w'
  /-- What is stored under a key is deleted. -/
  | delete (ns name : String) :
      w'.routes = { w.routes with objects := w.routes.objects.filter fun z => !Store.keyIs ns name z } →
      RouteEffect w w'

structure RouteStep (w w' : World) : Prop where
  revision : w.revision ≤ w'.revision
  uids : ∀ u ∈ w.uids, u ∈ w'.uids
  effect : RouteEffect w w'

theorem RouteStep.refl (w : World) : RouteStep w w :=
  ⟨le_rfl, fun _ h => h, .keep rfl⟩

theorem RouteEffect.find (h : RouteEffect w w') (ns' name' : String) :
    w'.routes.find ns' name' = w.routes.find ns' name' ∨
      (∃ y, w'.routes.find ns' name' = some y ∧ y.meta.uid ∉ w.uids ∧
        y.meta.resourceVersion = w.revision + 1) ∨
      (∃ cur y, w.routes.find ns' name' = some cur ∧ w'.routes.find ns' name' = some y ∧
        y.meta.uid = cur.meta.uid ∧ y.meta.resourceVersion = w.revision + 1) ∨
      w'.routes.find ns' name' = none := by
  cases h with
  | keep hr => exact .inl (by rw [hr])
  | create ns name y hnone hkey huid hrv _ hs =>
    have hf : w'.routes.find ns' name' = _ := (congrArg (List.find? _ ∘ Store.objects) hs).trans
      (Store.find_append hnone hkey)
    split at hf
    · exact .inr (.inl ⟨y, hf, huid, hrv⟩)
    · exact .inl hf
  | replace ns name cur y hcur hkey huid hrv _ hs =>
    have hf : w'.routes.find ns' name' = _ := (congrArg (List.find? _ ∘ Store.objects) hs).trans
      (Store.find_replace hcur hkey)
    split at hf
    · rename_i hk
      obtain ⟨rfl, rfl⟩ := hk
      exact .inr (.inr (.inl ⟨cur, y, hcur, hf, huid, hrv⟩))
    · exact .inl hf
  | delete ns name hs =>
    have hf : w'.routes.find ns' name' = _ := (congrArg (List.find? _ ∘ Store.objects) hs).trans
      Store.find_filter
    split at hf
    · exact .inr (.inr (.inr hf))
    · exact .inl hf

theorem RouteStep.keep (hr : w'.routes = w.routes) (hrev : w.revision ≤ w'.revision)
    (hu : ∀ u ∈ w.uids, u ∈ w'.uids) : RouteStep w w' :=
  ⟨hrev, hu, .keep hr⟩

inductive Sent (w w' : World) : Call → Prop
  | create (ns : String) (x y : Route) : Store.keyIs ns x.meta.name y →
      y.meta.annotations = x.meta.annotations →
      w'.routes = ⟨w.routes.objects ++ [y], w.routes.history ++ [y]⟩ → Sent w w' (.routeCreate ns x)
  | replace (ns : String) (x cur y : Route) : w.routes.find ns x.meta.name = some cur →
      x.meta.resourceVersion = cur.meta.resourceVersion → Store.keyIs ns x.meta.name y →
      y.meta.annotations = x.meta.annotations →
      w'.routes = ⟨w.routes.replace ns x.meta.name y, w.routes.history ++ [y]⟩ →
      Sent w w' (.routeUpdate ns x)

structure RouteWritten (c : Call) (w w' : World) : Prop where
  step : RouteStep w w'
  sent : w'.routes = w.routes ∨ Sent w w' c

theorem RouteWritten.keep {c : Call} (hr : w'.routes = w.routes) (hrev : w.revision ≤ w'.revision)
    (hu : ∀ u ∈ w.uids, u ∈ w'.uids) : RouteWritten c w w' :=
  ⟨.keep hr hrev hu, .inl hr⟩

theorem RouteWritten.refl {c : Call} (w : World) : RouteWritten c w w :=
  .keep rfl le_rfl fun _ h => h

theorem create_routeWritten {ns uid : String} {x y : Route} (hfresh : w.Fresh uid)
    (h : w.create routesL ns x uid = .ok (y, w')) : RouteWritten (.routeCreate ns x) w w' := by
  simp only [create, Except.map] at h
  split at h
  · cases h
  · rename_i p hp
    simp only [Except.ok.injEq, Prod.mk.injEq] at h
    obtain ⟨rfl, rfl⟩ := h
    obtain ⟨hnone, hkey, huid, hann, hrv, hs⟩ := Store.create_ok hp
    refine ⟨⟨Nat.le_succ _, fun _ h => List.mem_cons_of_mem _ h,
      .create ns _ p.1 hnone hkey ?_ hrv rfl hs⟩, .inr (.create ns x p.1 hkey hann hs)⟩
    change (Resource.meta p.1).uid ∉ _
    rw [huid]
    exact hfresh.2

theorem update_routeWritten {ns : String} {x y : Route} (h : w.update routesL ns x = .ok (y, w')) :
    RouteWritten (.routeUpdate ns x) w w' := by
  simp only [update, Except.map] at h
  split at h
  · cases h
  · rename_i p hp
    simp only [Except.ok.injEq, Prod.mk.injEq] at h
    obtain ⟨rfl, rfl⟩ := h
    obtain ⟨cur, hcur, hrv, -, hann, ⟨-, hs⟩ | ⟨hkey, huid, hrv', hs⟩⟩ := Store.update_ok hp
    · exact .keep hs (Nat.le_succ _) fun _ h => h
    · exact ⟨⟨Nat.le_succ _, fun _ h => h, .replace ns _ cur p.1 hcur hkey huid hrv' rfl hs⟩,
        .inr (.replace ns x cur p.1 hcur hrv hkey hann hs)⟩

theorem delete_routeStep {ns name uid : String} (h : w.delete routesL ns name uid = .ok ((), w')) :
    RouteStep w w' := by
  simp only [delete, Except.map] at h
  split at h
  · cases h
  · rename_i s hs
    simp only [Except.ok.injEq, Prod.mk.injEq] at h
    obtain ⟨-, rfl⟩ := h
    obtain rfl := Store.delete_ok hs
    exact ⟨le_rfl, fun _ h => h, .delete ns name rfl⟩

theorem writeAnswer_routeWritten {β : Type} {c : Call} {outcome : Except Err (β × World)}
    {r : Except Err β} (ho : ∀ b w'', outcome = .ok (b, w'') → RouteWritten c w w'')
    (h : WriteAnswer w outcome r w') : RouteWritten c w w' := by
  cases r with
  | ok b => exact ho b w' h
  | error e =>
    rcases h with rfl | ⟨b, hb⟩
    · exact .refl _
    · exact ho b w' hb

section Other

variable {β : Type} [Resource β] {L : Lens β} {c : Call}
  (hL : ∀ w s, (L.set w s).routes = w.routes ∧ (L.set w s).revision = w.revision ∧
    (L.set w s).uids = w.uids)
include hL

theorem create_routeWritten_other {ns uid : String} {x b : β} (h : w.create L ns x uid = .ok (b, w')) :
    RouteWritten c w w' := by
  simp only [create, Except.map] at h
  split at h
  · cases h
  · simp only [Except.ok.injEq, Prod.mk.injEq] at h
    obtain ⟨-, rfl⟩ := h
    exact .keep (hL _ _).1 (Nat.le_succ _) fun _ h => List.mem_cons_of_mem _ h

theorem update_routeWritten_other [DecidableEq β] {ns : String} {x b : β}
    (h : w.update L ns x = .ok (b, w')) : RouteWritten c w w' := by
  simp only [update, Except.map] at h
  split at h
  · cases h
  · simp only [Except.ok.injEq, Prod.mk.injEq] at h
    obtain ⟨-, rfl⟩ := h
    exact .keep (hL _ _).1 (Nat.le_succ _) fun _ h => by simpa only [(hL _ _).2.2] using h

theorem delete_routeWritten_other {ns name uid : String} (h : w.delete L ns name uid = .ok ((), w')) :
    RouteWritten c w w' := by
  simp only [delete, Except.map] at h
  split at h
  · cases h
  · simp only [Except.ok.injEq, Prod.mk.injEq] at h
    obtain ⟨-, rfl⟩ := h
    exact .keep (hL _ _).1 (hL _ _).2.1.ge fun _ h => by simpa only [(hL _ _).2.2] using h

end Other

theorem setQueue_routeWritten {c : Call} (q : Controller) (wq : WorkQueue) :
    RouteWritten c w (w.setQueue q wq) := by
  cases q <;> exact .keep rfl le_rfl fun _ h => h

theorem Answer.routeWritten {c : Call} {r : c.Reply} (h : w.Answer c r w') : RouteWritten c w w' := by
  cases c
  case routeCreate ns x =>
    obtain ⟨uid, hfresh, h⟩ := h
    exact writeAnswer_routeWritten (fun _ _ hb => create_routeWritten hfresh hb) h
  case routeUpdate ns x => exact writeAnswer_routeWritten (fun _ _ hb => update_routeWritten hb) h
  case replicaSetCreate ns x | serviceCreate ns x | secretCreate ns x =>
    obtain ⟨uid, -, h⟩ := h
    exact writeAnswer_routeWritten
      (fun _ _ hb => create_routeWritten_other (fun _ _ => ⟨rfl, rfl, rfl⟩) hb) h
  case replicaSetUpdate ns x | serviceUpdate ns x | secretUpdate ns x | configMapUpdate ns x =>
    exact writeAnswer_routeWritten
      (fun _ _ hb => update_routeWritten_other (fun _ _ => ⟨rfl, rfl, rfl⟩) hb) h
  case secretDelete ns name uid =>
    exact writeAnswer_routeWritten
      (fun _ _ hb => delete_routeWritten_other (fun _ _ => ⟨rfl, rfl, rfl⟩) hb) h
  case queueGet q =>
    change QueueGetAnswer w q r w' at h
    simp only [QueueGetAnswer] at h
    split at h
    · obtain ⟨-, rfl⟩ := h
      exact setQueue_routeWritten q _
    · obtain ⟨-, -, rfl⟩ := h
      exact .refl _
  case queueDone q _ | queueAdd q _ | queueAddAfter q _ _ | queueAddRateLimited q _
    | queueForget q _ =>
    subst h
    exact setQueue_routeWritten q _
  all_goals first
    | (obtain ⟨rfl, -⟩ := h; exact .refl _)
    | (obtain ⟨-, rfl⟩ := h; exact .refl _)

theorem Answer.routeStep {c : Call} {r : c.Reply} (h : w.Answer c r w') : RouteStep w w' :=
  (Answer.routeWritten h).step

theorem setRouteStatus_routeStep {ns name : String} {status : RouteStatus}
    (h : setRouteStatus w ns name status = some w') : RouteStep w w' := by
  simp only [setRouteStatus, Option.map_eq_some'] at h
  obtain ⟨cur, hcur, rfl⟩ := h
  have hkey : Store.keyIs ns name
      { cur with status := status, meta := { cur.meta with resourceVersion := w.revision + 1 } } := by
    simpa [Store.keyIs] using List.find?_some hcur
  exact ⟨Nat.le_succ _, fun _ h => h, .replace ns name cur _ hcur hkey rfl rfl rfl rfl⟩

theorem Answer.routeUpdate_ok {ns : String} {x y : Route} (h : w.Answer (.routeUpdate ns x) (.ok y) w') :
    ∃ cur, w.routes.find ns x.meta.name = some cur ∧
      x.meta.resourceVersion = cur.meta.resourceVersion ∧
      (x.meta.uid = "" ∨ x.meta.uid = cur.meta.uid) ∧
      y.meta.annotations = x.meta.annotations ∧ w'.routes.find ns x.meta.name = some y ∧
      ((y = cur ∧ w'.routes = w.routes) ∨ y.meta.resourceVersion = w.revision + 1) := by
  change w.update routesL ns x = .ok (y, w') at h
  simp only [update, Except.map] at h
  split at h
  · cases h
  · rename_i p hp
    simp only [Except.ok.injEq, Prod.mk.injEq] at h
    obtain ⟨rfl, rfl⟩ := h
    obtain ⟨cur, hcur, hrv, huid, hann, ⟨hy, hs⟩ | ⟨hkey, -, hrv', hs⟩⟩ := Store.update_ok hp
    · refine ⟨cur, hcur, hrv, huid, hann, ?_, .inl ⟨hy, hs⟩⟩
      change p.2.find _ _ = _
      rw [hs, hy]
      exact hcur
    · refine ⟨cur, hcur, hrv, huid, hann, ?_, .inr hrv'⟩
      change List.find? _ p.2.objects = _
      rw [hs]
      exact (Store.find_replace hcur hkey).trans (if_pos ⟨rfl, rfl⟩)

theorem Foreign.routeStep (h : Foreign w w') : RouteStep w w' := by
  cases h with
  | write _ ha => exact Answer.routeStep ha
  | deleteRoute _ _ hd => exact delete_routeStep hd
  | deleteReplicaSet _ _ hd | deleteService _ _ hd | deleteConfigMap _ _ hd =>
    exact (delete_routeWritten_other (c := .now) (fun _ _ => ⟨rfl, rfl, rfl⟩) hd).step
  | routerStatus ns name status hs => exact setRouteStatus_routeStep hs
  | fire q i => exact (setQueue_routeWritten (c := .now) q _).step

end World

namespace Exchange

def routeUpdated : Exchange → Option (String × Route × Route)
  | ⟨.routeUpdate ns x, .ok y⟩ => some (ns, x, y)
  | _ => none

theorem routeUpdated_eq_some {e : Exchange} {ns : String} {x y : Route}
    (h : e.routeUpdated = some (ns, x, y)) : e = ⟨.routeUpdate ns x, .ok y⟩ := by
  obtain ⟨c, r⟩ := e
  cases c <;> try cases h
  cases r <;> cases h
  rfl

end Exchange

end OpenshiftAcme
