import Mathlib.Data.List.Pairwise
import OpenshiftAcme.World.Versions

/-!
This module contains the history of the route store: every version the store has held, in the
order it stored them. A step of the world only appends to the history, each version it appends
has a resource version above all before it, and the route stored under a key is the last version
the history holds under that key. So a version read from the history and a stored route with the
same resource version are one route: an update that carries the version of a route read from an
informer cache, and succeeds, replaces that very route.
-/

namespace OpenshiftAcme

namespace Store

variable {α : Type} [Resource α]

def versions (s : Store α) (ns name : String) : List α :=
  s.history.filter (keyIs ns name)

theorem versions_snoc_self {objects history : List α} {ns name : String} {y : α}
    (hy : keyIs ns name y) :
    (⟨objects, history ++ [y]⟩ : Store α).versions ns name = history.filter (keyIs ns name) ++ [y] := by
  simp [versions, hy]

theorem versions_snoc_other {objects history : List α} {ns name : String} {y : α}
    (hy : keyIs ns name y = false) :
    (⟨objects, history ++ [y]⟩ : Store α).versions ns name = history.filter (keyIs ns name) := by
  simp [versions, hy]

end Store

namespace World

variable {w w' : World}

structure HistoryWf (w : World) : Prop where
  ordered : w.routes.history.Pairwise fun a b => a.meta.resourceVersion < b.meta.resourceVersion
  latest : ∀ ns name cur, w.routes.find ns name = some cur →
    (w.routes.versions ns name).getLast? = some cur

theorem RouteEffect.history (h : RouteEffect w w') : w.routes.history <+: w'.routes.history := by
  cases h with
  | keep hr => exact hr ▸ List.prefix_refl _
  | create _ _ _ _ _ _ _ _ hs => rw [hs]; exact List.prefix_append _ _
  | replace _ _ _ _ _ _ _ _ _ hs => rw [hs]; exact List.prefix_append _ _
  | delete _ _ hs => exact hs ▸ List.prefix_refl _

theorem HistoryWf.ordered_snoc (hw : w.RoutesWf) (hh : w.HistoryWf) {y : Route}
    (hrv : y.meta.resourceVersion = w.revision + 1) :
    (w.routes.history ++ [y]).Pairwise fun a b => a.meta.resourceVersion < b.meta.resourceVersion :=
  List.pairwise_append.mpr ⟨hh.ordered, List.pairwise_singleton _ _, fun a ha b hb => by
    rw [List.mem_singleton.mp hb, hrv]
    exact Nat.lt_succ_of_le (hw.history a ha)⟩

theorem HistoryWf.latest_snoc (hh : w.HistoryWf) {ns name : String} {y : Route}
    {objects : List Route} (hkey : Store.keyIs ns name y)
    (hfind : ∀ ns' name', objects.find? (Store.keyIs ns' name') =
      if ns' = ns ∧ name' = name then some y else w.routes.find ns' name') :
    ∀ ns' name' cur, (⟨objects, w.routes.history ++ [y]⟩ : Store Route).find ns' name' = some cur →
      ((⟨objects, w.routes.history ++ [y]⟩ : Store Route).versions ns' name').getLast? = some cur := by
  intro ns' name' cur hf
  change objects.find? _ = _ at hf
  rw [hfind] at hf
  split at hf
  · rename_i hk
    obtain ⟨rfl, rfl⟩ := hk
    cases hf
    rw [Store.versions_snoc_self hkey, List.getLast?_concat]
  · rw [Store.versions_snoc_other (Store.keyIs_eq_false ‹_› hkey)]
    exact hh.latest _ _ _ hf

theorem RouteStep.historyWf (hw : w.RoutesWf) (hh : w.HistoryWf) (h : RouteStep w w') :
    w'.HistoryWf := by
  cases h.effect with
  | keep hr => exact ⟨by rw [hr]; exact hh.ordered, by rw [hr]; exact hh.latest⟩
  | create ns name y hnone hkey _ hrv _ hs =>
    exact ⟨by rw [hs]; exact hh.ordered_snoc hw hrv,
      by rw [hs]; exact hh.latest_snoc hkey fun _ _ => Store.find_append hnone hkey⟩
  | replace ns name cur y hcur hkey _ hrv _ hs =>
    exact ⟨by rw [hs]; exact hh.ordered_snoc hw hrv,
      by rw [hs]; exact hh.latest_snoc hkey fun _ _ => Store.find_replace hcur hkey⟩
  | delete ns name hs =>
    refine ⟨by rw [hs]; exact hh.ordered, fun ns' name' cur hf => ?_⟩
    rw [hs] at hf ⊢
    change List.find? _ (List.filter _ _) = _ at hf
    rw [Store.find_filter] at hf
    split at hf
    · cases hf
    · exact hh.latest _ _ _ hf

theorem HistoryWf.find_mem (hh : w.HistoryWf) {ns name : String} {cur : Route}
    (hf : w.routes.find ns name = some cur) : cur ∈ w.routes.history :=
  List.mem_of_mem_filter (List.mem_of_getLast?_eq_some (hh.latest _ _ _ hf))

theorem HistoryWf.eq_of_resourceVersion (hh : w.HistoryWf) {a b : Route}
    (ha : a ∈ w.routes.history) (hb : b ∈ w.routes.history)
    (hv : a.meta.resourceVersion = b.meta.resourceVersion) : a = b := by
  by_contra hne
  exact (hh.ordered.imp ne_of_lt).forall (fun _ _ h => h.symm) ha hb hne hv

end World

end OpenshiftAcme
