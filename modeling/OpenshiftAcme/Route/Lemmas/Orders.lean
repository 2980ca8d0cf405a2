import Mathlib.Data.List.Chain
import OpenshiftAcme.Route.Lemmas.Writes
import OpenshiftAcme.World.History

/-!
This module contains the orders that the status annotation of one route records, over every run
of the route controller: any number of invocations of `handle`, for any keys, their calls
interleaved in any order and answered in any way the world allows, any of them crashing at any
point, with other clients, routers and the queue's clock acting in between, none of which writes
the route's status annotation. Every version of the route that the store has held records no
order in flight, or an order that an invocation of `handle` for the route created, with the
instant it read right after; and no version replaces an order in flight by another order.
-/

namespace OpenshiftAcme

namespace RouteController

open Prog (Steps OnlyAfter)

variable (lib : Lib)

def NoOrderInFlight (y : Route) : Prop :=
  ∀ st, getStatus lib y = .ok st → ∀ ps, st.provisioningStatus = some ps → ps.orderUri.length = 0

def RecordsIssued (issued : String → Int → Prop) (y : Route) : Prop :=
  ∀ st, getStatus lib y = .ok st → ∀ ps, st.provisioningStatus = some ps →
    ps.orderUri.length = 0 ∨ issued ps.orderUri ps.startedAt

def OrderKept (a b : Route) : Prop :=
  ∀ sa psa, getStatus lib a = .ok sa → sa.provisioningStatus = some psa → psa.orderUri.length ≠ 0 →
    ∀ sb psb, getStatus lib b = .ok sb → sb.provisioningStatus = some psb →
      psb.orderUri.length = 0 ∨ psb.orderUri = psa.orderUri

variable {lib} {issued issued' : String → Int → Prop} {a y : Route}

theorem NoOrderInFlight.recordsIssued (h : NoOrderInFlight lib y) : RecordsIssued lib issued y :=
  fun st hst ps hps => .inl (h st hst ps hps)

theorem NoOrderInFlight.orderKept (h : NoOrderInFlight lib y) (a : Route) : OrderKept lib a y :=
  fun _ _ _ _ _ sb psb hsb hpsb => .inl (h sb hsb psb hpsb)

theorem RecordsIssued.mono (h : RecordsIssued lib issued y) (hi : ∀ u t, issued u t → issued' u t) :
    RecordsIssued lib issued' y :=
  fun st hst ps hps => (h st hst ps hps).imp_right (hi _ _)

theorem RecordsIssued.of_annotations (h : RecordsIssued lib issued a)
    (hy : y.meta.annotations = a.meta.annotations) : RecordsIssued lib issued y := by
  intro st hst
  rw [getStatus_of_annotations_eq lib hy] at hst
  exact h st hst

theorem orderKept_of_annotations (hy : y.meta.annotations = a.meta.annotations) :
    OrderKept lib a y := by
  intro sa psa hsa hpsa _ sb psb hsb hpsb
  rw [getStatus_of_annotations_eq lib hy, hsa] at hsb
  cases hsb
  rw [hpsa] at hpsb
  cases hpsb
  exact .inr rfl

section Write

variable {r₀ x : Route} {tr : List Exchange} {st₀ st : Status}

theorem provisioningStatus_of_setStatus (hx : setStatus lib r₀ st = .ok x)
    (hy : y.meta.annotations = x.meta.annotations) {sy : Status} (hsy : getStatus lib y = .ok sy) :
    sy.provisioningStatus = st.provisioningStatus := by
  rw [getStatus_of_annotations_eq lib hy, getStatus_setStatus lib hx] at hsy
  cases hsy
  rfl

theorem StatusStep.recordsIssued (hs : StatusStep tr st₀ st) (hst₀ : getStatus lib r₀ = .ok st₀)
    (hrec : RecordsIssued lib issued r₀) (hstart : ∀ u t, OrderStarted tr u t → issued u t)
    (hx : setStatus lib r₀ st = .ok x) (hy : y.meta.annotations = x.meta.annotations) :
    RecordsIssued lib issued y := by
  intro sy hsy ps hps
  rw [provisioningStatus_of_setStatus hx hy hsy] at hps
  cases hs with
  | clear h => rw [h] at hps; cases hps
  | poll h₀ h hu ht =>
    rw [h] at hps
    cases hps
    rw [hu, ht]
    exact hrec st₀ hst₀ _ h₀
  | forget h hu =>
    rw [h] at hps
    cases hps
    exact .inl hu
  | start _ _ h ho =>
    rw [h] at hps
    cases hps
    exact .inr (hstart _ _ ho)

theorem StatusStep.orderKept (hs : StatusStep tr st₀ st) (hst₀ : getStatus lib r₀ = .ok st₀)
    (hx : setStatus lib r₀ st = .ok x) (hy : y.meta.annotations = x.meta.annotations) :
    OrderKept lib r₀ y := by
  intro sa psa hsa hpsa hlen sb psb hsb hpsb
  rw [hst₀] at hsa
  cases hsa
  rw [provisioningStatus_of_setStatus hx hy hsb] at hpsb
  cases hs with
  | clear h => rw [h] at hpsb; cases hpsb
  | poll h₀ h hu _ =>
    rw [h] at hpsb
    cases hpsb
    rw [hpsa] at h₀
    cases h₀
    exact .inr hu
  | forget h hu =>
    rw [h] at hpsb
    cases hpsb
    exact .inl hu
  | start h₀ hl _ _ =>
    rw [hpsa] at h₀
    cases h₀
    exact absurd hl hlen

variable {ns : String}

theorem WriteOf.recordsIssued (hw : WriteOf lib r₀ tr ns x) (hrec : RecordsIssued lib issued r₀)
    (hstart : ∀ u t, OrderStarted tr u t → issued u t)
    (hy : y.meta.annotations = x.meta.annotations) : RecordsIssued lib issued y := by
  rcases hw.2.2.2 with hann | ⟨st₀, st, hst₀, hx, hs⟩
  · exact hrec.of_annotations (hy.trans hann)
  · exact hs.recordsIssued hst₀ hrec hstart hx hy

theorem WriteOf.orderKept (hw : WriteOf lib r₀ tr ns x)
    (hy : y.meta.annotations = x.meta.annotations) : OrderKept lib r₀ y := by
  rcases hw.2.2.2 with hann | ⟨st₀, st, hst₀, hx, hs⟩
  · exact orderKept_of_annotations (hy.trans hann)
  · exact hs.orderKept hst₀ hx hy

end Write

variable (lib)

structure OrdersRecorded (ns name : String) (issued : String → Int → Prop) (w : World) : Prop where
  recorded : ∀ y ∈ w.routes.history, Store.keyIs ns name y → RecordsIssued lib issued y
  kept : (w.routes.versions ns name).Chain' (OrderKept lib)

variable {lib} {w w' : World} {ns name : String}

theorem OrdersRecorded.mono (h : OrdersRecorded lib ns name issued w)
    (hi : ∀ u t, issued u t → issued' u t) : OrdersRecorded lib ns name issued' w :=
  ⟨fun y hy hk => (h.recorded y hy hk).mono hi, h.kept⟩

theorem OrdersRecorded.of_history (h : OrdersRecorded lib ns name issued w)
    (hr : w'.routes.history = w.routes.history) : OrdersRecorded lib ns name issued w' := by
  refine ⟨fun y hy hk => h.recorded y (hr ▸ hy) hk, ?_⟩
  simp only [Store.versions, hr]
  exact h.kept

theorem OrdersRecorded.snoc (h : OrdersRecorded lib ns name issued w)
    (hs : w'.routes.history = w.routes.history ++ [y])
    (hy : Store.keyIs ns name y → RecordsIssued lib issued y ∧
      ∀ a, (w.routes.versions ns name).getLast? = some a → OrderKept lib a y) :
    OrdersRecorded lib ns name issued w' := by
  refine ⟨fun z hz hk => ?_, ?_⟩
  · rw [hs] at hz
    rcases List.mem_append.mp hz with hz | hz
    · exact h.recorded z hz hk
    · rw [List.mem_singleton.mp hz] at hk ⊢
      exact (hy hk).1
  · have hv : w'.routes.versions ns name =
        w.routes.versions ns name ++ [y].filter (Store.keyIs ns name) := by
      simp only [Store.versions, hs, List.filter_append]
    rw [hv]
    by_cases hk : Store.keyIs ns name y
    · rw [List.filter_singleton, hk, cond_true]
      refine h.kept.append (List.chain'_singleton y) fun a ha b hb => ?_
      cases Option.mem_some_iff.mp hb
      exact (hy hk).2 a ha
    · simpa [List.filter_singleton, hk] using h.kept

theorem keyIs_eq {ns' name' : String} {z : Route} (h : Store.keyIs ns name z)
    (h' : Store.keyIs ns' name' z) : ns' = ns ∧ name' = name := by
  by_contra hne
  rw [Store.keyIs_eq_false hne h] at h'
  cases h'

variable (lib)

structure KeepsStatus (ns name : String) (w w' : World) : Prop where
  foreign : World.Foreign w w'
  replaced : ∀ cur y, w.routes.find ns name = some cur → w'.routes.find ns name = some y →
    y.meta.annotations = cur.meta.annotations
  created : ∀ y, w.routes.find ns name = none → w'.routes.find ns name = some y →
    NoOrderInFlight lib y

variable {lib}

theorem KeepsStatus.ordersRecorded (he : KeepsStatus lib ns name w w') (hh : w.HistoryWf) (ho : OrdersRecorded lib ns name issued w) :
    OrdersRecorded lib ns name issued w' := by
  cases he.foreign.routeStep.effect with
  | keep hr => exact ho.of_history (by rw [hr])
  | create ns' name' y hnone hkey _ _ _ hs =>
    refine ho.snoc (by rw [hs]) fun hk => ?_
    obtain ⟨rfl, rfl⟩ := keyIs_eq hkey hk
    have hy : w'.routes.find ns name = some y := by
      change w'.routes.objects.find? _ = _
      rw [hs]
      exact (Store.find_append hnone hkey).trans (if_pos ⟨rfl, rfl⟩)
    have hno := he.created y hnone hy
    exact ⟨hno.recordsIssued, fun a _ => hno.orderKept a⟩
  | replace ns' name' cur y hcur hkey _ _ _ hs =>
    refine ho.snoc (by rw [hs]) fun hk => ?_
    obtain ⟨rfl, rfl⟩ := keyIs_eq hkey hk
    have hy : w'.routes.find ns name = some y := by
      change w'.routes.objects.find? _ = _
      rw [hs]
      exact (Store.find_replace hcur hkey).trans (if_pos ⟨rfl, rfl⟩)
    have hann := he.replaced cur y hcur hy
    have hkcur : Store.keyIs ns name cur := List.find?_some hcur
    refine ⟨(ho.recorded cur (hh.find_mem hcur) hkcur).of_annotations hann, fun a ha => ?_⟩
    rw [hh.latest _ _ _ hcur] at ha
    cases ha
    exact orderKept_of_annotations hann
  | delete _ _ hs => exact ho.of_history (by rw [hs])

end RouteController

end OpenshiftAcme
