import OpenshiftAcme.Route.Lemmas.Persist
import OpenshiftAcme.Route.Lemmas.Runs

/-!
This module contains the orders a run of the route controller on one route loses: orders that
`AuthorizeOrder` created and whose URI no version of the route the store has held records. A run
of `handle` creates at most one order, and one that returns nil has written its order into the
route first, so over any interleaving of invocations, stale cache reads, conflicting writes,
failures and crashes, there are at most as many lost orders as invocations that did not return nil.
-/

namespace OpenshiftAcme

namespace RouteController

variable (lib : Lib)

def persisted (key : String) (w : World) (uri : String) : Bool :=
  w.routes.history.any fun y => y.meta.key == key && recordsOrder lib y uri

def lostOrders (key : String) (s : Sys) : List Acme.Order :=
  (s.invocations.flatMap fun inv => inv.trace.filterMap Exchange.createdOrder).filter
    fun o => !persisted lib key s.world o.uri

def UpdatesStored (s : Sys) : Prop :=
  ∀ inv ∈ s.invocations, ∀ ns x y, (⟨.routeUpdate ns x, .ok y⟩ : Exchange) ∈ inv.trace →
    y ∈ s.world.routes.history ∧ y.meta.annotations = x.meta.annotations ∧ Store.keyIs ns x.meta.name y

variable {lib} {T : Int} {Env : World → World → Prop} {s s' : Sys}

theorem persisted_of_mem {key uri : String} {w : World} {y : Route} (hy : y ∈ w.routes.history)
    (hk : y.meta.key = key) (hr : recordsOrder lib y uri = true) : persisted lib key w uri = true :=
  List.any_eq_true.mpr ⟨y, hy, by simp [hk, hr]⟩

theorem updatesStored_init (hinv : s.invocations = []) : UpdatesStored s :=
  fun inv h => by simp [hinv] at h

theorem UpdatesStored.step (henv : ∀ w w', Env w w' → World.RouteStep w w') (h : RunWf lib T s)
    (hu : UpdatesStored s) (hs : Sys.Step (HandleTask lib T) Env s s') : UpdatesStored s' := by
  have hh' := (h.step henv hs).history
  cases hs with
  | spawn p _ =>
    intro inv hinv ns x y he
    rcases List.mem_append.mp hinv with hinv | hinv
    · exact hu inv hinv ns x y he
    · rw [List.mem_singleton.mp hinv] at he
      cases he
  | exchange i inv₀ reply w' hi _ _ ha =>
    have hsub := (World.Answer.routeStep ha).effect.history.subset
    intro inv hinv ns x y he
    have grow : ∀ inv ∈ s.invocations, (⟨.routeUpdate ns x, .ok y⟩ : Exchange) ∈ inv.trace →
        y ∈ w'.routes.history ∧ y.meta.annotations = x.meta.annotations ∧
          Store.keyIs ns x.meta.name y := fun inv hinv he =>
      let ⟨hm, hann, hk⟩ := hu inv hinv ns x y he
      ⟨hsub hm, hann, hk⟩
    rcases List.mem_or_eq_of_mem_set hinv with hinv | rfl
    · exact grow inv hinv he
    rcases List.mem_append.mp he with he | he
    · exact grow inv₀ (List.getElem?_mem hi) he
    · cases List.mem_singleton.mp he
      obtain ⟨-, -, -, -, hann, hy, -⟩ := World.Answer.routeUpdate_ok ha
      exact ⟨hh'.find_mem hy, hann, List.find?_some hy⟩
  | crash i inv₀ hi =>
    intro inv hinv ns x y he
    rcases List.mem_or_eq_of_mem_set hinv with hinv | rfl
    · exact hu inv hinv ns x y he
    · exact hu inv₀ (List.getElem?_mem hi) ns x y he
  | env w' he =>
    intro inv hinv ns x y hx
    obtain ⟨hm, hann, hk⟩ := hu inv hinv ns x y hx
    exact ⟨(henv _ _ he).effect.history.subset hm, hann, hk⟩

theorem returnedNil_persisted {key : String} (h : RunWf lib T s) (hu : UpdatesStored s)
    {inv : Invocation} (hinv : inv ∈ s.invocations) (hstart : inv.start = handle lib T key)
    (hr : inv.returnedNil) :
    ∀ o ∈ inv.trace.filterMap Exchange.createdOrder, persisted lib key s.world o.uri = true := by
  have hsteps := (h.run inv hinv).2
  rw [hstart, hr.2] at hsteps
  intro o ho
  obtain ⟨e, he, heo⟩ := List.mem_filterMap.mp ho
  obtain ⟨r₀, tr', htr, hrec | ⟨x, y, hx, hname, hrec⟩⟩ := handle_returns lib hsteps e he o heo
  all_goals
    obtain ⟨hr₀, hkey⟩ := h.reads inv hinv key r₀ (by rw [htr]; exact List.mem_cons_self _ _)
  · exact persisted_of_mem hr₀ hkey hrec
  · obtain ⟨hy, hann, hk⟩ := hu inv hinv _ x y (by rw [htr]; exact List.mem_cons_of_mem _ hx)
    rw [hname] at hk
    exact persisted_of_mem hy ((key_eq_of_keyIs hk).trans hkey)
      ((recordsOrder_of_annotations_eq lib hann _).trans hrec)

theorem length_filter_flatMap_le {ι β : Type} {l : List ι} {f : ι → List β} {p : β → Bool}
    {q : ι → Bool} (h₁ : ∀ i ∈ l, ((f i).filter p).length ≤ 1)
    (h₀ : ∀ i ∈ l, q i = false → (f i).filter p = []) :
    ((l.flatMap f).filter p).length ≤ l.countP q := by
  induction l with
  | nil => simp
  | cons i l ih =>
    have ih' := ih (fun j hj => h₁ j (List.mem_cons_of_mem _ hj))
      (fun j hj => h₀ j (List.mem_cons_of_mem _ hj))
    rw [List.flatMap_cons, List.filter_append, List.length_append, List.countP_cons]
    cases hq : q i
    · rw [h₀ i (List.mem_cons_self _ _) hq]
      simpa using ih'
    · have := h₁ i (List.mem_cons_self _ _)
      simp only [if_true]
      omega

variable (lib)

/--
Over every run of the route controller on the route under `key`, with any other actors writing
routes in between, there are at most as many orders whose URI no version of the route records as
invocations of `handle` that did not return nil: they crashed, failed or are still running.
-/
theorem handle_loses_orders_only_on_failure {key : String} {Init : Sys → Prop}
    (henv : ∀ w w', Env w w' → World.RouteStep w w')
    (hinit : ∀ s, Init s → s.invocations = [] ∧ s.world.RoutesWf ∧ s.world.HistoryWf)
    (hs : Sys.Reachable (· = handle lib T key) Env Init s) :
    (lostOrders lib key s).length ≤ s.invocations.countP fun inv => !decide inv.returnedNil := by
  have hrun := hs.invocationsRun fun s hi => (hinit s hi).1
  obtain ⟨h, hu⟩ := hs.induction (I := fun s => RunWf lib T s ∧ UpdatesStored s)
    (fun s hi => let ⟨hinv, hw, hh⟩ := hinit s hi; ⟨.init hinv hw hh, updatesStored_init hinv⟩)
    (fun _ _ ⟨h, hu⟩ hs =>
      let hs := hs.mono fun p hp => ⟨key, hp⟩
      ⟨h.step henv hs, hu.step henv h hs⟩)
  refine length_filter_flatMap_le (fun inv hinv => ?_) fun inv hinv hr => ?_
  · obtain ⟨hstart, hsteps⟩ := hrun inv hinv
    rw [hstart] at hsteps
    exact (List.length_filter_le _ _).trans (handle_createdOrders_le_one lib hsteps)
  · have hr : inv.returnedNil := by simpa using hr
    refine List.filter_eq_nil_iff.mpr fun o ho => ?_
    simp [returnedNil_persisted h hu hinv (hrun inv hinv).1 hr o ho]

theorem idleRoute_loses_no_order :
    (∀ w w', World.Foreign w w' → World.RouteStep w w') ∧
    (∀ s : Sys, s = ⟨idleWorld, []⟩ → s.invocations = [] ∧ s.world.RoutesWf ∧ s.world.HistoryWf) ∧
    Sys.Reachable (· = handle exampleLib 0 "acme/web") World.Foreign (· = ⟨idleWorld, []⟩) orderedSys ∧
    (orderedSys.invocations.flatMap fun inv => inv.trace.filterMap Exchange.createdOrder) =
      [issuedOrder] ∧
    lostOrders exampleLib idleRoute.meta.key orderedSys = [] := by
  have hinit : ∀ s : Sys, s = ⟨idleWorld, []⟩ →
      s.invocations = [] ∧ s.world.RoutesWf ∧ s.world.HistoryWf := by
    rintro _ rfl
    exact ⟨rfl, ⟨by decide, by decide⟩, idleWorld_historyWf⟩
  have hs : Sys.Reachable (· = handle exampleLib 0 "acme/web") World.Foreign (· = ⟨idleWorld, []⟩)
      orderedSys := orderedSys_reachable rfl
  have hlost := handle_loses_orders_only_on_failure exampleLib (fun _ _ h => World.Foreign.routeStep h)
    hinit hs
  exact ⟨fun _ _ h => h.routeStep, hinit, hs, rfl,
    List.eq_nil_of_length_eq_zero (Nat.le_zero.mp (hlost.trans_eq (by decide)))⟩

end RouteController

end OpenshiftAcme
