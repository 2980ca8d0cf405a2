import OpenshiftAcme.Route.Lemmas.Entry
import OpenshiftAcme.Route.Lemmas.Orders

/-!
This module contains the runs of the route controller: invocations of `handle` for any keys, their
calls interleaved in any order, any of them crashing at any point, with other actors in between.
Every run keeps the route store's versions and history in order, every invocation a run of
`handle`, and every route an invocation read from the cache in the history. Over such runs the
status annotation of one route records only orders that an invocation of `handle` for the route
created, each with the instant read right after it, and never replaces an order in flight by
another.
-/

namespace OpenshiftAcme

namespace RouteController

open Prog (Steps OnlyAfter)

variable (lib : Lib)

def HandleTask (T : Int) (p : Prog Unit) : Prop :=
  ∃ key, p = handle lib T key

structure RunWf (T : Int) (s : Sys) : Prop where
  wf : s.world.RoutesWf
  history : s.world.HistoryWf
  run : Sys.InvocationsRun (HandleTask lib T) s
  reads : ∀ inv ∈ s.invocations, ∀ key r₀,
    (⟨.routeCacheGet key, .ok (some r₀)⟩ : Exchange) ∈ inv.trace →
      r₀ ∈ s.world.routes.history ∧ r₀.meta.key = key

def Issued (T : Int) (key : String) (s : Sys) (uri : String) (t : Int) : Prop :=
  ∃ inv ∈ s.invocations, inv.start = handle lib T key ∧ OrderStarted inv.trace uri t

variable {lib} {T : Int} {Env : World → World → Prop} {s s' : Sys}

theorem RunWf.init (hinv : s.invocations = []) (hw : s.world.RoutesWf) (hh : s.world.HistoryWf) :
    RunWf lib T s :=
  ⟨hw, hh, fun inv h => by simp [hinv] at h, fun inv h => by simp [hinv] at h⟩

theorem RunWf.step (henv : ∀ w w', Env w w' → World.RouteStep w w') (h : RunWf lib T s)
    (hs : Sys.Step (HandleTask lib T) Env s s') : RunWf lib T s' := by
  have hrun := Sys.invocationsRun_step h.run hs
  cases hs with
  | spawn p _ =>
    refine ⟨h.wf, h.history, hrun, fun inv hinv key r₀ he => ?_⟩
    rcases List.mem_append.mp hinv with hinv | hinv
    · exact h.reads inv hinv key r₀ he
    · rw [List.mem_singleton.mp hinv] at he
      cases he
  | exchange i inv₀ reply w' hi _ _ ha =>
    have hstep := World.Answer.routeStep ha
    have hsub := hstep.effect.history.subset
    refine ⟨hstep.routesWf h.wf, hstep.historyWf h.wf h.history, hrun, fun inv hinv key r₀ he => ?_⟩
    rcases List.mem_or_eq_of_mem_set hinv with hinv | rfl
    · obtain ⟨hm, hk⟩ := h.reads inv hinv key r₀ he
      exact ⟨hsub hm, hk⟩
    rcases List.mem_append.mp he with he | he
    · obtain ⟨hm, hk⟩ := h.reads inv₀ (List.getElem?_mem hi) key r₀ he
      exact ⟨hsub hm, hk⟩
    · cases List.mem_singleton.mp he
      obtain ⟨rfl, hm, hk⟩ := ha
      exact ⟨hm, hk⟩
  | crash i inv₀ hi =>
    refine ⟨h.wf, h.history, hrun, fun inv hinv key r₀ he => ?_⟩
    rcases List.mem_or_eq_of_mem_set hinv with hinv | rfl
    · exact h.reads inv hinv key r₀ he
    · exact h.reads inv₀ (List.getElem?_mem hi) key r₀ he
  | env w' he =>
    have hstep := henv _ _ he
    refine ⟨hstep.routesWf h.wf, hstep.historyWf h.wf h.history, hrun, fun inv hinv key r₀ hr => ?_⟩
    obtain ⟨hm, hk⟩ := h.reads inv hinv key r₀ hr
    exact ⟨hstep.effect.history.subset hm, hk⟩

theorem Issued.step {key uri : String} {t : Int} (hs : Sys.Step (HandleTask lib T) Env s s')
    (h : Issued lib T key s uri t) : Issued lib T key s' uri t := by
  obtain ⟨inv, hinv, hstart, ho⟩ := h
  obtain ⟨inv', hinv', hstart', htr⟩ := hs.traces_grow inv hinv
  exact ⟨inv', hinv', hstart'.trans hstart, ho.mono htr.isInfix⟩

theorem key_eq_of_keyIs {r z : Route} (h : Store.keyIs r.meta.«namespace» r.meta.name z) :
    z.meta.key = r.meta.key := by
  simp only [Store.keyIs, Bool.and_eq_true, decide_eq_true_eq] at h
  simp only [ObjectMeta.key, ← h.1, ← h.2]
  rfl

theorem OrdersRecorded.step {r : Route} (hname : ∀ s, getTemporaryName lib s ≠ r.meta.name)
    (h : RunWf lib T s)
    (ho : OrdersRecorded lib r.meta.«namespace» r.meta.name (Issued lib T r.meta.key s) s.world)
    (hs : Sys.Step (HandleTask lib T) (KeepsStatus lib r.meta.«namespace» r.meta.name) s s') :
    OrdersRecorded lib r.meta.«namespace» r.meta.name (Issued lib T r.meta.key s') s'.world := by
  have ho' := ho.mono fun _ _ => Issued.step hs
  have hexposer : ∀ {n}, IsExposerName lib n → n ≠ r.meta.name := fun ⟨_, he⟩ hn => hname _ (he ▸ hn)
  cases hs with
  | spawn p _ => exact ho'
  | crash i inv₀ _ => exact ho'
  | env w' he => exact he.ordersRecorded h.history ho'
  | exchange i inv₀ reply w' hi _ hc ha =>
    obtain ⟨⟨key₀, hstart⟩, hsteps⟩ := h.run inv₀ (List.getElem?_mem hi)
    rw [hstart, hc] at hsteps
    have hwr := handle_routeWrites lib _ _ _ hsteps
    rcases (World.Answer.routeWritten ha).sent with hr | hsent
    · exact ho'.of_history (by rw [hr])
    cases hsent with
    | create ns x y hkey _ hs =>
      obtain ⟨r₀, tr', -, hx⟩ := hwr ns x (.inl rfl)
      exact ho'.snoc (by rw [hs]) fun hk => absurd (keyIs_eq hk hkey).2 (hexposer hx)
    | replace ns x cur y hcur hrv hkey hann hs =>
      obtain ⟨r₀, tr', htr, hx | hw⟩ := hwr ns x (.inr rfl)
      · exact ho'.snoc (by rw [hs]) fun hk => absurd (keyIs_eq hk hkey).2 (hexposer hx)
      refine ho'.snoc (by rw [hs]) fun hk => ?_
      obtain ⟨rfl, hname'⟩ := keyIs_eq hk hkey
      -- the update carried the version read, so it replaced the very route read
      obtain ⟨hr₀, hkey₀⟩ := h.reads inv₀ (List.getElem?_mem hi) key₀ r₀ (by
        rw [htr]
        exact List.mem_cons_self _ _)
      have hcur' : Store.keyIs _ x.meta.name cur := List.find?_some hcur
      obtain rfl : r₀ = cur := h.history.eq_of_resourceVersion hr₀ (h.history.find_mem hcur)
        (hw.2.2.1.symm.trans hrv)
      rw [hname'] at hcur hcur'
      have hsuf : tr' <:+ inv₀.trace := htr ▸ List.suffix_cons _ _
      refine ⟨hw.recordsIssued (ho'.recorded r₀ hr₀ hcur') (fun u t hot => ⟨_, Sys.mem_set_self hi,
        by rw [hstart, ← hkey₀, key_eq_of_keyIs hcur'],
        hot.mono (hsuf.isInfix.trans (List.prefix_append _ _).isInfix)⟩) hann, fun a ha => ?_⟩
      rw [h.history.latest _ _ _ hcur] at ha
      cases ha
      exact hw.orderKept hann

variable (lib)

/--
Over every run of the route controller, with other clients, routers and the queue's clock never
writing the status annotation of the route `r`, from a store where no version of `r` records an
order in flight: every version of `r` the store has held records no order in flight, or an order
that an invocation of `handle` for `r` created, with the instant that invocation read right after
creating it; and each version of `r` keeps the order in flight of the one before it, or records
none.
-/
theorem handle_records_started_orders {r : Route} {Init : Sys → Prop}
    (hname : ∀ s, getTemporaryName lib s ≠ r.meta.name)
    (hinit : ∀ s, Init s → s.invocations = [] ∧ s.world.RoutesWf ∧ s.world.HistoryWf ∧
      ∀ y ∈ s.world.routes.history, Store.keyIs r.meta.«namespace» r.meta.name y →
        NoOrderInFlight lib y)
    (hs : Sys.Reachable (HandleTask lib T) (KeepsStatus lib r.meta.«namespace» r.meta.name) Init s) :
    (∀ y ∈ s.world.routes.history, Store.keyIs r.meta.«namespace» r.meta.name y →
      RecordsIssued lib (Issued lib T r.meta.key s) y) ∧
    (s.world.routes.versions r.meta.«namespace» r.meta.name).Chain' (OrderKept lib) := by
  have h := hs.induction (I := fun s => RunWf lib T s ∧
      OrdersRecorded lib r.meta.«namespace» r.meta.name (Issued lib T r.meta.key s) s.world)
    (fun s hi => by
      obtain ⟨hinv, hw, hh, hno⟩ := hinit s hi
      refine ⟨.init hinv hw hh, fun y hy hk => (hno y hy hk).recordsIssued, ?_⟩
      refine (List.pairwise_of_forall_mem_list fun a _ b hb => ?_).chain'
      exact (hno b (List.mem_of_mem_filter hb) (List.of_mem_filter hb)).orderKept a)
    (fun _ _ ⟨h, ho⟩ hs =>
      ⟨h.step (fun _ _ he => he.foreign.routeStep) hs, ho.step hname h hs⟩)
  exact ⟨h.2.recorded, h.2.kept⟩

/-! ## A run in which `handle` creates an order and records it -/

def idleJson : String :=
  "\x7b\"provisioningStatus\":\x7b\"startedAt\":\"1970-01-01T00:00:00Z\",\"orderUri\":\"\"," ++
    "\"orderStatus\":\"\"\x7d,\"observedGeneration\":0\x7d"

def recordedJson : String :=
  "\x7b\"provisioningStatus\":\x7b\"startedAt\":\"1970-01-01T00:00:42Z\"," ++
    "\"orderUri\":\"https://ca.example/order/1\",\"orderStatus\":\"\"\x7d,\"observedGeneration\":0\x7d"

def idleRoute : Route :=
  { meta := { ObjectMeta.named "web" with
      «namespace» := "acme", uid := "uid-web", resourceVersion := 1,
      annotations := some [("acme-status", idleJson)] }
    spec := { host := "www.example.com", path := "", «to» := ⟨"Service", "web"⟩,
              alternateBackends := [], port := none, tls := none }
    status := ⟨[⟨"www.example.com", true⟩]⟩ }

def sentRoute : Route :=
  { idleRoute with meta := { idleRoute.meta with annotations := some [("acme-status", recordedJson)] } }

def recordedRoute : Route :=
  { sentRoute with meta := { sentRoute.meta with resourceVersion := 2 } }

def issuedOrder : Acme.Order :=
  ⟨"https://ca.example/order/1", Acme.statusPending, ["https://ca.example/authz/1"],
    "https://ca.example/finalize/1"⟩

theorem getStatus_idleRoute : getStatus exampleLib idleRoute = .ok ⟨some ⟨0, "", ""⟩, 0⟩ :=
  getStatus_of_marshal exampleLib rfl rfl

def idleWorld : World :=
  { World.empty with routes := ⟨[idleRoute], [idleRoute]⟩, revision := 1, uids := ["uid-web"] }

theorem idleWorld_historyWf : idleWorld.HistoryWf := by
  refine ⟨List.pairwise_singleton _ _, fun ns name cur hf => ?_⟩
  have hk : Store.keyIs ns name cur := List.find?_some hf
  obtain rfl := List.mem_singleton.mp (List.mem_of_find?_eq_some hf)
  simp only [Store.versions, idleWorld, List.filter_singleton, hk, cond_true, List.getLast?_singleton]

def newOrderTrace : List Exchange :=
  [⟨.routeCacheGet "acme/web", .ok (some idleRoute)⟩, ⟨.getClient, .ok ()⟩,
    ⟨.authorizeOrder "www.example.com", .ok issuedOrder⟩, ⟨.now, 42000000000⟩,
    ⟨.routeUpdate "acme" sentRoute, .ok recordedRoute⟩]

def orderedSys : Sys :=
  ⟨{ idleWorld with routes := ⟨[recordedRoute], [idleRoute, recordedRoute]⟩, revision := 2 },
    [⟨handle exampleLib 0 "acme/web", newOrderTrace, .pure (), false⟩]⟩

theorem orderedSys_reachable {Start : Prog Unit → Prop} {Env : World → World → Prop}
    (h : Start (handle exampleLib 0 "acme/web")) :
    Sys.Reachable Start Env (· = ⟨idleWorld, []⟩) orderedSys := by
  have hset : setStatus exampleLib idleRoute ⟨some ⟨42000000000, issuedOrder.uri, ""⟩, 0⟩ =
      .ok sentRoute := rfl
  have hsteps : Prog.Steps (handle exampleLib 0 "acme/web") newOrderTrace (.pure ()) :=
    steps_handle_newOrder exampleLib (by rfl) (by rfl) (by rfl) getStatus_idleRoute rfl rfl hset
      (by decide)
  have hans : World.Answers idleWorld newOrderTrace orderedSys.world :=
    ⟨_, ⟨rfl, List.mem_singleton_self _, rfl⟩, _, rfl, _, rfl, _, rfl, _, rfl, rfl⟩
  have h₀ : Sys.Reachable Start Env (· = ⟨idleWorld, []⟩) ⟨idleWorld, []⟩ := .init rfl
  exact h₀.spawn_exec h (Prog.Exec.of_steps hsteps hans)

theorem idleRoute_records_its_order :
    (∀ s, getTemporaryName exampleLib s ≠ idleRoute.meta.name) ∧
    (∀ s : Sys, s = ⟨idleWorld, []⟩ → s.invocations = [] ∧ s.world.RoutesWf ∧ s.world.HistoryWf ∧
      ∀ y ∈ s.world.routes.history, Store.keyIs idleRoute.meta.«namespace» idleRoute.meta.name y →
        NoOrderInFlight exampleLib y) ∧
    Sys.Reachable (HandleTask exampleLib 0)
      (KeepsStatus exampleLib idleRoute.meta.«namespace» idleRoute.meta.name) (· = ⟨idleWorld, []⟩)
      orderedSys ∧
    Issued exampleLib 0 idleRoute.meta.key orderedSys issuedOrder.uri 42000000000 ∧
    getStatus exampleLib recordedRoute = .ok ⟨some ⟨42000000000, issuedOrder.uri, ""⟩, 0⟩ ∧
    ((∀ y ∈ orderedSys.world.routes.history,
        Store.keyIs idleRoute.meta.«namespace» idleRoute.meta.name y →
          RecordsIssued exampleLib (Issued exampleLib 0 idleRoute.meta.key orderedSys) y) ∧
      (orderedSys.world.routes.versions idleRoute.meta.«namespace» idleRoute.meta.name).Chain'
        (OrderKept exampleLib)) := by
  have hn : ∀ s, getTemporaryName exampleLib s ≠ idleRoute.meta.name := fun s h => by
    have := congrArg String.length h
    simp only [getTemporaryName, String.length_append, String.length_mk, List.length_map,
      show "acme-exposer-".length = 13 by decide, show idleRoute.meta.name.length = 3 by decide] at this
    omega
  have hi : ∀ s : Sys, s = ⟨idleWorld, []⟩ → s.invocations = [] ∧ s.world.RoutesWf ∧
      s.world.HistoryWf ∧ ∀ y ∈ s.world.routes.history,
        Store.keyIs idleRoute.meta.«namespace» idleRoute.meta.name y → NoOrderInFlight exampleLib y := by
    rintro _ rfl
    refine ⟨rfl, ⟨by decide, by decide⟩, idleWorld_historyWf, fun y hy _ st hst ps hps => ?_⟩
    rw [List.mem_singleton.mp hy, getStatus_idleRoute] at hst
    cases hst
    cases hps
    rfl
  have hs : Sys.Reachable (HandleTask exampleLib 0) (KeepsStatus exampleLib "acme" "web")
      (· = ⟨idleWorld, []⟩) orderedSys := orderedSys_reachable ⟨"acme/web", rfl⟩
  exact ⟨hn, hi, hs, ⟨_, List.mem_singleton_self _, rfl, _, issuedOrder, rfl, [_, _], [_], rfl⟩,
    getStatus_of_marshal exampleLib rfl rfl, handle_records_started_orders exampleLib hn hi hs⟩

end RouteController

end OpenshiftAcme
