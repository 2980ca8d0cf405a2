import OpenshiftAcme.World.RouteStore

/-!
This module contains the resource versions of the route store. Every version the store holds or
has held is at most the world's revision, and every route stored later under a key is the one
stored before or a version written since. A successful update carries the version of the stored
route, and the store answers it with that version only when the update changed nothing. So along
one invocation, with other clients writing in between, a later successful update of a route
carries a version no earlier than the answer to an earlier one.
-/

namespace OpenshiftAcme

namespace World

variable {w w' : World}

structure RoutesWf (w : World) : Prop where
  objects : ∀ x ∈ w.routes.objects, x.meta.resourceVersion ≤ w.revision
  history : ∀ x ∈ w.routes.history, x.meta.resourceVersion ≤ w.revision

structure RoutesGrow (w w' : World) : Prop where
  revision : w.revision ≤ w'.revision
  find : ∀ ns name y, w'.routes.find ns name = some y →
    w.routes.find ns name = some y ∨ w.revision < y.meta.resourceVersion

theorem RoutesGrow.refl (w : World) : RoutesGrow w w :=
  ⟨le_rfl, fun _ _ _ h => .inl h⟩

theorem RoutesGrow.trans {w'' : World} (h₁ : RoutesGrow w w') (h₂ : RoutesGrow w' w'') :
    RoutesGrow w w'' := by
  refine ⟨h₁.revision.trans h₂.revision, fun ns name y hy => ?_⟩
  rcases h₂.find ns name y hy with hy | hlt
  · exact h₁.find ns name y hy
  · exact .inr (lt_of_le_of_lt h₁.revision hlt)

theorem RouteStep.routesGrow (h : RouteStep w w') : RoutesGrow w w' := by
  refine ⟨h.revision, fun ns name y hy => ?_⟩
  rcases h.effect.find ns name with hf | ⟨y', hf, -, hrv⟩ | ⟨-, y', -, hf, -, hrv⟩ | hf <;>
    rw [hy] at hf
  · exact .inl hf.symm
  · exact .inr (by rw [Option.some.inj hf]; omega)
  · exact .inr (by rw [Option.some.inj hf]; omega)
  · cases hf

theorem RouteStep.routesWf (hw : w.RoutesWf) (h : RouteStep w w') : w'.RoutesWf := by
  have hle : ∀ z : Route, z.meta.resourceVersion ≤ w.revision → z.meta.resourceVersion ≤ w'.revision :=
    fun _ hz => hz.trans h.revision
  cases h.effect with
  | keep hr =>
    exact ⟨fun z hz => hle z (hw.objects z (hr ▸ hz)), fun z hz => hle z (hw.history z (hr ▸ hz))⟩
  | create ns name y _ _ _ hrv hrev hs =>
    refine ⟨fun z hz => ?_, fun z hz => ?_⟩ <;> rw [hs] at hz <;> rw [hrev] <;>
      rcases List.mem_append.mp hz with hz | hz
    · exact (hw.objects z hz).trans (Nat.le_succ _)
    · rw [List.mem_singleton.mp hz, hrv]
    · exact (hw.history z hz).trans (Nat.le_succ _)
    · rw [List.mem_singleton.mp hz, hrv]
  | replace ns name cur y _ _ _ hrv hrev hs =>
    refine ⟨fun z hz => ?_, fun z hz => ?_⟩ <;> rw [hs] at hz <;> rw [hrev]
    · obtain ⟨z', hz', rfl⟩ := List.mem_map.mp hz
      split
      · exact hrv.le
      · exact (hw.objects z' hz').trans (Nat.le_succ _)
    · rcases List.mem_append.mp hz with hz | hz
      · exact (hw.history z hz).trans (Nat.le_succ _)
      · rw [List.mem_singleton.mp hz, hrv]
  | delete ns name hs =>
    refine ⟨fun z hz => hle z (hw.objects z ?_), fun z hz => hle z (hw.history z ?_)⟩ <;>
      rw [hs] at hz
    · exact List.mem_of_mem_filter hz
    · exact hz

theorem RoutesGrow.le {ns name : String} {z y : Route} (hw : w.RoutesWf) (h : RoutesGrow w w')
    (hz : w.routes.find ns name = some z) (hy : w'.routes.find ns name = some y) :
    z.meta.resourceVersion ≤ y.meta.resourceVersion := by
  rcases h.find ns name y hy with hy | hlt
  · rw [hz] at hy
    rw [Option.some.inj hy]
  · exact ((hw.objects z (find_mem hz)).trans_lt hlt).le

end World

namespace Exchange

def AnsweredAfter (e : Exchange) : Prop :=
  ∀ ns x y, e.routeUpdated = some (ns, x, y) → x.meta.resourceVersion ≤ y.meta.resourceVersion

def VersionsOrdered (e₁ e₂ : Exchange) : Prop :=
  ∀ ns x₁ y₁ x₂ y₂, e₁.routeUpdated = some (ns, x₁, y₁) → e₂.routeUpdated = some (ns, x₂, y₂) →
    x₂.meta.name = x₁.meta.name → y₁.meta.resourceVersion ≤ x₂.meta.resourceVersion

end Exchange

namespace World

variable {w w₁ : World}

def UpdatesAfter (w : World) (tr : List Exchange) : Prop :=
  ∀ e ∈ tr, ∀ ns x y, e.routeUpdated = some (ns, x, y) →
    (∃ z, w.routes.find ns x.meta.name = some z ∧ z.meta.resourceVersion = x.meta.resourceVersion) ∨
      w.revision < x.meta.resourceVersion

theorem UpdatesAfter.of_grow {tr : List Exchange} (hg : RoutesGrow w w₁) (h : UpdatesAfter w₁ tr) :
    UpdatesAfter w tr := by
  intro e he ns x y hu
  rcases h e he ns x y hu with ⟨z, hz, hv⟩ | hlt
  · rcases hg.find _ _ z hz with hz | hlt
    · exact .inl ⟨z, hz, hv⟩
    · exact .inr (hv ▸ hlt)
  · exact .inr (lt_of_le_of_lt hg.revision hlt)

theorem Answer.routeUpdated {c : Call} {r : c.Reply} (hw : w.RoutesWf) (h : w.Answer c r w₁)
    {ns : String} {x y : Route} (hu : (⟨c, r⟩ : Exchange).routeUpdated = some (ns, x, y)) :
    (∃ z, w.routes.find ns x.meta.name = some z ∧ z.meta.resourceVersion = x.meta.resourceVersion) ∧
    w₁.routes.find ns x.meta.name = some y ∧ x.meta.resourceVersion ≤ y.meta.resourceVersion := by
  cases Exchange.routeUpdated_eq_some hu
  obtain ⟨cur, hcur, hv, -, -, hy, hcase⟩ := Answer.routeUpdate_ok h
  refine ⟨⟨cur, hcur, hv.symm⟩, hy, ?_⟩
  rcases hcase with ⟨rfl, -⟩ | hrv
  · exact hv.le
  · have := hw.objects cur (find_mem hcur)
    omega

end World

namespace Prog

open World Exchange

variable {α : Type} {Env : World → World → Prop} {w w' : World} {p q : Prog α} {tr : List Exchange}

theorem Exec.routesGrow (henv : ∀ w w', Env w w' → RouteStep w w')
    (h : Exec Env w p tr w' q) (hw : w.RoutesWf) : w'.RoutesWf ∧ RoutesGrow w w' := by
  induction h with
  | refl => exact ⟨hw, .refl _⟩
  | call _ ha _ ih =>
    obtain ⟨hw₂, hg₂⟩ := ih ((Answer.routeStep ha).routesWf hw)
    exact ⟨hw₂, (Answer.routeStep ha).routesGrow.trans hg₂⟩
  | env he _ ih =>
    obtain ⟨hw₂, hg₂⟩ := ih ((henv _ _ he).routesWf hw)
    exact ⟨hw₂, (henv _ _ he).routesGrow.trans hg₂⟩

theorem Exec.versionsOrdered (henv : ∀ w w', Env w w' → RouteStep w w')
    (h : Exec Env w p tr w' q) (hw : w.RoutesWf) :
    UpdatesAfter w tr ∧ tr.Pairwise VersionsOrdered ∧ ∀ e ∈ tr, AnsweredAfter e := by
  induction h with
  | refl => exact ⟨(fun _ he => nomatch he), .nil, (fun _ he => nomatch he)⟩
  | call _ ha _ ih =>
    have hw₁ := (Answer.routeStep ha).routesWf hw
    have hg₁ := (Answer.routeStep ha).routesGrow
    obtain ⟨hu, hp, hans⟩ := ih hw₁
    refine ⟨?_, List.pairwise_cons.mpr ⟨?_, hp⟩, ?_⟩
    · intro e he
      rcases List.mem_cons.mp he with rfl | he
      · exact fun ns x y hx => .inl (Answer.routeUpdated hw ha hx).1
      · exact hu.of_grow hg₁ e he
    · intro e he ns x₁ y₁ x₂ y₂ h₁ h₂ hname
      obtain ⟨-, hy₁, -⟩ := Answer.routeUpdated hw ha h₁
      rcases hu e he ns x₂ y₂ h₂ with ⟨z, hz, hv⟩ | hlt
      · rw [hname, hy₁] at hz
        rw [← hv, Option.some.inj hz]
      · exact ((hw₁.objects y₁ (find_mem hy₁)).trans_lt hlt).le
    · intro e he
      rcases List.mem_cons.mp he with rfl | he
      · exact fun ns x y hx => (Answer.routeUpdated hw ha hx).2.2
      · exact hans e he
  | env he _ ih =>
    obtain ⟨hu, hp, hans⟩ := ih ((henv _ _ he).routesWf hw)
    exact ⟨hu.of_grow (henv _ _ he).routesGrow, hp, hans⟩

end Prog

end OpenshiftAcme
