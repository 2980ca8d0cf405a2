import OpenshiftAcme.World.RouteStore

/-!
This module contains the UIDs of the route store. A UID is handed out once, and a route keeps its
UID across updates and status reports. So once no route stored under a key has a UID that was
handed out, none ever has it, and no update that carries that UID as its precondition succeeds
under that key, whatever other clients do in between.
-/

namespace OpenshiftAcme

namespace World

variable {w w' : World} {ns name u : String}

structure UidAbsent (w : World) (ns name u : String) : Prop where
  nonempty : u ≠ ""
  handed : u ∈ w.uids
  absent : ∀ z, w.routes.find ns name = some z → z.meta.uid ≠ u

theorem RouteStep.uidAbsent (h : RouteStep w w') (ha : w.UidAbsent ns name u) :
    w'.UidAbsent ns name u := by
  refine ⟨ha.nonempty, h.uids u ha.handed, fun z hz => ?_⟩
  rcases h.effect.find ns name with hf | ⟨y, hf, huid, -⟩ | ⟨cur, y, hcur, hf, huid, -⟩ | hf <;>
    rw [hz] at hf
  · exact ha.absent z hf.symm
  · rw [Option.some.inj hf]
    exact fun he => huid (he ▸ ha.handed)
  · rw [Option.some.inj hf, huid]
    exact ha.absent cur hcur
  · cases hf

theorem Answer.routeUpdate_uidAbsent {x y : Route} (h : w.Answer (.routeUpdate ns x) (.ok y) w')
    (ha : w.UidAbsent ns x.meta.name x.meta.uid) : False := by
  obtain ⟨cur, hcur, -, huid, -⟩ := Answer.routeUpdate_ok h
  rcases huid with he | he
  · exact ha.nonempty he
  · exact ha.absent cur hcur he.symm

end World

namespace Prog

open World

variable {α : Type} {Env : World → World → Prop} {w w' : World} {p q : Prog α} {tr : List Exchange}
  {ns name u : String}

theorem Exec.uidAbsent (henv : ∀ w w', Env w w' → RouteStep w w') (h : Exec Env w p tr w' q)
    (ha : w.UidAbsent ns name u) :
    w'.UidAbsent ns name u ∧ ∀ e ∈ tr, ∀ x y, e.routeUpdated = some (ns, x, y) →
      x.meta.name = name → x.meta.uid ≠ u := by
  induction h with
  | refl => exact ⟨ha, fun _ he => nomatch he⟩
  | call r ha' _ ih =>
    obtain ⟨ha₂, htr⟩ := ih ((Answer.routeStep ha').uidAbsent ha)
    refine ⟨ha₂, fun e he x y hu hname huid => ?_⟩
    rcases List.mem_cons.mp he with rfl | he
    · cases Exchange.routeUpdated_eq_some hu
      subst hname huid
      exact Answer.routeUpdate_uidAbsent ha' ha
    · exact htr e he x y hu hname huid
  | env he _ ih => exact ih ((henv _ _ he).uidAbsent ha)

end Prog

end OpenshiftAcme
