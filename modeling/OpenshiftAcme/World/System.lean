import OpenshiftAcme.World.Answer

/-!
This module contains the runs of handlers against the world. `Exec` is one invocation, its calls
answered by the world with other clients acting in between. `Sys` is a controller process: any
number of invocations of its handler, their calls interleaved in any order, any of them crashing
at any point, with the world's other actors allowed by `Env` acting in between. Every run lemma
is an induction over `Sys.Reachable`.
-/

namespace OpenshiftAcme

namespace Prog

variable {α : Type}

/-- One invocation run from world `w`, the world's other actors acting in between its calls. -/
inductive Exec (Env : World → World → Prop) : World → Prog α → List Exchange → World → Prog α → Prop
  | refl (w : World) (p : Prog α) : Exec Env w p [] w p
  | call {w w₁ w₂ : World} {c : Call} {k : c.Reply → Prog α} {tr : List Exchange} {q : Prog α}
      (r : c.Reply) : w.Answer c r w₁ → Exec Env w₁ (k r) tr w₂ q →
      Exec Env w (.call c k) (⟨c, r⟩ :: tr) w₂ q
  | env {w w₁ w₂ : World} {p q : Prog α} {tr : List Exchange} :
      Env w w₁ → Exec Env w₁ p tr w₂ q → Exec Env w p tr w₂ q

theorem Exec.steps {Env : World → World → Prop} {w w' : World} {p q : Prog α}
    {tr : List Exchange} (h : Exec Env w p tr w' q) : Steps p tr q := by
  induction h with
  | refl => exact .refl _
  | call r _ _ ih => exact .call r ih
  | env _ _ ih => exact ih

end Prog

def World.Answers : World → List Exchange → World → Prop
  | w, [], w' => w' = w
  | w, ⟨c, r⟩ :: tr, w' => ∃ w₁, w.Answer c r w₁ ∧ World.Answers w₁ tr w'

namespace Prog

theorem Exec.of_steps {Env : World → World → Prop} {w w' : World} {p q : Prog α}
    {tr : List Exchange} (h : Steps p tr q) (ha : World.Answers w tr w') : Exec Env w p tr w' q := by
  induction h generalizing w with
  | refl => cases ha; exact .refl _ _
  | call r _ ih =>
    obtain ⟨w₁, ha₁, ha⟩ := ha
    exact .call r ha₁ (ih ha)

end Prog

/-- One invocation of a handler within a run of the controller process. -/
structure Invocation where
  start : Prog Unit
  trace : List Exchange
  cont : Prog Unit
  crashed : Bool

def Invocation.returnedNil (inv : Invocation) : Prop :=
  inv.crashed = false ∧ inv.cont = .pure ()

instance (inv : Invocation) : Decidable inv.returnedNil :=
  match h : inv.cont with
  | .pure () => if hc : inv.crashed = false then isTrue ⟨hc, h⟩ else isFalse fun hr => hc hr.1
  | .throw _ => isFalse fun hr => Prog.noConfusion (h.symm.trans hr.2)
  | .panic _ => isFalse fun hr => Prog.noConfusion (h.symm.trans hr.2)
  | .call _ _ => isFalse fun hr => Prog.noConfusion (h.symm.trans hr.2)

structure Sys where
  world : World
  invocations : List Invocation

namespace Sys

variable (Start : Prog Unit → Prop) (Env : World → World → Prop)

/-- A step of the process: an invocation starts, gets the reply to its next call, or crashes. -/
inductive Step : Sys → Sys → Prop
  | spawn (s : Sys) (p : Prog Unit) : Start p →
      Step s { s with invocations := s.invocations ++ [⟨p, [], p, false⟩] }
  | exchange (s : Sys) (i : Nat) (inv : Invocation) {c : Call} {k : c.Reply → Prog Unit}
      (r : c.Reply) (w' : World) :
      s.invocations[i]? = some inv → inv.crashed = false → inv.cont = .call c k →
      s.world.Answer c r w' →
      Step s ⟨w', s.invocations.set i { inv with trace := inv.trace ++ [⟨c, r⟩], cont := k r }⟩
  | crash (s : Sys) (i : Nat) (inv : Invocation) : s.invocations[i]? = some inv →
      Step s { s with invocations := s.invocations.set i { inv with crashed := true } }
  | env (s : Sys) (w' : World) : Env s.world w' → Step s { s with world := w' }

variable (Init : Sys → Prop)

def InvocationsRun (s : Sys) : Prop :=
  ∀ inv ∈ s.invocations, Start inv.start ∧ Prog.Steps inv.start inv.trace inv.cont

inductive Reachable : Sys → Prop
  | init {s : Sys} : Init s → Reachable s
  | step {s s' : Sys} : Reachable s → Step Start Env s s' → Reachable s'

variable {Start Env Init}

theorem Step.mono {Start' : Prog Unit → Prop} (hS : ∀ p, Start p → Start' p) {s s' : Sys}
    (h : Step Start Env s s') : Step Start' Env s s' := by
  cases h with
  | spawn p hp => exact .spawn s p (hS p hp)
  | exchange i inv r w' hi hc hk ha => exact .exchange s i inv r w' hi hc hk ha
  | crash i inv hi => exact .crash s i inv hi
  | env w' he => exact .env s w' he

theorem Reachable.induction {I : Sys → Prop} (hinit : ∀ s, Init s → I s)
    (hstep : ∀ s s', I s → Step Start Env s s' → I s') {s : Sys}
    (h : Reachable Start Env Init s) : I s := by
  induction h with
  | init h => exact hinit _ h
  | step _ hs ih => exact hstep _ _ ih hs

theorem invocationsRun_step {s s' : Sys} (h : InvocationsRun Start s)
    (hs : Step Start Env s s') : InvocationsRun Start s' := by
  cases hs with
  | spawn p hp =>
    intro inv hinv
    rcases List.mem_append.mp hinv with hinv | hinv
    · exact h inv hinv
    · simp only [List.mem_singleton] at hinv
      subst hinv
      exact ⟨hp, .refl _⟩
  | exchange i inv₀ r w' hi _ hc _ =>
    intro inv hinv
    rcases List.mem_or_eq_of_mem_set hinv with hinv | rfl
    · exact h inv hinv
    · obtain ⟨hst, hsteps⟩ := h inv₀ (List.getElem?_mem hi)
      exact ⟨hst, (hc ▸ hsteps).snoc r⟩
  | crash i inv₀ hi =>
    intro inv hinv
    rcases List.mem_or_eq_of_mem_set hinv with hinv | rfl
    · exact h inv hinv
    · exact h inv₀ (List.getElem?_mem hi)
  | env _ _ => exact h

theorem mem_set_or_getElem? {l : List Invocation} {i : Nat} {x a : Invocation} (ha : a ∈ l) :
    a ∈ l.set i x ∨ l[i]? = some a := by
  obtain ⟨j, hj⟩ := List.mem_iff_getElem?.mp ha
  by_cases hij : i = j
  · exact .inr (hij ▸ hj)
  · exact .inl (List.getElem?_mem (by rw [List.getElem?_set_ne hij]; exact hj))

theorem mem_set_self {l : List Invocation} {i : Nat} {x a : Invocation} (hi : l[i]? = some a) :
    x ∈ l.set i x := by
  obtain ⟨hlt, -⟩ := List.getElem?_eq_some_iff.mp hi
  exact List.getElem?_mem (List.getElem?_set_self hlt)

theorem Step.traces_grow {s s' : Sys} (h : Step Start Env s s') :
    ∀ inv ∈ s.invocations, ∃ inv' ∈ s'.invocations, inv'.start = inv.start ∧ inv.trace <+: inv'.trace := by
  intro inv hinv
  cases h with
  | spawn p _ => exact ⟨inv, List.mem_append_left _ hinv, rfl, List.prefix_refl _⟩
  | exchange i inv₀ r w' hi _ _ _ =>
    rcases mem_set_or_getElem? hinv with h | h
    · exact ⟨inv, h, rfl, List.prefix_refl _⟩
    · rw [hi] at h
      cases h
      exact ⟨_, mem_set_self hi, rfl, List.prefix_append _ _⟩
  | crash i inv₀ hi =>
    rcases mem_set_or_getElem? hinv with h | h
    · exact ⟨inv, h, rfl, List.prefix_refl _⟩
    · rw [hi] at h
      cases h
      exact ⟨_, mem_set_self hi, rfl, List.prefix_refl _⟩
  | env _ _ => exact ⟨inv, hinv, rfl, List.prefix_refl _⟩

theorem set_of_getElem? {l : List Invocation} {i : Nat} {a : Invocation} (h : l[i]? = some a) :
    l.set i a = l := by
  refine List.ext_getElem? fun j => ?_
  rw [List.getElem?_set]
  split
  · subst_vars
    obtain ⟨hlt, -⟩ := List.getElem?_eq_some_iff.mp h
    rw [if_pos hlt, h]
  · rfl

theorem Reachable.exec {w w' : World} {p q : Prog Unit} {tr : List Exchange}
    (h : Prog.Exec Env w p tr w' q) :
    ∀ {s : Sys} {i : Nat} {inv : Invocation}, Reachable Start Env Init s → s.world = w →
      s.invocations[i]? = some inv → inv.crashed = false → inv.cont = p →
      Reachable Start Env Init
        ⟨w', s.invocations.set i { inv with trace := inv.trace ++ tr, cont := q }⟩ := by
  induction h with
  | refl w p =>
    intro s i inv hs hw hi _ hp
    rw [List.append_nil, ← hp, set_of_getElem? hi, ← hw]
    exact hs
  | call r ha _ ih =>
    intro s i inv hs hw hi hc hp
    obtain ⟨hlt, -⟩ := List.getElem?_eq_some_iff.mp hi
    have := @ih _ i { inv with trace := inv.trace ++ [⟨_, r⟩], cont := _ }
      (hs.step (.exchange s i inv r _ hi hc hp (by rw [hw]; exact ha))) rfl
      (List.getElem?_set_self hlt) hc rfl
    simpa only [List.set_set, List.append_assoc, List.singleton_append] using this
  | @env _ w₁ _ _ _ _ he _ ih =>
    intro s i inv hs hw hi hc hp
    exact @ih { s with world := w₁ } i inv (hs.step (.env s _ (by rw [hw]; exact he))) rfl hi hc hp

theorem Reachable.spawn_exec {s : Sys} {p q : Prog Unit} {tr : List Exchange} {w' : World}
    (hs : Reachable Start Env Init s) (hp : Start p) (h : Prog.Exec Env s.world p tr w' q) :
    Reachable Start Env Init ⟨w', s.invocations ++ [⟨p, tr, q, false⟩]⟩ := by
  have := Reachable.exec h (hs.step (.spawn s p hp)) rfl (List.getElem?_concat_length _ _) rfl rfl
  simpa using this

theorem Reachable.invocationsRun (hinit : ∀ s, Init s → s.invocations = [])
    {s : Sys} (h : Reachable Start Env Init s) : InvocationsRun Start s :=
  h.induction (fun s hs => by simp [InvocationsRun, hinit s hs])
    (fun _ _ hi hs => invocationsRun_step hi hs)

theorem Reachable.keeps (Q : World → Prop) {P : Call → Prop} (hstart : ∀ p, Start p → Prog.Only P p)
    (hcall : ∀ w c r w', P c → w.Answer c r w' → Q w → Q w') (henv : ∀ w w', Env w w' → Q w → Q w')
    (hinit : ∀ s, Init s → s.invocations = [] ∧ Q s.world)
    {s : Sys} (h : Reachable Start Env Init s) : Q s.world := by
  have := h.induction (I := fun s => InvocationsRun Start s ∧ Q s.world)
    (fun s hs => ⟨by simp [InvocationsRun, (hinit s hs).1], (hinit s hs).2⟩)
    fun s s' hi hs => ⟨invocationsRun_step hi.1 hs, by
      cases hs with
      | spawn => exact hi.2
      | @exchange i inv c k r w' hget _ hk ha =>
        obtain ⟨hst, hsteps⟩ := hi.1 inv (List.getElem?_mem hget)
        have hc : Prog.Only P inv.cont := ((hstart _ hst).steps hsteps).2
        rw [hk] at hc
        exact hcall _ _ _ _ hc.head ha hi.2
      | crash => exact hi.2
      | env w' he => exact henv _ _ he hi.2⟩
  exact this.2

end Sys

end OpenshiftAcme
