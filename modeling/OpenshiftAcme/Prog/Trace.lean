import OpenshiftAcme.Prog.Basic

/-!
This module contains the trace semantics of handlers: `Steps p tr q` says that `p`, given the
replies recorded in the exchanges `tr`, has made exactly those calls and has `q` left to run. A
crash at any point is a run that stops at some `q`. The lemmas split the steps of a sequential
composition into the steps of its parts, so that properties of a handler are assembled from
properties of its pieces.
-/

namespace OpenshiftAcme

structure Exchange where
  call : Call
  reply : call.Reply

namespace Prog

/-- `p`, fed the replies of `tr`, makes exactly the calls of `tr` and has `q` left to run. -/
inductive Steps : Prog α → List Exchange → Prog α → Prop
  | refl (p : Prog α) : Steps p [] p
  | call {c : Call} {k : c.Reply → Prog α} {tr : List Exchange} {q : Prog α} (r : c.Reply) :
      Steps (k r) tr q → Steps (.call c k) (⟨c, r⟩ :: tr) q

inductive Only (P : Call → Prop) : Prog α → Prop
  | pure (a : α) : Only P (.pure a)
  | throw (e : Err) : Only P (.throw e)
  | panic (m : String) : Only P (.panic m)
  | call {c : Call} {k : c.Reply → Prog α} : P c → (∀ r, Only P (k r)) → Only P (.call c k)

variable {α β : Type} {p q s : Prog α} {tr tr₁ tr₂ : List Exchange}

@[simp] theorem steps_pure_iff {a : α} : Steps (.pure a) tr q ↔ tr = [] ∧ q = .pure a := by
  constructor
  · rintro ⟨⟩
    exact ⟨rfl, rfl⟩
  · rintro ⟨rfl, rfl⟩
    exact .refl _

@[simp] theorem steps_throw_iff {e : Err} : Steps (.throw e : Prog α) tr q ↔ tr = [] ∧ q = .throw e := by
  constructor
  · rintro ⟨⟩
    exact ⟨rfl, rfl⟩
  · rintro ⟨rfl, rfl⟩
    exact .refl _

@[simp] theorem steps_panic_iff {m : String} :
    Steps (.panic m : Prog α) tr q ↔ tr = [] ∧ q = .panic m := by
  constructor
  · rintro ⟨⟩
    exact ⟨rfl, rfl⟩
  · rintro ⟨rfl, rfl⟩
    exact .refl _

theorem steps_call_iff {c : Call} {k : c.Reply → Prog α} :
    Steps (.call c k) tr q ↔
      (tr = [] ∧ q = .call c k) ∨ ∃ r tr', tr = ⟨c, r⟩ :: tr' ∧ Steps (k r) tr' q := by
  constructor
  · rintro (_ | ⟨r, h⟩)
    · exact .inl ⟨rfl, rfl⟩
    · exact .inr ⟨r, _, rfl, h⟩
  · rintro (⟨rfl, rfl⟩ | ⟨r, tr', rfl, h⟩)
    · exact .refl _
    · exact .call r h

@[simp] theorem steps_call_cons_iff {c : Call} {k : c.Reply → Prog α} {r : c.Reply} :
    Steps (.call c k) (⟨c, r⟩ :: tr) q ↔ Steps (k r) tr q := by
  constructor
  · intro h
    rcases steps_call_iff.mp h with ⟨h, -⟩ | ⟨r', tr', h, h'⟩
    · cases h
    · simp only [List.cons.injEq, Exchange.mk.injEq, heq_eq_eq, true_and] at h
      obtain ⟨rfl, rfl⟩ := h
      exact h'
  · exact .call r

theorem steps_nil_iff : Steps p [] q ↔ q = p := by
  constructor
  · rintro ⟨⟩
    rfl
  · rintro rfl
    exact .refl _

theorem Steps.trans (h₁ : Steps p tr₁ q) (h₂ : Steps q tr₂ s) : Steps p (tr₁ ++ tr₂) s := by
  induction h₁ with
  | refl => exact h₂
  | call r _ ih => exact .call r (ih h₂)

theorem Steps.snoc {c : Call} {k : c.Reply → Prog α} (h : Steps p tr (.call c k)) (r : c.Reply) :
    Steps p (tr ++ [⟨c, r⟩]) (k r) :=
  h.trans (.call r (.refl _))

theorem Steps.bind {f : α → Prog β} (h : Steps p tr q) : Steps (p >>= f) tr (q >>= f) := by
  induction h with
  | refl => exact .refl _
  | call r _ ih => exact .call r ih

theorem Steps.toExcept (h : Steps p tr q) : Steps p.toExcept tr q.toExcept := by
  induction h with
  | refl => exact .refl _
  | call r _ ih => exact .call r ih

theorem Steps.withDefer {d : Prog Unit} (h : Steps p tr q) :
    Steps (Prog.withDefer d p) tr (Prog.withDefer d q) := by
  induction h with
  | refl => exact .refl _
  | call r _ ih => exact .call r ih

theorem Steps.bind_pure {f : α → Prog β} {a : α} {q : Prog β} (h₁ : Steps p tr₁ (.pure a))
    (h₂ : Steps (f a) tr₂ q) : Steps (p >>= f) (tr₁ ++ tr₂) q :=
  h₁.bind.trans h₂

theorem Steps.append_inv (h : Steps p (tr₁ ++ tr₂) q) : ∃ s, Steps p tr₁ s ∧ Steps s tr₂ q := by
  induction tr₁ generalizing p with
  | nil => exact ⟨p, .refl _, h⟩
  | cons e tr₁ ih =>
    cases h with
    | call r h =>
      obtain ⟨s, h₁, h₂⟩ := ih h
      exact ⟨s, .call r h₁, h₂⟩

theorem Steps.bind_inv {f : α → Prog β} {s : Prog β} (h : Steps (p >>= f) tr s) :
    (∃ q, Steps p tr q ∧ s = q >>= f) ∨
      ∃ tr₁ tr₂ a, tr = tr₁ ++ tr₂ ∧ Steps p tr₁ (.pure a) ∧ Steps (f a) tr₂ s := by
  induction p generalizing tr with
  | pure a => exact .inr ⟨[], tr, a, rfl, .refl _, h⟩
  | throw e =>
    obtain ⟨rfl, rfl⟩ := steps_throw_iff.mp h
    exact .inl ⟨_, .refl _, rfl⟩
  | panic m =>
    obtain ⟨rfl, rfl⟩ := steps_panic_iff.mp h
    exact .inl ⟨_, .refl _, rfl⟩
  | call c k ih =>
    rcases steps_call_iff.mp h with ⟨rfl, rfl⟩ | ⟨r, tr', rfl, h'⟩
    · exact .inl ⟨_, .refl _, rfl⟩
    · rcases ih r h' with ⟨q, hq, rfl⟩ | ⟨tr₁, tr₂, a, rfl, h₁, h₂⟩
      · exact .inl ⟨q, .call r hq, rfl⟩
      · exact .inr ⟨_, tr₂, a, rfl, .call r h₁, h₂⟩

theorem Steps.bind_pure_inv {f : α → Prog β} {b : β} (h : Steps (p >>= f) tr (.pure b)) :
    ∃ tr₁ tr₂ a, tr = tr₁ ++ tr₂ ∧ Steps p tr₁ (.pure a) ∧ Steps (f a) tr₂ (.pure b) := by
  rcases h.bind_inv with ⟨q, hq, he⟩ | h
  · cases q with
    | pure a => exact ⟨tr, [], a, by simp, hq, by rw [he]; exact .refl _⟩
    | throw e => cases he
    | panic m => cases he
    | call c k => cases he
  · exact h

theorem Steps.tryCatch_pure_inv {h : Err → Prog α} {a : α} (hs : Steps (p.tryCatch h) tr (.pure a)) :
    Steps p tr (.pure a) ∨
      ∃ tr₁ tr₂ e, tr = tr₁ ++ tr₂ ∧ Steps p tr₁ (.throw e) ∧ Steps (h e) tr₂ (.pure a) := by
  induction p generalizing tr with
  | pure b => exact .inl hs
  | throw e => exact .inr ⟨[], tr, e, rfl, .refl _, hs⟩
  | panic m => simp [tryCatch] at hs
  | call c k ih =>
    rcases steps_call_iff.mp hs with ⟨-, h'⟩ | ⟨r, tr', rfl, h'⟩
    · cases h'
    · rcases ih r h' with h' | ⟨tr₁, tr₂, e, rfl, h₁, h₂⟩
      · exact .inl (.call r h')
      · exact .inr ⟨_, tr₂, e, rfl, .call r h₁, h₂⟩

def Stopped : Prog α → Prop
  | .call _ _ => False
  | _ => True

theorem Stopped.of_bind {f : α → Prog β} (h : (p >>= f).Stopped) : p.Stopped := by
  cases p <;> trivial

theorem Stopped.steps_nil (hp : p.Stopped) (h : Steps p tr q) : tr = [] := by
  cases h with
  | refl => rfl
  | call => exact hp.elim

theorem Steps.bind_stopped_inv {d : Prog Unit} {r : Prog α} (h : Steps (d >>= fun _ => r) tr q)
    (hq : q.Stopped) (hr : r.Stopped) : ∃ d₁, Steps d tr d₁ ∧ d₁.Stopped := by
  rcases h.bind_inv with ⟨d₁, hd, rfl⟩ | ⟨tr₁, tr₂, u, rfl, hd, h₂⟩
  · exact ⟨d₁, hd, hq.of_bind⟩
  · rw [hr.steps_nil h₂, List.append_nil]
    exact ⟨_, hd, trivial⟩

theorem Steps.withDefer_stopped {d : Prog Unit} (h : Steps (Prog.withDefer d p) tr q) (hq : q.Stopped) :
    ∃ tr₁ tr₂ p₁ d₁, tr = tr₁ ++ tr₂ ∧ Steps p tr₁ p₁ ∧ p₁.Stopped ∧ Steps d tr₂ d₁ ∧ d₁.Stopped := by
  induction p generalizing tr with
  | call c k ih =>
    rcases steps_call_iff.mp h with ⟨-, rfl⟩ | ⟨r, tr', rfl, h'⟩
    · exact hq.elim
    · obtain ⟨tr₁, tr₂, p₁, d₁, rfl, hp, hp₁, hd, hd₁⟩ := ih r h'
      exact ⟨_ :: tr₁, tr₂, p₁, d₁, rfl, .call r hp, hp₁, hd, hd₁⟩
  | _ =>
    obtain ⟨d₁, hd, hd₁⟩ := h.bind_stopped_inv hq trivial
    exact ⟨[], tr, _, d₁, rfl, .refl _, trivial, hd, hd₁⟩

theorem Only.bind {P : Call → Prop} {f : α → Prog β} (hp : Only P p) (hf : ∀ a, Only P (f a)) :
    Only P (p >>= f) := by
  induction hp with
  | pure a => exact hf a
  | throw e => exact .throw e
  | panic m => exact .panic m
  | call hc _ ih => exact .call hc ih

theorem Only.send {P : Call → Prop} {c : Call} (hc : P c) : Only P (send c) :=
  .call hc fun r => .pure r

theorem Only.ofExcept {P : Call → Prop} (x : Except Err α) : Only P (ofExcept x) := by
  cases x <;> constructor

theorem Only.tryCatch {P : Call → Prop} {h : Err → Prog α} (hp : Only P p) (hh : ∀ e, Only P (h e)) :
    Only P (p.tryCatch h) := by
  induction hp with
  | pure a => exact .pure a
  | throw e => exact hh e
  | panic m => exact .panic m
  | call hc _ ih => exact .call hc ih

theorem Only.toExcept {P : Call → Prop} (hp : Only P p) : Only P p.toExcept := by
  induction hp with
  | pure a => exact .pure _
  | throw e => exact .pure _
  | panic m => exact .panic m
  | call hc _ ih => exact .call hc ih

theorem Only.mono {P Q : Call → Prop} (hp : Only P p) (h : ∀ c, P c → Q c) : Only Q p := by
  induction hp with
  | pure a => exact .pure a
  | throw e => exact .throw e
  | panic m => exact .panic m
  | call hc _ ih => exact .call (h _ hc) ih

theorem Only.head {P : Call → Prop} {c : Call} {k : c.Reply → Prog α} (hp : Only P (.call c k)) : P c := by
  cases hp with
  | call hc _ => exact hc

theorem Only.withDefer {P : Call → Prop} {d : Prog Unit} (hd : Only P d) (hp : Only P p) :
    Only P (Prog.withDefer d p) := by
  induction hp with
  | pure a => exact hd.bind fun _ => .pure a
  | throw e => exact hd.bind fun _ => .throw e
  | panic m => exact hd.bind fun _ => .panic m
  | call hc _ ih => exact .call hc ih

theorem Only.steps {P : Call → Prop} (hp : Only P p) (h : Steps p tr q) :
    (∀ e ∈ tr, P e.call) ∧ Only P q := by
  induction h with
  | refl => exact ⟨by simp, hp⟩
  | call r _ ih =>
    cases hp with
    | call hc hk =>
      obtain ⟨h₁, h₂⟩ := ih (hk r)
      exact ⟨by simpa [hc] using h₁, h₂⟩

/--
`p` makes only calls satisfying `P` as long as every reply it follows satisfies `R`: what a
handler does when the world answers as `R` says.
-/
inductive Guarded (P : Call → Prop) (R : (c : Call) → c.Reply → Prop) : Prog α → Prop
  | pure (a : α) : Guarded P R (.pure a)
  | throw (e : Err) : Guarded P R (.throw e)
  | panic (m : String) : Guarded P R (.panic m)
  | call {c : Call} {k : c.Reply → Prog α} :
      P c → (∀ r, R c r → Guarded P R (k r)) → Guarded P R (.call c k)

section Guarded

variable {P : Call → Prop} {R : (c : Call) → c.Reply → Prop}

theorem Only.guarded (hp : Only P p) : Guarded P R p := by
  induction hp with
  | pure a => exact .pure a
  | throw e => exact .throw e
  | panic m => exact .panic m
  | call hc _ ih => exact .call hc fun r _ => ih r

theorem Guarded.bind {f : α → Prog β} (hp : Guarded P R p) (hf : ∀ a, Guarded P R (f a)) :
    Guarded P R (p >>= f) := by
  induction hp with
  | pure a => exact hf a
  | throw e => exact .throw e
  | panic m => exact .panic m
  | call hc _ ih => exact .call hc ih

theorem Guarded.toExcept (hp : Guarded P R p) : Guarded P R p.toExcept := by
  induction hp with
  | pure a => exact .pure _
  | throw e => exact .pure _
  | panic m => exact .panic m
  | call hc _ ih => exact .call hc ih

theorem Guarded.withDefer {d : Prog Unit} (hd : Guarded P R d) (hp : Guarded P R p) :
    Guarded P R (Prog.withDefer d p) := by
  induction hp with
  | pure a => exact hd.bind fun _ => .pure a
  | throw e => exact hd.bind fun _ => .throw e
  | panic m => exact hd.bind fun _ => .panic m
  | call hc _ ih => exact .call hc ih

theorem Guarded.next {c : Call} {k : c.Reply → Prog α} {r : c.Reply}
    (hp : Guarded P R (.call c k)) (hr : R c r) : Guarded P R (k r) := by
  cases hp with
  | call _ hk => exact hk r hr

theorem Guarded.head {c : Call} {k : c.Reply → Prog α} (hp : Guarded P R (.call c k)) : P c := by
  cases hp with
  | call hc _ => exact hc

end Guarded

/--
Every call `p` makes satisfies `P`, given the exchanges `p` made before it: what a handler sends
may depend on the replies it got.
-/
def OnlyAfter (P : List Exchange → Call → Prop) (p : Prog α) : Prop :=
  ∀ tr c (k : c.Reply → Prog α), Steps p tr (.call c k) → P tr c

section OnlyAfter

variable {P Q : List Exchange → Call → Prop}

theorem onlyAfter_pure (a : α) : OnlyAfter P (.pure a) := by
  intro tr c k h
  cases (steps_pure_iff.mp h).2

theorem onlyAfter_throw (e : Err) : OnlyAfter P (.throw e : Prog α) := by
  intro tr c k h
  cases (steps_throw_iff.mp h).2

theorem onlyAfter_panic (m : String) : OnlyAfter P (.panic m : Prog α) := by
  intro tr c k h
  cases (steps_panic_iff.mp h).2

theorem onlyAfter_ofExcept (x : Except Err α) : OnlyAfter P (ofExcept x) := by
  cases x
  · exact onlyAfter_throw _
  · exact onlyAfter_pure _

theorem OnlyAfter.call {c : Call} {k : c.Reply → Prog α} (hc : P [] c)
    (hk : ∀ r, OnlyAfter (fun tr => P (⟨c, r⟩ :: tr)) (k r)) : OnlyAfter P (.call c k) := by
  intro tr c' k' h
  rcases steps_call_iff.mp h with ⟨rfl, he⟩ | ⟨r, tr', rfl, h'⟩
  · cases he
    exact hc
  · exact hk r tr' c' k' h'

theorem OnlyAfter.bind {f : α → Prog β} (hp : OnlyAfter P p)
    (hf : ∀ tr a, Steps p tr (.pure a) → OnlyAfter (fun tr' => P (tr ++ tr')) (f a)) :
    OnlyAfter P (p >>= f) := by
  intro tr c k h
  rcases h.bind_inv with ⟨q, hq, he⟩ | ⟨tr₁, tr₂, a, rfl, h₁, h₂⟩
  · cases q with
    | pure a => simpa using hf tr a hq [] c k (he ▸ .refl _)
    | throw e => cases he
    | panic m => cases he
    | call c' k' =>
      cases he
      exact hp tr c k' hq
  · exact hf tr₁ a h₁ tr₂ c k h₂

theorem OnlyAfter.mono (hp : OnlyAfter P p) (h : ∀ tr c, P tr c → Q tr c) : OnlyAfter Q p :=
  fun tr c k hs => h tr c (hp tr c k hs)

theorem onlyAfter_send {c : Call} (hc : P [] c) : OnlyAfter P (send c) :=
  .call hc fun _ => onlyAfter_pure _

theorem OnlyAfter.tryCatch {h : Err → Prog α} (hp : OnlyAfter P p)
    (hh : ∀ tr e, Steps p tr (.throw e) → OnlyAfter (fun tr' => P (tr ++ tr')) (h e)) :
    OnlyAfter P (p.tryCatch h) := by
  induction p generalizing P with
  | pure a => exact onlyAfter_pure a
  | throw e => exact hh [] e (.refl _)
  | panic m => exact onlyAfter_panic m
  | call c k ih =>
    exact .call (hp [] c k (.refl _)) fun r =>
      ih r (fun tr c' k' hs => hp _ c' k' (.call r hs)) fun tr e hs => hh _ e (.call r hs)

theorem OnlyAfter.withDefer {d : Prog Unit} (hp : OnlyAfter P p)
    (hd : ∀ tr q, Steps p tr q → OnlyAfter (fun tr' => P (tr ++ tr')) d) :
    OnlyAfter P (Prog.withDefer d p) := by
  induction p generalizing P with
  | pure a => exact (hd [] _ (.refl _)).bind fun _ _ _ => onlyAfter_pure a
  | throw e => exact (hd [] _ (.refl _)).bind fun _ _ _ => onlyAfter_throw e
  | panic m => exact (hd [] _ (.refl _)).bind fun _ _ _ => onlyAfter_panic m
  | call c k ih =>
    exact .call (hp [] c k (.refl _)) fun r =>
      ih r (fun tr c' k' hs => hp _ c' k' (.call r hs)) fun tr q hs => hd _ q (.call r hs)

def Stable (P : List Exchange → Call → Prop) : Prop :=
  ∀ pre tr c, P tr c → P (pre ++ tr) c

theorem OnlyAfter.call_of_stable {c : Call} {k : c.Reply → Prog α} (hP : Stable P) (hc : P [] c)
    (hk : ∀ r, OnlyAfter P (k r)) : OnlyAfter P (.call c k) :=
  .call hc fun r => (hk r).mono fun tr _ h => hP [⟨c, r⟩] tr _ h

theorem OnlyAfter.bind_of_stable {f : α → Prog β} (hP : Stable P) (hp : OnlyAfter P p)
    (hf : ∀ a, OnlyAfter P (f a)) : OnlyAfter P (p >>= f) :=
  hp.bind fun tr a _ => (hf a).mono fun tr' _ h => hP tr tr' _ h

theorem OnlyAfter.tryCatch_of_stable {h : Err → Prog α} (hP : Stable P) (hp : OnlyAfter P p)
    (hh : ∀ e, OnlyAfter P (h e)) : OnlyAfter P (p.tryCatch h) :=
  hp.tryCatch fun tr e _ => (hh e).mono fun tr' _ h => hP tr tr' _ h

theorem OnlyAfter.exchange (hp : OnlyAfter P p) {e : Exchange} (h : Steps p (tr₁ ++ e :: tr₂) q) :
    P tr₁ e.call := by
  obtain ⟨s, h₁, h₂⟩ := h.append_inv
  cases h₂ with
  | call r _ => exact hp tr₁ _ _ h₁

theorem Only.onlyAfter {Q : Call → Prop} (hp : Only Q p) (h : ∀ tr c, Q c → P tr c) :
    OnlyAfter P p := by
  intro tr c k hs
  cases (hp.steps hs).2 with
  | call hc _ => exact h tr c hc

end OnlyAfter

def Returns (Q : List Exchange → Prop) (p : Prog α) : Prop :=
  ∀ tr a, Steps p tr (.pure a) → Q tr

section Returns

variable {Q Q₁ Q₂ : List Exchange → Prop}

theorem returns_pure (a : α) (hQ : Q []) : Returns Q (.pure a) := by
  intro tr b h
  rw [(steps_pure_iff.mp h).1]
  exact hQ

theorem returns_throw (e : Err) : Returns Q (.throw e : Prog α) := by
  intro tr a h
  cases (steps_throw_iff.mp h).2

theorem returns_panic (m : String) : Returns Q (.panic m : Prog α) := by
  intro tr a h
  cases (steps_panic_iff.mp h).2

theorem Returns.call {c : Call} {k : c.Reply → Prog α}
    (hk : ∀ r, Returns (fun tr => Q (⟨c, r⟩ :: tr)) (k r)) : Returns Q (.call c k) := by
  intro tr a h
  rcases steps_call_iff.mp h with ⟨-, h⟩ | ⟨r, tr', rfl, h'⟩
  · cases h
  · exact hk r tr' a h'

theorem returns_ofExcept (x : Except Err α) (hQ : Q []) : Returns Q (ofExcept x) := by
  cases x
  · exact returns_throw _
  · exact returns_pure _ hQ

theorem Returns.call_of_cons {c : Call} {k : c.Reply → Prog α}
    (hc : ∀ r tr, Q tr → Q (⟨c, r⟩ :: tr)) (hk : ∀ r, Returns Q (k r)) : Returns Q (.call c k) :=
  .call fun r tr a h => hc r tr (hk r tr a h)

theorem Returns.bind {f : α → Prog β} (hp : Returns Q₁ p) (hf : ∀ a, Returns Q₂ (f a))
    (hQ : ∀ tr₁ tr₂, Q₁ tr₁ → Q₂ tr₂ → Q (tr₁ ++ tr₂)) : Returns Q (p >>= f) := by
  intro tr b h
  obtain ⟨tr₁, tr₂, a, rfl, h₁, h₂⟩ := h.bind_pure_inv
  exact hQ tr₁ tr₂ (hp tr₁ a h₁) (hf a tr₂ b h₂)

theorem Only.returns {P : Call → Prop} (hp : Only P p) (h : ∀ tr, (∀ e ∈ tr, P e.call) → Q tr) :
    Returns Q p :=
  fun _ _ hs => h _ (hp.steps hs).1

end Returns

def NeverReturns (p : Prog α) : Prop :=
  ∀ tr a, ¬ Steps p tr (.pure a)

theorem neverReturns_throw (e : Err) : NeverReturns (.throw e : Prog α) := by
  intro tr a h
  simp at h

theorem neverReturns_panic (m : String) : NeverReturns (.panic m : Prog α) := by
  intro tr a h
  simp at h

theorem neverReturns_call {c : Call} {k : c.Reply → Prog α} (h : ∀ r, NeverReturns (k r)) :
    NeverReturns (.call c k) := by
  intro tr a hs
  rcases steps_call_iff.mp hs with ⟨-, h'⟩ | ⟨r, tr', -, h'⟩
  · cases h'
  · exact h r _ _ h'

theorem NeverReturns.bind {f : α → Prog β} (hp : NeverReturns p) : NeverReturns (p >>= f) := by
  intro tr b h
  obtain ⟨tr₁, -, a, -, h₁, -⟩ := h.bind_pure_inv
  exact hp _ _ h₁

theorem neverReturns_bind {f : α → Prog β} (hf : ∀ a, NeverReturns (f a)) :
    NeverReturns (p >>= f) := by
  intro tr b h
  obtain ⟨-, tr₂, a, -, -, h₂⟩ := h.bind_pure_inv
  exact hf a _ _ h₂

end Prog

end OpenshiftAcme
