import OpenshiftAcme.Route.Lemmas.Chain

/-!
This module contains the challenge selection of `handle`'s loop over the authorizations of a
pending order. The Go loop over `authz.Challenges` assigns every `http-01` challenge it meets to
`challenge` and has no `break`, so the challenge the handler acts on is the last `http-01` one of
the list, not the first; the handler returns the no-viable-challenge error exactly when the list
has no `http-01` challenge. The two readings differ on lists with two `http-01` challenges.
-/

namespace OpenshiftAcme

namespace RouteController

open Prog (Steps)

variable (lib : Lib)

theorem foldl_selectChallenge (cs : List Acme.Challenge) (acc : Option Acme.Challenge) :
    cs.foldl (fun acc c => if c.type = "http-01" then some c else acc) acc =
      (cs.reverse.find? (·.type = "http-01")).or acc := by
  induction cs generalizing acc with
  | nil => rfl
  | cons c cs ih =>
    rw [List.foldl_cons, ih, List.reverse_cons, List.find?_append, Option.or_assoc]
    by_cases h : c.type = "http-01" <;> simp [h]

theorem selectChallenge_eq_find?_reverse (cs : List Acme.Challenge) :
    selectChallenge cs = cs.reverse.find? (·.type = "http-01") := by
  rw [selectChallenge, foldl_selectChallenge, Option.or_none]

theorem selectChallenge_eq_none_iff {cs : List Acme.Challenge} :
    selectChallenge cs = none ↔ ∀ c ∈ cs, c.type ≠ "http-01" := by
  simp [selectChallenge_eq_find?_reverse, List.find?_eq_none]

def noViableChallenge (key domain : String) (authz : Acme.Authorization) : Err :=
  let authzUri := goQuote authz.uri
  let types := authz.challenges.map (·.type)
  .text s!"route {goQuote key}: unable to satisfy authorization {authzUri} for domain {goQuote domain}: no viable challenge type found in {types}"

variable {key domain authzUrl : String} {r : Route} {o : Acme.Order} {rest : List String}
  {authz : Acme.Authorization}

theorem steps_satisfyAuthorizations_noViable_iff (hpending : authz.status = Acme.statusPending) :
    Steps (satisfyAuthorizations lib key domain r o (authzUrl :: rest))
        [⟨.getAuthorization authzUrl, .ok authz⟩] (.throw (noViableChallenge key domain authz)) ↔
      selectChallenge authz.challenges = none := by
  simp only [satisfyAuthorizations, Prog.bind_eq, Prog.send_bind, Prog.steps_call_cons_iff,
    Prog.ofExcept_ok, Prog.pure_bind, hpending, ↓reduceIte, Prog.steps_nil_iff]
  cases hsel : selectChallenge authz.challenges with
  | none => exact iff_of_true rfl rfl
  | some c =>
    refine iff_of_false ?_ (Option.some_ne_none c)
    dsimp only
    split_ifs
    · obtain ⟨k, hk⟩ := exposeChallenge_eq lib key r o authzUrl c
      rw [hk]
      exact Prog.noConfusion
    · cases rest <;> exact Prog.noConfusion
    · intro h
      have hdata := congrArg String.data (Err.text.inj (Prog.throw.inj h))
      simp [noViableChallenge, toString, String.data_append] at hdata

/--
The challenge selection of the authorization loop of `handle`. For every pending authorization,
the challenge the loop acts on is the last `http-01` challenge of `authz.Challenges`: when that one
is pending, the next call creates the exposer Route for it, with its token. The loop returns the
no-viable-challenge error exactly when the list has no `http-01` challenge.
-/
theorem satisfyAuthorizations_acts_on_last_http01 (key domain authzUrl : String) (r : Route)
    (o : Acme.Order) (rest : List String) (authz : Acme.Authorization)
    (hpending : authz.status = Acme.statusPending) :
    selectChallenge authz.challenges = authz.challenges.reverse.find? (·.type = "http-01") ∧
    (∀ c, authz.challenges.reverse.find? (·.type = "http-01") = some c →
      c.status = Acme.statusPending →
      ∃ k, Steps (satisfyAuthorizations lib key domain r o (authzUrl :: rest))
        [⟨.getAuthorization authzUrl, .ok authz⟩]
        (.call (.routeCreate r.meta.«namespace»
          (desiredExposerRoute lib r (exposerName lib r o authzUrl c) c.token)) k)) ∧
    (Steps (satisfyAuthorizations lib key domain r o (authzUrl :: rest))
        [⟨.getAuthorization authzUrl, .ok authz⟩] (.throw (noViableChallenge key domain authz)) ↔
      ∀ c ∈ authz.challenges, c.type ≠ "http-01") := by
  refine ⟨selectChallenge_eq_find?_reverse _, fun c hc hcp => ?_,
    (steps_satisfyAuthorizations_noViable_iff lib hpending).trans selectChallenge_eq_none_iff⟩
  obtain ⟨k, hk⟩ := exposeChallenge_eq lib key r o authzUrl c
  have h := @steps_satisfyAuthorizations_pending lib key domain authzUrl r o rest authz c hpending
    ((selectChallenge_eq_find?_reverse _).trans hc) hcp
  rw [hk] at h
  exact ⟨_, h⟩

def twoHttp01Authz : Acme.Authorization :=
  ⟨"https://ca.example/authz/1", Acme.statusPending,
    [⟨"http-01", "https://ca.example/chall/1", "tok-1", Acme.statusPending⟩,
     ⟨"dns-01", "https://ca.example/chall/2", "tok-2", Acme.statusPending⟩,
     ⟨"http-01", "https://ca.example/chall/3", "tok-3", Acme.statusPending⟩]⟩

theorem twoHttp01Authz_exposes_last :
    twoHttp01Authz.challenges.find? (·.type = "http-01") =
        some ⟨"http-01", "https://ca.example/chall/1", "tok-1", Acme.statusPending⟩ ∧
      ∃ k, Steps (satisfyAuthorizations exampleLib "acme/web" "www.example.com" managedRoute
          pendingOrder ["https://ca.example/authz/1"])
        [⟨.getAuthorization "https://ca.example/authz/1", .ok twoHttp01Authz⟩]
        (.call (.routeCreate "acme" (desiredExposerRoute exampleLib managedRoute
          (exposerName exampleLib managedRoute pendingOrder "https://ca.example/authz/1"
            ⟨"http-01", "https://ca.example/chall/3", "tok-3", Acme.statusPending⟩) "tok-3")) k) :=
  ⟨rfl, (satisfyAuthorizations_acts_on_last_http01 exampleLib "acme/web" "www.example.com"
    "https://ca.example/authz/1" managedRoute pendingOrder [] twoHttp01Authz rfl).2.1 _ rfl rfl⟩

end RouteController

end OpenshiftAcme
