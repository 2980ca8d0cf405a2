import OpenshiftAcme.World.RouteStore

/-!
This module contains what a successful create, update or delete of a Secret does to the Secret
store: a Secret created or updated is stored under its name with the type, data and owner
references it was sent with, and a deleted one is gone. A create leaves the Secrets already
stored alone, and so does the answer to any call that writes no Secret.
-/

namespace OpenshiftAcme

namespace Store

variable {s s' : Store Secret} {ns : String} {x y : Secret}

theorem create_secret_ok {uid : String} {rev : Nat} (h : s.create ns x uid rev = .ok (y, s')) :
    s'.find ns x.meta.name = some y ∧ y.type = x.type ∧ y.data = x.data ∧
      y.meta.ownerReferences = x.meta.ownerReferences := by
  obtain ⟨hnone, hy, -, -, -, rfl⟩ := create_ok h
  refine ⟨(find_append hnone hy).trans (if_pos ⟨rfl, rfl⟩), ?_⟩
  unfold create at h
  cases hm : namespaceCheck x ns with
  | error e => simp [hm, bind, Except.bind] at h
  | ok m =>
    obtain rfl := namespaceCheck_ok hm
    simp only [hm, bind, Except.bind] at h
    split at h
    · cases h
    · simp only [Except.ok.injEq, Prod.mk.injEq] at h
      obtain ⟨rfl, -⟩ := h
      exact ⟨rfl, rfl, rfl⟩

theorem update_secret_content {rev : Nat} (h : s.update ns x rev = .ok (y, s')) :
    y.type = x.type ∧ y.data = x.data ∧ y.meta.ownerReferences = x.meta.ownerReferences := by
  unfold update at h
  cases hm : namespaceCheck x ns with
  | error e => simp [hm, bind, Except.bind] at h
  | ok m =>
    obtain rfl := namespaceCheck_ok hm
    simp only [hm, bind, Except.bind] at h
    split at h
    · cases h
    · split at h
      · cases h
      · split at h
        · cases h
        · split at h
          · rename_i hsame
            obtain ⟨rfl, -⟩ := Prod.mk.inj (Except.ok.inj h)
            rw [← hsame]
            exact ⟨rfl, rfl, rfl⟩
          · obtain ⟨rfl, -⟩ := Prod.mk.inj (Except.ok.inj h)
            exact ⟨rfl, rfl, rfl⟩

theorem update_secret_ok {rev : Nat} (h : s.update ns x rev = .ok (y, s')) :
    s'.find ns x.meta.name = some y := by
  obtain ⟨cur, hcur, -, -, -, ⟨rfl, rfl⟩ | ⟨hy, -, -, rfl⟩⟩ := update_ok h
  · exact hcur
  · exact (find_replace hcur hy).trans (if_pos ⟨rfl, rfl⟩)

theorem find_create_of_some {uid : String} {rev : Nat} {ns' name' : String} {z : Secret}
    (h : s.create ns x uid rev = .ok (y, s')) (hz : s.find ns' name' = some z) :
    s'.find ns' name' = some z := by
  obtain ⟨hnone, hkey, -, -, -, rfl⟩ := create_ok h
  have hne : ¬(ns' = ns ∧ name' = (Resource.meta x).name) := by
    rintro ⟨rfl, rfl⟩
    rw [hnone] at hz
    cases hz
  exact ((find_append hnone hkey).trans (if_neg hne)).trans hz

end Store

namespace World

variable {w w' : World} {ns name : String} {x y : Secret}

theorem secretCreate_ok (h : w.Answer (.secretCreate ns x) (.ok y) w') :
    w'.secrets.find ns x.meta.name = some y ∧ y.type = x.type ∧ y.data = x.data ∧
      y.meta.ownerReferences = x.meta.ownerReferences := by
  obtain ⟨uid, -, h⟩ := h
  simp only [WriteAnswer, World.create] at h
  cases hs : (secretsL.get w).create ns x uid (w.revision + 1) with
  | error e => simp [hs, Except.map] at h
  | ok p =>
    simp only [hs, Except.map, Except.ok.injEq, Prod.mk.injEq] at h
    obtain ⟨rfl, rfl⟩ := h
    exact Store.create_secret_ok hs

theorem secretUpdate_ok (h : w.Answer (.secretUpdate ns x) (.ok y) w') :
    w'.secrets.find ns x.meta.name = some y ∧ y.type = x.type ∧ y.data = x.data ∧
      y.meta.ownerReferences = x.meta.ownerReferences := by
  change w.update secretsL ns x = .ok (y, w') at h
  simp only [World.update] at h
  cases hs : (secretsL.get w).update ns x (w.revision + 1) with
  | error e => simp [hs, Except.map] at h
  | ok p =>
    simp only [hs, Except.map, Except.ok.injEq, Prod.mk.injEq] at h
    obtain ⟨rfl, rfl⟩ := h
    exact ⟨Store.update_secret_ok hs, Store.update_secret_content hs⟩

theorem secretDelete_ok {uid : String} (h : w.Answer (.secretDelete ns name uid) (.ok ()) w') :
    w'.secrets.find ns name = none := by
  change w.delete secretsL ns name uid = .ok ((), w') at h
  simp only [World.delete] at h
  cases hs : (secretsL.get w).delete ns name uid with
  | error e => simp [hs, Except.map] at h
  | ok s =>
    simp only [hs, Except.map, Except.ok.injEq, Prod.mk.injEq] at h
    rw [← h.2, Store.delete_ok hs]
    exact Store.find_filter.trans (if_pos ⟨rfl, rfl⟩)

def IsSecretWrite : Call → Prop
  | .secretCreate _ _ | .secretUpdate _ _ | .secretDelete _ _ _ => True
  | _ => False

theorem WriteAnswer.of_ok {β : Type} {P : World → Prop} {outcome : Except Err (β × World)}
    {r : Except Err β} (h : WriteAnswer w outcome r w') (hw : P w)
    (ho : ∀ b w'', outcome = .ok (b, w'') → P w'') : P w' := by
  cases r with
  | ok b => exact ho b w' h
  | error e =>
    rcases h with rfl | ⟨b, hb⟩
    · exact hw
    · exact ho b w' hb

section Other

variable {β : Type} [Resource β] {L : Lens β} (hL : ∀ w s, (L.set w s).secrets = w.secrets)
include hL

theorem create_secrets_other {uid : String} {x b : β} (h : w.create L ns x uid = .ok (b, w')) :
    w'.secrets = w.secrets := by
  simp only [create, Except.map] at h
  split at h
  · cases h
  · simp only [Except.ok.injEq, Prod.mk.injEq] at h
    obtain ⟨-, rfl⟩ := h
    exact hL _ _

theorem update_secrets_other [DecidableEq β] {x b : β} (h : w.update L ns x = .ok (b, w')) :
    w'.secrets = w.secrets := by
  simp only [update, Except.map] at h
  split at h
  · cases h
  · simp only [Except.ok.injEq, Prod.mk.injEq] at h
    obtain ⟨-, rfl⟩ := h
    exact hL _ _

end Other

theorem secrets_setQueue (q : Controller) (wq : WorkQueue) : (w.setQueue q wq).secrets = w.secrets := by
  cases q <;> rfl

theorem Answer.secrets_eq {c : Call} {r : c.Reply} (hc : ¬IsSecretWrite c) (h : w.Answer c r w') :
    w'.secrets = w.secrets := by
  cases c
  case routeCreate | replicaSetCreate | serviceCreate =>
    obtain ⟨_, -, h⟩ := h
    exact h.of_ok (P := fun w'' => w''.secrets = w.secrets) rfl fun _ _ hb =>
      create_secrets_other (fun _ _ => rfl) hb
  case routeUpdate | replicaSetUpdate | serviceUpdate | configMapUpdate =>
    exact h.of_ok (P := fun w'' => w''.secrets = w.secrets) rfl fun _ _ hb =>
      update_secrets_other (fun _ _ => rfl) hb
  case secretCreate | secretUpdate | secretDelete => exact absurd trivial hc
  case queueGet q =>
    change QueueGetAnswer w q r w' at h
    simp only [QueueGetAnswer] at h
    split at h
    · obtain ⟨-, rfl⟩ := h
      exact secrets_setQueue q _
    · obtain ⟨-, -, rfl⟩ := h
      rfl
  case queueDone q _ | queueAdd q _ | queueAddAfter q _ _ | queueAddRateLimited q _
    | queueForget q _ =>
    subst h
    exact secrets_setQueue q _
  all_goals first
    | (obtain ⟨rfl, -⟩ := h; rfl)
    | (obtain ⟨-, rfl⟩ := h; rfl)

def IsSecretOverwrite : Call → Prop
  | .secretUpdate _ _ | .secretDelete _ _ _ => True
  | _ => False

theorem Answer.find_secret_kept {c : Call} {r : c.Reply} (hc : ¬IsSecretOverwrite c)
    (h : w.Answer c r w') (hy : w.secrets.find ns name = some y) : w'.secrets.find ns name = some y := by
  cases c
  case secretCreate ns' x =>
    obtain ⟨_, -, h⟩ := h
    refine h.of_ok (P := fun w'' => w''.secrets.find ns name = some y) hy fun _ _ hb => ?_
    simp only [create, Except.map] at hb
    split at hb
    · cases hb
    · rename_i p hp
      simp only [Except.ok.injEq, Prod.mk.injEq] at hb
      obtain ⟨-, rfl⟩ := hb
      exact Store.find_create_of_some hp hy
  case secretUpdate | secretDelete => exact absurd trivial hc
  all_goals
    rw [Answer.secrets_eq id h]
    exact hy

end World

end OpenshiftAcme
