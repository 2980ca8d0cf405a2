import OpenshiftAcme.Account.Lemmas.Sync

/-!
This module contains the merge of the account state into the config map on the path where the
credentials secret exists. The merge copies from the account `sync` holds at that point: what
`GetReg` answered or, when an account URI is recorded and `sync` makes no call to the CA, the
account it built itself from the contacts, whose URI, orders URL and status are empty. `UpdateReg`
is never called: its guard compares the digest with the stored text as values of different
types, and the text it would compare, `fmt.Sprint` of the contacts, is one for contact lists that
differ.
-/

namespace OpenshiftAcme

namespace AccountController

open Prog (Steps Only)

variable (lib : Lib)

/--
On a config map whose credentials secret exists and whose account URI is recorded, a run of `sync`
that returns nil makes no call to the CA and one update of the config map, which writes back an
issuer whose account URI, orders URL and account status are empty.
-/
theorem sync_blanks_recorded_account (key : String) (nk : String × String) (cm : ConfigMap)
    (d : String) (ci : CertIssuer) (ai : AcmeCertIssuer) (secret : Secret) (k : PrivateKey)
    (tr : List Exchange) (hkey : splitMetaNamespaceKey key = .ok nk)
    (hdel : cm.meta.deletionTimestamp = none) (hd : cm.data.lookup lib.certIssuerDataKey = some d)
    (hci : lib.certIssuerYaml.unmarshal d = .ok ci) (htype : ci.type = lib.certIssuerTypeAcme)
    (hai : ci.acmeCertIssuer = some ai) (hk : lib.privateKeyFromSecret secret = .ok k)
    (huri : ai.account.status.uri.length ≠ 0)
    (h : Steps (sync lib key)
      (⟨.configMapCacheGet key, .ok (some cm)⟩ ::
        ⟨.secretListerGet cm.meta.«namespace» (defaultSecretName cm ai).accountCredentialsSecretName,
          .ok secret⟩ :: tr) (.pure ())) :
    ∃ bytes y ai', tr = [⟨.configMapUpdate cm.meta.«namespace» (writtenBack lib cm bytes), .ok y⟩] ∧
      lib.certIssuerYaml.unmarshal bytes = .ok { ci with acmeCertIssuer := some ai' } ∧
      ai'.account.status.uri = "" ∧ ai'.account.status.ordersURL = "" ∧
      ai'.account.status.accountStatus = "" := by
  obtain ⟨tr₁, tr₂, account, rfl, h₁, h₂⟩ := steps_sync_secret_pure lib hkey hdel hd hci htype hai h
  rw [existingAccount_eq lib hk, if_neg huri] at h₁
  obtain ⟨rfl, h₁⟩ := Prog.steps_pure_iff.mp h₁
  cases h₁
  obtain ⟨bytes, hb, ⟨heq, -⟩ | ⟨y, rfl⟩⟩ := writeBack_returns lib h₂
  · refine absurd heq (writtenBack_ne lib hd hci hb fun hci' => huri ?_)
    have hacc := congrArg (fun c : CertIssuer => c.acmeCertIssuer.map (·.account.status.uri)) hci'
    simp only [hai, Option.map_some'] at hacc
    rw [← Option.some.inj hacc]
    rfl
  · exact ⟨bytes, y, _, rfl, lib.certIssuerYaml.unmarshal_marshal _ _ hb, rfl, rfl, rfl⟩

theorem storedConfigMap_sync_blanks :
    recordedIssuer.acmeCertIssuer.map (·.account.status.uri) = some "https://ca.example/acct/1" ∧
    ∃ bytes y ai', [(⟨.configMapUpdate "acme" (writtenBack accountLib storedConfigMap blankedIssuerYaml),
        .ok storedConfigMap⟩ : Exchange)] =
        [⟨.configMapUpdate "acme" (writtenBack accountLib storedConfigMap bytes), .ok y⟩] ∧
      accountLib.certIssuerYaml.unmarshal bytes = .ok { recordedIssuer with acmeCertIssuer := some ai' } ∧
      ai'.account.status.uri = "" ∧ ai'.account.status.ordersURL = "" ∧
      ai'.account.status.accountStatus = "" :=
  ⟨rfl, sync_blanks_recorded_account accountLib "acme/acme-account-config" ("acme", "acme-account-config")
    storedConfigMap recordedIssuerYaml recordedIssuer _ accountSecret ⟨1⟩ _ rfl rfl rfl rfl rfl rfl rfl
    (by decide) steps_sync_storedConfigMap⟩

/--
No run of `sync` calls `UpdateReg`, whatever the recorded hash and the configured contacts; and
the hash `sync` records is one for the contact lists `["a b"]` and `["a", "b"]`.
-/
theorem sync_never_updates_registration (key : String) :
    Only (fun c => ∀ directoryUrl k a, c ≠ .updateReg directoryUrl k a) (sync lib key) ∧
    ∀ status : AcmeAccountStatus,
      hashAccount lib ⟨["a b"], status⟩ = hashAccount lib ⟨["a", "b"], status⟩ :=
  ⟨(sync_syncCall lib key).mono fun _ hc _ _ _ he => by subst he; exact hc, fun _ => rfl⟩

end AccountController

end OpenshiftAcme
