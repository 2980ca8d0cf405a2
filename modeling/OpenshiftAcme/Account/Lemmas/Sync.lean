import OpenshiftAcme.Account.Controller
import OpenshiftAcme.Prog.Trace

/-!
This module contains the spec lemmas of `sync` (the path from the cache read to the account of an
ACME issuer, the lookup of the credentials secret, the existing-secret path and the write back)
and the fate of its fixed point. The existing-secret path never compares the account hash (a
`[64]byte` is never deeply equal to a `[]byte`), makes no call to the CA once an account URI is
recorded, and then records the blank account it built itself. So no config map whose credentials
secret exists is left alone: `sync` calls `GetReg`, or writes the config map.
-/

namespace OpenshiftAcme

namespace AccountController

open Prog (Steps Only steps_call_cons_iff)

variable (lib : Lib)

def SyncCall : Call → Prop
  | .configMapCacheGet _ | .secretListerGet _ _ | .generateKey | .register _ _ _ | .secretCreate _ _
  | .getReg _ _ | .configMapUpdate _ _ => True
  | _ => False

theorem registerAccount_syncCall (ns directoryUrl name : String) (account : Acme.Account) :
    Only SyncCall (registerAccount lib ns directoryUrl name account) :=
  .call trivial fun r => (Only.ofExcept r).bind fun _ => .call trivial fun r =>
    (Only.ofExcept r).bind fun _ => .call trivial fun r => (Only.ofExcept r).bind fun _ => .pure _

theorem existingAccount_syncCall (directoryUrl : String) (acmeAccount : AcmeAccount)
    (secret : Secret) (account : Acme.Account) :
    Only SyncCall (existingAccount lib directoryUrl acmeAccount secret account) := by
  simp only [existingAccount, deepEqualHash, Bool.false_eq_true, if_false]
  split
  · refine (Only.pure _).bind fun _ => ?_
    split
    · exact .call trivial fun r => Only.ofExcept r
    · exact .pure _
  · exact .throw _

theorem writeBack_syncCall (key : String) (cm : ConfigMap) (certIssuer : CertIssuer) :
    Only SyncCall (writeBack lib key cm certIssuer) := by
  simp only [writeBack]
  split
  · exact .throw _
  · split
    · exact .pure ()
    · exact .call trivial fun r => (Only.ofExcept r).bind fun _ => .pure ()

theorem fetchAccount_syncCall (ns directoryUrl : String) (acmeIssuer : AcmeCertIssuer)
    (account : Acme.Account) : Only SyncCall (fetchAccount lib ns directoryUrl acmeIssuer account) := by
  refine .call trivial fun r => ?_
  cases r with
  | error e =>
    show Only _ (if _ then _ else _)
    split
    · exact .throw _
    · exact registerAccount_syncCall lib _ _ _ _
  | ok secret => exact existingAccount_syncCall lib _ _ _ _

theorem sync_syncCall (key : String) : Only SyncCall (sync lib key) := by
  simp only [sync]
  split
  · exact .throw _
  · refine .call trivial fun r => (Only.ofExcept r).bind fun cm? => ?_
    rcases cm? with _ | cm
    · exact .pure ()
    simp only [syncConfigMap]
    split
    · exact .pure ()
    split
    · exact .throw _
    split
    · exact .throw _
    split
    · exact .pure ()
    split
    · exact .panic _
    exact (fetchAccount_syncCall lib _ _ _ _).bind fun _ => writeBack_syncCall lib _ _ _

theorem steps_sync_iff {key : String} {nk : String × String} {cm : ConfigMap}
    {tr : List Exchange} {q : Prog Unit} (hkey : splitMetaNamespaceKey key = .ok nk) :
    Steps (sync lib key) (⟨.configMapCacheGet key, .ok (some cm)⟩ :: tr) q ↔
      Steps (syncConfigMap lib key cm) tr q := by
  simp [sync, hkey]

theorem syncConfigMap_eq {key d : String} {cm : ConfigMap} {ci : CertIssuer} {ai : AcmeCertIssuer}
    (hdel : cm.meta.deletionTimestamp = none) (hd : cm.data.lookup lib.certIssuerDataKey = some d)
    (hci : lib.certIssuerYaml.unmarshal d = .ok ci) (htype : ci.type = lib.certIssuerTypeAcme)
    (hai : ci.acmeCertIssuer = some ai) :
    syncConfigMap lib key cm = syncAccount lib key cm ci ai := by
  simp [syncConfigMap, hdel, hd, hci, htype, hai]

theorem steps_fetchAccount_secret_iff {ns directoryUrl : String} {ai : AcmeCertIssuer}
    {account : Acme.Account} {secret : Secret} {tr : List Exchange} {q : Prog Acme.Account} :
    Steps (fetchAccount lib ns directoryUrl ai account)
        (⟨.secretListerGet ns ai.accountCredentialsSecretName, .ok secret⟩ :: tr) q ↔
      Steps (existingAccount lib directoryUrl ai.account secret account) tr q := by
  simp [fetchAccount]

theorem existingAccount_eq {directoryUrl : String} {acmeAccount : AcmeAccount} {secret : Secret}
    {account : Acme.Account} {k : PrivateKey} (hk : lib.privateKeyFromSecret secret = .ok k) :
    existingAccount lib directoryUrl acmeAccount secret account =
      if acmeAccount.status.uri.length = 0 then .call (.getReg directoryUrl k) Prog.ofExcept
      else .pure account := by
  simp only [existingAccount, hk, deepEqualHash, Bool.false_eq_true, if_false]
  rfl

theorem steps_existingAccount_getReg {directoryUrl : String} {acmeAccount : AcmeAccount}
    {secret : Secret} {account a : Acme.Account} {k : PrivateKey}
    (hk : lib.privateKeyFromSecret secret = .ok k) (huri : acmeAccount.status.uri.length = 0) :
    Steps (existingAccount lib directoryUrl acmeAccount secret account)
      [⟨.getReg directoryUrl k, .ok a⟩] (.pure a) := by
  rw [existingAccount_eq lib hk, if_pos huri]
  exact .call _ (.refl _)

theorem steps_existingAccount_recorded {directoryUrl : String} {acmeAccount : AcmeAccount}
    {secret : Secret} {account : Acme.Account} {k : PrivateKey}
    (hk : lib.privateKeyFromSecret secret = .ok k) (huri : acmeAccount.status.uri.length ≠ 0) :
    Steps (existingAccount lib directoryUrl acmeAccount secret account) [] (.pure account) := by
  rw [existingAccount_eq lib hk, if_neg huri]
  exact .refl _

theorem writeBack_returns {key : String} {cm : ConfigMap} {ci : CertIssuer} {tr : List Exchange}
    (h : Steps (writeBack lib key cm ci) tr (.pure ())) :
    ∃ bytes, lib.certIssuerYaml.marshal ci = .ok bytes ∧
      ((cm = writtenBack lib cm bytes ∧ tr = []) ∨
        ∃ y, tr = [⟨.configMapUpdate cm.meta.«namespace» (writtenBack lib cm bytes), .ok y⟩]) := by
  simp only [writeBack] at h
  split at h
  · simp only [Prog.throw_eq, Prog.steps_throw_iff] at h
    cases h.2
  · rename_i bytes hb
    refine ⟨bytes, hb, ?_⟩
    split at h
    · rename_i heq
      exact .inl ⟨heq, (Prog.steps_pure_iff.mp h).1⟩
    · simp only [Prog.bind_eq, Prog.send_bind] at h
      rcases Prog.steps_call_iff.mp h with ⟨-, h'⟩ | ⟨r, tr', rfl, h'⟩
      · cases h'
      · cases r with
        | error e => simp at h'
        | ok y =>
          simp only [Prog.ofExcept_ok, Prog.pure_bind, Prog.pure_eq, Prog.steps_pure_iff] at h'
          exact .inr ⟨y, by rw [h'.1]⟩

theorem steps_writeBack_update {key bytes : String} {cm y : ConfigMap} {ci : CertIssuer}
    (hb : lib.certIssuerYaml.marshal ci = .ok bytes) (hne : cm ≠ writtenBack lib cm bytes) :
    Steps (writeBack lib key cm ci)
      [⟨.configMapUpdate cm.meta.«namespace» (writtenBack lib cm bytes), .ok y⟩] (.pure ()) := by
  simp only [writeBack, hb]
  rw [if_neg hne]
  exact .call _ (.refl _)

theorem writtenBack_ne {cm : ConfigMap} {d bytes : String} {ci ci' : CertIssuer}
    (hd : cm.data.lookup lib.certIssuerDataKey = some d) (hci : lib.certIssuerYaml.unmarshal d = .ok ci)
    (hb : lib.certIssuerYaml.marshal ci' = .ok bytes) (hne : ci' ≠ ci) :
    cm ≠ writtenBack lib cm bytes := by
  intro heq
  have hdb : d = bytes := by
    have h := congrArg (fun c : ConfigMap => c.data.lookup lib.certIssuerDataKey) heq
    simpa [writtenBack, hd] using h
  have h := lib.certIssuerYaml.unmarshal_marshal _ _ hb
  rw [← hdb, hci] at h
  exact hne (Except.ok.inj h).symm

theorem steps_writeBack_changed {key d bytes : String} {cm y : ConfigMap} {ci ci' : CertIssuer}
    (hd : cm.data.lookup lib.certIssuerDataKey = some d) (hci : lib.certIssuerYaml.unmarshal d = .ok ci)
    (hb : lib.certIssuerYaml.marshal ci' = .ok bytes) (hne : ci' ≠ ci) :
    Steps (writeBack lib key cm ci')
      [⟨.configMapUpdate cm.meta.«namespace» (writtenBack lib cm bytes), .ok y⟩] (.pure ()) :=
  steps_writeBack_update lib hb (writtenBack_ne lib hd hci hb hne)

@[simp] theorem defaultSecretName_account (cm : ConfigMap) (ai : AcmeCertIssuer) :
    (defaultSecretName cm ai).account = ai.account := by
  unfold defaultSecretName
  split <;> rfl

theorem steps_sync_secret_pure {key : String} {nk : String × String} {cm : ConfigMap} {d : String}
    {ci : CertIssuer} {ai : AcmeCertIssuer} {secret : Secret} {tr : List Exchange}
    (hkey : splitMetaNamespaceKey key = .ok nk) (hdel : cm.meta.deletionTimestamp = none)
    (hd : cm.data.lookup lib.certIssuerDataKey = some d) (hci : lib.certIssuerYaml.unmarshal d = .ok ci)
    (htype : ci.type = lib.certIssuerTypeAcme) (hai : ci.acmeCertIssuer = some ai)
    (h : Steps (sync lib key)
      (⟨.configMapCacheGet key, .ok (some cm)⟩ ::
        ⟨.secretListerGet cm.meta.«namespace» (defaultSecretName cm ai).accountCredentialsSecretName,
          .ok secret⟩ :: tr) (.pure ())) :
    ∃ tr₁ tr₂ account, tr = tr₁ ++ tr₂ ∧
      Steps (existingAccount lib ai.directoryUrl ai.account secret ⟨"", ai.account.contacts, "", ""⟩)
        tr₁ (.pure account) ∧
      Steps (writeBack lib key cm { ci with acmeCertIssuer := some { defaultSecretName cm ai with
        account := recordAccount lib ai.account account } }) tr₂ (.pure ()) := by
  rw [steps_sync_iff lib hkey, syncConfigMap_eq lib hdel hd hci htype hai] at h
  obtain ⟨tr₁, tr₂, account, htr, h₁, h₂⟩ := Prog.Steps.bind_pure_inv h
  rcases tr₁ with _ | ⟨e, tr₁⟩
  · cases h₁
  obtain ⟨rfl, rfl⟩ := List.cons.inj htr
  rw [steps_fetchAccount_secret_iff, defaultSecretName_account] at h₁
  exact ⟨tr₁, tr₂, account, rfl, h₁, by simpa using h₂⟩

/--
No config map holding an ACME issuer whose credentials secret exists is a fixed point of `sync`:
every run of `sync` on it that returns nil either calls `GetReg` (no account URI is recorded) or
updates the config map (a URI is recorded, and `sync` overwrites it with the empty URI of the
account it built without asking the CA).
-/
theorem sync_with_secret_calls_ca_or_writes (key : String) (nk : String × String) (cm : ConfigMap)
    (d : String) (ci : CertIssuer) (ai : AcmeCertIssuer) (secret : Secret) (k : PrivateKey)
    (tr : List Exchange) (hkey : splitMetaNamespaceKey key = .ok nk)
    (hdel : cm.meta.deletionTimestamp = none) (hd : cm.data.lookup lib.certIssuerDataKey = some d)
    (hci : lib.certIssuerYaml.unmarshal d = .ok ci) (htype : ci.type = lib.certIssuerTypeAcme)
    (hai : ci.acmeCertIssuer = some ai) (hk : lib.privateKeyFromSecret secret = .ok k)
    (h : Steps (sync lib key)
      (⟨.configMapCacheGet key, .ok (some cm)⟩ ::
        ⟨.secretListerGet cm.meta.«namespace» (defaultSecretName cm ai).accountCredentialsSecretName,
          .ok secret⟩ :: tr) (.pure ())) :
    (∃ e ∈ tr, e.call = .getReg ai.directoryUrl k) ∨
      ∃ e ∈ tr, ∃ cm', e.call = .configMapUpdate cm.meta.«namespace» cm' := by
  rw [steps_sync_iff lib hkey, syncConfigMap_eq lib hdel hd hci htype hai] at h
  obtain ⟨tr₁, tr₂, account, htr, h₁, h₂⟩ := Prog.Steps.bind_pure_inv h
  rcases tr₁ with _ | ⟨e, tr₁⟩
  · cases h₁
  obtain ⟨rfl, rfl⟩ := List.cons.inj htr
  rw [steps_fetchAccount_secret_iff, existingAccount_eq lib hk] at h₁
  split at h₁
  · rcases Prog.steps_call_iff.mp h₁ with ⟨-, h⟩ | ⟨r, tr', rfl, -⟩
    · cases h
    · exact .inl ⟨_, List.mem_append_left _ (.head _), rfl⟩
  · rename_i huri
    rw [defaultSecretName_account] at huri
    obtain ⟨rfl, h₁⟩ := Prog.steps_pure_iff.mp h₁
    cases h₁
    obtain ⟨bytes, hb, ⟨heq, -⟩ | ⟨y, rfl⟩⟩ := writeBack_returns lib h₂
    · refine absurd heq (writtenBack_ne lib hd hci hb fun hci' => huri ?_)
      have hacc := congrArg (fun c : CertIssuer => c.acmeCertIssuer.map (·.account.status.uri)) hci'
      simp only [hai, Option.map_some'] at hacc
      rw [← Option.some.inj hacc]
      rfl
    · exact .inr ⟨_, .head _, _, rfl⟩

def accountContacts : List String := ["mailto:admin@example.com"]

def caAccount : Acme.Account :=
  ⟨"https://ca.example/acct/1", accountContacts, "https://ca.example/acct/1/orders", "valid"⟩

def freshIssuer : CertIssuer :=
  ⟨"acme", some ⟨"https://ca.example/directory", ⟨accountContacts, ⟨"", "", "", ""⟩⟩, "acme-account"⟩⟩

def recordedIssuer : CertIssuer :=
  { freshIssuer with acmeCertIssuer := freshIssuer.acmeCertIssuer.map fun ai =>
      { ai with account := recordAccount exampleLib ai.account caAccount } }

def blankedIssuer : CertIssuer :=
  { recordedIssuer with acmeCertIssuer := recordedIssuer.acmeCertIssuer.map fun ai =>
      { ai with account := recordAccount exampleLib ai.account ⟨"", accountContacts, "", ""⟩ } }

def freshIssuerYaml : String :=
  "type: acme\nacmeCertIssuer:\n  account:\n    contacts: [mailto:admin@example.com]\n"

def recordedIssuerYaml : String :=
  "type: acme\nacmeCertIssuer:\n  account:\n    status:\n      uri: https://ca.example/acct/1\n"

def blankedIssuerYaml : String :=
  "type: acme\nacmeCertIssuer:\n  account:\n    status: \x7b\x7d\n"

def accountLib : Lib :=
  { exampleLib with
    certIssuerYaml := Codec.ofTable
      [(freshIssuer, freshIssuerYaml), (recordedIssuer, recordedIssuerYaml),
        (blankedIssuer, blankedIssuerYaml)] (by decide)
    privateKeyFromSecret := fun _ => .ok ⟨1⟩ }

def accountConfigMap : ConfigMap :=
  ⟨{ ObjectMeta.named "acme-account-config" with
      «namespace» := "acme", resourceVersion := 1, labels := some [("acme-account", "true")] },
    some [("cert-issuer", freshIssuerYaml)]⟩

def accountSecret : Secret :=
  ⟨{ ObjectMeta.named "acme-account" with «namespace» := "acme", resourceVersion := 1 }, "Opaque",
    some [("tls.key", "key-1")]⟩

def storedConfigMap : ConfigMap :=
  let cm := writtenBack accountLib accountConfigMap recordedIssuerYaml
  { cm with meta := { cm.meta with resourceVersion := 2 } }

set_option maxRecDepth 1000 in
theorem steps_sync_storedConfigMap :
    Steps (sync accountLib "acme/acme-account-config")
      [⟨.configMapCacheGet "acme/acme-account-config", .ok (some storedConfigMap)⟩,
        ⟨.secretListerGet "acme" "acme-account", .ok accountSecret⟩,
        ⟨.configMapUpdate "acme" (writtenBack accountLib storedConfigMap blankedIssuerYaml),
          .ok storedConfigMap⟩] (.pure ()) := by
  have hsplit : splitMetaNamespaceKey "acme/acme-account-config" =
      .ok ("acme", "acme-account-config") := rfl
  rw [steps_sync_iff accountLib hsplit,
    @syncConfigMap_eq accountLib _ recordedIssuerYaml storedConfigMap recordedIssuer _ rfl rfl rfl rfl rfl]
  show Steps _ ([_] ++ [_]) _
  refine Prog.Steps.bind_pure
    ((steps_fetchAccount_secret_iff accountLib).mpr
      (steps_existingAccount_recorded accountLib rfl (by decide)))
    (steps_writeBack_changed accountLib rfl rfl ?_ fun h =>
      absurd (congrArg (fun c : CertIssuer => c.acmeCertIssuer.map (·.account.status.uri)) h)
        (by decide))
  rfl

set_option maxRecDepth 1000 in
theorem sync_rewrites_what_it_wrote :
    Steps (sync accountLib "acme/acme-account-config")
      [⟨.configMapCacheGet "acme/acme-account-config", .ok (some accountConfigMap)⟩,
        ⟨.secretListerGet "acme" "acme-account", .ok accountSecret⟩,
        ⟨.getReg "https://ca.example/directory" ⟨1⟩, .ok caAccount⟩,
        ⟨.configMapUpdate "acme" (writtenBack accountLib accountConfigMap recordedIssuerYaml),
          .ok storedConfigMap⟩] (.pure ()) ∧
    Steps (sync accountLib "acme/acme-account-config")
      [⟨.configMapCacheGet "acme/acme-account-config", .ok (some storedConfigMap)⟩,
        ⟨.secretListerGet "acme" "acme-account", .ok accountSecret⟩,
        ⟨.configMapUpdate "acme" (writtenBack accountLib storedConfigMap blankedIssuerYaml),
          .ok storedConfigMap⟩] (.pure ()) ∧
    ((∃ e ∈ [(⟨.configMapUpdate "acme" (writtenBack accountLib storedConfigMap blankedIssuerYaml),
          .ok storedConfigMap⟩ : Exchange)], e.call = .getReg "https://ca.example/directory" ⟨1⟩) ∨
      ∃ e ∈ [(⟨.configMapUpdate "acme" (writtenBack accountLib storedConfigMap blankedIssuerYaml),
          .ok storedConfigMap⟩ : Exchange)], ∃ cm', e.call = .configMapUpdate "acme" cm') :=
  by
  have hsplit : splitMetaNamespaceKey "acme/acme-account-config" =
      .ok ("acme", "acme-account-config") := rfl
  refine ⟨?first, steps_sync_storedConfigMap, sync_with_secret_calls_ca_or_writes accountLib _ _
    storedConfigMap recordedIssuerYaml recordedIssuer _ accountSecret ⟨1⟩ _ hsplit rfl rfl rfl rfl rfl
    rfl steps_sync_storedConfigMap⟩
  case first =>
    rw [steps_sync_iff accountLib hsplit, @syncConfigMap_eq accountLib _ freshIssuerYaml
      accountConfigMap freshIssuer _ rfl rfl rfl rfl rfl]
    show Steps _ ([_, _] ++ [_]) _
    refine Prog.Steps.bind_pure
      ((steps_fetchAccount_secret_iff accountLib).mpr
        (steps_existingAccount_getReg accountLib rfl (by decide)))
      (steps_writeBack_changed accountLib rfl rfl ?_ fun h =>
        absurd (congrArg (fun c : CertIssuer => c.acmeCertIssuer.map (·.account.status.uri)) h)
          (by decide))
    rfl

end AccountController

end OpenshiftAcme
