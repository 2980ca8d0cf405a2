import OpenshiftAcme.Account.Lemmas.Sync
import OpenshiftAcme.World.Secrets

/-!
This module contains the register path of `sync` and what a retry of it does. When the lister has
no credentials secret, `sync` generates a key, registers an account with it, and only then creates
the secret that keeps the key. If that create fails, the invocation returns the error and the key
is lost; the retry finds no secret again, generates another key and registers another account. So
a run of two `sync` invocations of one config map makes two registrations for one credentials
secret, and the secret ends up holding the second key only.
-/

namespace OpenshiftAcme

namespace AccountController

open Prog (Steps)

variable (lib : Lib)

def SyncInvocation (p : Prog Unit) : Prop :=
  ∃ key, p = sync lib key

def registerKey : Exchange → Option PrivateKey
  | ⟨.register _ k _, _⟩ => some k
  | _ => none

def registeredKeys (s : Sys) : List PrivateKey :=
  s.invocations.flatMap fun inv => inv.trace.filterMap registerKey

def keySecret (name keyPem : String) : Secret :=
  { meta := ObjectMeta.named name, type := "Opaque", data := some [(tlsPrivateKeyKey, keyPem)] }

theorem steps_fetchAccount_register (ns directoryUrl : String) (ai : AcmeCertIssuer)
    (account : Acme.Account) (k : PrivateKey) (a : Acme.Account) (r : Except Err Secret) :
    Steps (fetchAccount lib ns directoryUrl ai account)
      [⟨.secretListerGet ns ai.accountCredentialsSecretName,
          .error (Store.notFound ai.accountCredentialsSecretName)⟩,
        ⟨.generateKey, .ok k⟩, ⟨.register directoryUrl k account, .ok a⟩,
        ⟨.secretCreate ns (keySecret ai.accountCredentialsSecretName (lib.encodePrivateKey k)), r⟩]
      (Prog.ofExcept r >>= fun _ => pure a) :=
  .call _ (.call _ (.call _ (.call _ (.refl _))))

def registerTrace (key : String) (cm : ConfigMap) (ai : AcmeCertIssuer) (k : PrivateKey)
    (a : Acme.Account) (r : Except Err Secret) : List Exchange :=
  let name := (defaultSecretName cm ai).accountCredentialsSecretName
  ⟨.configMapCacheGet key, .ok (some cm)⟩ ::
    ⟨.secretListerGet cm.meta.«namespace» name, .error (Store.notFound name)⟩ ::
    ⟨.generateKey, .ok k⟩ :: ⟨.register ai.directoryUrl k ⟨"", ai.account.contacts, "", ""⟩, .ok a⟩ ::
    [⟨.secretCreate cm.meta.«namespace» (keySecret name (lib.encodePrivateKey k)), r⟩]

section Register

variable {key d : String} {nk : String × String} {cm : ConfigMap} {ci : CertIssuer}
  {ai : AcmeCertIssuer}

theorem steps_sync_register (hkey : splitMetaNamespaceKey key = .ok nk)
    (hdel : cm.meta.deletionTimestamp = none) (hd : cm.data.lookup lib.certIssuerDataKey = some d)
    (hci : lib.certIssuerYaml.unmarshal d = .ok ci) (htype : ci.type = lib.certIssuerTypeAcme)
    (hai : ci.acmeCertIssuer = some ai) (k : PrivateKey) (a : Acme.Account) (r : Except Err Secret) :
    ∃ q, Steps (sync lib key) (registerTrace lib key cm ai k a r) q ∧
      ∀ e, r = .error e → q = .throw e := by
  have h : Steps (syncAccount lib key cm ci ai) (registerTrace lib key cm ai k a r).tail _ :=
    (steps_fetchAccount_register lib _ _ _ _ k a r).bind
  rw [← syncConfigMap_eq lib hdel hd hci htype hai, ← steps_sync_iff lib hkey] at h
  refine ⟨_, h, fun e he => ?_⟩
  subst he
  rfl

theorem answers_registerTrace_error {w : World} (hcm : cm ∈ w.configMaps.history)
    (hcmkey : cm.meta.key = key) {uid : String} (hfresh : w.Fresh uid) (k : PrivateKey)
    (a : Acme.Account) (e : Err) : World.Answers w (registerTrace lib key cm ai k a (.error e)) w :=
  ⟨w, ⟨rfl, hcm, hcmkey⟩, w, ⟨rfl, trivial⟩, w, rfl, w, rfl, w, ⟨uid, hfresh, .inl rfl⟩, rfl⟩

theorem answers_registerTrace_ok {w : World} (hcm : cm ∈ w.configMaps.history)
    (hcmkey : cm.meta.key = key)
    (hfree : w.secrets.find cm.meta.«namespace» (defaultSecretName cm ai).accountCredentialsSecretName = none)
    {uid : String} (hfresh : w.Fresh uid) (k : PrivateKey) (a : Acme.Account) :
    ∃ y w', World.Answers w (registerTrace lib key cm ai k a (.ok y)) w' ∧
      w'.secrets.find cm.meta.«namespace» (defaultSecretName cm ai).accountCredentialsSecretName = some y ∧
      y.data.lookup tlsPrivateKeyKey = some (lib.encodePrivateKey k) := by
  let x := keySecret (defaultSecretName cm ai).accountCredentialsSecretName (lib.encodePrivateKey k)
  have hout : ∃ y w', w.create World.secretsL cm.meta.«namespace» x uid = .ok (y, w') := by
    have hfree' : (World.secretsL.get w).find cm.meta.«namespace»
        (defaultSecretName cm ai).accountCredentialsSecretName = none := hfree
    simp [x, World.create, Store.create, Store.namespaceCheck, keySecret, ObjectMeta.named, hfree',
      Except.map, bind, Except.bind, Resource.meta]
  obtain ⟨y, w', hout⟩ := hout
  have ha : w.Answer (.secretCreate cm.meta.«namespace» x) (.ok y) w' := ⟨uid, hfresh, hout⟩
  obtain ⟨hy, -, hdata, -⟩ := World.secretCreate_ok ha
  refine ⟨y, w', ⟨w, ⟨rfl, hcm, hcmkey⟩, w, ⟨rfl, trivial⟩, w, rfl, w, rfl, w', ha, rfl⟩, hy, ?_⟩
  rw [hdata]
  simp [x, keySecret, StringMap.lookup, StringMap.findEntry]

/--
A run of the account reconciler in which the secret create of a `sync` fails once: for every config
map that holds an ACME issuer whose credentials secret does not exist, every two keys the generator
may hand out, and every two accounts the CA may answer, two invocations of `sync` register with
both keys for the one credentials secret, and the secret ends up holding the second key.
-/
theorem sync_retry_registers_again (key : String) (nk : String × String) (cm : ConfigMap) (d : String)
    (ci : CertIssuer) (ai : AcmeCertIssuer) (hkey : splitMetaNamespaceKey key = .ok nk)
    (hdel : cm.meta.deletionTimestamp = none) (hd : cm.data.lookup lib.certIssuerDataKey = some d)
    (hci : lib.certIssuerYaml.unmarshal d = .ok ci) (htype : ci.type = lib.certIssuerTypeAcme)
    (hai : ci.acmeCertIssuer = some ai) (w : World) (hcm : cm ∈ w.configMaps.history)
    (hcmkey : cm.meta.key = key)
    (hfree : w.secrets.find cm.meta.«namespace» (defaultSecretName cm ai).accountCredentialsSecretName = none)
    (uid : String) (hfresh : w.Fresh uid) (k₁ k₂ : PrivateKey) (a₁ a₂ : Acme.Account) (e : Err) :
    ∃ s, Sys.Reachable (SyncInvocation lib) World.Foreign (· = ⟨w, []⟩) s ∧
      registeredKeys s = [k₁, k₂] ∧
      ∃ secret, s.world.secrets.find cm.meta.«namespace»
          (defaultSecretName cm ai).accountCredentialsSecretName = some secret ∧
        secret.data.lookup tlsPrivateKeyKey = some (lib.encodePrivateKey k₂) := by
  obtain ⟨q₁, h₁, -⟩ := steps_sync_register lib hkey hdel hd hci htype hai k₁ a₁ (.error e)
  obtain ⟨y, w', hans, hy, hkeyPem⟩ := answers_registerTrace_ok lib hcm hcmkey hfree hfresh k₂ a₂
  obtain ⟨q₂, h₂, -⟩ := steps_sync_register lib hkey hdel hd hci htype hai k₂ a₂ (.ok y)
  have hstart : SyncInvocation lib (sync lib key) := ⟨key, rfl⟩
  have hs₀ : Sys.Reachable (SyncInvocation lib) World.Foreign (· = ⟨w, []⟩) ⟨w, []⟩ := .init rfl
  have hs₁ := hs₀.spawn_exec hstart
    (Prog.Exec.of_steps h₁ (answers_registerTrace_error lib hcm hcmkey hfresh k₁ a₁ e))
  refine ⟨_, hs₁.spawn_exec hstart (Prog.Exec.of_steps h₂ hans), ?_, y, hy, hkeyPem⟩
  rfl

end Register

def registerWorld : World :=
  { World.empty with configMaps := ⟨[accountConfigMap], [accountConfigMap]⟩ }

theorem accountConfigMap_registers_twice :
    accountLib.encodePrivateKey ⟨1⟩ ≠ accountLib.encodePrivateKey ⟨2⟩ ∧
    ∃ s, Sys.Reachable (SyncInvocation accountLib) World.Foreign (· = ⟨registerWorld, []⟩) s ∧
      registeredKeys s = [⟨1⟩, ⟨2⟩] ∧
      ∃ secret, s.world.secrets.find "acme" "acme-account" = some secret ∧
        secret.data.lookup tlsPrivateKeyKey = some (accountLib.encodePrivateKey ⟨2⟩) :=
  ⟨by decide, sync_retry_registers_again accountLib "acme/acme-account-config"
    ("acme", "acme-account-config") accountConfigMap freshIssuerYaml freshIssuer
    ⟨"https://ca.example/directory", ⟨accountContacts, ⟨"", "", "", ""⟩⟩, "acme-account"⟩
    rfl rfl rfl rfl rfl rfl registerWorld (List.mem_singleton_self _) rfl rfl "uid-1"
    ⟨by decide, List.not_mem_nil _⟩ ⟨1⟩ ⟨2⟩ caAccount caAccount (.text "Internal error")⟩

end AccountController

end OpenshiftAcme
