import OpenshiftAcme.Account.Lemmas.Sync

/-!
This module contains the fan-out of a deleted secret to the account config maps that use it. The
handler lists the account config maps of the secret's namespace and enqueues those whose issuer
names the secret. It compares the name as written in the issuer, without the default to the
config map's own name that `sync` applies to an empty one: a config map that leaves the name empty
is not enqueued when the secret it uses is deleted.
-/

namespace OpenshiftAcme

namespace AccountController

open Prog (Steps)

variable (lib : Lib)

def acmeIssuerOf (cm : ConfigMap) : Option AcmeCertIssuer :=
  match cm.data.lookup lib.certIssuerDataKey with
  | none => none
  | some d =>
    match lib.certIssuerYaml.unmarshal d with
    | .error _ => none
    | .ok ci => if ci.type = lib.certIssuerTypeAcme then ci.acmeCertIssuer else none

def namingSecret (name : String) (cms : List ConfigMap) : List ConfigMap :=
  cms.filter fun cm => (acmeIssuerOf lib cm).map (·.accountCredentialsSecretName) == some name

theorem steps_enqueueUsers (name : String) (cms : List ConfigMap)
    (h : ∀ cm ∈ cms, (acmeIssuerOf lib cm).isSome) :
    Steps (enqueueUsers lib name cms)
      ((namingSecret lib name cms).map fun cm => ⟨.queueAdd .account (.key cm.meta.key), ()⟩)
      (.pure ()) := by
  induction cms with
  | nil => exact .refl _
  | cons cm rest ih =>
    have ih := ih fun c hc => h c (List.mem_cons_of_mem _ hc)
    obtain ⟨ai, hai⟩ := Option.isSome_iff_exists.mp (h cm (List.mem_cons_self _ _))
    have hsel : namingSecret lib name (cm :: rest) =
        if ai.accountCredentialsSecretName = name then cm :: namingSecret lib name rest
        else namingSecret lib name rest := by
      by_cases hn : ai.accountCredentialsSecretName = name <;> simp [namingSecret, hai, hn]
    have hprog : enqueueUsers lib name (cm :: rest) =
        if ai.accountCredentialsSecretName = name then enqueueAccount cm >>= fun _ => enqueueUsers lib name rest
        else enqueueUsers lib name rest := by
      simp only [acmeIssuerOf] at hai
      split at hai
      · cases hai
      rename_i d hd
      split at hai
      · cases hai
      rename_i ci hci
      split at hai
      · simp [enqueueUsers, hd, hci, *]
      · cases hai
    rw [hsel, hprog]
    split
    · exact Prog.Steps.call (c := .queueAdd .account (.key cm.meta.key))
        (k := fun _ => enqueueUsers lib name rest) () ih
    · exact ih

/--
For a deleted secret and account config maps that hold ACME issuers, `deleteSecret` enqueues
exactly the config maps whose issuer names the secret as written; a config map whose issuer leaves
the name empty, so that `sync` uses the config map's own name, is enqueued only for a secret named
by the empty string.
-/
theorem deleteSecret_enqueues_written_name (secret : Secret) (cms : List ConfigMap)
    (h : ∀ cm ∈ cms, (acmeIssuerOf lib cm).isSome) :
    Steps (deleteSecret lib secret)
      (⟨.configMapListerList secret.meta.«namespace» lib.accountLabels, .ok cms⟩ ::
        (namingSecret lib secret.meta.name cms).map fun cm => ⟨.queueAdd .account (.key cm.meta.key), ()⟩)
      (.pure ()) ∧
    ∀ cm ai, acmeIssuerOf lib cm = some ai → ai.accountCredentialsSecretName = "" →
      (defaultSecretName cm ai).accountCredentialsSecretName = cm.meta.name ∧
      (cm ∈ namingSecret lib secret.meta.name cms → secret.meta.name = "") := by
  refine ⟨.call _ (steps_enqueueUsers lib _ cms h), fun cm ai hai hempty => ⟨?_, fun hcm => ?_⟩⟩
  · simp [defaultSecretName, hempty]
  · have := (List.mem_filter.mp hcm).2
    simp [hai, hempty] at this
    exact this.symm

def unnamedIssuer : CertIssuer :=
  ⟨"acme", some ⟨"https://ca.example/directory", ⟨accountContacts, ⟨"", "", "", ""⟩⟩, ""⟩⟩

def fanoutLib : Lib :=
  { accountLib with
    certIssuerYaml := Codec.ofTable [(unnamedIssuer, "type: acme\n")] (by decide) }

def unnamedConfigMap : ConfigMap :=
  ⟨{ ObjectMeta.named "acme-account-config" with
      «namespace» := "acme", resourceVersion := 1, labels := some [("acme-account", "true")] },
    some [("cert-issuer", "type: acme\n")]⟩

def unnamedSecret : Secret :=
  ⟨{ ObjectMeta.named "acme-account-config" with «namespace» := "acme", resourceVersion := 1 },
    "Opaque", some [("tls.key", "key-1")]⟩

theorem unnamedSecret_deleted_enqueues_nothing :
    (defaultSecretName unnamedConfigMap ⟨"https://ca.example/directory",
      ⟨accountContacts, ⟨"", "", "", ""⟩⟩, ""⟩).accountCredentialsSecretName = unnamedSecret.meta.name ∧
    Steps (deleteSecret fanoutLib unnamedSecret)
      (⟨.configMapListerList "acme" fanoutLib.accountLabels, .ok [unnamedConfigMap]⟩ ::
        (namingSecret fanoutLib unnamedSecret.meta.name [unnamedConfigMap]).map
          fun cm => ⟨.queueAdd .account (.key cm.meta.key), ()⟩) (.pure ()) ∧
    namingSecret fanoutLib unnamedSecret.meta.name [unnamedConfigMap] = [] :=
  have h := deleteSecret_enqueues_written_name fanoutLib unnamedSecret [unnamedConfigMap]
    fun cm hcm => by rw [List.mem_singleton.mp hcm]; rfl
  ⟨(h.2 unnamedConfigMap _ rfl rfl).1, h.1, by decide⟩

end AccountController

end OpenshiftAcme
