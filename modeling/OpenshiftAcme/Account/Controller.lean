import OpenshiftAcme.Prog.Basic

/-!
This module contains the account controller: the informer event handlers, which put the key of an
account config map in its work queue, the worker, and `sync`, which registers the ACME account a
config map describes, keeps its key in a secret, and writes the account's state back into the
config map.
-/

namespace OpenshiftAcme

namespace AccountController

open Prog (send)

variable (lib : Lib)

def enqueueAccount (cm : ConfigMap) : Prog Unit :=
  send (.queueAdd .account (.key cm.meta.key))

def addConfigMap (cm : ConfigMap) : Prog Unit :=
  if !lib.accountLabels.matches cm.meta.labels then pure () else enqueueAccount cm

def updateConfigMap (_old cur : ConfigMap) : Prog Unit :=
  if !lib.accountLabels.matches cur.meta.labels then pure () else enqueueAccount cur

def deleteConfigMap (cm : ConfigMap) : Prog Unit :=
  if !lib.accountLabels.matches cm.meta.labels then pure () else enqueueAccount cm

def enqueueUsers (secretName : String) : List ConfigMap → Prog Unit
  | [] => pure ()
  | cm :: rest =>
    match cm.data.lookup lib.certIssuerDataKey with
    | none => enqueueUsers secretName rest
    | some certIssuerData =>
      match lib.certIssuerYaml.unmarshal certIssuerData with
      | .error _ => enqueueUsers secretName rest
      | .ok certIssuer =>
        if certIssuer.type = lib.certIssuerTypeAcme then
          match certIssuer.acmeCertIssuer with
          | none => .panic nilPointerDereference
          | some acmeIssuer => do
            if acmeIssuer.accountCredentialsSecretName = secretName then enqueueAccount cm
            enqueueUsers secretName rest
        else enqueueUsers secretName rest

def deleteSecret (secret : Secret) : Prog Unit := do
  match ← send (.configMapListerList secret.meta.«namespace» lib.accountLabels) with
  | .error _ => pure ()
  | .ok allConfigMaps => enqueueUsers lib secret.meta.name allConfigMaps

def sprintStrings (l : List String) : String :=
  "[" ++ " ".intercalate l ++ "]"

def sprintDigest (d : Digest) : String :=
  "[" ++ " ".intercalate (d.bytes.map toString) ++ "]"

def hashAccount (account : AcmeAccount) : Digest :=
  lib.sum512 (sprintStrings account.contacts)

/--
`reflect.DeepEqual(accountHash, []byte(hash))`: a `[64]byte` and a `[]byte` have different types,
and values of different types are never deeply equal.
-/
def deepEqualHash (_accountHash : Digest) (_hash : String) : Bool := false

def tlsPrivateKeyKey : String := "tls.key"

def registerAccount (ns directoryUrl secretName : String) (account : Acme.Account) :
    Prog Acme.Account := do
  let privateKey ← Prog.ofExcept (← send .generateKey)
  let keyPem := lib.encodePrivateKey privateKey
  let account ← Prog.ofExcept (← send (.register directoryUrl privateKey account))
  let secret : Secret :=
    { meta := ObjectMeta.named secretName, type := "Opaque", data := some [(tlsPrivateKeyKey, keyPem)] }
  let _ ← Prog.ofExcept (← send (.secretCreate ns secret))
  pure account

def existingAccount (directoryUrl : String) (acmeAccount : AcmeAccount) (secret : Secret)
    (account : Acme.Account) : Prog Acme.Account := do
  let key ← match lib.privateKeyFromSecret secret with
    | .ok k => pure k
    | .error e => throw (.text e)
  let accountHash := hashAccount lib acmeAccount
  if deepEqualHash accountHash acmeAccount.status.hash then
    Prog.ofExcept (← send (.updateReg directoryUrl key { account with contact := acmeAccount.contacts }))
  else if acmeAccount.status.uri.length = 0 then
    Prog.ofExcept (← send (.getReg directoryUrl key))
  else pure account

def recordAccount (acmeAccount : AcmeAccount) (account : Acme.Account) : AcmeAccount :=
  let recorded : AcmeAccount :=
    { contacts := account.contact,
      status := { acmeAccount.status with uri := account.uri, ordersURL := account.ordersURL,
                                          accountStatus := account.status } }
  { recorded with status := { recorded.status with hash := sprintDigest (hashAccount lib recorded) } }

def invalidObject (key : String) (e : String) : Err :=
  let selectors := goQuote lib.accountLabels.render
  .text s!"configmap {key} is matching CertIssuer selectors {selectors} but contains invalid object: {e}"

def writtenBack (cmReadOnly : ConfigMap) (certIssuerBytes : String) : ConfigMap :=
  { cmReadOnly with data := cmReadOnly.data.insert lib.certIssuerDataKey certIssuerBytes }

def writeBack (key : String) (cmReadOnly : ConfigMap) (certIssuer : CertIssuer) : Prog Unit :=
  match lib.certIssuerYaml.marshal certIssuer with
  | .error e => throw (invalidObject lib key e)
  | .ok certIssuerBytes =>
    let cm := writtenBack lib cmReadOnly certIssuerBytes
    if cmReadOnly = cm then pure ()
    else do
      let _ ← Prog.ofExcept (← send (.configMapUpdate cmReadOnly.meta.«namespace» cm))
      pure ()

def fetchAccount (ns directoryUrl : String) (acmeIssuer : AcmeCertIssuer) (account : Acme.Account) :
    Prog Acme.Account := do
  match ← send (.secretListerGet ns acmeIssuer.accountCredentialsSecretName) with
  | .error e =>
    if !e.isNotFound then throw e
    else registerAccount lib ns directoryUrl acmeIssuer.accountCredentialsSecretName account
  | .ok secret => existingAccount lib directoryUrl acmeIssuer.account secret account

def defaultSecretName (cmReadOnly : ConfigMap) (acmeIssuer : AcmeCertIssuer) : AcmeCertIssuer :=
  if acmeIssuer.accountCredentialsSecretName.length = 0 then
    { acmeIssuer with accountCredentialsSecretName := cmReadOnly.meta.name }
  else acmeIssuer

/--
The account of an ACME issuer. `acmeIssuer` points into `certIssuer`, so the defaulted secret name
and the recorded account are in the issuer that is written back.
-/
def syncAccount (key : String) (cmReadOnly : ConfigMap) (certIssuer : CertIssuer)
    (acmeIssuer : AcmeCertIssuer) : Prog Unit := do
  let account : Acme.Account := ⟨"", acmeIssuer.account.contacts, "", ""⟩
  let acmeIssuer' := defaultSecretName cmReadOnly acmeIssuer
  let account ← fetchAccount lib cmReadOnly.meta.«namespace» acmeIssuer.directoryUrl acmeIssuer' account
  let acmeIssuer' := { acmeIssuer' with account := recordAccount lib acmeIssuer'.account account }
  writeBack lib key cmReadOnly { certIssuer with acmeCertIssuer := some acmeIssuer' }

def syncConfigMap (key : String) (cmReadOnly : ConfigMap) : Prog Unit :=
  if cmReadOnly.meta.deletionTimestamp.isSome then pure ()
  else
    match cmReadOnly.data.lookup lib.certIssuerDataKey with
    | none =>
      let selectors := goQuote lib.accountLabels.render
      let dataKey := goQuote lib.certIssuerDataKey
      throw (.text s!"configmap {key} is matching CertIssuer selectors {selectors} but missing key {dataKey}")
    | some certIssuerData =>
      match lib.certIssuerYaml.unmarshal certIssuerData with
      | .error e => throw (invalidObject lib key e)
      | .ok certIssuer =>
        if certIssuer.type ≠ lib.certIssuerTypeAcme then pure ()
        else
          match certIssuer.acmeCertIssuer with
          | none => .panic nilPointerDereference
          | some acmeIssuer => syncAccount lib key cmReadOnly certIssuer acmeIssuer

def sync (key : String) : Prog Unit :=
  match splitMetaNamespaceKey key with
  | .error e => throw (.text e)
  | .ok _ => do
    match ← Prog.ofExcept (← send (.configMapCacheGet key)) with
    | none => pure ()
    | some cmReadOnly => syncConfigMap lib key cmReadOnly

def processNextItem : Prog Bool := do
  match ← send (.queueGet .account) with
  | none => pure false
  | some key =>
    Prog.withDefer (send (.queueDone .account key)) do
      match key with
      | .route _ => .panic keyAssertionPanic
      | .key k =>
        match ← (sync lib k).toExcept with
        | .ok () => send (.queueForget .account key)
        | .error _ => send (.queueAddRateLimited .account key)
        pure true

/--
What the account controller process runs: workers (`runWorker` calls `processNextItem` again and
again), and the handlers the informers call on the objects they see.
-/
inductive Task : Prog Unit → Prop
  | worker : Task (processNextItem lib >>= fun _ => pure ())
  | addConfigMap (cm : ConfigMap) : Task (addConfigMap lib cm)
  | updateConfigMap (old cur : ConfigMap) : Task (updateConfigMap lib old cur)
  | deleteConfigMap (cm : ConfigMap) : Task (deleteConfigMap lib cm)
  | deleteSecret (secret : Secret) : Task (deleteSecret lib secret)

end AccountController

end OpenshiftAcme
