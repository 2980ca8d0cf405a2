import OpenshiftAcme.Api.Meta

/-!
This module contains the objects the two controllers handle: OpenShift routes and the core and
apps objects of the exposer, the ACME objects of the CA client, the provisioning status kept in a
route annotation, the issuer configuration of the account controller, the errors the controllers
return, and the library functions and constants they take from outside the two source files.
-/

namespace OpenshiftAcme

structure RouteTargetReference where
  kind : String
  name : String
  deriving DecidableEq, Repr

structure TLSConfig where
  termination : String
  certificate : String
  key : String
  insecureEdgeTerminationPolicy : String
  deriving DecidableEq, Repr

structure RouteSpec where
  host : String
  path : String
  «to» : RouteTargetReference
  alternateBackends : List RouteTargetReference
  /-- `Spec.Port.TargetPort`, when a port is set. -/
  port : Option String
  tls : Option TLSConfig
  deriving DecidableEq, Repr

structure RouteIngress where
  host : String
  admitted : Bool
  deriving DecidableEq, Repr

structure RouteStatus where
  ingress : List RouteIngress
  deriving DecidableEq, Repr

structure Route where
  meta : ObjectMeta
  spec : RouteSpec
  status : RouteStatus
  deriving DecidableEq, Repr

/--
Modelled from the spec: `routeutil.IsAdmitted` is not in the source. An admitted route is one that
a router has acknowledged as routing traffic for its host.
-/
def Route.isAdmitted (r : Route) : Bool :=
  r.status.ingress.any fun i => i.host = r.spec.host && i.admitted

/-- The route strategy of the API server drops the status on create and keeps it on update. -/
instance : Resource Route where
  meta := Route.meta
  withMeta r m := { r with meta := m }
  prepareForCreate r := { r with status := ⟨[]⟩ }
  prepareForUpdate r old := { r with status := old.status }
  meta_withMeta _ _ := rfl
  meta_prepareForCreate _ := rfl
  meta_prepareForUpdate _ _ := rfl

structure ReplicaSetSpec where
  replicas : Int
  /-- `Spec.Selector.MatchLabels` -/
  selector : StringMap
  /-- `Spec.Template.ObjectMeta.Labels`; the pod spec is left to the deployment. -/
  templateLabels : StringMap
  deriving DecidableEq, Repr

structure ReplicaSet where
  meta : ObjectMeta
  spec : ReplicaSetSpec
  deriving DecidableEq, Repr

structure ServiceSpec where
  selector : StringMap
  type : String
  deriving DecidableEq, Repr

structure Service where
  meta : ObjectMeta
  spec : ServiceSpec
  deriving DecidableEq, Repr

structure Secret where
  meta : ObjectMeta
  type : String
  data : StringMap
  deriving DecidableEq, Repr

structure ConfigMap where
  meta : ObjectMeta
  data : StringMap
  deriving DecidableEq, Repr

instance : Resource ReplicaSet where
  meta := ReplicaSet.meta
  withMeta x m := { x with meta := m }
  prepareForCreate := id
  prepareForUpdate x _ := x
  meta_withMeta _ _ := rfl
  meta_prepareForCreate _ := rfl
  meta_prepareForUpdate _ _ := rfl

instance : Resource Service where
  meta := Service.meta
  withMeta x m := { x with meta := m }
  prepareForCreate := id
  prepareForUpdate x _ := x
  meta_withMeta _ _ := rfl
  meta_prepareForCreate _ := rfl
  meta_prepareForUpdate _ _ := rfl

instance : Resource Secret where
  meta := Secret.meta
  withMeta x m := { x with meta := m }
  prepareForCreate := id
  prepareForUpdate x _ := x
  meta_withMeta _ _ := rfl
  meta_prepareForCreate _ := rfl
  meta_prepareForUpdate _ _ := rfl

instance : Resource ConfigMap where
  meta := ConfigMap.meta
  withMeta x m := { x with meta := m }
  prepareForCreate := id
  prepareForUpdate x _ := x
  meta_withMeta _ _ := rfl
  meta_prepareForCreate _ := rfl
  meta_prepareForUpdate _ _ := rfl

def routeGroupVersion : String := "route.openshift.io/v1"

def coreGroupVersion : String := "v1"

namespace Acme

structure Challenge where
  type : String
  uri : String
  token : String
  status : String
  deriving DecidableEq, Repr

structure Authorization where
  uri : String
  status : String
  challenges : List Challenge
  deriving DecidableEq, Repr

structure Order where
  uri : String
  status : String
  authzURLs : List String
  finalizeURL : String
  deriving DecidableEq, Repr

structure Account where
  uri : String
  contact : List String
  ordersURL : String
  status : String
  deriving DecidableEq, Repr

def statusPending : String := "pending"
def statusProcessing : String := "processing"
def statusReady : String := "ready"
def statusValid : String := "valid"
def statusInvalid : String := "invalid"
def statusDeactivated : String := "deactivated"
def statusExpired : String := "expired"
def statusRevoked : String := "revoked"

def http01ChallengePath (token : String) : String :=
  "/.well-known/acme-challenge/" ++ token

end Acme

structure PrivateKey where
  id : Nat
  deriving DecidableEq, Repr

/--
Modelled from the spec: `api.ProvisioningStatus` is not in the source. The record of the order in
flight; the start time is in Unix nanoseconds.
-/
structure ProvisioningStatus where
  startedAt : Int
  orderUri : String
  orderStatus : String
  deriving DecidableEq, Repr

/--
Modelled from the spec: `api.Status` is not in the source. The blob kept in the status annotation;
a null provisioning status means that no order is in flight.
-/
structure Status where
  provisioningStatus : Option ProvisioningStatus
  observedGeneration : Int64
  deriving DecidableEq, Repr

def Status.zero : Status := ⟨none, 0⟩

/-- Modelled from the spec: the account status of `pkg/api`, which is not in the source. -/
structure AcmeAccountStatus where
  uri : String
  ordersURL : String
  accountStatus : String
  hash : String
  deriving DecidableEq, Repr

/-- Modelled from the spec: `api.AcmeAccount`. -/
structure AcmeAccount where
  contacts : List String
  status : AcmeAccountStatus
  deriving DecidableEq, Repr

/-- Modelled from the spec: `api.AcmeCertIssuer`. -/
structure AcmeCertIssuer where
  directoryUrl : String
  account : AcmeAccount
  accountCredentialsSecretName : String
  deriving DecidableEq, Repr

/--
Modelled from the spec: `api.CertIssuer`, a tagged variant. The ACME part is held by pointer, so
the writes `sync` makes through `acmeIssuer` land in the issuer it marshals back, which is the
merge of section 4.1 step 4.
-/
structure CertIssuer where
  type : String
  acmeCertIssuer : Option AcmeCertIssuer
  deriving DecidableEq, Repr

inductive StatusReason where
  | notFound
  | alreadyExists
  | conflict
  | invalid
  | other
  deriving DecidableEq, Repr

/-- A Go `error` value. -/
inductive Err where
  /-- A `*errors.StatusError` from the API server. -/
  | status (reason : StatusReason) (message : String)
  /-- An `*acme.Error` from the CA. -/
  | acme (statusCode : Nat) (problemType : String) (detail : String)
  /-- Any other error, such as one made by `fmt.Errorf`: only its text is left of it. -/
  | text (message : String)
  deriving DecidableEq, Repr

namespace Err

def message : Err → String
  | .status _ m => m
  | .acme code problemType detail => s!"{code} {problemType}: {detail}"
  | .text m => m

def wrap (context : String) (e : Err) : Err :=
  .text (context ++ e.message)

def isNotFound : Err → Bool
  | .status .notFound _ => true
  | _ => false

def isAlreadyExists : Err → Bool
  | .status .alreadyExists _ => true
  | _ => false

def isConflict : Err → Bool
  | .status .conflict _ => true
  | _ => false

end Err

structure Digest where
  bytes : List UInt8
  length_bytes : bytes.length = 64

/-- Text that decodes back to the value it was encoded from. -/
structure Codec (α : Type) where
  marshal : α → Except String String
  unmarshal : String → Except String α
  unmarshal_marshal : ∀ a s, marshal a = .ok s → unmarshal s = .ok a

theorem find?_snd_of_nodup {α : Type} {table : List (α × String)} {e : α × String}
    (h : (table.map Prod.snd).Nodup) (he : e ∈ table) :
    table.find? (fun x => x.2 = e.2) = some e := by
  induction table with
  | nil => cases he
  | cons x xs ih =>
    simp only [List.map_cons, List.nodup_cons, List.mem_map] at h
    rcases List.mem_cons.mp he with rfl | he
    · simp
    · have hx : x.2 ≠ e.2 := fun hx => h.1 ⟨e, he, hx.symm⟩
      simp [hx, ih h.2 he]

def Codec.ofTable {α : Type} [DecidableEq α] (table : List (α × String))
    (h : (table.map Prod.snd).Nodup) : Codec α where
  marshal a := match table.find? (fun x => x.1 = a) with
    | some x => .ok x.2
    | none => .error "unsupported value"
  unmarshal s := match table.find? (fun x => x.2 = s) with
    | some x => .ok x.1
    | none => .error "unexpected end of input"
  unmarshal_marshal a s hm := by
    beta_reduce at hm ⊢
    split at hm
    · rename_i x hx
      cases hm
      have h1 : x.1 = a := by simpa using List.find?_some hx
      simp [find?_snd_of_nodup h (List.mem_of_find?_eq_some hx), h1]
    · cases hm

structure Certificate where
  notBefore : Int
  notAfter : Int
  dnsNames : List String
  deriving DecidableEq, Repr

/--
The functions and constants the two source files take from packages that are not part of them:
hashing, the YAML codec, certificate decoding and encoding, the seeded random draw of
`needsCertKey`, and the names that `pkg/api` and `pkg/util` define.
-/
structure Lib where
  /-- `sha512.Sum512([]byte(s))` -/
  sum512 : String → Digest
  /-- `yaml.v2` on `api.CertIssuer` -/
  certIssuerYaml : Codec CertIssuer
  /-- `(&cert.CertPemData{Key, Crt}).Certificate()` -/
  decodeCertificate : (key crt : String) → Except String Certificate
  /-- `(*x509.Certificate).VerifyHostname` succeeds. -/
  verifyHostname : Certificate → String → Bool
  /-- `rand.New(rand.NewSource(seed)).NormFloat64() < 0` -/
  proactiveDraw : Int → Bool
  /-- `helpers.PrivateKeyFromSecret` -/
  privateKeyFromSecret : Secret → Except String PrivateKey
  /-- `pem.EncodeToMemory` of the PKCS#1 form of a key -/
  encodePrivateKey : PrivateKey → String
  /-- `cert.NewCertificateFromDER`: the PEM certificate and key -/
  newCertificateFromDER : List String → PrivateKey → Except String (String × String)
  /-- `api.AcmeStatusAnnotation` -/
  statusAnnotation : String
  /-- `api.AcmeTemporaryLabel` -/
  temporaryLabel : String
  /-- The selector that `util.IsManaged` checks. -/
  managedLabels : LabelSet
  /-- `api.AccountLabelSet` -/
  accountLabels : LabelSet
  /-- `api.CertIssuerDataKey` -/
  certIssuerDataKey : String
  /-- `api.CertIssuerTypeAcme` -/
  certIssuerTypeAcme : String

def exampleLib : Lib where
  sum512 _ := ⟨List.replicate 64 0, List.length_replicate _ _⟩
  certIssuerYaml := Codec.ofTable [] List.nodup_nil
  decodeCertificate _ _ := .error "no certificate"
  verifyHostname _ _ := true
  proactiveDraw _ := false
  privateKeyFromSecret _ := .error "no key"
  encodePrivateKey k := toString k.id
  newCertificateFromDER der k := .ok (String.join der, toString k.id)
  statusAnnotation := "acme-status"
  temporaryLabel := "acme-temporary"
  managedLabels := [("acme-managed", "true")]
  accountLabels := [("acme-account", "true")]
  certIssuerDataKey := "cert-issuer"
  certIssuerTypeAcme := "acme"

/--
Modelled from the spec: `util.IsManaged` is not in the source. A managed route carries the
managed labels.
-/
def isManaged (lib : Lib) (m : ObjectMeta) : Bool :=
  lib.managedLabels.matches m.labels

end OpenshiftAcme
