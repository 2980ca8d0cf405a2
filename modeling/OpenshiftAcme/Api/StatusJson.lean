import OpenshiftAcme.Api.Types
import OpenshiftAcme.Json.Time

/-!
This module contains `json.Unmarshal` and `json.Marshal` of Go 1.13 on `api.Status`, the blob the
route controller keeps in the status annotation. `pkg/api` is not in the source: the fields are
the spec's, with JSON names in camel case and no `omitempty`, so a nil provisioning status is
written as `null`.

Decoding follows `decodeState`: the scanner's syntax error comes first; then each member of an
object goes into the field its key selects, exactly or by `equalFold`, and members of no field are
skipped. A value of the wrong kind saves an `UnmarshalTypeError`, which names the innermost struct
and field being decoded, and decoding goes on; only the first saved error is reported. A
`time.Time` field gets the text of its value through `UnmarshalJSON`, whose error ends the
decoding at once.

The main result is `unmarshal_marshal`: what `marshal` writes, `unmarshal` reads back.
-/

namespace OpenshiftAcme

namespace StatusJson

open Json

def typeError (context : Option (String × String)) (value type : String) : String :=
  match context with
  | none => "json: cannot unmarshal " ++ value ++ " into Go value of type " ++ type
  | some (struct, field) =>
    "json: cannot unmarshal " ++ value ++ " into Go struct field " ++ struct ++ "." ++ field ++
      " of type " ++ type

def saveError (saved : Option String) (e : String) : Option String :=
  some (saved.getD e)

def caseMask (c : Char) : Nat :=
  c.toNat &&& 0xDF

/--
`equalFoldRight(name, key)`, the fold `foldFunc` picks for a name with an `s` or a `k`, and for
these letter-only names the same test as `simpleLetterEqualFold`: an ASCII letter of the name
matches itself in either case, `s` also the long s, and `k` also the Kelvin sign.
-/
def equalFoldRight : List Char → List Char → Bool
  | [], t => t.isEmpty
  | _ :: _, [] => false
  | sb :: s, tb :: t =>
    (if tb.toNat < 0x80 then
      sb = tb || ('A'.toNat ≤ caseMask sb && caseMask sb ≤ 'Z'.toNat && caseMask sb = caseMask tb)
    else if sb = 's' || sb = 'S' then tb = '\u017F'
    else if sb = 'k' || sb = 'K' then tb = '\u212A'
    else false) && equalFoldRight s t

structure Field (α : Type) where
  name : String
  decode : String × String → List Char → Value → α → Option String →
    Except String (α × Option String)

def selectField {α : Type} (fields : List (Field α)) (key : List Char) : Option (Field α) :=
  match fields.find? (fun f => f.name.data = key) with
  | some f => some f
  | none => fields.find? (fun f => equalFoldRight f.name.data key)

def decodeObject {α : Type} (struct : String) (fields : List (Field α))
    (members : List (List Char × List Char × Value)) (cur : α) (saved : Option String) :
    Except String (α × Option String) :=
  members.foldlM
    (fun acc (key, raw, v) =>
      match selectField fields key with
      | none => .ok acc
      | some f => f.decode (struct, f.name) raw v acc.1 acc.2)
    (cur, saved)

def decodeString (context : String × String) (v : Value) (cur : String) (saved : Option String) :
    String × Option String :=
  match v with
  | .null => (cur, saved)
  | .string s => (⟨s⟩, saved)
  | v => (cur, saveError saved (typeError (some context) v.kind "string"))

def parseInt64 (s : List Char) : Option Int64 :=
  let signed : Bool × List Char :=
    match s with
    | c :: s' => if c = '+' then (false, s') else if c = '-' then (true, s') else (false, s)
    | [] => (false, [])
  if signed.2.isEmpty || !signed.2.all isDigit then none
  else
    let un : Int := decimalValue signed.2
    let n := if signed.1 then -un else un
    if h : -2 ^ 63 ≤ n ∧ n < 2 ^ 63 then some ⟨n, h⟩ else none

def decodeInt64 (context : String × String) (v : Value) (cur : Int64) (saved : Option String) :
    Int64 × Option String :=
  match v with
  | .null => (cur, saved)
  | .number text =>
    match parseInt64 text with
    | some n => (n, saved)
    | none => (cur, saveError saved (typeError (some context) ("number " ++ String.mk text) "int64"))
  | v => (cur, saveError saved (typeError (some context) v.kind "int64"))

def zeroTime : Int :=
  -62135596800 * 1000000000

def zeroProvisioningStatus : ProvisioningStatus :=
  ⟨zeroTime, "", ""⟩

def startedAtField : Field ProvisioningStatus :=
  ⟨"startedAt", fun _ raw _ ps saved =>
    (Time.unmarshalJSON raw ps.startedAt).map fun t => ({ ps with startedAt := t }, saved)⟩

def orderUriField : Field ProvisioningStatus :=
  ⟨"orderUri", fun context _ v ps saved =>
    let r := decodeString context v ps.orderUri saved
    .ok ({ ps with orderUri := r.1 }, r.2)⟩

def orderStatusField : Field ProvisioningStatus :=
  ⟨"orderStatus", fun context _ v ps saved =>
    let r := decodeString context v ps.orderStatus saved
    .ok ({ ps with orderStatus := r.1 }, r.2)⟩

def provisioningStatusFields : List (Field ProvisioningStatus) :=
  [startedAtField, orderUriField, orderStatusField]

def decodeProvisioningStatus (context : String × String) (v : Value) (cur : ProvisioningStatus)
    (saved : Option String) : Except String (ProvisioningStatus × Option String) :=
  match v with
  | .object members => decodeObject "ProvisioningStatus" provisioningStatusFields members cur saved
  | .null => .ok (cur, saved)
  | v => .ok (cur, saveError saved (typeError (some context) v.kind "api.ProvisioningStatus"))

def decodeProvisioningStatusPtr (context : String × String) (v : Value)
    (cur : Option ProvisioningStatus) (saved : Option String) :
    Except String (Option ProvisioningStatus × Option String) :=
  match v with
  | .null => .ok (none, saved)
  | v => (decodeProvisioningStatus context v (cur.getD zeroProvisioningStatus) saved).map
      fun r => (some r.1, r.2)

def provisioningStatusField : Field Status :=
  ⟨"provisioningStatus", fun context _ v st saved =>
    (decodeProvisioningStatusPtr context v st.provisioningStatus saved).map
      fun r => ({ st with provisioningStatus := r.1 }, r.2)⟩

def observedGenerationField : Field Status :=
  ⟨"observedGeneration", fun context _ v st saved =>
    let r := decodeInt64 context v st.observedGeneration saved
    .ok ({ st with observedGeneration := r.1 }, r.2)⟩

def statusFields : List (Field Status) :=
  [provisioningStatusField, observedGenerationField]

def decodeStatus (v : Value) : Except String (Status × Option String) :=
  match v with
  | .object members => decodeObject "Status" statusFields members Status.zero none
  | .null => .ok (Status.zero, none)
  | v => .ok (Status.zero, some (typeError none v.kind "api.Status"))

def unmarshal (data : String) : Except String Status :=
  match Json.parse data.data with
  | .error e => .error e
  | .ok v =>
    match decodeStatus v with
    | .error e => .error e
    | .ok (_, some e) => .error e
    | .ok (st, none) => .ok st

def marshalTime (t : Int) : Except String (List Char) :=
  match Time.marshalJSON t with
  | .ok text => .ok text
  | .error e => .error ("json: error calling MarshalJSON for type time.Time: " ++ e)

def marshalProvisioningStatus (ps : ProvisioningStatus) : Except String (List Char) :=
  (marshalTime ps.startedAt).map fun startedAt =>
    encodeFields '{' [(startedAtField.name.data, startedAt),
      (orderUriField.name.data, quoteString ps.orderUri.data),
      (orderStatusField.name.data, quoteString ps.orderStatus.data)]

def marshalProvisioningStatusPtr : Option ProvisioningStatus → Except String (List Char)
  | none => .ok ['n', 'u', 'l', 'l']
  | some ps => marshalProvisioningStatus ps

def marshal (st : Status) : Except String String :=
  (marshalProvisioningStatusPtr st.provisioningStatus).map fun provisioningStatus =>
    ⟨encodeFields '{' [(provisioningStatusField.name.data, provisioningStatus),
      (observedGenerationField.name.data, formatInt st.observedGeneration.toInt)]⟩

theorem decodeObject_nil {α : Type} (struct : String) (fields : List (Field α)) (cur : α)
    (saved : Option String) : decodeObject struct fields [] cur saved = .ok (cur, saved) :=
  rfl

theorem decodeObject_cons {α : Type} {struct : String} {fields : List (Field α)} {key raw : List Char}
    {v : Value} {f : Field α} {cur cur' : α} {saved saved' : Option String}
    (ms : List (List Char × List Char × Value)) (hf : selectField fields key = some f)
    (hd : f.decode (struct, f.name) raw v cur saved = .ok (cur', saved')) :
    decodeObject struct fields ((key, raw, v) :: ms) cur saved =
      decodeObject struct fields ms cur' saved' := by
  simp only [decodeObject, List.foldlM_cons, hf, hd]
  rfl

theorem parseInt64_formatInt (g : Int64) : parseInt64 (formatInt g.toInt) = some g := by
  obtain ⟨n, hn⟩ := g
  obtain ⟨hne, hdig, hval, -⟩ := toDigits_spec n.natAbs
  obtain ⟨d, ds, hds⟩ := List.exists_cons_of_ne_nil hne
  have hd : isDigit d = true := hdig d (by simp [hds])
  have hsign : d ≠ '+' ∧ d ≠ '-' := by
    constructor <;> rintro rfl <;> revert hd <;> decide
  have hall : (d :: ds).all isDigit = true := List.all_eq_true.2 (hds ▸ hdig)
  rw [hds] at hval
  unfold parseInt64 formatInt
  by_cases hneg : n < 0
  · simp only [if_pos hneg, hds, hall, List.isEmpty_cons, Bool.not_true, Bool.or_false,
      Bool.false_eq_true, if_false, if_true, show ('-' : Char) ≠ '+' by decide, hval]
    rw [dif_pos (by omega)]
    simp only [Option.some.injEq, Int64.mk.injEq]
    omega
  · simp only [if_neg hneg, hds, hall, List.isEmpty_cons, Bool.not_true, Bool.or_false,
      Bool.false_eq_true, if_false, hsign.1, hsign.2, hval]
    rw [dif_pos (by omega)]
    simp only [Option.some.injEq, Int64.mk.injEq]
    omega

theorem selectField_startedAt :
    selectField provisioningStatusFields startedAtField.name.data = some startedAtField :=
  rfl

theorem selectField_orderUri :
    selectField provisioningStatusFields orderUriField.name.data = some orderUriField :=
  rfl

theorem selectField_orderStatus :
    selectField provisioningStatusFields orderStatusField.name.data = some orderStatusField :=
  rfl

theorem selectField_provisioningStatus :
    selectField statusFields provisioningStatusField.name.data = some provisioningStatusField :=
  rfl

theorem selectField_observedGeneration :
    selectField statusFields observedGenerationField.name.data = some observedGenerationField :=
  rfl

theorem decode_marshalProvisioningStatusPtr {ps : Option ProvisioningStatus} {text : List Char}
    (h : marshalProvisioningStatusPtr ps = .ok text) :
    ∃ v, Encodes text v 5 ∧
      ∀ context cur saved, decodeProvisioningStatusPtr context v cur saved = .ok (ps, saved) := by
  cases ps with
  | none =>
    cases h
    exact ⟨.null, encodes_null.mono 4, fun _ _ _ => rfl⟩
  | some ps =>
    simp only [marshalProvisioningStatusPtr, marshalProvisioningStatus, marshalTime] at h
    cases ht : Time.marshalJSON ps.startedAt with
    | error e => simp [ht, Except.map] at h
    | ok tt =>
      simp only [ht, Except.map, Except.ok.injEq] at h
      subst h
      have htt := Time.marshalJSON_eq_quoteString ht
      let ms : List (List Char × List Char × Value) :=
        [(orderUriField.name.data, quoteString ps.orderUri.data, .string ps.orderUri.data),
          (orderStatusField.name.data, quoteString ps.orderStatus.data, .string ps.orderStatus.data)]
      have henc := encodes_encodeFields 1
        (startedAtField.name.data, tt, .string (Time.formatRFC3339Nano ps.startedAt)) ms
        (by simp only [ms, List.forall_mem_cons, htt, encodes_quoteString, List.not_mem_nil,
          false_implies, implies_true, and_self])
      refine ⟨_, henc, fun context cur saved => ?_⟩
      have hsa : startedAtField.decode ("ProvisioningStatus", startedAtField.name) tt
          (.string (Time.formatRFC3339Nano ps.startedAt)) (cur.getD zeroProvisioningStatus) saved =
          .ok ({ cur.getD zeroProvisioningStatus with startedAt := ps.startedAt }, saved) := by
        simp [startedAtField, Time.unmarshalJSON_of_marshalJSON ht, Except.map]
      simp only [decodeProvisioningStatusPtr, decodeProvisioningStatus]
      rw [decodeObject_cons _ selectField_startedAt hsa,
        decodeObject_cons _ selectField_orderUri rfl,
        decodeObject_cons _ selectField_orderStatus rfl, decodeObject_nil]
      rfl

theorem unmarshal_marshal {st : Status} {text : String} (h : marshal st = .ok text) :
    unmarshal text = .ok st := by
  obtain ⟨ps, g⟩ := st
  simp only [marshal] at h
  cases hp : marshalProvisioningStatusPtr ps with
  | error e => simp [hp, Except.map] at h
  | ok pstext =>
    simp only [hp, Except.map, Except.ok.injEq] at h
    subst h
    obtain ⟨v, hv, hdec⟩ := decode_marshalProvisioningStatusPtr hp
    have hobj := encodes_encodeFields 5 (provisioningStatusField.name.data, pstext, v)
      [(observedGenerationField.name.data, formatInt g.toInt, .number (formatInt g.toInt))]
      (by simp only [List.forall_mem_cons, hv, (encodes_formatInt _).mono 4, List.not_mem_nil,
        false_implies, implies_true, and_self])
    simp only [List.map_cons, List.map_nil] at hobj
    have hlen := length_encodeFields '{' [(provisioningStatusField.name.data, pstext),
      (observedGenerationField.name.data, formatInt g.toInt)]
    have hps : provisioningStatusField.decode ("Status", provisioningStatusField.name) pstext v
        Status.zero none = .ok ({ Status.zero with provisioningStatus := ps }, none) := by
      simp [provisioningStatusField, hdec, Except.map]
    have hgen : observedGenerationField.decode ("Status", observedGenerationField.name)
        (formatInt g.toInt) (.number (formatInt g.toInt)) { Status.zero with provisioningStatus := ps }
        none = .ok (⟨ps, g⟩, none) := by
      simp [observedGenerationField, decodeInt64, parseInt64_formatInt]
    simp only [unmarshal, parse_of_encodes hobj (by
        simp only [List.length_cons, List.length_nil] at hlen ⊢; omega), decodeStatus]
    rw [decodeObject_cons _ selectField_provisioningStatus hps,
      decodeObject_cons _ selectField_observedGeneration hgen, decodeObject_nil]

theorem unmarshal_empty : unmarshal "" = .error "unexpected end of JSON input" :=
  rfl

end StatusJson

end OpenshiftAcme
