import Mathlib.Algebra.Group.Int
import Mathlib.Data.List.Chain
import Mathlib.Data.List.Nodup
import Mathlib.Data.List.Pairwise

/-!
This module contains the object metadata shared by every object the two controllers read and
write (names, UIDs, resource versions, labels, annotations and owner references) together with
the `metav1` and `cache` helpers the controllers call on it.
-/

namespace OpenshiftAcme

/--
A Go `map[string]string`. `none` is the nil map: it reads as empty, but `reflect.DeepEqual` tells
it apart from an empty map. Assignment replaces an entry in place, so two maps compared by the
controllers always list their common keys in the same order.
-/
abbrev StringMap := Option (List (String × String))

namespace StringMap

def findEntry (k : String) : List (String × String) → Option String
  | [] => none
  | (k', v) :: rest => if k' = k then some v else findEntry k rest

def lookup (m : StringMap) (k : String) : Option String :=
  findEntry k (m.getD [])

def get (m : StringMap) (k : String) : String :=
  (m.lookup k).getD ""

def setEntry (k v : String) : List (String × String) → List (String × String)
  | [] => [(k, v)]
  | (k', v') :: rest => if k' = k then (k, v) :: rest else (k', v') :: setEntry k v rest

def insert (m : StringMap) (k v : String) : StringMap :=
  some (setEntry k v (m.getD []))

theorem findEntry_setEntry (k v : String) (l : List (String × String)) :
    findEntry k (setEntry k v l) = some v := by
  induction l with
  | nil => simp [setEntry, findEntry]
  | cons e rest ih =>
    obtain ⟨k', v'⟩ := e
    by_cases h : k' = k <;> simp_all [setEntry, findEntry]

theorem findEntry_setEntry_ne {k k' : String} (v : String) (l : List (String × String))
    (h : k' ≠ k) : findEntry k' (setEntry k v l) = findEntry k' l := by
  induction l with
  | nil => simp [setEntry, findEntry, Ne.symm h]
  | cons e rest ih =>
    obtain ⟨a, b⟩ := e
    by_cases ha : a = k
    · subst ha
      simp [setEntry, findEntry, Ne.symm h]
    · simp [setEntry, findEntry, ha, ih]

theorem setEntry_eq_self_iff (k v : String) (l : List (String × String)) :
    setEntry k v l = l ↔ findEntry k l = some v := by
  induction l with
  | nil => simp [setEntry, findEntry]
  | cons e rest ih =>
    obtain ⟨a, b⟩ := e
    by_cases h : a = k
    · subst h
      simp [setEntry, findEntry, eq_comm]
    · simp [setEntry, findEntry, h, ih]

@[simp] theorem lookup_insert (m : StringMap) (k v : String) : (m.insert k v).lookup k = some v :=
  findEntry_setEntry k v _

theorem lookup_insert_ne {k k' : String} (m : StringMap) (v : String) (h : k' ≠ k) :
    (m.insert k v).lookup k' = m.lookup k' :=
  findEntry_setEntry_ne v _ h

theorem insert_eq_self_iff (m : StringMap) (k v : String) :
    m.insert k v = m ↔ m.lookup k = some v := by
  cases m with
  | none => simp [insert, lookup, setEntry, findEntry]
  | some l => simp [insert, lookup, setEntry_eq_self_iff]

end StringMap

abbrev LabelSet := List (String × String)

def LabelSet.matches (sel : LabelSet) (labels : StringMap) : Bool :=
  sel.all fun (k, v) => labels.lookup k = some v

def LabelSet.render (sel : LabelSet) : String :=
  ",".intercalate (sel.map fun (k, v) => k ++ "=" ++ v)

structure OwnerReference where
  apiVersion : String
  kind : String
  name : String
  uid : String
  controller : Option Bool
  deriving DecidableEq, Repr

/-- A Go `int64`. -/
structure Int64 where
  toInt : Int
  toInt_range : -2 ^ 63 ≤ toInt ∧ toInt < 2 ^ 63
  deriving DecidableEq, Repr

def Int64.ofInt (i : Int) : Int64 :=
  ⟨i.bmod (2 ^ 64), by have := Int.le_bmod (x := i) (m := 2 ^ 64) (by decide); omega,
    by have := Int.bmod_lt (x := i) (m := 2 ^ 64) (by decide); omega⟩

instance : OfNat Int64 n := ⟨.ofInt n⟩

/--
`metav1.ObjectMeta`, with the fields the controllers read or write. The resource version is etcd's
revision number, `0` standing for the empty string of an object that has not been stored; UIDs are
opaque strings, `""` when unset. The deletion timestamp is Unix nanoseconds.
-/
structure ObjectMeta where
  name : String
  «namespace» : String
  uid : String
  resourceVersion : Nat
  generation : Int64
  labels : StringMap
  annotations : StringMap
  ownerReferences : List OwnerReference
  deletionTimestamp : Option Int
  deriving DecidableEq, Repr

namespace ObjectMeta

def named (name : String) : ObjectMeta :=
  ⟨name, "", "", 0, 0, none, none, [], none⟩

def getControllerOf (m : ObjectMeta) : Option OwnerReference :=
  m.ownerReferences.find? fun ref => ref.controller = some true

def isControlledBy (obj owner : ObjectMeta) : Bool :=
  match obj.getControllerOf with
  | some ref => ref.uid = owner.uid
  | none => false

def setMetaDataAnnotation (m : ObjectMeta) (k v : String) : ObjectMeta :=
  { m with annotations := m.annotations.insert k v }

def key (m : ObjectMeta) : String :=
  if m.«namespace».isEmpty then m.name else m.«namespace» ++ "/" ++ m.name

end ObjectMeta

def goQuote (s : String) : String :=
  "\"" ++ s ++ "\""

def splitMetaNamespaceKey (key : String) : Except String (String × String) :=
  match key.toList.splitOn '/' with
  | [name] => .ok ("", String.mk name)
  | [ns, name] => .ok (String.mk ns, String.mk name)
  | _ => .error ("unexpected key format: " ++ goQuote key)

/--
The objects the controllers keep in the API server. `prepareForCreate` and `prepareForUpdate` are
the server's strategy hooks: what a create or an update stores besides the metadata it assigns.
-/
class Resource (α : Type) where
  meta : α → ObjectMeta
  withMeta : α → ObjectMeta → α
  prepareForCreate : α → α
  prepareForUpdate : α → α → α
  meta_withMeta : ∀ x m, meta (withMeta x m) = m
  meta_prepareForCreate : ∀ x, meta (prepareForCreate x) = meta x
  meta_prepareForUpdate : ∀ x old, meta (prepareForUpdate x old) = meta x

attribute [simp] Resource.meta_withMeta Resource.meta_prepareForCreate
  Resource.meta_prepareForUpdate

end OpenshiftAcme
