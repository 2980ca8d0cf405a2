import OpenshiftAcme.Prog.Trace

/-!
This module contains the two stateful services the handlers call: the API server's store of one
kind of object, with the optimistic concurrency of resource versions and UID preconditions, and
the client-go work queue with its delaying and rate-limiting layers.
-/

namespace OpenshiftAcme

/-- The objects of one kind that the API server holds. -/
structure Store (α : Type) where
  objects : List α
  /-- Every version the store has held, oldest first: what an informer cache may still show. -/
  history : List α

namespace Store

variable {α : Type} [Resource α]

def keyIs (ns name : String) (x : α) : Bool :=
  (Resource.meta x).«namespace» = ns && (Resource.meta x).name = name

def find (s : Store α) (ns name : String) : Option α :=
  s.objects.find? (keyIs ns name)

def notFound (name : String) : Err :=
  .status .notFound s!"{name} not found"

def conflict (name : String) (why : String) : Err :=
  .status .conflict s!"Operation cannot be fulfilled on {name}: {why}"

def get (s : Store α) (ns name : String) : Except Err α :=
  match s.find ns name with
  | some x => .ok x
  | none => .error (notFound name)

def namespaceCheck (x : α) (ns : String) : Except Err ObjectMeta :=
  let m := Resource.meta x
  if m.«namespace» = "" || m.«namespace» = ns then .ok { m with «namespace» := ns }
  else .error (.status .other
    "the namespace of the provided object does not match the namespace sent on the request")

def create (s : Store α) (ns : String) (x : α) (uid : String) (rev : Nat) :
    Except Err (α × Store α) := do
  let m ← namespaceCheck x ns
  match s.find ns m.name with
  | some _ => .error (.status .alreadyExists s!"{m.name} already exists")
  | none =>
    let y := Resource.prepareForCreate (Resource.withMeta x { m with uid := uid, resourceVersion := rev })
    .ok (y, { objects := s.objects ++ [y], history := s.history ++ [y] })

def update [DecidableEq α] (s : Store α) (ns : String) (x : α) (rev : Nat) :
    Except Err (α × Store α) := do
  let m ← namespaceCheck x ns
  match s.find ns m.name with
  | none => .error (notFound m.name)
  | some cur =>
    let cm := Resource.meta cur
    if m.uid ≠ "" ∧ m.uid ≠ cm.uid then
      .error (conflict m.name s!"Precondition failed: UID in precondition: {m.uid}, UID in object meta: {cm.uid}")
    else if m.resourceVersion ≠ cm.resourceVersion then
      .error (conflict m.name "the object has been modified; please apply your changes to the latest version and try again")
    else
      let m := { m with uid := cm.uid }
      let y := Resource.prepareForUpdate (Resource.withMeta x m) cur
      if y = cur then .ok (cur, s)
      else
        let y := Resource.withMeta y { m with resourceVersion := rev }
        .ok (y, { objects := s.objects.map (fun z => if keyIs ns m.name z then y else z),
                  history := s.history ++ [y] })

def delete (s : Store α) (ns name uid : String) : Except Err (Store α) :=
  match s.find ns name with
  | none => .error (notFound name)
  | some cur =>
    if uid ≠ "" ∧ uid ≠ (Resource.meta cur).uid then
      .error (conflict name s!"Precondition failed: UID in precondition: {uid}, UID in object meta: {(Resource.meta cur).uid}")
    else .ok { s with objects := s.objects.filter (fun z => !keyIs ns name z) }

def CacheReply (s : Store α) (key : String) : Except Err (Option α) → Prop
  | .ok (some x) => x ∈ s.history ∧ (Resource.meta x).key = key
  | .ok none => True
  | .error _ => True

def ListerReply (s : Store α) (ns name : String) : Except Err α → Prop
  | .ok x => x ∈ s.history ∧ (Resource.meta x).«namespace» = ns ∧ (Resource.meta x).name = name
  | .error _ => True

def ListerListReply (s : Store α) (ns : String) (selector : LabelSet) : Except Err (List α) → Prop
  | .ok xs => ∀ x ∈ xs, x ∈ s.history ∧ (Resource.meta x).«namespace» = ns ∧
      selector.matches (Resource.meta x).labels
  | .error _ => True

end Store

/-- The client-go work queue of one controller, with its delaying and rate-limiting layers. -/
structure WorkQueue where
  /-- Items ready to be handed out, in order. -/
  queue : List QueueItem
  /-- Items that need processing: those in `queue` and those re-added while processing. -/
  dirty : List QueueItem
  /-- Items handed out and not yet done. -/
  processing : List QueueItem
  /-- Items added with a delay that has not yet passed. -/
  waiting : List QueueItem
  /-- The rate limiter's count of failures per item. -/
  failures : List (QueueItem × Nat)
  shuttingDown : Bool

namespace WorkQueue

def empty : WorkQueue := ⟨[], [], [], [], [], false⟩

def add (q : WorkQueue) (item : QueueItem) : WorkQueue :=
  if q.shuttingDown || item ∈ q.dirty then q
  else if item ∈ q.processing then { q with dirty := item :: q.dirty }
  else { q with dirty := item :: q.dirty, queue := q.queue ++ [item] }

def get (q : WorkQueue) : Option (QueueItem × WorkQueue) :=
  match q.queue with
  | item :: rest =>
    some (item, { q with queue := rest, processing := item :: q.processing,
                         dirty := q.dirty.erase item })
  | [] => none

def done (q : WorkQueue) (item : QueueItem) : WorkQueue :=
  let q := { q with processing := q.processing.erase item }
  if item ∈ q.dirty then { q with queue := q.queue ++ [item] } else q

def addAfter (q : WorkQueue) (item : QueueItem) (delay : Int) : WorkQueue :=
  if q.shuttingDown then q
  else if delay ≤ 0 then q.add item
  else { q with waiting := q.waiting ++ [item] }

def numRequeues (q : WorkQueue) (item : QueueItem) : Nat :=
  ((q.failures.find? (·.1 = item)).map (·.2)).getD 0

def addRateLimited (q : WorkQueue) (item : QueueItem) : WorkQueue :=
  let n := q.numRequeues item
  { q with failures := (item, n + 1) :: q.failures.filter (·.1 ≠ item) }.addAfter item 1

def forget (q : WorkQueue) (item : QueueItem) : WorkQueue :=
  { q with failures := q.failures.filter (·.1 ≠ item) }

def fire (q : WorkQueue) (i : Nat) : WorkQueue :=
  match q.waiting[i]? with
  | some item => { q with waiting := q.waiting.eraseIdx i }.add item
  | none => q

end WorkQueue

end OpenshiftAcme
