import Mathlib.Data.Finmap
import Mathlib.Data.List.Induction

/-!
# Singly linked tail queues

The queues of `sys/queue.h` which keep a pointer to the next field of their
last node, in a heap of nodes.  An access to a node which is not in the heap
has no result.  A queue represents a list when its chain of nodes is that
list, no node twice, and its tail pointer is where the next node will go.
-/

namespace EspFirmware.Library

universe u

/-- A node: its contents and the next node, if any. -/
structure Node (Entry : Type u) where
  entry : Entry
  next : Option Nat
deriving DecidableEq

/-- The nodes which are allocated, by address. -/
abbrev NodeHeap (Entry : Type u) := Finmap fun _ : Nat => Node Entry

/-- What the tail pointer points to: the head of the queue, or the next field of a node. -/
inductive TailLink where
  | first
  | next (address : Nat)
deriving DecidableEq

/-- `STAILQ_HEAD`. -/
structure TailQueue where
  first : Option Nat
  last : TailLink
deriving DecidableEq

variable {Entry : Type u}

namespace NodeHeap

/-- Give a node back, which must be there. -/
def free (heap : NodeHeap Entry) (address : Nat) : Option (NodeHeap Entry) :=
  (heap.lookup address).map fun _ => heap.erase address

/-- Give several nodes back. -/
def eraseAll (heap : NodeHeap Entry) (addresses : List Nat) :
    NodeHeap Entry :=
  addresses.foldl (fun heap address => heap.erase address) heap

/-- Assign the next field of a node. -/
def setNext (heap : NodeHeap Entry) (address : Nat) (value : Option Nat) :
    Option (NodeHeap Entry) :=
  (heap.lookup address).map fun node =>
    heap.insert address { node with next := value }

theorem free_eq
    {heap : NodeHeap Entry} {address : Nat} {node : Node Entry}
    (found : heap.lookup address = some node) :
    free heap address = some (heap.erase address) := by
  rw [free, found, Option.map_some]

theorem setNext_eq
    {heap : NodeHeap Entry} {address : Nat} {node : Node Entry}
    (found : heap.lookup address = some node) (value : Option Nat) :
    setNext heap address value =
      some (heap.insert address { node with next := value }) := by
  rw [setNext, found, Option.map_some]

theorem lookup_eraseAll_of_not_mem
    {addresses : List Nat} {address : Nat}
    (heap : NodeHeap Entry)
    (other : address ∉ addresses) :
    (eraseAll heap addresses).lookup address = heap.lookup address := by
  induction addresses generalizing heap with
  | nil =>
      rfl
  | cons first rest induction =>
      rw [List.mem_cons, not_or] at other
      exact
        (induction (heap.erase first) other.2).trans
          (Finmap.lookup_erase_ne other.1)

theorem lookup_eraseAll_of_mem
    {addresses : List Nat} {address : Nat}
    (heap : NodeHeap Entry)
    (member : address ∈ addresses) :
    (eraseAll heap addresses).lookup address = none := by
  induction addresses generalizing heap with
  | nil =>
      cases member
  | cons first rest induction =>
      by_cases later : address ∈ rest
      · exact induction (heap.erase first) later
      · rcases List.mem_cons.mp member with rfl | here
        · exact
            (lookup_eraseAll_of_not_mem _ later).trans
              (Finmap.lookup_erase address heap)
        · exact absurd here later

end NodeHeap

namespace TailQueue

/-! ## Operations -/

/-- `STAILQ_INIT`. -/
def init : TailQueue where
  first := none
  last := .first

/-- `STAILQ_EMPTY`. -/
def empty (queue : TailQueue) : Bool :=
  queue.first.isNone

/-- An assignment through the tail pointer. -/
def storeLast
    (heap : NodeHeap Entry) (queue : TailQueue) (value : Option Nat) :
    Option (NodeHeap Entry × TailQueue) :=
  match queue.last with
  | .first => some (heap, { queue with first := value })
  | .next address =>
      (heap.setNext address value).map fun heap => (heap, queue)

/-- `STAILQ_INSERT_TAIL`. -/
def insertTail
    (heap : NodeHeap Entry) (queue : TailQueue) (element : Nat) :
    Option (NodeHeap Entry × TailQueue) :=
  (heap.setNext element none).bind fun heap =>
    (queue.storeLast heap (some element)).map fun stored =>
      (stored.1, { stored.2 with last := .next element })

/-- `STAILQ_REMOVE_HEAD`, which reads the next field of the first node. -/
def removeHead (heap : NodeHeap Entry) (queue : TailQueue) :
    Option TailQueue :=
  queue.first.bind fun address =>
    (heap.lookup address).map fun node =>
      if node.next = none then
        { first := none, last := .first }
      else
        { queue with first := node.next }

/-! ## Chains -/

/-- From a pointer on, the nodes are these, and the last one points to nothing. -/
def Chain (heap : NodeHeap Entry) : Option Nat → List (Nat × Entry) → Prop
  | first, [] => first = none
  | first, (address, entry) :: rest =>
      first = some address ∧
        ∃ next,
          heap.lookup address = some { entry, next } ∧
            Chain heap next rest

/-- The addresses of nodes. -/
abbrev addresses (entries : List (Nat × Entry)) : List Nat :=
  entries.map Prod.fst

/-- Where the tail pointer of a queue with these nodes points. -/
def lastLink (entries : List (Nat × Entry)) : TailLink :=
  match entries.getLast? with
  | none => .first
  | some (address, _) => .next address

/-- A queue in a heap represents a list. -/
structure Represents
    (heap : NodeHeap Entry) (queue : TailQueue)
    (entries : List (Nat × Entry)) : Prop where
  chain : Chain heap queue.first entries
  nodup : (addresses entries).Nodup
  last : queue.last = lastLink entries

variable
    {heap other : NodeHeap Entry}
    {queue : TailQueue}
    {entries rest : List (Nat × Entry)}
    {first : Option Nat}
    {address element : Nat}
    {entry : Entry}

@[simp]
theorem lastLink_nil :
    lastLink ([] : List (Nat × Entry)) = .first :=
  rfl

@[simp]
theorem lastLink_concat :
    lastLink (entries ++ [(address, entry)]) = .next address := by
  rw [lastLink, List.getLast?_concat]

theorem lastLink_cons
    (node : Nat × Entry)
    (more : rest ≠ []) :
    lastLink (node :: rest) = lastLink rest := by
  rw [lastLink, lastLink, List.getLast?_cons_of_ne_nil more]

/-- A chain does not depend on other nodes. -/
theorem Chain.congr
    (chain : Chain heap first entries)
    (same :
      ∀ address ∈ addresses entries,
        other.lookup address = heap.lookup address) :
    Chain other first entries := by
  induction entries generalizing first with
  | nil =>
      exact chain
  | cons node rest induction =>
      rcases chain with ⟨here, next, found, later⟩
      refine ⟨here, next, ?_, ?_⟩
      · rw [same node.1 List.mem_cons_self]
        exact found
      · apply induction later
        intro address member
        exact same address (List.mem_cons_of_mem _ member)

/-- The nodes of a chain are allocated. -/
theorem Chain.lookup
    (chain : Chain heap first entries)
    (member : (address, entry) ∈ entries) :
    ∃ next, heap.lookup address = some { entry, next } := by
  induction entries generalizing first with
  | nil =>
      cases member
  | cons node rest induction =>
      rcases chain with ⟨-, next, found, later⟩
      rcases List.mem_cons.mp member with rfl | there
      · exact ⟨next, found⟩
      · exact induction later there

/-- The last node of a chain is made to point to a new one. -/
theorem Chain.concat
    {last : Entry}
    (chain : Chain heap first (rest ++ [(address, last)]))
    (nodup : (addresses (rest ++ [(address, last)])).Nodup)
    (new : heap.lookup element = some { entry, next := none })
    (apart : element ∉ addresses (rest ++ [(address, last)])) :
    Chain (heap.insert address { entry := last, next := some element }) first
      (rest ++ [(address, last), (element, entry)]) := by
  have different : element ≠ address := by
    rintro rfl
    exact apart (by simp)
  have found :
      (heap.insert address
          { entry := last, next := some element }).lookup element =
        some { entry, next := none } := by
    rw [Finmap.lookup_insert_of_ne _ different, new]
  induction rest generalizing first with
  | nil =>
      rcases chain with ⟨here, next, -, -⟩
      exact
        ⟨here, some element, Finmap.lookup_insert heap, rfl, none, found, rfl⟩
  | cons node rest induction =>
      rcases chain with ⟨here, next, old, later⟩
      rw [List.cons_append, addresses, List.map_cons] at nodup apart
      rcases List.nodup_cons.mp nodup with ⟨absent, distinct⟩
      have differs : node.1 ≠ address := by
        intro same
        exact absent (by simp [same])
      refine ⟨here, next, ?_, ?_⟩
      · rw [Finmap.lookup_insert_of_ne _ differs, old]
      · apply induction later distinct
        intro member
        exact apart (List.mem_cons_of_mem _ member)

/-! ## What the operations do -/

theorem represents_init (heap : NodeHeap Entry) :
    Represents heap init [] where
  chain := rfl
  nodup := List.nodup_nil
  last := rfl

/-- A queue does not depend on other nodes. -/
theorem Represents.congr
    (represents : Represents heap queue entries)
    (same :
      ∀ address ∈ addresses entries,
        other.lookup address = heap.lookup address) :
    Represents other queue entries where
  chain := represents.chain.congr same
  nodup := represents.nodup
  last := represents.last

/-- The first pointer tells whether there are nodes. -/
theorem Represents.empty_iff
    (represents : Represents heap queue entries) :
    queue.empty = true ↔ entries = [] := by
  have chain := represents.chain
  rw [empty, Option.isNone_iff_eq_none]
  cases entries with
  | nil =>
      exact iff_of_true chain rfl
  | cons node rest =>
      rw [chain.1]
      simp

/-- A queue with one more node at its end, in a heap which differs in no other node. -/
theorem Represents.insertTail
    {next : Option Nat}
    (represents : Represents heap queue entries)
    (new : heap.lookup element = some { entry, next })
    (apart : element ∉ addresses entries) :
    ∃ after stored,
      queue.insertTail heap element = some (after, stored) ∧
        Represents after stored (entries ++ [(element, entry)]) ∧
          ∀ other, other ∉ addresses entries → other ≠ element →
            after.lookup other = heap.lookup other := by
  rcases represents with ⟨chain, nodup, last⟩
  have zeroed :
      (heap.insert element { entry, next := none }).lookup element =
        some { entry, next := none } :=
    Finmap.lookup_insert heap
  have cleared :
      heap.setNext element none =
        some (heap.insert element { entry, next := none }) :=
    NodeHeap.setNext_eq new none
  have distinct : (addresses (entries ++ [(element, entry)])).Nodup := by
    rw [addresses, List.map_append, List.map_singleton,
      List.nodup_append_comm]
    exact List.nodup_cons.mpr ⟨apart, nodup⟩
  rcases List.eq_nil_or_concat entries with rfl | ⟨front, back, rfl⟩
  · rw [lastLink_nil] at last
    refine
      ⟨heap.insert element { entry, next := none },
        { first := some element, last := .next element }, ?_,
        ⟨⟨rfl, none, zeroed, rfl⟩, distinct, rfl⟩, ?_⟩
    · rw [TailQueue.insertTail, cleared, Option.bind_some, storeLast, last]
      rfl
    · intro other _ differs
      exact Finmap.lookup_insert_of_ne heap differs
  · rcases back with ⟨tail, old⟩
    rw [List.concat_eq_append] at *
    rw [lastLink_concat] at last
    have kept :
        Chain (heap.insert element { entry, next := none }) queue.first
          (front ++ [(tail, old)]) := by
      apply chain.congr
      intro address member
      apply Finmap.lookup_insert_of_ne
      rintro rfl
      exact apart member
    have member : (tail, old) ∈ front ++ [(tail, old)] := by
      simp
    rcases kept.lookup member with ⟨link, found⟩
    have linked := kept.concat nodup zeroed apart
    refine
      ⟨(heap.insert element { entry, next := none }).insert tail
          { entry := old, next := some element },
        { queue with last := .next element }, ?_,
        ⟨?_, distinct, lastLink_concat.symm⟩, ?_⟩
    · rw [TailQueue.insertTail, cleared, Option.bind_some, storeLast, last]
      simp only [NodeHeap.setNext_eq found, Option.map_some]
    · rw [List.append_assoc]
      exact linked
    · intro other outside differs
      have apartTail : other ≠ tail := by
        rintro rfl
        exact outside (by simp)
      rw [Finmap.lookup_insert_of_ne _ apartTail,
        Finmap.lookup_insert_of_ne _ differs]

/-- The first node is unlinked, and may be given back. -/
theorem Represents.removeHead
    (represents : Represents heap queue ((address, entry) :: rest)) :
    ∃ after,
      queue.removeHead heap = some after ∧
        Represents (heap.erase address) after rest := by
  rcases represents with ⟨⟨here, next, found, later⟩, nodup, last⟩
  rcases List.nodup_cons.mp nodup with ⟨absent, distinct⟩
  have kept : Chain (heap.erase address) next rest := by
    apply later.congr
    intro other member
    apply Finmap.lookup_erase_ne
    rintro rfl
    exact absent member
  cases rest with
  | nil =>
      cases later
      refine ⟨init, ?_, represents_init _⟩
      rw [TailQueue.removeHead, here, Option.bind_some, found]
      rfl
  | cons second rest =>
      have more : next ≠ none := by
        rw [later.1]
        simp
      refine ⟨{ queue with first := next }, ?_, kept, distinct, ?_⟩
      · rw [TailQueue.removeHead, here, Option.bind_some, found,
          Option.map_some, if_neg more]
      · rw [← lastLink_cons (address, entry) (List.cons_ne_nil second rest)]
        exact last

end TailQueue

end EspFirmware.Library
