import EspFirmware.Library.TailQueue
import EspFirmware.Library.Transition
import EspFirmware.MessageQueue

/-!
# The nodes of `message_queue.c`

The functions as they work on nodes, links and the tail pointer, with the heap
of the nodes and the calls of `os_free`.  An access to a node which is not
allocated ends a call without a result.  The data of a message is not a node;
that it is freed is only recorded.
-/

namespace EspFirmware

open Library TailQueue

/-! ## State -/

/-- `struct MessageQueue`. -/
structure NodeQueue where
  messages : TailQueue
  count : UInt16
deriving DecidableEq

/-- A call of `os_free`. -/
inductive Freed where
  | node (address : Nat)
  | data (block : Buffer)
deriving DecidableEq

/-- The block of data which is freed, if it is one. -/
def Freed.block : Freed → Option Buffer
  | .data block => some block
  | .node _ => none

/-- The fields of a `struct Message` but for its link. -/
structure MessageFields where
  conn : Conn
  data : Buffer
  len : UInt16
  mem : Memtype
deriving DecidableEq

/-- The fields of a message. -/
def Message.fields (message : Message) : MessageFields where
  conn := message.conn
  data := message.data
  len := message.len
  mem := message.mem

/-- A queue, the nodes which are allocated, and what was freed. -/
structure QueueMemory where
  heap : NodeHeap MessageFields
  msgq : NodeQueue
  freed : List Freed

namespace QueueMemory

/-- `MESSAGE_QUEUE_INITIALIZER`. -/
def initializer : QueueMemory where
  heap := ∅
  msgq := { messages := .init, count := 0 }
  freed := []

/-! ## Functions -/

/-- `MessageQueue_push`, with the answer of `os_zalloc`, and its result. -/
def push (memory : QueueMemory) (block : Option Nat)
    (message : MessageFields) :
    Option (QueueMemory × Int) :=
  match block with
  | none => some (memory, -1)
  | some address =>
      let heap :=
        memory.heap.insert address { entry := message, next := none }
      (memory.msgq.messages.insertTail heap address).map fun inserted =>
        ({ memory with
            heap := inserted.1
            msgq :=
              { messages := inserted.2
                count := memory.msgq.count + 1 } },
          0)

/-- `MessageQueue_unshift`, with what it stores through its pointers, and its result. -/
def unshift (memory : QueueMemory) (outputs : MessageFields) :
    Option (QueueMemory × MessageFields × Int) :=
  if memory.msgq.messages.empty then
    some (memory, outputs, 1)
  else
    (memory.msgq.messages.removeHead memory.heap).bind fun messages =>
      match memory.msgq.messages.first with
      | none =>
          some
            ({ memory with msgq := { memory.msgq with messages } },
              outputs, -1)
      | some address =>
          (memory.heap.lookup address).bind fun msg =>
            (memory.heap.free address).map fun heap =>
              ({ heap
                 msgq :=
                  { messages
                    count := memory.msgq.count - 1 }
                 freed := memory.freed ++ [.node address] },
                msg.entry, 0)

/-- `MessageQueue_empty`. -/
def empty (memory : QueueMemory) : Bool :=
  memory.msgq.messages.empty

/-- `if (mem == HEAP_MEM) os_free(data)`. -/
def freeData (message : MessageFields) : List Freed :=
  if message.mem = .heapMem then [.data message.data] else []

/-- What `MessageQueue_clear` frees one step behind its traversal. -/
def freePrev (memory : QueueMemory) (prev : Option Nat) :
    Option QueueMemory :=
  match prev with
  | none => some memory
  | some address =>
      (memory.heap.lookup address).bind fun node =>
        (memory.heap.free address).map fun heap =>
          { memory with
            heap
            freed :=
              memory.freed ++ (freeData node.entry ++ [.node address]) }

/-- `STAILQ_FOREACH` in `MessageQueue_clear`; without a result after that many turns. -/
def clearLoop : Nat → QueueMemory → (prev msg : Option Nat) →
    Option (QueueMemory × Option Nat)
  | _, memory, prev, none => some (memory, prev)
  | 0, _, _, some _ => none
  | turns + 1, memory, prev, some address =>
      (memory.freePrev prev).bind fun memory =>
        (memory.heap.lookup address).bind fun msg =>
          clearLoop turns memory (some address) msg.next

/--
`MessageQueue_clear`.  Every turn but the first frees a node, so there are no
more turns than nodes.
-/
def clear (memory : QueueMemory) : Option QueueMemory :=
  (clearLoop memory.heap.keys.card memory none
      memory.msgq.messages.first).bind fun left =>
    (left.1.freePrev left.2).map fun memory =>
      { memory with msgq := { messages := .init, count := 0 } }

/-- The allocator answers with a block which is not in use. -/
def Fresh (memory : QueueMemory) (block : Option Nat) : Prop :=
  ∀ address, block = some address → memory.heap.lookup address = none

instance (memory : QueueMemory) : (block : Option Nat) →
    Decidable (memory.Fresh block)
  | none => isTrue (by simp [Fresh])
  | some address =>
      decidable_of_iff (memory.heap.lookup address = none) (by simp [Fresh])

/-! ## What they do -/

/-- The calls of `os_free` for nodes of a queue, in order. -/
def freesOf (entries : List (Nat × MessageFields)) : List Freed :=
  entries.flatMap fun node => freeData node.2 ++ [.node node.1]

theorem freesOf_append (front back : List (Nat × MessageFields)) :
    freesOf (front ++ back) = freesOf front ++ freesOf back :=
  List.flatMap_append

/-- The memory without some nodes which were freed one after the other. -/
def without (memory : QueueMemory) (entries : List (Nat × MessageFields)) :
    QueueMemory :=
  { memory with
    heap := memory.heap.eraseAll (addresses entries)
    freed := memory.freed ++ freesOf entries }

theorem without_append
    (memory : QueueMemory) (front back : List (Nat × MessageFields)) :
    (memory.without front).without back = memory.without (front ++ back) := by
  simp [without, freesOf_append, NodeHeap.eraseAll]

theorem without_nil (memory : QueueMemory) :
    memory.without [] = memory := by
  simp [without, freesOf, NodeHeap.eraseAll]

variable
    {memory : QueueMemory}
    {entries : List (Nat × MessageFields)}

/-- The node one step behind, if there is one, is freed. -/
theorem freePrev_eq
    {prev : Option (Nat × MessageFields)}
    (held :
      ∀ node, prev = some node →
        ∃ next,
          memory.heap.lookup node.1 = some { entry := node.2, next }) :
    memory.freePrev (prev.map Prod.fst) =
      some (memory.without prev.toList) := by
  cases prev with
  | none =>
      rw [Option.toList_none, without_nil]
      rfl
  | some node =>
      rcases held node rfl with ⟨next, found⟩
      rw [Option.map_some, freePrev, found, Option.bind_some,
        NodeHeap.free_eq found]
      simp [without, freesOf, NodeHeap.eraseAll]

/--
The traversal frees what is behind it and what it meets, each node after its
link was read.
-/
theorem clearLoop_eq
    {turns : Nat} {prev : Option (Nat × MessageFields)} {msg : Option Nat}
    (chain : Chain memory.heap msg entries)
    (held :
      ∀ node, prev = some node →
        ∃ next,
          memory.heap.lookup node.1 = some { entry := node.2, next })
    (nodup : (addresses (prev.toList ++ entries)).Nodup)
    (enough : entries.length ≤ turns) :
    ((clearLoop turns memory (prev.map Prod.fst) msg).bind fun left =>
        left.1.freePrev left.2) =
      some (memory.without (prev.toList ++ entries)) := by
  induction entries generalizing memory prev msg turns with
  | nil =>
      cases chain
      rw [List.append_nil, clearLoop, Option.bind_some, freePrev_eq held]
  | cons node rest induction =>
      rcases chain with ⟨rfl, next, found, later⟩
      cases turns with
      | zero =>
          rw [List.length_cons] at enough
          omega
      | succ turns =>
          have apart : ∀ address ∈ addresses (node :: rest),
              address ∉ addresses prev.toList := by
            intro address member behind
            rw [addresses, List.map_append] at nodup
            exact
              List.disjoint_of_nodup_append nodup behind member
          have kept : ∀ address ∈ addresses (node :: rest),
              (memory.without prev.toList).heap.lookup address =
                memory.heap.lookup address := by
            intro address member
            exact
              NodeHeap.lookup_eraseAll_of_not_mem _ (apart address member)
          have foundStill :
              (memory.without prev.toList).heap.lookup node.1 =
                some { entry := node.2, next } := by
            rw [kept node.1 List.mem_cons_self]
            exact found
          rw [clearLoop, freePrev_eq held, Option.bind_some, foundStill,
            Option.bind_some]
          have step :=
            @induction (memory.without prev.toList) turns (some node) next
              (later.congr fun address member =>
                kept address (List.mem_cons_of_mem _ member))
              (by
                rintro other same
                cases same
                exact ⟨next, foundStill⟩)
              (by
                rw [addresses, List.map_append] at nodup
                exact nodup.of_append_right)
              (Nat.le_of_succ_le_succ enough)
          rw [without_append] at step
          exact step

/-- The nodes of a queue are not more than all nodes. -/
theorem length_le_card
    (represents : Represents memory.heap memory.msgq.messages entries) :
    entries.length ≤ memory.heap.keys.card := by
  have inside : (addresses entries).toFinset ⊆ memory.heap.keys := by
    intro address member
    rcases List.mem_map.mp (List.mem_toFinset.mp member) with
      ⟨node, here, rfl⟩
    rcases represents.chain.lookup here with ⟨next, found⟩
    rw [Finmap.mem_keys, ← Finmap.lookup_isSome, found]
    rfl
  have bound := Finset.card_le_card inside
  rw [List.toFinset_card_of_nodup represents.nodup, List.length_map] at bound
  exact bound

/-- `MessageQueue_clear` frees every node of the queue and leaves it empty. -/
theorem clear_eq
    (represents : Represents memory.heap memory.msgq.messages entries) :
    memory.clear =
      some
        { memory.without entries with
          msgq := { messages := .init, count := 0 } } := by
  have loop :
      ((clearLoop memory.heap.keys.card memory none
          memory.msgq.messages.first).bind fun left =>
        left.1.freePrev left.2) =
        some (memory.without entries) :=
    @clearLoop_eq memory entries memory.heap.keys.card none
      memory.msgq.messages.first represents.chain (by simp)
      represents.nodup (length_le_card represents)
  rcases Option.bind_eq_some_iff.mp loop with ⟨left, ran, freed⟩
  rw [clear, ran, Option.bind_some, freed]
  rfl

/--
A push which comes between the traversal and `STAILQ_INIT` writes to the last
node, which is freed.
-/
theorem push_without
    {address : Nat}
    (represents : Represents memory.heap memory.msgq.messages entries)
    (more : entries ≠ [])
    (apart : address ∉ addresses entries)
    (message : MessageFields) :
    (memory.without entries).push (some address) message = none := by
  rcases List.eq_nil_or_concat entries with rfl | ⟨front, ⟨tail, old⟩, rfl⟩
  · exact absurd rfl more
  · rw [List.concat_eq_append] at *
    have last := represents.last
    rw [lastLink_concat] at last
    have member : tail ∈ addresses (front ++ [(tail, old)]) := by
      simp
    have differs : tail ≠ address := by
      rintro rfl
      exact apart member
    have gone :
        (memory.without (front ++ [(tail, old)])).heap.lookup tail = none :=
      NodeHeap.lookup_eraseAll_of_mem memory.heap member
    have stays :
        (memory.without (front ++ [(tail, old)])).msgq.messages.last =
          .next tail :=
      last
    rw [push, TailQueue.insertTail,
      NodeHeap.setNext_eq (Finmap.lookup_insert _), Option.bind_some,
      storeLast, stays]
    simp only [NodeHeap.setNext, Finmap.lookup_insert_of_ne _ differs, gone,
      Option.map_none]

/-- What is freed of a queue: each of its nodes once. -/
theorem count_node_freesOf (address : Nat) :
    (freesOf entries).count (.node address) =
      (addresses entries).count address := by
  induction entries with
  | nil =>
      rfl
  | cons node rest induction =>
      have data : (freeData node.2).count (.node address) = 0 := by
        rw [freeData]
        split
        · simp
        · rfl
      have apart : freesOf (node :: rest) =
          freeData node.2 ++ (.node node.1 :: freesOf rest) := by
        simp [freesOf]
      have all : addresses (node :: rest) = node.1 :: addresses rest := rfl
      rw [apart, all, List.count_append, data, Nat.zero_add,
        List.count_cons, List.count_cons, induction]
      simp

/-- What is freed of a queue: the data of the messages which own it, in order. -/
theorem blocks_freesOf :
    (freesOf entries).filterMap Freed.block =
      ((entries.map Prod.snd).filter fun message =>
        message.mem = .heapMem).map MessageFields.data := by
  induction entries with
  | nil =>
      rfl
  | cons node rest induction =>
      have apart : freesOf (node :: rest) =
          freeData node.2 ++ (.node node.1 :: freesOf rest) := by
        simp [freesOf]
      rw [apart, List.filterMap_append, List.filterMap_cons_none rfl,
        induction, List.map_cons, freeData]
      by_cases owned : node.2.mem = .heapMem
      · rw [if_pos owned, List.filter_cons_of_pos (by simp [owned])]
        rfl
      · rw [if_neg owned, List.filter_cons_of_neg (by simp [owned])]
        rfl

/-! ## A queue in order -/

/-- The queue holds these messages in these nodes, and counts them. -/
structure Holds
    (memory : QueueMemory) (entries : List (Nat × MessageFields)) : Prop where
  represents : Represents memory.heap memory.msgq.messages entries
  count : memory.msgq.count.toNat = entries.length % 65536

theorem holds_initializer :
    Holds initializer [] where
  represents := represents_init ∅
  count := rfl

/-- A message which gets a node becomes the last one. -/
theorem Holds.push
    {address : Nat}
    (holds : memory.Holds entries)
    (fresh : memory.heap.lookup address = none)
    (message : MessageFields) :
    ∃ after,
      memory.push (some address) message = some (after, 0) ∧
        after.Holds (entries ++ [(address, message)]) ∧
          after.freed = memory.freed ∧
            after.msgq.count = memory.msgq.count + 1 := by
  have apart : address ∉ addresses entries := by
    intro member
    rcases List.mem_map.mp member with ⟨node, here, rfl⟩
    rcases holds.represents.chain.lookup here with ⟨next, found⟩
    rw [fresh] at found
    cases found
  have allocated :
      Represents
        (memory.heap.insert address { entry := message, next := none })
        memory.msgq.messages entries := by
    apply holds.represents.congr
    intro other member
    apply Finmap.lookup_insert_of_ne
    rintro rfl
    exact apart member
  rcases allocated.insertTail (Finmap.lookup_insert memory.heap) apart with
    ⟨heap, messages, inserted, represents, -⟩
  refine
    ⟨{ memory with
        heap
        msgq := { messages, count := memory.msgq.count + 1 } },
      ?_, ⟨represents, ?_⟩, rfl, rfl⟩
  · rw [QueueMemory.push, inserted]
    rfl
  · have count := holds.count
    rw [List.length_append, List.length_singleton]
    change (memory.msgq.count + 1).toNat = _
    rw [UInt16.toNat_add, count]
    simp

/-- The oldest message is taken out, and its node is freed. -/
theorem Holds.unshift
    {address : Nat} {message : MessageFields}
    {rest : List (Nat × MessageFields)}
    (holds : memory.Holds ((address, message) :: rest))
    (outputs : MessageFields) :
    ∃ after,
      memory.unshift outputs = some (after, message, 0) ∧
        after.Holds rest ∧
          after.freed = memory.freed ++ [.node address] ∧
            after.heap.lookup address = none ∧
              after.msgq.count = memory.msgq.count - 1 := by
  rcases holds.represents.chain with ⟨here, next, found, -⟩
  rcases holds.represents.removeHead with ⟨messages, removed, represents⟩
  have more : ¬ memory.msgq.messages.empty = true := by
    rw [holds.represents.empty_iff]
    simp
  refine
    ⟨{ heap := memory.heap.erase address
       msgq := { messages, count := memory.msgq.count - 1 }
       freed := memory.freed ++ [.node address] },
      ?_, ⟨represents, ?_⟩, rfl, Finmap.lookup_erase address _, rfl⟩
  · rw [QueueMemory.unshift, if_neg more, removed, Option.bind_some, here]
    simp only [found, Option.bind_some, NodeHeap.free_eq found,
      Option.map_some]
  · have count := holds.count
    change (memory.msgq.count - 1).toNat = _
    rw [List.length_cons] at count
    rw [UInt16.toNat_sub, count]
    simp
    omega

theorem Holds.unshift_nil
    (holds : memory.Holds [])
    (outputs : MessageFields) :
    memory.unshift outputs = some (memory, outputs, 1) := by
  rw [QueueMemory.unshift, if_pos (holds.represents.empty_iff.mpr rfl)]

/-- Nothing is left. -/
theorem Holds.clear
    (holds : memory.Holds entries) :
    ∃ after,
      memory.clear = some after ∧ after.Holds [] ∧
        after.freed = memory.freed ++ freesOf entries ∧
          (∀ address ∈ addresses entries,
            after.heap.lookup address = none) ∧
            after.msgq.count = 0 :=
  ⟨_, clear_eq holds.represents, ⟨represents_init _, rfl⟩, rfl,
    fun _ member => NodeHeap.lookup_eraseAll_of_mem _ member, rfl⟩

end QueueMemory

end EspFirmware
