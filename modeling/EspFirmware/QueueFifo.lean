import EspFirmware.QueueNodes

/-!
# A message queue is a FIFO

The nodes, links and counters of a queue, from its initializer on, under any
sequence of calls.  The allocator answers with a block which is not in use, or
with none.  What was pushed, and how much of it was removed again, is recorded
beside the queue; the chain of nodes is the rest.
-/

namespace EspFirmware

open Library TailQueue

/-! ## The queue as a list -/

namespace QueueMemory

/-- The nodes stand for a queue which is given by the list of its messages. -/
def Refines (memory : QueueMemory) (msgq : MessageQueue) : Prop :=
  ∃ entries,
    memory.Holds entries ∧
      entries.map Prod.snd = msgq.messages.map Message.fields ∧
        memory.msgq.count = msgq.count

variable {memory : QueueMemory} {msgq : MessageQueue}

theorem refines_initializer :
    initializer.Refines .initializer :=
  ⟨[], holds_initializer, rfl, rfl⟩

theorem Refines.empty
    (refines : memory.Refines msgq) :
    memory.empty = msgq.empty := by
  rcases refines with ⟨entries, holds, messages, -⟩
  have shape : entries = [] ↔ msgq.messages = [] := by
    rw [← List.map_eq_nil_iff, messages, List.map_eq_nil_iff]
  rw [Bool.eq_iff_iff, MessageQueue.empty_eq_true, ← shape]
  exact holds.represents.empty_iff

/-- A push to the list is a push to the nodes. -/
theorem Refines.push
    {address : Nat} {message : Message} {pushed : MessageQueue}
    (refines : memory.Refines msgq)
    (fresh : memory.heap.lookup address = none)
    (accepted : msgq.push true message = some pushed) :
    ∃ after,
      memory.push (some address) message.fields = some (after, 0) ∧
        after.Refines pushed := by
  rcases refines with ⟨entries, holds, messages, count⟩
  rcases holds.push fresh message.fields with
    ⟨after, called, held, -, counted⟩
  cases accepted
  refine
    ⟨after, called, entries ++ [(address, message.fields)], held, ?_, ?_⟩
  · rw [List.map_append, messages, List.map_append]
    rfl
  · rw [counted, count]

/-- A push which fails changes neither. -/
theorem push_none (memory : QueueMemory) (message : MessageFields) :
    memory.push none message = some (memory, -1) :=
  rfl

theorem Refines.unshift
    {message : Message} {rest : MessageQueue}
    (refines : memory.Refines msgq)
    (taken : msgq.unshift = some (message, rest))
    (outputs : MessageFields) :
    ∃ after,
      memory.unshift outputs = some (after, message.fields, 0) ∧
        after.Refines rest := by
  rcases refines with ⟨entries, holds, messages, count⟩
  have oldest := MessageQueue.unshift_messages taken
  rw [oldest, List.map_cons] at messages
  cases entries with
  | nil =>
      cases messages
  | cons node others =>
      rw [List.map_cons, List.cons.injEq] at messages
      rcases node with ⟨address, fields⟩
      rcases messages with ⟨rfl, messages⟩
      rcases holds.unshift outputs with
        ⟨after, called, held, -, -, counted⟩
      refine ⟨after, called, others, held, messages, ?_⟩
      rw [MessageQueue.unshift, oldest, Option.some.injEq, Prod.mk.injEq]
        at taken
      rw [counted, count, ← taken.2]

theorem Refines.unshift_none
    (refines : memory.Refines msgq)
    (nothing : msgq.unshift = none)
    (outputs : MessageFields) :
    memory.unshift outputs = some (memory, outputs, 1) := by
  rcases refines with ⟨entries, holds, messages, -⟩
  rw [MessageQueue.unshift_eq_none.mp nothing, List.map_nil,
    List.map_eq_nil_iff] at messages
  subst messages
  exact holds.unshift_nil outputs

theorem Refines.clear
    (refines : memory.Refines msgq) :
    ∃ after, memory.clear = some after ∧ after.Refines msgq.clear := by
  rcases refines with ⟨entries, holds, -, -⟩
  rcases holds.clear with ⟨after, called, held, -, -, counted⟩
  exact ⟨after, called, [], held, rfl, counted⟩

/-! ## The calls -/

/-- What the calls do on a queue which holds these messages. -/
structure ActsAsFifo
    (memory : QueueMemory) (entries : List (Nat × MessageFields)) : Prop where
  empty_iff : memory.empty = true ↔ entries = []
  push_fails :
    ∀ message, memory.push none message = some (memory, -1)
  push :
    ∀ address message, memory.heap.lookup address = none →
      ∃ after,
        memory.push (some address) message = some (after, 0) ∧
          after.Holds (entries ++ [(address, message)]) ∧
            after.freed = memory.freed
  unshift_fails :
    entries = [] → ∀ outputs,
      memory.unshift outputs = some (memory, outputs, 1)
  unshift :
    ∀ address message rest, entries = (address, message) :: rest →
      ∀ outputs, ∃ after,
        memory.unshift outputs = some (after, message, 0) ∧
          after.Holds rest ∧
            after.freed = memory.freed ++ [.node address] ∧
              after.heap.lookup address = none
  clear :
    ∃ after calls,
      memory.clear = some after ∧ after.Holds [] ∧
        after.freed = memory.freed ++ calls ∧
          (∀ address,
            calls.count (.node address) =
              if address ∈ addresses entries then 1 else 0) ∧
            calls.filterMap Freed.block =
              ((entries.map Prod.snd).filter fun message =>
                message.mem = .heapMem).map MessageFields.data

theorem Holds.actsAsFifo
    {entries : List (Nat × MessageFields)}
    (holds : memory.Holds entries) :
    memory.ActsAsFifo entries where
  empty_iff := holds.represents.empty_iff
  push_fails := memory.push_none
  push := by
    intro address message fresh
    rcases holds.push fresh message with ⟨after, called, held, kept, -⟩
    exact ⟨after, called, held, kept⟩
  unshift_fails := by
    rintro rfl outputs
    exact holds.unshift_nil outputs
  unshift := by
    rintro address message rest rfl outputs
    rcases holds.unshift outputs with
      ⟨after, called, held, freed, gone, -⟩
    exact ⟨after, called, held, freed, gone⟩
  clear := by
    rcases holds.clear with ⟨after, called, held, freed, -, -⟩
    refine
      ⟨after, freesOf entries, called, held, freed, ?_, blocks_freesOf⟩
    intro address
    rw [count_node_freesOf, holds.represents.nodup.count]

end QueueMemory

/-! ## Sequences of calls -/

/-- A queue, unless an access to it went wrong, with what was pushed and how much was removed. -/
structure QueueWorld where
  memory : Option QueueMemory
  pushed : List MessageFields
  removed : Nat

/-- A call, with the answer of `os_zalloc`. -/
inductive QueueStep (Entry : Type) where
  | push (block : Option Nat) (message : Entry)
  | unshift (outputs : MessageFields)
  | clear

namespace QueueWorld

/-- The messages which were pushed and not yet removed. -/
def waiting (world : QueueWorld) : List MessageFields :=
  world.pushed.drop world.removed

/-- The step function; the allocator does not answer with a block which is in use. -/
def next (world : QueueWorld) (step : QueueStep MessageFields) :
    Option QueueWorld :=
  match world.memory with
  | none => some world
  | some memory =>
      match step with
      | .push block message =>
          if memory.Fresh block then
            let called := memory.push block message
            some
              { memory := called.map Prod.fst
                pushed :=
                  if called.map Prod.snd = some 0 then
                    world.pushed ++ [message]
                  else
                    world.pushed
                removed := world.removed }
          else
            none
      | .unshift outputs =>
          let called := memory.unshift outputs
          some
            { memory := called.map Prod.fst
              pushed := world.pushed
              removed :=
                if (called.map fun result => result.2.2) = some 0 then
                  world.removed + 1
                else
                  world.removed }
      | .clear =>
          some
            { memory := memory.clear
              pushed := world.pushed
              removed := world.pushed.length }

/-- The queue holds what is waiting, in order, and its calls are those of a FIFO. -/
def IsFifo (world : QueueWorld) : Prop :=
  ∃ memory entries,
    world.memory = some memory ∧ memory.Holds entries ∧
      entries.map Prod.snd = world.waiting ∧ memory.ActsAsFifo entries

/-- What carries the induction. -/
structure Orderly (world : QueueWorld) : Prop where
  bounded : world.removed ≤ world.pushed.length
  holds :
    ∃ memory entries,
      world.memory = some memory ∧ memory.Holds entries ∧
        entries.map Prod.snd = world.waiting

theorem Orderly.isFifo
    {world : QueueWorld}
    (orderly : world.Orderly) :
    world.IsFifo := by
  rcases orderly.holds with ⟨memory, entries, here, holds, waiting⟩
  exact ⟨memory, entries, here, holds, waiting, holds.actsAsFifo⟩

theorem Orderly.next
    {world after : QueueWorld} {step : QueueStep MessageFields}
    (orderly : world.Orderly)
    (taken : world.next step = some after) :
    after.Orderly := by
  rcases orderly with
    ⟨bounded, memory, entries, here, holds, waiting⟩
  rw [QueueWorld.next, here] at taken
  cases step with
  | push block message =>
      simp only at taken
      split at taken
      · rename_i fresh
        cases block with
        | none =>
            cases taken
            exact ⟨bounded, memory, entries, rfl, holds, waiting⟩
        | some address =>
            rcases holds.push (fresh address rfl) message with
              ⟨pushed, called, held, -, -⟩
            simp only [called, Option.map_some, if_true] at taken
            cases taken
            refine
              ⟨?_, pushed, entries ++ [(address, message)], rfl, held, ?_⟩
            · rw [List.length_append]
              exact Nat.le_add_right_of_le bounded
            · rw [List.map_append, waiting, QueueWorld.waiting,
                QueueWorld.waiting, List.drop_append_of_le_length bounded]
              rfl
      · cases taken
  | unshift outputs =>
      cases entries with
      | nil =>
          simp only [holds.unshift_nil outputs] at taken
          cases taken
          exact ⟨bounded, memory, [], rfl, holds, waiting⟩
      | cons node rest =>
          rcases holds.unshift outputs with ⟨left, called, held, -, -, -⟩
          simp only [called] at taken
          cases taken
          rw [List.map_cons, QueueWorld.waiting] at waiting
          have more : world.removed < world.pushed.length := by
            by_contra none
            rw [List.drop_of_length_le (Nat.le_of_not_lt none)] at waiting
            cases waiting
          rw [List.drop_eq_getElem_cons more, List.cons.injEq] at waiting
          exact ⟨more, left, rest, rfl, held, waiting.2⟩
  | clear =>
      rcases holds.clear with ⟨cleared, called, held, -, -, -⟩
      simp only [called] at taken
      cases taken
      refine ⟨Nat.le_refl _, cleared, [], rfl, held, ?_⟩
      rw [QueueWorld.waiting, List.drop_length]
      rfl

end QueueWorld

/-- A queue from its initializer on. -/
def queueSystem : System QueueWorld (QueueStep MessageFields) where
  start := { memory := some .initializer, pushed := [], removed := 0 }
  next := QueueWorld.next

/-! ## Refinement of the list -/

/-- A call with a message, as a call with its fields. -/
def QueueStep.fields : QueueStep Message → QueueStep MessageFields
  | .push block message => .push block message.fields
  | .unshift outputs => .unshift outputs
  | .clear => .clear

/-- What a call makes of the queue as a list. -/
def MessageQueue.after (msgq : MessageQueue) :
    QueueStep Message → MessageQueue
  | .push block message => (msgq.push block.isSome message).getD msgq
  | .unshift _ => (msgq.unshift.map Prod.snd).getD msgq
  | .clear => msgq.clear

/-- A call on the nodes is a call on the list. -/
theorem QueueMemory.Refines.next
    {world after : QueueWorld} {step : QueueStep Message}
    {memory : QueueMemory} {msgq : MessageQueue}
    (refines : memory.Refines msgq)
    (here : world.memory = some memory)
    (taken : world.next step.fields = some after) :
    ∃ later,
      after.memory = some later ∧ later.Refines (msgq.after step) := by
  rw [QueueWorld.next, here] at taken
  cases step with
  | push block message =>
      simp only [QueueStep.fields] at taken
      split at taken
      · rename_i fresh
        cases block with
        | none =>
            cases taken
            exact ⟨memory, rfl, refines⟩
        | some address =>
            rcases refines.push (fresh address rfl) rfl with
              ⟨pushed, called, refined⟩
            cases taken
            refine ⟨pushed, ?_, refined⟩
            rw [called]
            rfl
      · cases taken
  | unshift outputs =>
      cases taken
      cases oldest : msgq.unshift with
      | none =>
          refine ⟨memory, ?_, ?_⟩
          · rw [refines.unshift_none oldest outputs]
            rfl
          · rw [MessageQueue.after, oldest]
            exact refines
      | some result =>
          rcases refines.unshift oldest outputs with ⟨left, called, refined⟩
          refine ⟨left, ?_, ?_⟩
          · rw [called]
            rfl
          · rw [MessageQueue.after, oldest]
            exact refined
  | clear =>
      rcases refines.clear with ⟨cleared, called, refined⟩
      cases taken
      exact ⟨cleared, called, refined⟩

theorem QueueMemory.Refines.run
    {world after : QueueWorld} {steps : List (QueueStep Message)}
    {memory : QueueMemory} {msgq : MessageQueue}
    (refines : memory.Refines msgq)
    (here : world.memory = some memory)
    (ran : queueSystem.run world (steps.map .fields) = some after) :
    ∃ later,
      after.memory = some later ∧
        later.Refines (steps.foldl MessageQueue.after msgq) := by
  induction steps generalizing world memory msgq with
  | nil =>
      cases ran
      exact ⟨memory, here, refines⟩
  | cons step rest induction =>
      simp only [List.map_cons, System.run, Option.bind_eq_some_iff] at ran
      rcases ran with ⟨middle, taken, ranRest⟩
      rcases refines.next here taken with ⟨later, found, refined⟩
      exact induction refined found ranRest

/-- After any calls the nodes stand for what the calls make of the list. -/
theorem refines_of_run
    {steps : List (QueueStep Message)} {after : QueueWorld}
    (ran :
      queueSystem.run queueSystem.start (steps.map .fields) = some after) :
    ∃ memory,
      after.memory = some memory ∧
        memory.Refines (steps.foldl MessageQueue.after .initializer) :=
  QueueMemory.refines_initializer.run rfl ran

/-! ## The FIFO -/

/--
Whatever is called, no call goes wrong, and the queue is a FIFO: from its head
on there are finitely many nodes, none twice, which hold the messages that were
pushed and not yet removed, in order; the tail pointer points to the last of
them, the counter counts them, and every call does what it does on a FIFO.
-/
theorem message_queue_refines_fifo
    (steps : List (QueueStep MessageFields)) :
    queueSystem.Always QueueWorld.IsFifo queueSystem.start steps := by
  have start : queueSystem.start.Orderly :=
    ⟨Nat.le_refl 0,
      ⟨_, [], rfl, QueueMemory.holds_initializer, rfl⟩⟩
  have implied (world : QueueWorld) (orderly : world.Orderly) :
      world.IsFifo :=
    orderly.isFifo
  apply System.always_of_invariant implied _ steps start
  intro world step after orderly taken
  exact orderly.next taken

end EspFirmware
