import EspFirmware.Memory

/-!
# Message queues

The queues of `message_queue.c` as the list of their entries.  A node is
allocated for each entry, so a push may fail; it then changes nothing.
-/

namespace EspFirmware

/-- Address of the `struct espconn` of one connection. -/
abbrev Conn := Nat

/-- `enum Memtype`: who owns the data of a message. -/
inductive Memtype where
  | staticMem
  | heapMem
deriving DecidableEq

/--
`struct Message`.  The sender of a message promises that its data has at
least the announced length.
-/
structure Message where
  conn : Conn
  data : Buffer
  len : UInt16
  mem : Memtype
  fits : len.toNat ≤ data.bytes.length
deriving DecidableEq

/-- The bytes a message stands for. -/
def Message.payload (message : Message) : List UInt8 :=
  (Pointer.start message.data).read message.len.toNat

@[simp]
theorem Message.length_payload (message : Message) :
    message.payload.length = message.len.toNat := by
  apply Pointer.length_read
  simpa [Pointer.start] using message.fits

/-- A message of `len` zero bytes on the heap. -/
def Message.zeros (conn : Conn) (len : UInt16) : Message where
  conn := conn
  data := { address := 1, bytes := List.replicate len.toNat 0 }
  len := len
  mem := .heapMem
  fits := by simp

/-- `struct MessageQueue`. -/
structure MessageQueue where
  messages : List Message
  count : UInt16
deriving DecidableEq

namespace MessageQueue

/-- `MESSAGE_QUEUE_INITIALIZER`. -/
def initializer : MessageQueue where
  messages := []
  count := 0

/--
`MessageQueue_push`.  The answer is `none`, for `-1`, when no node could be
allocated.
-/
def push
    (msgq : MessageQueue)
    (allocated : Bool)
    (message : Message) :
    Option MessageQueue :=
  if allocated then
    some
      { messages := msgq.messages ++ [message]
        count := msgq.count + 1 }
  else
    none

/-- `MessageQueue_unshift`.  The answer is `none`, for `1`, on an empty queue. -/
def unshift (msgq : MessageQueue) : Option (Message × MessageQueue) :=
  match msgq.messages with
  | [] => none
  | message :: rest =>
      some (message, { messages := rest, count := msgq.count - 1 })

/-- `MessageQueue_empty`. -/
def empty (msgq : MessageQueue) : Bool :=
  msgq.messages.isEmpty

/-- The queue `MessageQueue_clear` leaves. -/
def clear (_ : MessageQueue) : MessageQueue :=
  initializer

@[simp]
theorem initializer_messages : initializer.messages = [] := by
  rfl

theorem unshift_eq_none {msgq : MessageQueue} :
    msgq.unshift = none ↔ msgq.messages = [] := by
  cases shape : msgq.messages <;> simp [unshift, shape]

/-- A message which is taken out is the oldest one. -/
theorem unshift_messages
    {msgq after : MessageQueue} {message : Message}
    (taken : msgq.unshift = some (message, after)) :
    msgq.messages = message :: after.messages := by
  cases shape : msgq.messages with
  | nil => simp [unshift, shape] at taken
  | cons head rest =>
      simp only [unshift, shape, Option.some.injEq, Prod.mk.injEq] at taken
      rcases taken with ⟨rfl, rfl⟩
      rfl

theorem empty_eq_true {msgq : MessageQueue} :
    msgq.empty = true ↔ msgq.messages = [] := by
  simp [empty]

end MessageQueue

end EspFirmware
