import EspFirmware.Library.FifoHistory
import EspFirmware.Library.Transition
import EspFirmware.Proto

/-!
# The outbound queue

`queue.c` of the MQTT library, and the loop in which `MQTT_Publish` and
`MQTT_Subscribe` drop the oldest packets.  A packet that does not fit leaves
the front of its frame in the buffer, which nothing removes until the packets
before it are read.
-/

namespace EspFirmware

open Library

/-- `MQTT_BUF_SIZE`. -/
def mqttBufSize : Nat := 1024

/-- `QUEUE_BUFFER_SIZE`. -/
def queueBufferSize : Nat := 2048

/-- A call of the queue; a packet which is read comes with the room for it. -/
abbrev QueueEntry :=
  FifoEntry (List UInt8) (Nat × List UInt8)

/-- `QUEUE`, with its calls so far. -/
structure MsgQueue (size : Nat) where
  rb : RingBuf size
  log : List QueueEntry
deriving DecidableEq

namespace MsgQueue

variable {size : Nat}

/-- `QUEUE_Init`. -/
def init (size : Nat) (large : 2 ≤ size) : MsgQueue size where
  rb := .init size large
  log := []

/-- `QUEUE_Puts`. -/
def puts (queue : MsgQueue size) (buffer : List UInt8) :
    MsgQueue size × Option UInt16 :=
  let added := protoAddRb queue.rb buffer
  ({ rb := added.1
     log := queue.log ++ [.put buffer added.2.isSome] },
    added.2)

/-- `QUEUE_Gets`. -/
def gets (queue : MsgQueue size) (maxLen : Nat) (isBegin : Bool) :
    MsgQueue size × Option (List UInt8) :=
  let parsed := protoParseRb queue.rb maxLen isBegin
  ({ rb := parsed.2
     log := queue.log ++ [.get (parsed.1.map (Prod.mk maxLen))] },
    parsed.1)

/-- `QUEUE_IsEmpty`. -/
def isEmpty (queue : MsgQueue size) : Bool :=
  queue.rb.fillCnt ≤ 0

/-! ## The loop of the callers -/

theorem contents_puts (queue : MsgQueue size) (buffer : List UInt8) :
    (queue.puts buffer).1.rb.contents =
      queue.rb.contents ++
        (protoFraming.frame buffer).take
          (size - queue.rb.contents.length) := by
  rw [puts, protoAddRb_eq]
  exact RingBuf.contents_offer _ _

theorem puts_eq_none_iff {queue : MsgQueue size} {buffer : List UInt8} :
    (queue.puts buffer).2 = none ↔
      size <
        queue.rb.contents.length + (protoFraming.frame buffer).length := by
  rw [puts, protoAddRb_eq]
  by_cases fits : (queue.rb.offer (protoFraming.frame buffer)).2 = true
  · have room := RingBuf.offer_eq_true_iff.mp fits
    rw [if_pos fits]
    exact iff_of_false nofun (by omega)
  · have full := RingBuf.offer_eq_true_iff.not.mp fits
    rw [if_neg fits]
    exact iff_of_true rfl (by omega)

/-- What is put of a packet without room is not its whole frame. -/
theorem room_lt
    {queue : MsgQueue size} {buffer : List UInt8}
    (long :
      size <
        queue.rb.contents.length + (protoFraming.frame buffer).length) :
    size - queue.rb.contents.length <
      (protoFraming.frame buffer).length := by
  have bounded := queue.rb.bounded
  rw [← RingBuf.length_contents] at bounded
  omega

/-- A packet which is refused ends no frame. -/
theorem count_puts_none
    {queue full : MsgQueue size} {buffer : List UInt8}
    (refused : queue.puts buffer = (full, none)) :
    full.rb.contents.count 0x7F = queue.rb.contents.count 0x7F := by
  have long := puts_eq_none_iff.mp (congrArg Prod.snd refused)
  have after := queue.contents_puts buffer
  rw [congrArg Prod.fst refused] at after
  have unended :
      protoFraming.ends ∉
        (protoFraming.frame buffer).take
          (size - queue.rb.contents.length) :=
    protoFraming.ends_not_mem_take_frame (room_lt long)
  rw [after, List.count_append,
    List.count_eq_zero_of_not_mem (show (0x7F : UInt8) ∉ _ from unended),
    Nat.add_zero]

/-- A packet which is read ended a frame. -/
theorem count_gets_some
    {queue rest : MsgQueue size} {maxLen : Nat} {isBegin : Bool}
    {packet : List UInt8}
    (read : queue.gets maxLen isBegin = (rest, some packet)) :
    rest.rb.contents.count 0x7F < queue.rb.contents.count 0x7F := by
  have parsed := parseRbLoop_spec (protoInit maxLen isBegin) queue.rb
  have packetRead := congrArg Prod.snd read
  have contents := congrArg (fun queue => queue.1.rb.contents) read
  simp only [gets, protoParseRb] at packetRead contents
  rw [packetRead] at parsed
  rcases Option.map_eq_some_iff.mp parsed.1.symm with ⟨⟨message, left⟩, found, -⟩
  rw [found, contents] at parsed
  rcases protoFraming.deframe_eq_some found with ⟨front, split⟩
  have same : rest.rb.contents = left := parsed.2
  rw [split, same, List.count_append]
  have ended : ((protoFraming.ends : UInt8) :: left).count 0x7F =
      left.count 0x7F + 1 :=
    List.count_cons_self
  omega

/--
The loop of `MQTT_Publish` and `MQTT_Subscribe`: as long as the packet does not
fit, the oldest one is dropped.  The parser on the stack of each call finds
some value of `isBegin`.
-/
def putDropping
    (stack : Nat → Bool) (queue : MsgQueue size) (buffer : List UInt8) :
    MsgQueue size × Bool :=
  match _put : queue.puts buffer with
  | (added, some _) => (added, true)
  | (full, none) =>
      match _read : full.gets mqttBufSize (stack 0) with
      | (emptied, none) => (emptied, false)
      | (rest, some _) =>
          putDropping (fun call => stack (call + 1)) rest buffer
termination_by queue.rb.contents.count 0x7F
decreasing_by
  rw [← count_puts_none _put]
  exact count_gets_some _read

/-! ## What waits -/

/-- A packet is read up to the room for it. -/
def CutTo (packet : List UInt8) (reply : Nat × List UInt8) : Prop :=
  reply.2 = packet.take reply.1

/-- What is in the buffer, and what was asked of the queue. -/
structure Holds
    (queue : MsgQueue size) (stream : FrameStream protoFraming) : Prop where
  contents : queue.rb.contents = stream.symbols
  history : FifoHistory CutTo queue.log stream.messages

theorem holds_init (large : 2 ≤ size) :
    (init size large).Holds .empty where
  contents := rfl
  history := .start

variable
    {queue : MsgQueue size} {stream : FrameStream protoFraming}
    {buffer : List UInt8}

/-- With room for its frame, a packet waits behind all others. -/
theorem Holds.puts_room
    (holds : queue.Holds stream)
    (room :
      queue.rb.contents.length + (protoFraming.frame buffer).length ≤
        size) :
    (queue.puts buffer).2 ≠ none ∧
      (queue.puts buffer).1.Holds (stream.send buffer) := by
  have accepted : (queue.puts buffer).2 ≠ none := by
    intro refused
    have long := puts_eq_none_iff.mp refused
    omega
  refine ⟨accepted, ?_, ?_⟩
  · rw [contents_puts, List.take_of_length_le (by omega), holds.contents,
      stream.symbols_send]
  · have some : (protoAddRb queue.rb buffer).2.isSome = true :=
      Option.isSome_iff_ne_none.mpr accepted
    rw [puts, some, stream.messages_send]
    exact holds.history.accepted buffer

/-- Without room, its front stays in the buffer, which is then full. -/
theorem Holds.puts_full
    (holds : queue.Holds stream)
    (long :
      size <
        queue.rb.contents.length + (protoFraming.frame buffer).length) :
    (queue.puts buffer).2 = none ∧
      (queue.puts buffer).1.rb.contents.length = size ∧
        ∃ piece unended,
          (queue.puts buffer).1.Holds (stream.tear piece unended) := by
  have bounded := queue.rb.bounded
  rw [← RingBuf.length_contents] at bounded
  have refused := puts_eq_none_iff.mpr long
  refine
    ⟨refused, ?_, _, protoFraming.ends_not_mem_take_frame (room_lt long),
      ?_, ?_⟩
  · rw [contents_puts, List.length_append, List.length_take]
    omega
  · rw [contents_puts, stream.symbols_tear, holds.contents]
  · have none : (protoAddRb queue.rb buffer).2.isSome = false := by
      have full : (protoAddRb queue.rb buffer).2 = Option.none := refused
      rw [full]
      rfl
    rw [puts, none]
    exact holds.history.refused buffer

/-- The packet which has waited longest is read, and what was torn before it is gone. -/
theorem Holds.gets_cons
    {chunk : Chunk protoFraming} {rest : List (Chunk protoFraming)}
    (holds : queue.Holds stream)
    (first : stream.chunks = chunk :: rest)
    (maxLen : Nat) (isBegin : Bool) :
    (queue.gets maxLen isBegin).2 = some (chunk.message.take maxLen) ∧
      (queue.gets maxLen isBegin).1.Holds stream.tail := by
  have parsed := parseRbLoop_spec (protoInit maxLen isBegin) queue.rb
  rw [holds.contents, FrameStream.deframe_symbols_of_cons first] at parsed
  refine ⟨parsed.1, parsed.2, ?_⟩
  have history := holds.history
  rw [FrameStream.messages_of_cons first] at history
  rw [gets, protoParseRb, parsed.1]
  exact history.handed rfl

/-- Without a whole packet, the buffer is emptied. -/
theorem Holds.gets_nil
    (holds : queue.Holds stream)
    (none : stream.chunks = [])
    (maxLen : Nat) (isBegin : Bool) :
    (queue.gets maxLen isBegin).2 = Option.none ∧
      (queue.gets maxLen isBegin).1.Holds .empty := by
  have parsed := parseRbLoop_spec (protoInit maxLen isBegin) queue.rb
  rw [holds.contents, FrameStream.deframe_symbols_of_nil none] at parsed
  refine ⟨parsed.1, parsed.2, ?_⟩
  have history := holds.history
  rw [FrameStream.messages, none] at history
  rw [gets, protoParseRb, parsed.1]
  exact history.nothing

/-! ## Dropping the oldest packets -/

theorem putDropping_of_put
    (accepted : (queue.puts buffer).2 ≠ none) (stack : Nat → Bool) :
    queue.putDropping stack buffer = ((queue.puts buffer).1, true) := by
  rw [putDropping]
  split
  · next added count put =>
      rw [put]
  · next full put =>
      rw [put] at accepted
      exact absurd rfl accepted

theorem putDropping_of_refused
    (refused : (queue.puts buffer).2 = none) (stack : Nat → Bool) :
    queue.putDropping stack buffer =
      if ((queue.puts buffer).1.gets mqttBufSize (stack 0)).2 = none then
        (((queue.puts buffer).1.gets mqttBufSize (stack 0)).1, false)
      else
        ((queue.puts buffer).1.gets mqttBufSize (stack 0)).1.putDropping
          (fun call => stack (call + 1)) buffer := by
  rw [putDropping]
  split
  · next added count put =>
      rw [put] at refused
      cases refused
  · next full put =>
      rw [put]
      split
      · next emptied read =>
          rw [read, if_pos rfl]
      · next rest packet read =>
          rw [read, if_neg nofun]

/-- With room for the frame, nothing is dropped. -/
theorem Holds.putDropping_room
    (holds : queue.Holds stream)
    (room :
      queue.rb.contents.length + (protoFraming.frame buffer).length ≤ size)
    (stack : Nat → Bool) :
    (queue.putDropping stack buffer).2 = true ∧
      (queue.putDropping stack buffer).1.Holds (stream.send buffer) := by
  have put := holds.puts_room room
  rw [putDropping_of_put put.1]
  exact ⟨rfl, put.2⟩

/-- Without room and without a packet, everything is lost. -/
theorem Holds.putDropping_nil
    (holds : queue.Holds stream)
    (long :
      size <
        queue.rb.contents.length + (protoFraming.frame buffer).length)
    (none : stream.chunks = [])
    (stack : Nat → Bool) :
    (queue.putDropping stack buffer).2 = false ∧
      (queue.putDropping stack buffer).1.Holds .empty := by
  rcases holds.puts_full long with ⟨refused, -, piece, unended, torn⟩
  have read := torn.gets_nil none mqttBufSize (stack 0)
  rw [putDropping_of_refused refused, if_pos read.1]
  exact ⟨rfl, read.2⟩

/--
Without room, the oldest packet is dropped.  The front of the new frame fills
the buffer, so that only the place of that packet is free.
-/
theorem Holds.putDropping_cons
    {chunk : Chunk protoFraming} {rest : List (Chunk protoFraming)}
    (holds : queue.Holds stream)
    (long :
      size <
        queue.rb.contents.length + (protoFraming.frame buffer).length)
    (first : stream.chunks = chunk :: rest)
    (stack : Nat → Bool) :
    ∃ (left : MsgQueue size) (after : FrameStream protoFraming),
      queue.putDropping stack buffer =
          left.putDropping (fun call => stack (call + 1)) buffer ∧
        left.Holds after ∧ after.chunks = rest ∧
          left.rb.contents.length + chunk.symbols.length = size := by
  rcases holds.puts_full long with ⟨refused, filled, piece, unended, torn⟩
  have chunks : (stream.tear piece unended).chunks = chunk :: rest := first
  have read := torn.gets_cons chunks mqttBufSize (stack 0)
  have split := FrameStream.symbols_of_cons chunks
  have place := congrArg List.length split
  rw [← torn.contents, filled, List.length_append, ← read.2.contents]
    at place
  refine ⟨_, _, ?_, read.2, ?_, ?_⟩
  · rw [putDropping_of_refused refused, if_neg]
    rw [read.1]
    exact nofun
  · rw [FrameStream.tail, chunks, List.tail_cons]
  · omega

/-- Without a place that is large enough, everything is lost. -/
theorem Holds.putDropping_lost
    (holds : queue.Holds stream)
    (long :
      size <
        queue.rb.contents.length + (protoFraming.frame buffer).length)
    (small :
      ∀ chunk ∈ stream.chunks,
        chunk.symbols.length < (protoFraming.frame buffer).length)
    (stack : Nat → Bool) :
    (queue.putDropping stack buffer).2 = false ∧
      (queue.putDropping stack buffer).1.Holds .empty := by
  generalize chunksEq : stream.chunks = chunks at small
  induction chunks generalizing queue stream stack with
  | nil =>
      exact holds.putDropping_nil long chunksEq stack
  | cons chunk rest induction =>
      rcases holds.putDropping_cons long chunksEq stack with
        ⟨left, after, same, held, chunks, place⟩
      have tooSmall := small chunk List.mem_cons_self
      rw [same]
      exact
        induction held (by omega) _ chunks
          fun other member => small other (.tail _ member)

/-- The packets are dropped up to the first one whose place is large enough. -/
theorem Holds.putDropping_kept
    {front back : List (Chunk protoFraming)} {chunk : Chunk protoFraming}
    (holds : queue.Holds stream)
    (long :
      size <
        queue.rb.contents.length + (protoFraming.frame buffer).length)
    (split : stream.chunks = front ++ chunk :: back)
    (small :
      ∀ other ∈ front,
        other.symbols.length < (protoFraming.frame buffer).length)
    (large : (protoFraming.frame buffer).length ≤ chunk.symbols.length)
    (stack : Nat → Bool) :
    (queue.putDropping stack buffer).2 = true ∧
      ∃ after,
        (queue.putDropping stack buffer).1.Holds after ∧
          after.messages = back.map Chunk.message ++ [buffer] := by
  induction front generalizing queue stream stack with
  | nil =>
      rcases holds.putDropping_cons long split stack with
        ⟨left, after, same, held, chunks, place⟩
      have room :
          left.rb.contents.length + (protoFraming.frame buffer).length ≤
            size := by
        omega
      have put := held.putDropping_room room fun call => stack (call + 1)
      rw [same]
      refine ⟨put.1, _, put.2, ?_⟩
      rw [FrameStream.messages_send, FrameStream.messages, chunks]
  | cons first front induction =>
      rcases holds.putDropping_cons long split stack with
        ⟨left, after, same, held, chunks, place⟩
      have tooSmall := small first List.mem_cons_self
      rw [same]
      exact
        induction held (by omega) chunks
          (fun other member => small other (.tail _ member)) _

end MsgQueue

/-! ## Runs -/

/-- A call of the queue. -/
inductive MsgQueueCall where
  | puts (buffer : List UInt8)
  | gets (maxLen : Nat) (isBegin : Bool)
  | putDropping (stack : Nat → Bool) (buffer : List UInt8)

/-- The queue behind a call. -/
def MsgQueue.after {size : Nat} (queue : MsgQueue size) :
    MsgQueueCall → MsgQueue size
  | .puts buffer => (queue.puts buffer).1
  | .gets maxLen isBegin => (queue.gets maxLen isBegin).1
  | .putDropping stack buffer => (queue.putDropping stack buffer).1

/-- A queue and the calls which its users make. -/
def msgQueueSystem (size : Nat) (large : 2 ≤ size) :
    System (MsgQueue size) MsgQueueCall where
  start := .init size large
  next queue call := some (queue.after call)

/-- What was asked of the queue, and that only its own bytes are in the buffer. -/
def MsgQueue.Sound {size : Nat} (queue : MsgQueue size) : Prop :=
  ∃ stream, queue.Holds stream

namespace MsgQueue

variable {size : Nat} {queue : MsgQueue size}

theorem Sound.puts (sound : queue.Sound) (buffer : List UInt8) :
    (queue.puts buffer).1.Sound := by
  rcases sound with ⟨stream, holds⟩
  by_cases room :
      queue.rb.contents.length + (protoFraming.frame buffer).length ≤ size
  · exact ⟨_, (holds.puts_room room).2⟩
  · rcases holds.puts_full (Nat.lt_of_not_le room) with
      ⟨-, -, piece, unended, torn⟩
    exact ⟨_, torn⟩

theorem Sound.gets (sound : queue.Sound) (maxLen : Nat) (isBegin : Bool) :
    (queue.gets maxLen isBegin).1.Sound := by
  rcases sound with ⟨stream, holds⟩
  cases chunks : stream.chunks with
  | nil =>
      exact ⟨_, (holds.gets_nil chunks maxLen isBegin).2⟩
  | cons chunk rest =>
      exact ⟨_, (holds.gets_cons chunks maxLen isBegin).2⟩

theorem Sound.putDropping
    (sound : queue.Sound) (stack : Nat → Bool) (buffer : List UInt8) :
    (queue.putDropping stack buffer).1.Sound := by
  induction stack, queue using putDropping.induct buffer with
  | case1 stack queue added count put =>
      have accepted : (queue.puts buffer).2 ≠ none := by
        rw [put]
        exact nofun
      rw [putDropping_of_put accepted]
      exact sound.puts buffer
  | case2 stack queue full put emptied read =>
      have refused : (queue.puts buffer).2 = none := by
        rw [put]
      rw [putDropping_of_refused refused, put, read, if_pos rfl]
      have held := (sound.puts buffer).gets mqttBufSize (stack 0)
      rw [put, read] at held
      exact held
  | case3 stack queue full put rest packet read induction =>
      have refused : (queue.puts buffer).2 = none := by
        rw [put]
      rw [putDropping_of_refused refused, put, read, if_neg nofun]
      have held := (sound.puts buffer).gets mqttBufSize (stack 0)
      rw [put, read] at held
      exact induction held

theorem Sound.after (sound : queue.Sound) (call : MsgQueueCall) :
    (queue.after call).Sound := by
  cases call with
  | puts buffer =>
      exact sound.puts buffer
  | gets maxLen isBegin =>
      exact sound.gets maxLen isBegin
  | putDropping stack buffer =>
      exact sound.putDropping stack buffer

theorem sound_of_reachable
    {large : 2 ≤ size}
    (reached : (msgQueueSystem size large).Reachable queue) :
    queue.Sound := by
  apply reached.invariant ⟨_, holds_init large⟩
  intro before call after sound taken
  cases taken
  exact sound.after call

end MsgQueue

/-- No packet is lost, repeated, reordered or torn. -/
def MsgQueue.KeepsPackets {size : Nat} (queue : MsgQueue size) : Prop :=
  ∃ handed waiting,
    queue.log.filterMap FifoEntry.item = handed ++ waiting ∧
      List.Forall₂ MsgQueue.CutTo handed
          (queue.log.filterMap FifoEntry.reply) ∧
        FifoHistory MsgQueue.CutTo queue.log waiting

/--
Whatever is called, and whatever the parsers find on the stack, the packets
that are read are those which were put as a whole, in order, and nothing is
read exactly when none of them waits.
-/
theorem msg_queue_keeps_packets
    (size : Nat) (large : 2 ≤ size) (calls : List MsgQueueCall) :
    (msgQueueSystem size large).Always MsgQueue.KeepsPackets
      (msgQueueSystem size large).start calls := by
  have implied (queue : MsgQueue size) (sound : queue.Sound) :
      queue.KeepsPackets := by
    rcases sound with ⟨stream, holds⟩
    rcases holds.history.exact with ⟨handed, items, replies⟩
    exact ⟨handed, stream.messages, items, replies, holds.history⟩
  apply System.always_of_invariant implied _ calls
    ⟨_, MsgQueue.holds_init large⟩
  intro queue call after sound taken
  cases taken
  exact sound.after call

theorem msg_queue_keeps_packets_queueBufferSize :
    (msgQueueSystem queueBufferSize (by decide)).Always MsgQueue.KeepsPackets
      (msgQueueSystem queueBufferSize (by decide)).start
      [.puts [0x7D, 0x7E], .putDropping (fun _ => true) [0x7F],
        .gets mqttBufSize true] :=
  msg_queue_keeps_packets queueBufferSize (by decide) _

/-- The first packet whose place is large enough. -/
theorem exists_first_place
    {chunks : List (Chunk protoFraming)} {need : Nat}
    (place : ∃ chunk ∈ chunks, need ≤ chunk.symbols.length) :
    ∃ front chunk back,
      chunks = front ++ chunk :: back ∧
        (∀ other ∈ front, other.symbols.length < need) ∧
          need ≤ chunk.symbols.length := by
  rcases place with ⟨large, member, enough⟩
  have some :
      (chunks.find? fun chunk => need ≤ chunk.symbols.length).isSome :=
    List.find?_isSome.mpr ⟨large, member, decide_eq_true enough⟩
  rcases Option.isSome_iff_exists.mp some with ⟨chunk, found⟩
  rcases List.find?_eq_some_iff_append.mp found with
    ⟨here, front, back, split, before⟩
  refine ⟨front, chunk, back, split, ?_, of_decide_eq_true here⟩
  intro other early
  have small := before other early
  rw [Bool.not_eq_true', decide_eq_false_iff_not] at small
  omega

/-- What is dropped for a packet, and what waits behind it. -/
structure DropsOldest
    {size : Nat} (queue : MsgQueue size) (stream : FrameStream protoFraming)
    (buffer : List UInt8) (after : MsgQueue size × Bool)
    (waiting : List (List UInt8)) : Prop where
  /-- With room for the frame, nothing is dropped. -/
  room :
    queue.rb.contents.length + (protoFraming.frame buffer).length ≤ size →
      after.2 = true ∧ waiting = stream.messages ++ [buffer]
  /-- Otherwise all packets are dropped up to the first one whose place is large enough. -/
  dropped :
    size <
        queue.rb.contents.length + (protoFraming.frame buffer).length →
      (∃ chunk ∈ stream.chunks,
        (protoFraming.frame buffer).length ≤ chunk.symbols.length) →
        ∃ front chunk back,
          stream.chunks = front ++ chunk :: back ∧
            (∀ other ∈ front,
              other.symbols.length < (protoFraming.frame buffer).length) ∧
              (protoFraming.frame buffer).length ≤ chunk.symbols.length ∧
                after.2 = true ∧
                  waiting = back.map Chunk.message ++ [buffer]
  /-- Where no place is, all packets are lost, the new one too. -/
  lost :
    size <
        queue.rb.contents.length + (protoFraming.frame buffer).length →
      (∀ chunk ∈ stream.chunks,
        chunk.symbols.length < (protoFraming.frame buffer).length) →
        after.2 = false ∧ waiting = [] ∧ after.1.rb.contents = []

/--
In every reachable state, the loop of `MQTT_Publish` drops the oldest packets
until one of them, with what was torn in front of it, has left enough room for
the new frame; it loses every packet when none of them has.
-/
theorem put_dropping_drops_oldest
    {size : Nat} {large : 2 ≤ size} {queue : MsgQueue size}
    (reached : (msgQueueSystem size large).Reachable queue)
    (stack : Nat → Bool) (buffer : List UInt8) :
    ∃ stream waiting,
      queue.rb.contents = stream.symbols ∧
        FifoHistory MsgQueue.CutTo queue.log stream.messages ∧
          FifoHistory MsgQueue.CutTo (queue.putDropping stack buffer).1.log
              waiting ∧
            DropsOldest queue stream buffer (queue.putDropping stack buffer)
              waiting := by
  rcases MsgQueue.sound_of_reachable reached with ⟨stream, holds⟩
  by_cases room :
      queue.rb.contents.length + (protoFraming.frame buffer).length ≤ size
  · have put := holds.putDropping_room room stack
    refine
      ⟨stream, _, holds.contents, holds.history, put.2.history, ?_, ?_, ?_⟩
    · intro _
      exact ⟨put.1, stream.messages_send buffer⟩
    · intro long
      omega
    · intro long
      omega
  · have long := Nat.lt_of_not_le room
    by_cases small :
        ∀ chunk ∈ stream.chunks,
          chunk.symbols.length < (protoFraming.frame buffer).length
    · have put := holds.putDropping_lost long small stack
      refine
        ⟨stream, _, holds.contents, holds.history, put.2.history, ?_, ?_,
          ?_⟩
      · intro _
        omega
      · rintro _ ⟨chunk, member, enough⟩
        have tooSmall := small chunk member
        omega
      · intro _ _
        exact ⟨put.1, rfl, put.2.contents⟩
    · push Not at small
      rcases exists_first_place small with
        ⟨front, chunk, back, split, tooSmall, enough⟩
      rcases holds.putDropping_kept long split tooSmall enough stack with
        ⟨kept, after, held, waiting⟩
      refine
        ⟨stream, _, holds.contents, holds.history, held.history, ?_, ?_, ?_⟩
      · intro _
        omega
      · intro _ _
        exact
          ⟨front, chunk, back, split, tooSmall, enough, kept, waiting⟩
      · intro _ none
        rcases small with ⟨large, member, place⟩
        have tooLarge := none large member
        omega

theorem put_dropping_drops_oldest_init :
    ∃ stream waiting,
      (MsgQueue.init queueBufferSize (by decide)).rb.contents =
          stream.symbols ∧
        FifoHistory MsgQueue.CutTo [] stream.messages ∧
          FifoHistory MsgQueue.CutTo
              ((MsgQueue.init queueBufferSize (by decide)).putDropping
                (fun _ => false) [0x7E]).1.log
              waiting ∧
            DropsOldest (.init queueBufferSize (by decide)) stream [0x7E]
              ((MsgQueue.init queueBufferSize (by decide)).putDropping
                (fun _ => false) [0x7E])
              waiting :=
  put_dropping_drops_oldest
    (System.Reachable.start :
      (msgQueueSystem queueBufferSize (by decide)).Reachable
        (.init queueBufferSize (by decide)))
    (fun _ => false) [0x7E]

end EspFirmware
