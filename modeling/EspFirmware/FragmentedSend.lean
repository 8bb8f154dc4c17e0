import EspFirmware.ServerSteps

/-!
# Fragmented transmission is exact and in order

`Message.fragments` says how a message is to be cut: a message of at most
`TCP_MAX_PACKET_SIZE` bytes stays whole, a longer one is cut into full pieces
and one last piece.  In every reachable state the calls of `espconn_sent` are
the fragments of the messages taken out of `sendq`, in the order in which
they were pushed, and only the last of these messages may be incomplete.  The
static variables of `server_task` then describe what is left of it.

Events may come at any time, in any number and without a cause.
-/

namespace EspFirmware

open EspFirmware.Library

@[simp]
theorem toNat_tcpMaxPacketSize : tcpMaxPacketSize.toNat = 1460 := by
  rfl

theorem le_tcpMaxPacketSize_iff {len : UInt16} :
    len ≤ tcpMaxPacketSize ↔ len.toNat ≤ 1460 :=
  UInt16.le_iff_toNat_le

/-- Above one packet, taking off a packet does not wrap. -/
theorem toNat_sub_tcpMaxPacketSize
    {len : UInt16}
    (long : 1460 < len.toNat) :
    (len - tcpMaxPacketSize).toNat = len.toNat - 1460 := by
  have within : tcpMaxPacketSize ≤ len := by
    rw [UInt16.le_iff_toNat_le, toNat_tcpMaxPacketSize]
    exact Nat.le_of_lt long
  rw [UInt16.toNat_sub_of_le _ _ within, toNat_tcpMaxPacketSize]

theorem not_le_tcpMaxPacketSize
    {len : UInt16}
    (long : ¬ len ≤ tcpMaxPacketSize) :
    1460 < len.toNat := by
  rw [le_tcpMaxPacketSize_iff] at long
  exact Nat.lt_of_not_le long

/-- The fragments of `bytes` on one connection. -/
def fragmentsOf (conn : Conn) (bytes : List UInt8) : List Fragment :=
  (pieces tcpMaxPacketSize.toNat bytes).map fun piece => ⟨conn, piece⟩

/-- The fragments a message is to be sent in. -/
def Message.fragments (message : Message) : List Fragment :=
  fragmentsOf message.conn message.payload

/-- A complete cut of a message into fragments. -/
structure Message.Cut
    (message : Message) (fragments : List Fragment) : Prop where
  conn : ∀ fragment ∈ fragments, fragment.conn = message.conn
  bytes : fragments.flatMap Fragment.bytes = message.payload
  short :
    message.len ≤ tcpMaxPacketSize →
      fragments = [⟨message.conn, message.payload⟩]
  long :
    ¬ message.len ≤ tcpMaxPacketSize →
      ∃ full last,
        fragments = full ++ [last] ∧
          (∀ fragment ∈ full, fragment.bytes.length = 1460) ∧
            1 ≤ last.bytes.length ∧ last.bytes.length ≤ 1460

theorem fragmentsOf_of_length_le
    {conn : Conn} {bytes : List UInt8}
    (short : bytes.length ≤ 1460) :
    fragmentsOf conn bytes = [⟨conn, bytes⟩] := by
  rw [fragmentsOf, toNat_tcpMaxPacketSize, pieces_of_length_le short]
  rfl

/-- Reading one full piece off a pointer leaves the advanced pointer. -/
theorem fragmentsOf_read
    {conn : Conn} {chunk : Pointer} {len : Nat}
    (fits : chunk.offset + len ≤ chunk.buffer.bytes.length)
    (long : 1460 < len) :
    fragmentsOf conn (chunk.read len) =
      ⟨conn, chunk.read 1460⟩ ::
        fragmentsOf conn ((chunk.advance 1460).read (len - 1460)) := by
  have lengthRead : (chunk.read len).length = len :=
    chunk.length_read fits
  rw [fragmentsOf, toNat_tcpMaxPacketSize,
    pieces_of_lt_length (by omega) (by omega), List.map_cons,
    chunk.read_take (by omega), chunk.read_drop]
  rfl

/-- The fragments of a message are a complete cut of it. -/
theorem Message.cut_fragments (message : Message) :
    message.Cut message.fragments where
  conn := by
    intro fragment member
    rcases List.mem_map.mp member with ⟨piece, _, rfl⟩
    rfl
  bytes := by
    rw [Message.fragments, fragmentsOf, List.flatMap_map]
    simp [List.flatMap_id']
  short := by
    intro short
    apply fragmentsOf_of_length_le
    rw [Message.length_payload]
    exact le_tcpMaxPacketSize_iff.mp short
  long := by
    intro long
    have longLen : 1460 < message.len.toNat :=
      not_le_tcpMaxPacketSize long
    have nonempty : message.payload ≠ [] := by
      apply List.ne_nil_of_length_pos
      rw [Message.length_payload]
      omega
    rcases pieces_shape (by omega : 0 < 1460) message.payload with
      ⟨full, last, equal, fullLength, lastLength, lastNonempty⟩
    refine
      ⟨full.map fun piece => ⟨message.conn, piece⟩,
        ⟨message.conn, last⟩, ?_, ?_, ?_, lastLength⟩
    · rw [Message.fragments, fragmentsOf, toNat_tcpMaxPacketSize, equal,
        List.map_append]
      rfl
    · intro fragment member
      rcases List.mem_map.mp member with ⟨piece, pieceMember, rfl⟩
      exact fullLength piece pieceMember
    · exact List.length_pos_of_ne_nil (lastNonempty nonempty)

/--
A message of which some fragments are sent and others are not: the static
variables hold the rest of it.  `left` makes `sending_len` the exact number of
bytes which are not sent, so no subtraction from it has wrapped.
-/
structure InProgress
    (message : Message) (sent : List Fragment)
    (sendingConn : Conn) (currentSendingChunk : Pointer)
    (sendingLen : UInt16) : Prop where
  conn : sendingConn = message.conn
  buffer : currentSendingChunk.buffer = message.data
  left :
    currentSendingChunk.offset + sendingLen.toNat = message.len.toNat
  unfinished : 0 < sendingLen.toNat
  begun : sent ≠ []
  fragments :
    message.fragments =
      sent ++
        fragmentsOf sendingConn
          (currentSendingChunk.read sendingLen.toNat)

theorem InProgress.fits
    {message : Message} {sent : List Fragment}
    {conn : Conn} {chunk : Pointer} {len : UInt16}
    (progress : InProgress message sent conn chunk len) :
    chunk.offset + len.toNat ≤ chunk.buffer.bytes.length := by
  rw [progress.left, progress.buffer]
  exact message.fits

/-- The first fragment of a long message puts it in progress. -/
theorem InProgress.first
    {message : Message}
    (long : ¬ message.len ≤ tcpMaxPacketSize) :
    InProgress message
      [⟨message.conn, (Pointer.start message.data).read 1460⟩]
      message.conn
      ((Pointer.start message.data).advance 1460)
      (message.len - tcpMaxPacketSize) := by
  have longLen : 1460 < message.len.toNat :=
    not_le_tcpMaxPacketSize long
  have restLen :
      (message.len - tcpMaxPacketSize).toNat =
        message.len.toNat - 1460 :=
    toNat_sub_tcpMaxPacketSize longLen
  constructor
  · rfl
  · rfl
  · simp only [Pointer.advance, Pointer.start, restLen]
    omega
  · omega
  · simp
  · rw [restLen, Message.fragments, Message.payload, fragmentsOf_read]
    · rfl
    · simpa [Pointer.start] using message.fits
    · exact longLen

/-- A middle fragment leaves the message in progress. -/
theorem InProgress.middle
    {message : Message} {sent : List Fragment}
    {conn : Conn} {chunk : Pointer} {len : UInt16}
    (progress : InProgress message sent conn chunk len)
    (notLast : ¬ len ≤ tcpMaxPacketSize) :
    InProgress message (sent ++ [⟨conn, chunk.read 1460⟩]) conn
      (chunk.advance 1460) (len - tcpMaxPacketSize) := by
  have longLen : 1460 < len.toNat :=
    not_le_tcpMaxPacketSize notLast
  have restLen :
      (len - tcpMaxPacketSize).toNat = len.toNat - 1460 :=
    toNat_sub_tcpMaxPacketSize longLen
  constructor
  · exact progress.conn
  · exact progress.buffer
  · have left := progress.left
    simp only [Pointer.advance, restLen]
    omega
  · omega
  · simp
  · rw [restLen, progress.fragments, fragmentsOf_read progress.fits longLen,
      List.append_assoc]
    rfl

/-- The last fragment completes the message. -/
theorem InProgress.last
    {message : Message} {sent : List Fragment}
    {conn : Conn} {chunk : Pointer} {len : UInt16}
    (progress : InProgress message sent conn chunk len)
    (last : len ≤ tcpMaxPacketSize) :
    message.fragments = sent ++ [⟨conn, chunk.read len.toNat⟩] := by
  have lastLen : len.toNat ≤ 1460 := le_tcpMaxPacketSize_iff.mp last
  rw [progress.fragments, fragmentsOf_of_length_le]
  rw [chunk.length_read progress.fits]
  exact lastLen

/-- What `server_task` has transmitted, and what it still has to. -/
structure Transmission (world : World) : Prop where
  /-- Nothing pushed is lost or reordered, but for what a clear drops. -/
  kept :
    world.history.kept =
      world.history.started ++ world.server.sendq.messages
  /-- Outside of a fragmented message every started message is complete. -/
  complete :
    ¬ (world.server.sending = true ∧
        world.server.moreFragments = true) →
      world.history.calls =
        world.history.started.flatMap Message.fragments
  /-- Inside of one, exactly the last started message is incomplete. -/
  incomplete :
    world.server.sending = true ∧ world.server.moreFragments = true →
      ∃ earlier message sent,
        world.history.started = earlier ++ [message] ∧
          world.history.calls =
            earlier.flatMap Message.fragments ++ sent ∧
            InProgress message sent world.server.sendingConn
              world.server.currentSendingChunk world.server.sendingLen

theorem Transmission.boot : Transmission World.boot where
  kept := rfl
  complete := fun _ => rfl
  incomplete := by
    rintro ⟨busy, _⟩
    cases busy

/-- A message which is taken out moves from the queue to the started ones. -/
theorem Transmission.kept_unshift
    {world : World} (transmission : Transmission world)
    {message : Message} {sendq : MessageQueue}
    (taken : world.server.sendq.unshift = some (message, sendq)) :
    world.history.kept =
      world.history.started ++ [message] ++ sendq.messages := by
  rw [transmission.kept, MessageQueue.unshift_messages taken,
    List.append_assoc]
  rfl

/-- Every step of the world keeps the transmission exact. -/
theorem Transmission.step
    {world after : World} {step : Step}
    (transmission : Transmission world)
    (taken : Taken world step after) :
    Transmission after := by
  cases taken with
  | sendRefused | recvRefused | initRefused => exact transmission
  | recvQueued | sent | rxTaken | rxEmpty | txBusy | txEmpty
  | spurious | driverSent | clearRecvq | disconnected =>
      exact
        { kept := transmission.kept
          complete := transmission.complete
          incomplete := transmission.incomplete }
  | sendQueued message posted =>
      exact
        { kept := by
            change
              world.history.kept ++ [message] =
                world.history.started ++
                  (world.server.sendq.messages ++ [message])
            rw [transmission.kept, List.append_assoc]
          complete := transmission.complete
          incomplete := transmission.incomplete }
  | clearSendq | initDone =>
      exact
        { kept := (List.append_nil _).symm
          complete := transmission.complete
          incomplete := transmission.incomplete }
  | txShort accepted posted message sendq pending idle unshifted short =>
      have completeSoFar := transmission.complete (by simp [idle])
      constructor
      · exact transmission.kept_unshift unshifted
      · intro _
        rw [List.flatMap_append, ← completeSoFar, List.flatMap_singleton,
          message.cut_fragments.short short]
      · rintro ⟨_, more⟩
        cases more
  | txLong accepted posted message sendq pending idle unshifted long =>
      have completeSoFar := transmission.complete (by simp [idle])
      constructor
      · exact transmission.kept_unshift unshifted
      · intro finished
        exact (finished ⟨rfl, rfl⟩).elim
      · intro _
        exact
          ⟨world.history.started, message, _, rfl,
            by rw [← completeSoFar]; rfl,
            InProgress.first long⟩
  | doneLast accepted posted pending busy more last =>
      rcases transmission.incomplete ⟨busy, more⟩ with
        ⟨earlier, message, sent, started, calls, progress⟩
      constructor
      · exact transmission.kept
      · intro _
        rw [calls, started, List.flatMap_append, List.flatMap_singleton,
          progress.last last, List.append_assoc]
      · rintro ⟨busyAfter, _⟩
        cases busyAfter
  | doneMiddle accepted posted pending busy more notLast =>
      rcases transmission.incomplete ⟨busy, more⟩ with
        ⟨earlier, message, sent, started, calls, progress⟩
      constructor
      · exact transmission.kept
      · intro finished
        exact (finished ⟨busy, rfl⟩).elim
      · intro _
        refine
          ⟨earlier, message, _, started, ?_,
            progress.middle notLast⟩
        rw [calls, List.append_assoc]
        rfl
  | doneIdle accepted posted pending noFragment =>
      have completeSoFar := transmission.complete noFragment
      constructor
      · exact transmission.kept
      · intro _
        exact completeSoFar
      · rintro ⟨busyAfter, _⟩
        cases busyAfter

theorem Transmission.of_reachable
    {world : World}
    (reached : serverSystem.Reachable world) :
    Transmission world :=
  reached.invariant Transmission.boot
    fun _ _ _ transmission taken =>
      transmission.step (World.taken_of_next taken)

/--
In every reachable state the calls of `espconn_sent` made by `server_task`
are the complete fragments of the messages taken out of `sendq`, in the order
in which they were pushed, where the last message may be incomplete and
`sending_len` then counts the bytes which are not sent.
-/
theorem fragmented_transmission
    (world : World)
    (reached : serverSystem.Reachable world) :
    Transmission world ∧
      ∀ message ∈ world.history.started,
        message.Cut message.fragments :=
  ⟨.of_reachable reached, fun message _ => message.cut_fragments⟩

/-- A message of two fragments, of which the first one is sent. -/
def firstFragmentRun : List Step :=
  [.send (.zeros 1 1461) true true, .task .tx true true]

theorem fragmented_transmission_first :
    ∃ world,
      serverSystem.run World.boot firstFragmentRun = some world ∧
        Transmission world ∧
          world.history.calls.length = 1 ∧
            world.server.sendingLen = 1 := by
  have sent :
      (serverSystem.run World.boot firstFragmentRun).map
          (fun world =>
            (world.history.calls.length, world.server.sendingLen)) =
        some (1, 1) := by
    rfl
  rcases Option.map_eq_some_iff.mp sent with ⟨world, ran, equal⟩
  rcases Prod.mk.inj equal with ⟨calls, len⟩
  have reached : serverSystem.Reachable world :=
    System.Reachable.start.run ran
  exact ⟨world, ran, (fragmented_transmission world reached).1, calls, len⟩

end EspFirmware
