import EspFirmware.ServerLog

/-!
# Every block of the server has one owner

A function of the server frees blocks which the server holds and no others,
and it reads only messages which the server carries.  These facts about one
function, `Fair`, are kept when functions are called one after the other, and
they keep the invariant `Owned` of whole runs.
-/

namespace EspFirmware

open Library

/-! ## What one function does -/

section Log

variable (front back : List Action)

@[simp]
theorem heapEvents_append :
    heapEvents (front ++ back) = heapEvents front ++ heapEvents back :=
  List.flatMap_append

@[simp]
theorem acceptedBlocks_append :
    acceptedBlocks (front ++ back) =
      acceptedBlocks front ++ acceptedBlocks back :=
  List.flatMap_append

@[simp]
theorem staticBlocks_append :
    staticBlocks (front ++ back) = staticBlocks front ++ staticBlocks back :=
  List.flatMap_append

@[simp]
theorem copiedBlocks_append :
    copiedBlocks (front ++ back) = copiedBlocks front ++ copiedBlocks back :=
  List.flatMap_append

@[simp]
theorem leakedBlocks_append :
    leakedBlocks (front ++ back) = leakedBlocks front ++ leakedBlocks back :=
  List.flatMap_append

@[simp]
theorem freedBlocks_append :
    freedBlocks (front ++ back) = freedBlocks front ++ freedBlocks back :=
  List.flatMap_append

end Log

/-- Blocks are taken when they are accepted or copied. -/
theorem taken_heapEvents (log : List Action) :
    taken (heapEvents log) =
      ↑(acceptedBlocks log) + ↑(copiedBlocks log) := by
  induction log with
  | nil =>
      rfl
  | cons action rest induction =>
      have first :
          taken action.heapEvents = ↑action.accepted + ↑action.copied := by
        rw [Action.heapEvents, taken_append, taken_map_take, taken_map_free,
          Multiset.add_zero, Multiset.coe_add]
      rw [heapEvents, List.flatMap_cons, taken_append, first]
      change _ + taken (heapEvents rest) =
        ↑(action.accepted ++ acceptedBlocks rest) +
          ↑(action.copied ++ copiedBlocks rest)
      rw [induction, ← Multiset.coe_add, ← Multiset.coe_add]
      exact add_add_add_comm _ _ _ _

theorem freed_heapEvents (log : List Action) :
    freed (heapEvents log) = ↑(freedBlocks log) := by
  induction log with
  | nil =>
      rfl
  | cons action rest induction =>
      have first : freed action.heapEvents = ↑action.freed := by
        rw [Action.heapEvents, freed_append, freed_map_take, freed_map_free,
          Multiset.zero_add]
      rw [heapEvents, List.flatMap_cons, freed_append, first]
      change _ + freed (heapEvents rest) = ↑(action.freed ++ freedBlocks rest)
      rw [induction, ← Multiset.coe_add]

theorem freeHeapMem_eq (mem : Memtype) (data : Buffer) :
    freeHeapMem mem data = (blockOf mem data).map .osFree := by
  cases mem <;> rfl

theorem flatMap_freeHeapMem (messages : List Message) :
    (messages.flatMap fun message => freeHeapMem message.mem message.data) =
      (heapBlocks messages).map .osFree := by
  induction messages with
  | nil =>
      rfl
  | cons message rest induction =>
      rw [List.flatMap_cons, induction, freeHeapMem_eq, ← List.map_append]
      rfl

section Frees

variable (blocks : List Nat)

@[simp]
theorem heapEvents_osFree :
    heapEvents (blocks.map .osFree) = blocks.map .free := by
  induction blocks with
  | nil =>
      rfl
  | cons block blocks induction =>
      rw [List.map_cons, List.map_cons, ← induction]
      rfl

@[simp]
theorem copiedBlocks_osFree :
    copiedBlocks (blocks.map .osFree) = [] := by
  simp [copiedBlocks, Action.copied]

@[simp]
theorem leakedBlocks_osFree :
    leakedBlocks (blocks.map .osFree) = [] := by
  simp [leakedBlocks, Action.leaked]

end Frees

/-! ## Fair functions -/

namespace Server

/-- The server still has to send a message with this data. -/
def Carries (server : Server) (mem : Memtype) (data : Buffer) : Prop :=
  (∃ message ∈ server.sendq.messages,
    message.mem = mem ∧ message.data = data) ∨
  server.moreFragments = true ∧ server.sendingMem = mem ∧
    server.firstSendingChunk = data

/-- More fragments are left only while a message is sent, and they are its own. -/
def Coherent (server : Server) : Prop :=
  server.moreFragments = true →
    server.sending = true ∧
      server.currentSendingChunk.buffer = server.firstSendingChunk

theorem coherent_boot :
    boot.Coherent := by
  intro more
  cases more

/-- The blocks which the server has to free are those of the messages it carries. -/
theorem mem_blocks_of_carries
    {server : Server} {data : Buffer}
    (coherent : server.Coherent)
    (carries : server.Carries .heapMem data) :
    data.address ∈ server.blocks := by
  rw [blocks, Multiset.mem_add, Multiset.mem_add]
  rcases carries with ⟨message, member, heap, same⟩ | ⟨more, heap, same⟩
  · refine Or.inl (Or.inl ?_)
    rw [Multiset.mem_coe, heapBlocks, List.mem_flatMap]
    refine ⟨message, member, ?_⟩
    rw [blockOf, if_pos heap, same]
    exact List.mem_singleton_self _
  · refine Or.inl (Or.inr ?_)
    rw [Multiset.mem_coe, progress, (coherent more).1, more, blockOf,
      if_pos (by rfl), if_pos heap, same]
    exact List.mem_singleton_self _

end Server

/-- `espconn_sent` is given a part of data. -/
def Action.Reads (action : Action) (data : Buffer) : Prop :=
  ∃ conn pointer len,
    action = .espconnSent conn pointer len ∧ pointer.buffer = data

/-- An action which takes, loses, frees and reads no block. -/
def Action.silent : Action → Bool
  | .push .sendq _ stored => !stored
  | .push .recvq _ stored => stored
  | .espconnSent _ _ _ | .osZalloc _ | .osFree _ => false
  | _ => true

/-- What is silent does nothing with blocks. -/
theorem Action.of_silent
    {action : Action}
    (quiet : action.silent = true) :
    action.heapEvents = [] ∧ action.leaked = [] ∧
      ∀ data, ¬action.Reads data := by
  have unread :
      (∀ conn pointer len, action ≠ .espconnSent conn pointer len) →
        ∀ data, ¬action.Reads data := by
    rintro other data ⟨conn, pointer, len, same, -⟩
    exact other conn pointer len same
  cases action with
  | push queue message stored =>
      refine ⟨?_, ?_, unread (by simp)⟩ <;>
        cases queue <;> cases stored <;> first | rfl | cases quiet
  | espconnSent | osZalloc | osFree =>
      cases quiet
  | _ =>
      exact ⟨rfl, rfl, unread (by simp)⟩

section Silent

variable {log : List Action}

theorem heapEvents_silent (quiet : log.all Action.silent = true) :
    heapEvents log = [] :=
  List.flatMap_eq_nil_iff.mpr fun action member =>
    (Action.of_silent (List.all_eq_true.mp quiet action member)).1

theorem leakedBlocks_silent (quiet : log.all Action.silent = true) :
    leakedBlocks log = [] :=
  List.flatMap_eq_nil_iff.mpr fun action member =>
    (Action.of_silent (List.all_eq_true.mp quiet action member)).2.1

theorem deaf_silent (quiet : log.all Action.silent = true) :
    ∀ action ∈ log, ∀ data, ¬action.Reads data :=
  fun action member =>
    (Action.of_silent (List.all_eq_true.mp quiet action member)).2.2

end Silent

/--
What a function of the server does with memory: it frees what it does not
hold any more, and it sends parts of messages which it carries, before it
frees anything.
-/
structure Effect.Fair (server : Server) (effect : Effect) : Prop where
  kept :
    custody server.blocks (heapEvents effect.actions) =
      some (effect.server.blocks + ↑(leakedBlocks effect.actions))
  coherent : effect.server.Coherent
  carried :
    ∀ mem data, effect.server.Carries mem data →
      server.Carries mem data ∨
        ∃ message, .push .sendq message true ∈ effect.actions ∧
          message.mem = mem ∧ message.data = data
  received :
    ∀ address ∈ heapBlocks effect.server.recvq.messages,
      address ∈ heapBlocks server.recvq.messages ∨
        address ∈ copiedBlocks effect.actions
  leaked :
    ∀ address ∈ leakedBlocks effect.actions,
      address ∈ copiedBlocks effect.actions
  reads :
    Justified
      (fun front action => ∀ data, action.Reads data →
        freedBlocks front = [] ∧ ∃ mem, server.Carries mem data)
      effect.actions

@[simp]
theorem heapBlocks_append (front back : List Message) :
    heapBlocks (front ++ back) = heapBlocks front ++ heapBlocks back :=
  List.flatMap_append

@[simp]
theorem heapBlocks_cons (message : Message) (rest : List Message) :
    heapBlocks (message :: rest) =
      blockOf message.mem message.data ++ heapBlocks rest :=
  rfl

@[simp]
theorem heapBlocks_nil :
    heapBlocks [] = [] :=
  rfl

@[simp]
theorem Server.progress_sendq (server : Server) (sendq : MessageQueue) :
    { server with sendq }.progress = server.progress :=
  rfl

@[simp]
theorem Server.progress_recvq (server : Server) (recvq : MessageQueue) :
    { server with recvq }.progress = server.progress :=
  rfl

/-- Messages which are behind a queue are carried, or were carried before. -/
theorem Server.Carries.of_push
    {server : Server} {message : Message} {mem : Memtype} {data : Buffer}
    {count : UInt16}
    (carries :
      ({ server with
        sendq :=
          { messages := server.sendq.messages ++ [message]
            count } } : Server).Carries mem data) :
    server.Carries mem data ∨ message.mem = mem ∧ message.data = data := by
  rcases carries with ⟨queued, member, same⟩ | progress
  · rcases List.mem_append.mp member with old | new
    · exact Or.inl (Or.inl ⟨queued, old, same⟩)
    · rw [List.mem_singleton.mp new] at same
      exact Or.inr same
  · exact Or.inl (Or.inr progress)

/-- Nothing is in progress while the server does not send. -/
theorem Server.progress_of_idle
    {server : Server}
    (idle : server.sending = false) :
    server.progress = [] := by
  rw [progress, idle, Bool.false_and, if_neg Bool.false_ne_true]

/-- No fragments are left while the server does not send. -/
theorem Server.Coherent.whole
    {server : Server}
    (coherent : server.Coherent)
    (idle : server.sending = false) :
    server.moreFragments = false := by
  cases more : server.moreFragments with
  | false =>
      rfl
  | true =>
      rw [(coherent more).1] at idle
      cases idle

/-- A message which is taken out of `recvq` leaves with its block. -/
theorem Server.blocks_of_recvq
    {server : Server} {message : Message} {recvq : MessageQueue}
    (dequeued : server.recvq.unshift = some (message, recvq)) :
    server.blocks =
      ↑(blockOf message.mem message.data) +
        { server with recvq }.blocks := by
  rw [blocks, MessageQueue.unshift_messages dequeued, heapBlocks_cons,
    blocks, progress_recvq server recvq, ← Multiset.coe_add]
  abel

/-- A message which is taken out of `sendq` leaves with its block. -/
theorem Server.blocks_of_sendq
    {server : Server} {message : Message} {sendq : MessageQueue}
    (dequeued : server.sendq.unshift = some (message, sendq)) :
    server.blocks =
      ↑(blockOf message.mem message.data) +
        { server with sendq }.blocks := by
  rw [blocks, MessageQueue.unshift_messages dequeued, heapBlocks_cons,
    blocks, progress_sendq server sendq, ← Multiset.coe_add]
  abel

/-- What is behind the head of `sendq` was carried before. -/
theorem Server.Carries.of_sendq
    {server : Server} {message : Message} {sendq : MessageQueue}
    (dequeued : server.sendq.unshift = some (message, sendq))
    {mem : Memtype} {data : Buffer}
    (behind : ∃ queued ∈ sendq.messages,
      queued.mem = mem ∧ queued.data = data) :
    server.Carries mem data := by
  rcases behind with ⟨queued, member, same⟩
  refine Or.inl ⟨queued, ?_, same⟩
  rw [MessageQueue.unshift_messages dequeued]
  exact List.mem_cons_of_mem message member

/-- The head of `sendq` is carried. -/
theorem Server.carries_head
    {server : Server} {message : Message} {sendq : MessageQueue}
    (dequeued : server.sendq.unshift = some (message, sendq)) :
    server.Carries message.mem message.data := by
  refine Or.inl ⟨message, ?_, rfl, rfl⟩
  rw [MessageQueue.unshift_messages dequeued]
  exact List.mem_cons_self

/-- What reads nothing reads nothing wrong. -/
theorem justified_of_deaf
    {fits : List Action → Buffer → Prop} {log : List Action}
    (deaf : ∀ action ∈ log, ∀ data, ¬action.Reads data) :
    Justified
      (fun front action => ∀ data, action.Reads data → fits front data)
      log := by
  intro front action back layout data reads
  have member : action ∈ log := by
    rw [layout]
    simp
  exact absurd reads (deaf action member data)

theorem justified_silent
    {fits : List Action → Buffer → Prop} {log : List Action}
    (quiet : log.all Action.silent = true) :
    Justified
      (fun front action => ∀ data, action.Reads data → fits front data)
      log :=
  justified_of_deaf (deaf_silent quiet)

/-- What is sent behind silent actions is what `espconn_sent` is given. -/
theorem justified_sent
    {fits : List Action → Buffer → Prop} {front : List Action}
    {conn : Conn} {pointer : Pointer} {len : UInt16}
    (quiet : front.all Action.silent = true)
    (fitting : fits front pointer.buffer) :
    Justified
      (fun front action => ∀ data, action.Reads data → fits front data)
      (front ++ [.espconnSent conn pointer len]) := by
  rw [justified_concat]
  refine ⟨justified_silent quiet, ?_⟩
  rintro data ⟨_, _, _, same, rfl⟩
  cases same
  exact fitting

/-- Blocks are freed without reading them. -/
theorem justified_osFree
    (fits : List Action → Buffer → Prop) (blocks : List Nat) :
    Justified
      (fun front action => ∀ data, action.Reads data → fits front data)
      (blocks.map .osFree) := by
  apply justified_of_deaf
  intro action member data reads
  rcases List.mem_map.mp member with ⟨block, -, rfl⟩
  rcases reads with ⟨conn, pointer, len, same, -⟩
  cases same

namespace Effect.Fair

variable {server : Server}

/-- A function which only frees blocks frees those which are not held any more. -/
theorem of_frees
    {after : Server} {actions : List Action} {blocks : List Nat}
    (split : server.blocks = ↑blocks + after.blocks)
    (events : heapEvents actions = blocks.map .free)
    (leaks : leakedBlocks actions = [])
    (coherent : after.Coherent)
    (carried :
      ∀ mem data, after.Carries mem data → server.Carries mem data)
    (received :
      ∀ address ∈ heapBlocks after.recvq.messages,
        address ∈ heapBlocks server.recvq.messages)
    (reads :
      Justified
        (fun front action => ∀ data, action.Reads data →
          freedBlocks front = [] ∧ ∃ mem, server.Carries mem data)
        actions) :
    Fair server { server := after, actions } where
  kept := by
    rw [split, events, leaks, custody_free_all, Multiset.coe_nil,
      Multiset.add_zero]
  coherent := coherent
  carried := fun mem data carries => Or.inl (carried mem data carries)
  received := fun address member => Or.inl (received address member)
  leaked := by
    rw [leaks]
    exact fun _ member => by cases member
  reads := reads

/-- A silent function is fair, when the server has no other blocks behind it. -/
theorem quiet
    {after : Server} {actions : List Action}
    (same : after.blocks = server.blocks)
    (received : after.recvq = server.recvq)
    (coherent : after.Coherent)
    (carried :
      ∀ mem data, after.Carries mem data → server.Carries mem data)
    (silent : actions.all Action.silent = true) :
    Fair server { server := after, actions } := by
  apply @of_frees server after actions []
  · rw [same, Multiset.coe_nil, Multiset.zero_add]
  · exact heapEvents_silent silent
  · exact leakedBlocks_silent silent
  · exact coherent
  · exact carried
  · rw [received]
    exact fun _ member => member
  · exact justified_silent silent

/-- The same where the server does not change. -/
theorem unchanged
    {actions : List Action}
    (coherent : server.Coherent)
    (silent : actions.all Action.silent = true) :
    Fair server { server, actions } :=
  quiet rfl rfl coherent (fun _ _ carries => carries) silent

/-- `tcpserver_send`. -/
theorem send
    (coherent : server.Coherent)
    (message : Message) (allocated : Bool) :
    Fair server (tcpserverSend server message allocated).2 := by
  cases allocated with
  | false =>
      exact unchanged coherent rfl
  | true =>
      simp only [tcpserverSend, MessageQueue.push, if_true]
      exact
        { kept := by
            simp [heapEvents, Action.heapEvents, Action.accepted,
              Action.copied, Action.freed, leakedBlocks, Action.leaked,
              custody_take_all, Server.blocks, ← Multiset.coe_add]
            abel
          coherent := coherent
          carried := by
            intro mem data carries
            rcases carries.of_push with old | same
            · exact Or.inl old
            · exact Or.inr ⟨message, by simp, same⟩
          received := fun _ member => Or.inl member
          leaked := fun _ member => by cases member
          reads := by
            apply justified_of_deaf
            simp [Action.Reads] }

/-- `tcpserver_recv_cb`. -/
theorem recvCb
    (coherent : server.Coherent)
    (conn : Conn) (pdata : Segment) (data : Option Nat)
    (allocated : Bool) :
    Fair server (tcpserverRecvCb server conn pdata data allocated) := by
  cases data with
  | none =>
      exact unchanged coherent rfl
  | some address =>
      cases allocated with
      | false =>
          simp only [tcpserverRecvCb, MessageQueue.push, Bool.false_eq_true,
            if_false]
          exact
            { kept := by
                change
                  (some (address ::ₘ server.blocks) : Option (Multiset Nat)) =
                    some (server.blocks + {address})
                rw [← Multiset.singleton_add, add_comm]
              coherent := coherent
              carried := fun _ _ carries => Or.inl carries
              received := fun _ member => Or.inl member
              leaked := fun _ member => member
              reads := by
                apply justified_of_deaf
                simp [Action.Reads] }
      | true =>
          simp only [tcpserverRecvCb, MessageQueue.push, if_true]
          exact
            { kept := by
                simp [heapEvents, Action.heapEvents, Action.accepted,
                  Action.copied, Action.freed, leakedBlocks, Action.leaked,
                  Segment.message, Segment.copy, blockOf, Server.blocks,
                  ← Multiset.coe_add]
                rw [← Multiset.singleton_add]
                abel
              coherent := coherent
              carried := fun _ _ carries => Or.inl carries
              received := by
                simp [copiedBlocks, Action.copied, Segment.message,
                  Segment.copy, blockOf]
              leaked := fun _ member => by cases member
              reads := by
                apply justified_of_deaf
                simp [Action.Reads] }

/-- `SERVER_SIG_RX`. -/
theorem taskRx (coherent : server.Coherent) :
    Fair server server.taskRx := by
  rw [Server.taskRx]
  split
  · rename_i message recvq dequeued
    rw [freeHeapMem_eq]
    apply of_frees (Server.blocks_of_recvq dequeued)
    · rw [heapEvents_append, heapEvents_osFree]
      rfl
    · rw [leakedBlocks_append, leakedBlocks_osFree]
      rfl
    · exact coherent
    · exact fun _ _ carries => carries
    · intro address member
      rw [MessageQueue.unshift_messages dequeued, heapBlocks_cons]
      exact List.mem_append_right _ member
    · rw [justified_append]
      exact ⟨justified_silent rfl, justified_osFree _ _⟩
  · exact unchanged coherent rfl

/-- `SERVER_SIG_TX`. -/
theorem taskTx (coherent : server.Coherent) :
    Fair server server.taskTx := by
  rw [Server.taskTx]
  split
  · rename_i idle
    have rests := Server.progress_of_idle idle
    split
    · rename_i message sendq dequeued
      have head := Server.carries_head dequeued
      dsimp only
      split
      · rw [freeHeapMem_eq]
        have same :
            { server with
              sendq
              sending := true
              moreFragments := false }.blocks =
              { server with sendq }.blocks := by
          rw [Server.blocks, Server.blocks,
            Server.progress_sendq server sendq, rests]
          rfl
        apply of_frees
          ((Server.blocks_of_sendq dequeued).trans (by rw [same]))
        · rw [heapEvents_append, heapEvents_osFree]
          rfl
        · rw [leakedBlocks_append, leakedBlocks_osFree]
          rfl
        · intro more
          cases more
        · rintro mem data (behind | ⟨more, -⟩)
          · exact Server.Carries.of_sendq dequeued behind
          · cases more
        · exact fun _ member => member
        · rw [justified_append]
          refine ⟨?_, justified_osFree _ _⟩
          exact justified_sent rfl ⟨rfl, message.mem, head⟩
      · have same :
            server.blocks =
              { server with
                sendq
                sending := true
                moreFragments := true
                sendingConn := message.conn
                firstSendingChunk := message.data
                currentSendingChunk :=
                  (Pointer.start message.data).advance
                    tcpMaxPacketSize.toNat
                sendingLen := message.len - tcpMaxPacketSize
                sendingMem := message.mem }.blocks := by
          rw [Server.blocks_of_sendq dequeued, Server.blocks,
            Server.progress_sendq server sendq, rests]
          simp [Server.blocks, Server.progress]
          exact List.perm_append_comm_assoc _ _ _
        apply @of_frees server _ _ []
        · rw [Multiset.coe_nil, Multiset.zero_add]
          exact same
        · rfl
        · rfl
        · intro more
          exact ⟨rfl, rfl⟩
        · rintro mem data (behind | ⟨-, sent, first⟩)
          · exact Server.Carries.of_sendq dequeued behind
          · subst sent
            subst first
            exact head
        · exact fun _ member => member
        · exact justified_sent rfl ⟨rfl, message.mem, head⟩
    · exact unchanged coherent rfl
  · exact unchanged coherent rfl

/-- `SERVER_SIG_TX_DONE`. -/
theorem taskTxDone (coherent : server.Coherent) :
    Fair server server.taskTxDone := by
  rw [Server.taskTxDone]
  split
  · rename_i busy
    rcases (Bool.and_eq_true _ _).mp busy with ⟨sends, more⟩
    have current := (coherent more).2
    have inProgress :
        server.Carries server.sendingMem
          server.currentSendingChunk.buffer :=
      Or.inr ⟨more, rfl, current.symm⟩
    split
    · rw [freeHeapMem_eq]
      have split :
          server.blocks =
            ↑(blockOf server.sendingMem server.firstSendingChunk) +
              { server with
                moreFragments := false
                sending := false }.blocks := by
        rw [Server.blocks, Server.progress, busy, if_pos rfl]
        simp [Server.blocks, Server.progress]
        exact List.perm_append_comm_assoc _ _ _
      apply of_frees split
      · rw [heapEvents_append, heapEvents_append, heapEvents_osFree]
        exact List.append_nil _
      · rw [leakedBlocks_append, leakedBlocks_append, leakedBlocks_osFree]
        rfl
      · intro left
        cases left
      · rintro mem data (behind | ⟨left, -⟩)
        · exact Or.inl behind
        · cases left
      · exact fun _ member => member
      · rw [justified_append, justified_append]
        refine ⟨⟨?_, justified_osFree _ _⟩, justified_silent rfl⟩
        exact
          @justified_sent _ [.etsIntrLock, .readSending, .etsIntrUnlock]
            _ _ _ rfl ⟨rfl, server.sendingMem, inProgress⟩
    · have same :
          { server with
            moreFragments := true
            currentSendingChunk :=
              server.currentSendingChunk.advance tcpMaxPacketSize.toNat
            sendingLen := server.sendingLen - tcpMaxPacketSize }.blocks =
            server.blocks := by
        rw [Server.blocks, Server.blocks, Server.progress,
          Server.progress, more]
      apply @of_frees server _ _ []
      · rw [same, Multiset.coe_nil, Multiset.zero_add]
      · rfl
      · rfl
      · exact fun _ => ⟨sends, current⟩
      · rintro mem data (behind | ⟨-, same⟩)
        · exact Or.inl behind
        · exact Or.inr ⟨more, same⟩
      · exact fun _ member => member
      · exact
          @justified_sent _ [.etsIntrLock, .readSending, .etsIntrUnlock]
            _ _ _ rfl ⟨rfl, server.sendingMem, inProgress⟩
  · rename_i idle
    have rests : server.progress = [] := by
      rw [Server.progress, if_neg idle]
    have coherentAfter : { server with sending := false }.Coherent := by
      intro more
      exact absurd ((Bool.and_eq_true _ _).mpr ⟨(coherent more).1, more⟩) idle
    have same : { server with sending := false }.blocks = server.blocks := by
      rw [Server.blocks, Server.blocks, rests]
      rfl
    split
    · exact quiet same rfl coherentAfter (fun _ _ carries => carries) rfl
    · exact quiet same rfl coherentAfter (fun _ _ carries => carries) rfl

/-- `MessageQueue_clear`. -/
theorem clear (coherent : server.Coherent) (queue : QueueName) :
    Fair server (clearQueue server queue) := by
  cases queue with
  | sendq =>
      rw [clearQueue, flatMap_freeHeapMem]
      have split :
          server.blocks =
            ↑(heapBlocks server.sendq.messages) +
              { server with sendq := server.sendq.clear }.blocks := by
        simp [Server.blocks, MessageQueue.clear]
      apply of_frees split
      · rw [heapEvents_append, heapEvents_osFree]
        exact List.append_nil _
      · rw [leakedBlocks_append, leakedBlocks_osFree]
        rfl
      · exact coherent
      · rintro mem data (⟨message, member, -⟩ | progress)
        · cases member
        · exact Or.inr progress
      · exact fun _ member => member
      · rw [justified_append]
        exact ⟨justified_osFree _ _, justified_silent rfl⟩
  | recvq =>
      rw [clearQueue, flatMap_freeHeapMem]
      have split :
          server.blocks =
            ↑(heapBlocks server.recvq.messages) +
              { server with recvq := server.recvq.clear }.blocks := by
        rw [Multiset.add_comm]
        simp [Server.blocks, MessageQueue.clear]
      apply of_frees split
      · rw [heapEvents_append, heapEvents_osFree]
        exact List.append_nil _
      · rw [leakedBlocks_append, leakedBlocks_osFree]
        rfl
      · exact coherent
      · exact fun _ _ carries => carries
      · exact fun _ member => by cases member
      · rw [justified_append]
        exact ⟨justified_osFree _ _, justified_silent rfl⟩

/-- One function after the other, when the second one reads nothing. -/
theorem andThen
    {first : Effect} {second : Server → Effect}
    (fair : Fair server first)
    (fairNext : Fair first.server (second first.server))
    (deaf :
      ∀ action ∈ (second first.server).actions,
        ∀ data, ¬action.Reads data) :
    Fair server (first.andThen second) where
  kept := by
    rw [Effect.andThen, heapEvents_append, custody_append_of fair.kept,
      custody_frame fairNext.kept, leakedBlocks_append, ← Multiset.coe_add]
    congr 1
    abel
  coherent := fairNext.coherent
  carried := by
    intro mem data carries
    rcases fairNext.carried mem data carries with
      before | ⟨message, pushed, same⟩
    · rcases fair.carried mem data before with
        earlier | ⟨message, pushed, same⟩
      · exact Or.inl earlier
      · exact Or.inr ⟨message, List.mem_append_left _ pushed, same⟩
    · exact Or.inr ⟨message, List.mem_append_right _ pushed, same⟩
  received := by
    intro address member
    rw [Effect.andThen, copiedBlocks_append, List.mem_append]
    rcases fairNext.received address member with before | copied
    · rcases fair.received address before with earlier | copied
      · exact Or.inl earlier
      · exact Or.inr (Or.inl copied)
    · exact Or.inr (Or.inr copied)
  leaked := by
    intro address member
    rw [Effect.andThen, leakedBlocks_append, List.mem_append] at member
    rw [Effect.andThen, copiedBlocks_append, List.mem_append]
    rcases member with first | second
    · exact Or.inl (fair.leaked address first)
    · exact Or.inr (fairNext.leaked address second)
  reads := by
    rw [Effect.andThen, justified_append]
    exact ⟨fair.reads, justified_of_deaf deaf⟩

/-- `MessageQueue_clear` reads no data. -/
theorem clear_deaf
    (queue : QueueName) {action : Action}
    (member : action ∈ (clearQueue server queue).actions)
    (data : Buffer) :
    ¬action.Reads data := by
  rintro ⟨conn, pointer, len, rfl, -⟩
  cases queue with
  | sendq | recvq =>
      rw [clearQueue, flatMap_freeHeapMem] at member
      simp at member

/-- `server_init_tcp`. -/
theorem initTcp
    (coherent : server.Coherent)
    (ipInfo listening : Bool) :
    Fair server (serverInitTcp server ipInfo listening).2 := by
  cases ipInfo with
  | false =>
      exact unchanged coherent rfl
  | true =>
      have cleared := clear coherent .sendq
      have both :=
        @andThen server _ (clearQueue · .recvq) cleared
          (clear cleared.coherent .recvq)
          fun action member data => clear_deaf .recvq member data
      apply @andThen server _
        (fun cleared => { server := cleared, actions := [.systemOsTask] })
        both
      · exact unchanged both.coherent rfl
      · exact deaf_silent rfl

end Effect.Fair

/-- Whatever a step makes the server do is fair. -/
theorem World.fair_effect
    (world : World) (coherent : world.server.Coherent) (step : Step) :
    (world.effect step).Fair world.server := by
  cases step with
  | send message allocated posted =>
      exact .send coherent message allocated
  | recvCb conn pdata data allocated posted =>
      exact .recvCb coherent conn pdata data allocated
  | sentCb conn posted =>
      exact .unchanged coherent rfl
  | task sig accepted posted =>
      cases sig with
      | rx =>
          exact .taskRx coherent
      | tx =>
          exact .taskTx coherent
      | txDone =>
          exact .taskTxDone coherent
  | clear queue =>
      exact .clear coherent queue
  | init ipInfo listening keepsEvents keepsCallbacks =>
      exact .initTcp coherent ipInfo listening
  | disconnectCb | spurious | driverSent =>
      exact .unchanged coherent rfl

/-! ## What is handed over -/

/-- An action by which nothing is handed to the server. -/
def Action.Plain (action : Action) : Prop :=
  action.accepted = [] ∧ action.copied = [] ∧ action.static = []

/-- An action which is given no payload and allocates nothing. -/
def Action.takesNone : Action → Bool
  | .push .sendq _ _ | .osZalloc _ => false
  | _ => true

theorem Action.plain_of_takesNone
    {action : Action}
    (takes : action.takesNone = true) :
    action.Plain := by
  cases action with
  | push queue message stored =>
      cases queue with
      | sendq =>
          cases takes
      | recvq =>
          exact ⟨rfl, rfl, rfl⟩
  | osZalloc address =>
      cases takes
  | _ =>
      exact ⟨rfl, rfl, rfl⟩

theorem Action.plain_of_all
    {actions : List Action}
    (takes : actions.all Action.takesNone = true) :
    ∀ action ∈ actions, action.Plain :=
  fun action member =>
    plain_of_takesNone (List.all_eq_true.mp takes action member)

/-- Blocks are freed without taking one. -/
theorem takesNone_freeHeapMem (mem : Memtype) (data : Buffer) :
    (freeHeapMem mem data).all Action.takesNone = true := by
  cases mem <;> rfl

/--
What is handed to the server is handed over once, and static memory is not on
the heap.
-/
structure LoggedWorld.Handed
    (state : LoggedWorld) (actions : List Action) : Prop where
  once : (acceptedBlocks actions ++ copiedBlocks actions).Nodup
  apart :
    ∀ address ∈ acceptedBlocks actions ++ copiedBlocks actions,
      address ∉ state.named ∧ address ∉ staticBlocks state.log ∧
        address ∉ staticBlocks actions
  static : ∀ address ∈ staticBlocks actions, address ∉ state.named

namespace LoggedWorld

theorem Handed.of_plain
    {state : LoggedWorld} {actions : List Action}
    (plain : ∀ action ∈ actions, action.Plain) :
    state.Handed actions := by
  have accepted : acceptedBlocks actions = [] :=
    List.flatMap_eq_nil_iff.mpr fun action member => (plain action member).1
  have copied : copiedBlocks actions = [] :=
    List.flatMap_eq_nil_iff.mpr fun action member =>
      (plain action member).2.1
  have static : staticBlocks actions = [] :=
    List.flatMap_eq_nil_iff.mpr fun action member =>
      (plain action member).2.2
  exact
    { once := by
        rw [accepted, copied]
        exact List.nodup_nil
      apart := by
        rw [accepted, copied]
        exact fun _ member => by cases member
      static := by
        rw [static]
        exact fun _ member => by cases member }

/-- One block is handed over, and it is nobody else's. -/
theorem Handed.single
    {state : LoggedWorld} {actions : List Action} {address : Nat}
    (block : acceptedBlocks actions ++ copiedBlocks actions = [address])
    (static : staticBlocks actions = [])
    (unnamed : address ∉ state.named)
    (moving : address ∉ staticBlocks state.log) :
    state.Handed actions where
  once := by
    rw [block]
    exact List.nodup_singleton address
  apart := by
    intro other member
    rw [block, List.mem_singleton] at member
    rw [member, static]
    exact ⟨unnamed, moving, List.not_mem_nil⟩
  static := by
    rw [static]
    exact fun _ member => by cases member

theorem Handed.of_takesNone
    {state : LoggedWorld} {actions : List Action}
    (takes : actions.all Action.takesNone = true) :
    state.Handed actions :=
  of_plain (Action.plain_of_all takes)

theorem takesNone_clearQueue
    (server : Server) (queue : QueueName) :
    (clearQueue server queue).actions.all Action.takesNone = true := by
  cases queue with
  | sendq | recvq =>
      rw [clearQueue, List.all_append, List.all_flatMap, Bool.and_eq_true,
        List.all_eq_true]
      exact ⟨fun message _ => takesNone_freeHeapMem _ _, rfl⟩

theorem takesNone_serverTask
    (server : Server) (sig : Signal) :
    (serverTask server sig).actions.all Action.takesNone = true := by
  cases sig with
  | rx =>
      rw [serverTask, Server.taskRx]
      split
      · rw [List.all_append, takesNone_freeHeapMem]
        rfl
      · rfl
  | tx =>
      rw [serverTask, Server.taskTx]
      split
      · split
        · dsimp only
          split
          · rw [List.all_append, takesNone_freeHeapMem]
            rfl
          · rfl
        · rfl
      · rfl
  | txDone =>
      rw [serverTask, Server.taskTxDone]
      split
      · split
        · rw [List.all_append, List.all_append, takesNone_freeHeapMem]
          rfl
        · rfl
      · split <;> rfl

theorem takesNone_serverInitTcp
    (server : Server) (ipInfo listening : Bool) :
    (serverInitTcp server ipInfo listening).2.actions.all
      Action.takesNone = true := by
  cases ipInfo with
  | false =>
      rfl
  | true =>
      rw [serverInitTcp, if_pos rfl, Effect.andThen, Effect.andThen,
        List.all_append, List.all_append, takesNone_clearQueue,
        takesNone_clearQueue]
      rfl

/-- A step hands over blocks of its own. -/
theorem Own.handed
    {state : LoggedWorld} {step : Step}
    (own : state.Own step) :
    state.Handed (state.world.effect step).actions := by
  cases step with
  | send message allocated posted =>
      rw [Own] at own
      cases heap : message.mem with
      | heapMem =>
          rw [if_pos heap] at own
          cases allocated with
          | false =>
              apply Handed.of_plain
              simp [World.effect, tcpserverSend, MessageQueue.push,
                Action.Plain, Action.accepted, Action.copied, Action.static,
                heap]
          | true =>
              rcases own rfl with ⟨unnamed, moving⟩
              apply Handed.single _ _ unnamed moving <;>
                simp [World.effect, tcpserverSend, MessageQueue.push,
                  acceptedBlocks, copiedBlocks, staticBlocks,
                  Action.accepted, Action.copied, Action.static, blockOf,
                  heap]
      | staticMem =>
          rw [if_neg (by rw [heap]; decide)] at own
          cases allocated <;> constructor <;>
            simp [World.effect, tcpserverSend, MessageQueue.push,
              acceptedBlocks, copiedBlocks, staticBlocks, Action.accepted,
              Action.copied, Action.static, blockOf, heap, own]
  | recvCb conn pdata data allocated posted =>
      cases data with
      | none =>
          exact .of_takesNone rfl
      | some address =>
          rcases own address rfl with ⟨unnamed, moving⟩
          apply Handed.single _ _ unnamed moving <;>
            cases allocated <;>
            simp [World.effect, tcpserverRecvCb, MessageQueue.push,
              acceptedBlocks, copiedBlocks, Action.accepted, Action.copied,
              Action.static, staticBlocks]
  | task sig accepted posted =>
      exact .of_takesNone (takesNone_serverTask state.world.server sig)
  | clear queue =>
      exact .of_takesNone (takesNone_clearQueue state.world.server queue)
  | init ipInfo listening keepsEvents keepsCallbacks =>
      exact
        .of_takesNone
          (takesNone_serverInitTcp state.world.server ipInfo listening)
  | sentCb conn posted =>
      exact .of_takesNone rfl
  | disconnectCb | spurious | driverSent =>
      exact .of_takesNone rfl

end LoggedWorld

end EspFirmware
