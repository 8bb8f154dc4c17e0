import EspFirmware.ServerWorld

/-!
# What one step of the server world can do

`Taken world step after` lists every way a step can be taken, with the guards
of the branch and the complete world it leaves.  `taken_of_next` shows that
nothing else happens, so a property of runs is proved by cases on `Taken` and
never unfolds the server.
-/

namespace EspFirmware

namespace World

@[simp]
theorem foldl_perform_freeHeapMem
    (accepted posted : Bool) (world : World)
    (mem : Memtype) (data : Buffer) :
    (freeHeapMem mem data).foldl (perform accepted posted) world =
      world := by
  cases mem <;> simp [freeHeapMem, perform, History.record]

@[simp]
theorem foldl_perform_freeMessages
    (accepted posted : Bool) (world : World)
    (messages : List Message) :
    (messages.flatMap
        fun message => freeHeapMem message.mem message.data).foldl
        (perform accepted posted) world =
      world := by
  induction messages with
  | nil => rfl
  | cons message rest induction =>
      rw [List.flatMap_cons, List.foldl_append,
        foldl_perform_freeHeapMem, induction]

end World

/-- The ways to take a step, each with its guards and its result. -/
inductive Taken (world : World) : Step → World → Prop where
  | sendRefused (message : Message) (posted : Bool) :
      Taken world (.send message false posted) world
  | sendQueued (message : Message) (posted : Bool) :
      Taken world (.send message true posted)
        { world with
          server :=
            { world.server with
              sendq :=
                { messages := world.server.sendq.messages ++ [message]
                  count := world.server.sendq.count + 1 } }
          events := world.events ++ posts posted .tx
          history :=
            { world.history with
              kept := world.history.kept ++ [message] } }
  | recvRefused (conn : Conn) (pdata : Segment) (data : Option Nat)
      (allocated posted : Bool)
      (refused : data = none ∨ allocated = false) :
      Taken world (.recvCb conn pdata data allocated posted) world
  | recvQueued (conn : Conn) (pdata : Segment) (address : Nat)
      (posted : Bool) :
      Taken world (.recvCb conn pdata (some address) true posted)
        { world with
          server :=
            { world.server with
              recvq :=
                { messages :=
                    world.server.recvq.messages ++
                      [pdata.message conn address]
                  count := world.server.recvq.count + 1 } }
          events := world.events ++ posts posted .rx }
  | sent (conn : Conn) (posted : Bool)
      (waiting : conn ∈ world.awaiting) :
      Taken world (.sentCb conn posted)
        { world with
          events := world.events ++ posts posted .txDone
          awaiting := world.awaiting.erase conn }
  | rxTaken (accepted posted : Bool) (message : Message)
      (recvq : MessageQueue)
      (pending : Signal.rx ∈ world.events)
      (taken : world.server.recvq.unshift = some (message, recvq)) :
      Taken world (.task .rx accepted posted)
        { world with
          server := { world.server with recvq }
          events := world.events.erase .rx }
  | rxEmpty (accepted posted : Bool)
      (pending : Signal.rx ∈ world.events)
      (empty : world.server.recvq.messages = []) :
      Taken world (.task .rx accepted posted)
        { world with events := world.events.erase .rx }
  | txBusy (accepted posted : Bool)
      (pending : Signal.tx ∈ world.events)
      (busy : world.server.sending = true) :
      Taken world (.task .tx accepted posted)
        { world with events := world.events.erase .tx }
  | txEmpty (accepted posted : Bool)
      (pending : Signal.tx ∈ world.events)
      (idle : world.server.sending = false)
      (empty : world.server.sendq.messages = []) :
      Taken world (.task .tx accepted posted)
        { world with events := world.events.erase .tx }
  | txShort (accepted posted : Bool) (message : Message)
      (sendq : MessageQueue)
      (pending : Signal.tx ∈ world.events)
      (idle : world.server.sending = false)
      (taken : world.server.sendq.unshift = some (message, sendq))
      (short : message.len ≤ tcpMaxPacketSize) :
      Taken world (.task .tx accepted posted)
        { server :=
            { world.server with
              sendq
              sending := true
              moreFragments := false }
          events := world.events.erase .tx
          awaiting := world.awaiting ++ awaits accepted message.conn
          history :=
            { world.history with
              started := world.history.started ++ [message]
              calls :=
                world.history.calls ++
                  [⟨message.conn, message.payload⟩] } }
  | txLong (accepted posted : Bool) (message : Message)
      (sendq : MessageQueue)
      (pending : Signal.tx ∈ world.events)
      (idle : world.server.sending = false)
      (taken : world.server.sendq.unshift = some (message, sendq))
      (long : ¬ message.len ≤ tcpMaxPacketSize) :
      Taken world (.task .tx accepted posted)
        { server :=
            { world.server with
              sendq
              sending := true
              moreFragments := true
              sendingConn := message.conn
              firstSendingChunk := message.data
              currentSendingChunk :=
                (Pointer.start message.data).advance tcpMaxPacketSize.toNat
              sendingLen := message.len - tcpMaxPacketSize
              sendingMem := message.mem }
          events := world.events.erase .tx
          awaiting := world.awaiting ++ awaits accepted message.conn
          history :=
            { world.history with
              started := world.history.started ++ [message]
              calls :=
                world.history.calls ++
                  [⟨message.conn,
                    (Pointer.start message.data).read
                      tcpMaxPacketSize.toNat⟩] } }
  | doneLast (accepted posted : Bool)
      (pending : Signal.txDone ∈ world.events)
      (busy : world.server.sending = true)
      (more : world.server.moreFragments = true)
      (last : world.server.sendingLen ≤ tcpMaxPacketSize) :
      Taken world (.task .txDone accepted posted)
        { server :=
            { world.server with moreFragments := false, sending := false }
          events := world.events.erase .txDone
          awaiting :=
            world.awaiting ++ awaits accepted world.server.sendingConn
          history :=
            { world.history with
              calls :=
                world.history.calls ++
                  [⟨world.server.sendingConn,
                    world.server.currentSendingChunk.read
                      world.server.sendingLen.toNat⟩]
              handled := world.history.handled + 1
              finishing := true } }
  | doneMiddle (accepted posted : Bool)
      (pending : Signal.txDone ∈ world.events)
      (busy : world.server.sending = true)
      (more : world.server.moreFragments = true)
      (notLast : ¬ world.server.sendingLen ≤ tcpMaxPacketSize) :
      Taken world (.task .txDone accepted posted)
        { server :=
            { world.server with
              moreFragments := true
              currentSendingChunk :=
                world.server.currentSendingChunk.advance
                  tcpMaxPacketSize.toNat
              sendingLen := world.server.sendingLen - tcpMaxPacketSize }
          events := world.events.erase .txDone
          awaiting :=
            world.awaiting ++ awaits accepted world.server.sendingConn
          history :=
            { world.history with
              calls :=
                world.history.calls ++
                  [⟨world.server.sendingConn,
                    world.server.currentSendingChunk.read
                      tcpMaxPacketSize.toNat⟩]
              handled := world.history.handled + 1
              finishing := false } }
  | doneIdle (accepted posted : Bool)
      (pending : Signal.txDone ∈ world.events)
      (noFragment :
        ¬ (world.server.sending = true ∧
            world.server.moreFragments = true)) :
      Taken world (.task .txDone accepted posted)
        { world with
          server := { world.server with sending := false }
          events :=
            world.events.erase .txDone ++
              (if world.server.sendq.messages = [] then []
                else posts posted .tx)
          history :=
            { world.history with
              handled := world.history.handled + 1
              finishing := false } }
  | spurious (sig : Signal) :
      Taken world (.spurious sig)
        { world with events := world.events ++ [sig] }
  | driverSent (conn : Conn) :
      Taken world (.driverSent conn)
        { world with awaiting := world.awaiting ++ [conn] }
  | clearSendq :
      Taken world (.clear .sendq)
        { world with
          server := { world.server with sendq := .initializer }
          history :=
            { world.history with kept := world.history.started } }
  | clearRecvq :
      Taken world (.clear .recvq)
        { world with
          server := { world.server with recvq := .initializer } }
  | disconnected (conn : Conn) :
      Taken world (.disconnectCb conn)
        { world with
          awaiting := world.awaiting.filter (· ≠ conn) }
  | initRefused (listening keepsEvents keepsCallbacks : Bool) :
      Taken world (.init false listening keepsEvents keepsCallbacks) world
  | initDone (listening keepsEvents keepsCallbacks : Bool) :
      Taken world (.init true listening keepsEvents keepsCallbacks)
        { server :=
            { world.server with
              sendq := .initializer
              recvq := .initializer }
          events := if keepsEvents then world.events else []
          awaiting := if keepsCallbacks then world.awaiting else []
          history :=
            { world.history with kept := world.history.started } }

namespace World

theorem taken_of_send
    {world after : World} {message : Message} {allocated posted : Bool}
    (taken : world.next (.send message allocated posted) = some after) :
    Taken world (.send message allocated posted) after := by
  cases allocated with
  | false =>
      have same : after = world := by
        simpa [next, tcpserverSend, MessageQueue.push, carryOut, perform,
          History.record] using taken.symm
      rw [same]
      exact .sendRefused message posted
  | true =>
      simp only [next, tcpserverSend, MessageQueue.push, carryOut, perform,
        History.record, if_true, List.foldl_cons, List.foldl_nil,
        Option.some.injEq] at taken
      rw [← taken]
      exact .sendQueued message posted

theorem taken_of_recvCb
    {world after : World} {conn : Conn} {pdata : Segment}
    {data : Option Nat} {allocated posted : Bool}
    (taken :
      world.next (.recvCb conn pdata data allocated posted) = some after) :
    Taken world (.recvCb conn pdata data allocated posted) after := by
  cases data with
  | none =>
      have same : after = world := by
        simpa [next, tcpserverRecvCb, carryOut] using taken.symm
      rw [same]
      exact .recvRefused conn pdata none allocated posted (Or.inl rfl)
  | some address =>
      cases allocated with
      | false =>
          have same : after = world := by
            simpa [next, tcpserverRecvCb, MessageQueue.push, carryOut,
              perform, History.record] using taken.symm
          rw [same]
          exact
            .recvRefused conn pdata (some address) false posted
              (Or.inr rfl)
      | true =>
          simp only [next, tcpserverRecvCb, MessageQueue.push, carryOut,
            perform, History.record, if_true, List.foldl_cons,
            List.foldl_nil, Option.some.injEq] at taken
          rw [← taken]
          exact .recvQueued conn pdata address posted

theorem taken_of_sentCb
    {world after : World} {conn : Conn} {posted : Bool}
    (taken : world.next (.sentCb conn posted) = some after) :
    Taken world (.sentCb conn posted) after := by
  simp only [next, tcpserverSentCb, carryOut, perform, History.record,
    List.foldl_cons, List.foldl_nil] at taken
  split at taken
  · next waiting =>
      rw [← Option.some.inj taken]
      exact .sent conn posted waiting
  · cases taken

theorem taken_of_taskRx
    {world after : World} {accepted posted : Bool}
    (taken : world.next (.task .rx accepted posted) = some after) :
    Taken world (.task .rx accepted posted) after := by
  simp only [next, serverTask, Server.taskRx] at taken
  split at taken
  · next pending =>
      cases dequeued : world.server.recvq.unshift with
      | none =>
          simp only [dequeued, carryOut, perform, History.record,
            History.handle, List.foldl_cons, List.foldl_nil,
            Option.some.injEq] at taken
          rw [← taken]
          exact
            .rxEmpty accepted posted pending
              (MessageQueue.unshift_eq_none.mp dequeued)
      | some pair =>
          rcases pair with ⟨message, recvq⟩
          simp only [dequeued, carryOut, List.foldl_append,
            foldl_perform_freeHeapMem, perform, History.record,
            History.handle, List.foldl_cons, List.foldl_nil,
            Option.some.injEq] at taken
          rw [← taken]
          exact .rxTaken accepted posted message recvq pending dequeued
  · cases taken

theorem taken_of_taskTx
    {world after : World} {accepted posted : Bool}
    (taken : world.next (.task .tx accepted posted) = some after) :
    Taken world (.task .tx accepted posted) after := by
  simp only [next, serverTask, Server.taskTx] at taken
  split at taken
  · next pending =>
      cases flag : world.server.sending with
      | true =>
          simp only [flag, carryOut, perform, History.record,
            History.handle, List.foldl_cons, List.foldl_nil,
            Bool.true_eq_false, if_false, Option.some.injEq] at taken
          rw [← taken]
          exact .txBusy accepted posted pending flag
      | false =>
          cases dequeued : world.server.sendq.unshift with
          | none =>
              simp only [flag, dequeued, carryOut, perform, History.record,
                History.handle, List.foldl_cons, List.foldl_nil, if_true,
                Option.some.injEq] at taken
              rw [← taken]
              exact
                .txEmpty accepted posted pending flag
                  (MessageQueue.unshift_eq_none.mp dequeued)
          | some pair =>
              rcases pair with ⟨message, sendq⟩
              by_cases short : message.len ≤ tcpMaxPacketSize
              · simp only [flag, dequeued, short, carryOut,
                  List.foldl_append, foldl_perform_freeHeapMem, perform,
                  History.record, History.handle, List.foldl_cons,
                  List.foldl_nil, if_true, Option.some.injEq] at taken
                rw [← taken]
                exact
                  .txShort accepted posted message sendq pending flag
                    dequeued short
              · simp only [flag, dequeued, short, carryOut,
                  List.foldl_append, perform, History.record,
                  History.handle, List.foldl_cons, List.foldl_nil, if_true,
                  if_false, Option.some.injEq] at taken
                rw [← taken]
                exact
                  .txLong accepted posted message sendq pending flag
                    dequeued short
  · cases taken

theorem taken_of_taskTxDone
    {world after : World} {accepted posted : Bool}
    (taken : world.next (.task .txDone accepted posted) = some after) :
    Taken world (.task .txDone accepted posted) after := by
  simp only [next, serverTask, Server.taskTxDone] at taken
  split at taken
  · next pending =>
      cases flags : world.server.sending && world.server.moreFragments with
      | true =>
          have both := (Bool.and_eq_true _ _).mp flags
          by_cases last : world.server.sendingLen ≤ tcpMaxPacketSize
          · simp only [flags, last, carryOut, List.foldl_append,
              foldl_perform_freeHeapMem, perform, History.record,
              History.handle, List.foldl_cons, List.foldl_nil, if_true,
              decide_true, Bool.and_true, Option.some.injEq] at taken
            rw [← taken]
            exact
              .doneLast accepted posted pending both.1 both.2 last
          · simp only [flags, last, carryOut, perform, History.record,
              History.handle, List.foldl_cons, List.foldl_nil, if_true,
              if_false, decide_false, Bool.and_false,
              Option.some.injEq] at taken
            rw [← taken]
            exact
              .doneMiddle accepted posted pending both.1 both.2 last
      | false =>
          have noFragment :
              ¬ (world.server.sending = true ∧
                  world.server.moreFragments = true) := by
            rw [← Bool.and_eq_true, flags]
            exact Bool.false_ne_true
          have result :=
            @Taken.doneIdle world accepted posted pending noFragment
          by_cases empty : world.server.sendq.messages = []
          · have isEmpty : world.server.sendq.empty = true :=
              MessageQueue.empty_eq_true.mpr empty
            simp only [flags, isEmpty, carryOut, perform, History.record,
              History.handle, List.foldl_cons, List.foldl_nil, if_true,
              Bool.false_and, Bool.false_eq_true, if_false,
              Option.some.injEq] at taken
            simp only [empty, if_true, List.append_nil] at result
            rw [← taken]
            exact result
          · have isEmpty : ¬ world.server.sendq.empty = true :=
              mt MessageQueue.empty_eq_true.mp empty
            simp only [flags, isEmpty, carryOut, perform, History.record,
              History.handle, List.foldl_cons, List.foldl_nil,
              Bool.false_and, Bool.false_eq_true, if_false,
              Option.some.injEq] at taken
            simp only [empty, if_false] at result
            rw [← taken]
            exact result
  · cases taken

theorem taken_of_clear
    {world after : World} {queue : QueueName}
    (taken : world.next (.clear queue) = some after) :
    Taken world (.clear queue) after := by
  cases queue with
  | sendq =>
      simp only [next, clearQueue, carryOut, List.foldl_append,
        foldl_perform_freeMessages, perform, History.record,
        List.foldl_cons, List.foldl_nil, Option.some.injEq] at taken
      rw [← taken]
      exact .clearSendq
  | recvq =>
      simp only [next, clearQueue, carryOut, List.foldl_append,
        foldl_perform_freeMessages, perform, History.record,
        List.foldl_cons, List.foldl_nil, Option.some.injEq] at taken
      rw [← taken]
      exact .clearRecvq

theorem taken_of_init
    {world after : World}
    {ipInfo listening keepsEvents keepsCallbacks : Bool}
    (taken :
      world.next (.init ipInfo listening keepsEvents keepsCallbacks) =
        some after) :
    Taken world (.init ipInfo listening keepsEvents keepsCallbacks)
      after := by
  cases ipInfo with
  | false =>
      have same : after = world := by
        simpa [next, serverInitTcp, carryOut] using taken.symm
      rw [same]
      exact .initRefused listening keepsEvents keepsCallbacks
  | true =>
      have result :=
        @Taken.initDone world listening keepsEvents keepsCallbacks
      simp only [next, serverInitTcp, clearQueue, Effect.andThen, carryOut,
        List.foldl_append, foldl_perform_freeMessages, perform,
        History.record, List.foldl_cons, List.foldl_nil, if_true,
        Option.some.injEq] at taken
      rw [← taken]
      cases keepsEvents <;> cases keepsCallbacks <;> exact result

/-- Every step which is taken is one of the listed ones. -/
theorem taken_of_next
    {world after : World} {step : Step}
    (taken : world.next step = some after) :
    Taken world step after := by
  cases step with
  | send message allocated posted => exact taken_of_send taken
  | recvCb conn pdata data allocated posted =>
      exact taken_of_recvCb taken
  | sentCb conn posted => exact taken_of_sentCb taken
  | task sig accepted posted =>
      cases sig with
      | rx => exact taken_of_taskRx taken
      | tx => exact taken_of_taskTx taken
      | txDone => exact taken_of_taskTxDone taken
  | spurious sig =>
      rw [← Option.some.inj taken]
      exact .spurious sig
  | driverSent conn =>
      rw [← Option.some.inj taken]
      exact .driverSent conn
  | clear queue => exact taken_of_clear taken
  | disconnectCb conn =>
      rw [← Option.some.inj taken]
      exact .disconnected conn
  | init ipInfo listening keepsEvents keepsCallbacks =>
      exact taken_of_init taken

end World

end EspFirmware
