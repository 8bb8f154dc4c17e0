import EspFirmware.MessageQueue

/-!
# The TCP server of `server.c`

Every function takes the static variables of the server and the outcomes of
the calls it makes that may fail, and answers with the new static variables
and the trace of its accesses to shared state and of its SDK calls, in
program order.  What the calls bring about outside of the server is not
decided here.  Console output is left out, and so is the result of
`espconn_sent`, which `server_task` only prints.
-/

namespace EspFirmware

/-- `TCP_MAX_PACKET_SIZE`. -/
def tcpMaxPacketSize : UInt16 := 1460

/-- `SERVER_TASK_QUEUE_LEN`. -/
def serverTaskQueueLen : Nat := 20

/-- The signals of the server task. -/
inductive Signal where
  | rx
  | tx
  | txDone
deriving DecidableEq

/-- The two message queues of the server. -/
inductive QueueName where
  | sendq
  | recvq
deriving DecidableEq

/-- One access to shared state, or one SDK call. -/
inductive Action where
  | etsIntrLock
  | etsIntrUnlock
  | push (queue : QueueName) (message : Message) (stored : Bool)
  | unshift (queue : QueueName) (taken : Option Message)
  | clear (queue : QueueName)
  | isEmpty (queue : QueueName)
  | readSending
  | writeSending (value : Bool)
  | espconnSent (conn : Conn) (data : Pointer) (len : UInt16)
  | osZalloc (address : Nat)
  | osFree (address : Nat)
  | systemOsTask
  | systemOsPost (sig : Signal)
  | tcpparserProcessData (data : Buffer) (len : UInt16) (conn : Conn)
deriving DecidableEq

/-- The queues and the static variables of `server_task`. -/
structure Server where
  sendq : MessageQueue
  recvq : MessageQueue
  sending : Bool
  moreFragments : Bool
  sendingConn : Conn
  firstSendingChunk : Buffer
  currentSendingChunk : Pointer
  sendingLen : UInt16
  sendingMem : Memtype
deriving DecidableEq

/-- The statically initialised server. -/
def Server.boot : Server where
  sendq := .initializer
  recvq := .initializer
  sending := false
  moreFragments := false
  sendingConn := 0
  firstSendingChunk := .null
  currentSendingChunk := .start .null
  sendingLen := 0
  sendingMem := .staticMem

/-- New static variables, and what was done on the way. -/
structure Effect where
  server : Server
  actions : List Action
deriving DecidableEq

/-- `if (mem == HEAP_MEM) os_free(data)`. -/
def freeHeapMem (mem : Memtype) (data : Buffer) : List Action :=
  if mem = .heapMem then [.osFree data.address] else []

namespace Server

/-- The branch `SERVER_SIG_RX` of `server_task`. -/
def taskRx (server : Server) : Effect :=
  match server.recvq.unshift with
  | some (message, recvq) =>
      { server := { server with recvq }
        actions :=
          [.etsIntrLock, .unshift .recvq (some message), .etsIntrUnlock,
            .tcpparserProcessData message.data message.len message.conn] ++
          freeHeapMem message.mem message.data }
  | none =>
      { server
        actions :=
          [.etsIntrLock, .unshift .recvq none, .etsIntrUnlock] }

/-- The branch `SERVER_SIG_TX` of `server_task`. -/
def taskTx (server : Server) : Effect :=
  if server.sending = false then
    match server.sendq.unshift with
    | some (message, sendq) =>
        let dequeue : List Action :=
          [.etsIntrLock, .readSending, .unshift .sendq (some message),
            .writeSending true, .etsIntrUnlock]
        if message.len ≤ tcpMaxPacketSize then
          { server :=
              { server with sendq, sending := true, moreFragments := false }
            actions :=
              dequeue ++
              [.espconnSent message.conn (.start message.data) message.len] ++
              freeHeapMem message.mem message.data }
        else
          { server :=
              { server with
                sendq
                sending := true
                moreFragments := true
                sendingConn := message.conn
                firstSendingChunk := message.data
                currentSendingChunk :=
                  (Pointer.start message.data).advance tcpMaxPacketSize.toNat
                sendingLen := message.len - tcpMaxPacketSize
                sendingMem := message.mem }
            actions :=
              dequeue ++
              [.espconnSent message.conn (.start message.data)
                tcpMaxPacketSize] }
    | none =>
        { server
          actions :=
            [.etsIntrLock, .readSending, .unshift .sendq none,
              .etsIntrUnlock] }
  else
    { server
      actions := [.etsIntrLock, .readSending, .etsIntrUnlock] }

/-- The branch `SERVER_SIG_TX_DONE` of `server_task`. -/
def taskTxDone (server : Server) : Effect :=
  if server.sending && server.moreFragments then
    if server.sendingLen ≤ tcpMaxPacketSize then
      { server := { server with moreFragments := false, sending := false }
        actions :=
          [.etsIntrLock, .readSending, .etsIntrUnlock,
            .espconnSent server.sendingConn server.currentSendingChunk
              server.sendingLen] ++
          freeHeapMem server.sendingMem server.firstSendingChunk ++
          [.etsIntrLock, .writeSending false, .etsIntrUnlock] }
    else
      { server :=
          { server with
            moreFragments := true
            currentSendingChunk :=
              server.currentSendingChunk.advance tcpMaxPacketSize.toNat
            sendingLen := server.sendingLen - tcpMaxPacketSize }
        actions :=
          [.etsIntrLock, .readSending, .etsIntrUnlock,
            .espconnSent server.sendingConn server.currentSendingChunk
              tcpMaxPacketSize] }
  else if server.sendq.empty then
    { server := { server with sending := false }
      actions :=
        [.etsIntrLock, .readSending, .isEmpty .sendq, .writeSending false,
          .etsIntrUnlock] }
  else
    { server := { server with sending := false }
      actions :=
        [.etsIntrLock, .readSending, .isEmpty .sendq, .writeSending false,
          .etsIntrUnlock, .systemOsPost .tx] }

end Server

/-- `server_task`. -/
def serverTask (server : Server) : Signal → Effect
  | .rx => server.taskRx
  | .tx => server.taskTx
  | .txDone => server.taskTxDone

/-- `tcpserver_send`; `allocated` says whether the queue node was. -/
def tcpserverSend
    (server : Server) (message : Message) (allocated : Bool) :
    Int × Effect :=
  match server.sendq.push allocated message with
  | none =>
      (-1,
        { server
          actions :=
            [.etsIntrLock, .push .sendq message false, .etsIntrUnlock] })
  | some sendq =>
      (0,
        { server := { server with sendq }
          actions :=
            [.etsIntrLock, .push .sendq message true, .etsIntrUnlock,
              .systemOsPost .tx] })

/-- The data of one receive callback. -/
structure Segment where
  bytes : List UInt8
  bounded : bytes.length < 65536
deriving DecidableEq

/-- The zero-terminated copy `tcpserver_recv_cb` makes of a segment. -/
def Segment.copy (pdata : Segment) (address : Nat) : Buffer where
  address := address
  bytes := pdata.bytes ++ [0]

/-- The message `tcpserver_recv_cb` queues for a segment. -/
def Segment.message
    (pdata : Segment) (conn : Conn) (address : Nat) :
    Message where
  conn := conn
  data := pdata.copy address
  len := UInt16.ofNat pdata.bytes.length
  mem := .heapMem
  fits := by
    have bounded := pdata.bounded
    simp [Segment.copy, Nat.mod_eq_of_lt bounded]

/--
`tcpserver_recv_cb`.  The copy is at `data`, unless its allocation failed;
`allocated` says whether the queue node was.
-/
def tcpserverRecvCb
    (server : Server) (conn : Conn) (pdata : Segment)
    (data : Option Nat) (allocated : Bool) :
    Effect :=
  match data with
  | none => { server, actions := [] }
  | some address =>
      let message := pdata.message conn address
      match server.recvq.push allocated message with
      | none =>
          { server
            actions :=
              [.osZalloc address, .etsIntrLock, .push .recvq message false,
                .etsIntrUnlock] }
      | some recvq =>
          { server := { server with recvq }
            actions :=
              [.osZalloc address, .etsIntrLock, .push .recvq message true,
                .etsIntrUnlock, .systemOsPost .rx] }

/-- `tcpserver_sent_cb`. -/
def tcpserverSentCb (server : Server) : Effect where
  server := server
  actions := [.systemOsPost .txDone]

/-- `tcpserver_disconnect_cb` and `tcpserver_reconnect_cb`, which only print. -/
def tcpserverDisconnectCb (server : Server) : Effect where
  server := server
  actions := []

/-- `MessageQueue_clear` of one queue of the server. -/
def clearQueue (server : Server) : QueueName → Effect
  | .sendq =>
      { server := { server with sendq := server.sendq.clear }
        actions :=
          server.sendq.messages.flatMap
            (fun message => freeHeapMem message.mem message.data) ++
          [.clear .sendq] }
  | .recvq =>
      { server := { server with recvq := server.recvq.clear }
        actions :=
          server.recvq.messages.flatMap
            (fun message => freeHeapMem message.mem message.data) ++
          [.clear .recvq] }

/-- Run one effect after the other. -/
def Effect.andThen (first : Effect) (second : Server → Effect) : Effect where
  server := (second first.server).server
  actions := first.actions ++ (second first.server).actions

/-- `sta_server_close`. -/
def staServerClose (server : Server) : Effect :=
  (clearQueue server .sendq).andThen (clearQueue · .recvq)

/-- `ap_server_close`, the same as `sta_server_close`. -/
def apServerClose (server : Server) : Effect :=
  (clearQueue server .sendq).andThen (clearQueue · .recvq)

/--
`server_init_tcp`.  It gives up at once when there is no address; `listening`
says whether the SDK took the callbacks and the listening connection.
-/
def serverInitTcp
    (server : Server) (ipInfo listening : Bool) :
    Int × Effect :=
  if ipInfo then
    (if listening then 0 else -1,
      ((clearQueue server .sendq).andThen (clearQueue · .recvq)).andThen
        fun cleared => { server := cleared, actions := [.systemOsTask] })
  else
    (-1, { server, actions := [] })

end EspFirmware
