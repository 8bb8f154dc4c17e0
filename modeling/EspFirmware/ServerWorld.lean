import EspFirmware.Library.Pieces
import EspFirmware.Library.Transition
import EspFirmware.Server

/-!
# The server and its surroundings

The world holds the server, the events posted to its task and not yet
handled, and the accepted `espconn_sent` calls whose sent callback has not
run.  A step is one callback, one task event, or one thing that happens
outside of the server, with the outcomes of the SDK calls in it.  Pending
events may be handled in any order.  Processing a received command sends,
clears or uses a connection through steps of its own.

The history is not part of the device: it records what `server_task` did, so
that statements about whole runs can be made in every state.
-/

namespace EspFirmware

open EspFirmware.Library

/-- The bytes of one `espconn_sent` call. -/
structure Fragment where
  conn : Conn
  bytes : List UInt8
deriving DecidableEq

/-- What has happened on the sending side since the boot. -/
structure History where
  /-- Messages pushed into `sendq`, less those which a clear dropped. -/
  kept : List Message
  /-- Messages which `server_task` took out of `sendq`. -/
  started : List Message
  /-- The `espconn_sent` calls of `server_task`. -/
  calls : List Fragment
  /-- The number of `SERVER_SIG_TX_DONE` events handled. -/
  handled : Nat
  /--
  The last `SERVER_SIG_TX_DONE` event handled sent the last fragment of a
  fragmented message.
  -/
  finishing : Bool
deriving DecidableEq

/-- The history at boot. -/
def History.empty : History where
  kept := []
  started := []
  calls := []
  handled := 0
  finishing := false

/--
Record one action.  A clear of `sendq` drops the messages which wait there,
that is, those which have not been started.
-/
def History.record (history : History) : Action → History
  | .push .sendq message true =>
      { history with kept := history.kept ++ [message] }
  | .unshift .sendq (some message) =>
      { history with started := history.started ++ [message] }
  | .clear .sendq => { history with kept := history.started }
  | .espconnSent conn data len =>
      { history with
        calls := history.calls ++ [⟨conn, data.read len.toNat⟩] }
  | _ => history

/-- Record that an event is handled by the server in its present state. -/
def History.handle
    (history : History) (server : Server) : Signal → History
  | .txDone =>
      { history with
        handled := history.handled + 1
        finishing :=
          server.sending && server.moreFragments &&
            decide (server.sendingLen ≤ tcpMaxPacketSize) }
  | _ => history

/-- The server with everything that is under way around it. -/
structure World where
  server : Server
  events : List Signal
  awaiting : List Conn
  history : History
deriving DecidableEq

/-- The world at boot. -/
def World.boot : World where
  server := .boot
  events := []
  awaiting := []
  history := .empty

/--
One step of the world.  `posted` is the outcome of `system_os_post`,
`accepted` that of `espconn_sent`; both calls occur at most once in a step.
-/
inductive Step where
  /-- `tcpserver_send`. -/
  | send (message : Message) (allocated posted : Bool)
  /-- `tcpserver_recv_cb`. -/
  | recvCb (conn : Conn) (pdata : Segment) (data : Option Nat)
      (allocated posted : Bool)
  /-- `tcpserver_sent_cb` for an accepted `espconn_sent` call. -/
  | sentCb (conn : Conn) (posted : Bool)
  /-- `server_task` handles a pending event. -/
  | task (sig : Signal) (accepted posted : Bool)
  /-- An event is posted which none of these steps accounts for. -/
  | spurious (sig : Signal)
  /-- A driver calls `espconn_sent` itself, and the call is accepted. -/
  | driverSent (conn : Conn)
  /-- `MessageQueue_clear` between two task steps. -/
  | clear (queue : QueueName)
  /-- The peer is gone: its sent callbacks will not run any more. -/
  | disconnectCb (conn : Conn)
  /--
  `server_init_tcp`.  Registering the task and the connection again may cost
  the pending events and the sent callbacks.
  -/
  | init (ipInfo listening keepsEvents keepsCallbacks : Bool)
deriving DecidableEq

/-- The events a call of `system_os_post` adds. -/
def posts (posted : Bool) (sig : Signal) : List Signal :=
  if posted then [sig] else []

/-- The sent callbacks a call of `espconn_sent` adds. -/
def awaits (accepted : Bool) (conn : Conn) : List Conn :=
  if accepted then [conn] else []

@[simp]
theorem count_posts (posted : Bool) (sig counted : Signal) :
    (posts posted sig).count counted =
      if posted = true ∧ sig = counted then 1 else 0 := by
  cases posted <;> simp [posts, List.count_singleton]

@[simp]
theorem length_awaits (accepted : Bool) (conn : Conn) :
    (awaits accepted conn).length = if accepted then 1 else 0 := by
  cases accepted <;> rfl

namespace World

/-- What one action does to the surroundings of the server. -/
def perform
    (accepted posted : Bool) (world : World) (action : Action) : World :=
  { world with
    events :=
      match action with
      | .systemOsPost sig => world.events ++ posts posted sig
      | _ => world.events
    awaiting :=
      match action with
      | .espconnSent conn _ _ => world.awaiting ++ awaits accepted conn
      | _ => world.awaiting
    history := world.history.record action }

/-- Take over the new static variables and perform the actions in order. -/
def carryOut
    (accepted posted : Bool) (world : World) (effect : Effect) : World :=
  effect.actions.foldl (perform accepted posted)
    { world with server := effect.server }

/-- The step function of the world; `none` when the step is not enabled. -/
def next (world : World) : Step → Option World
  | .send message allocated posted =>
      some <| world.carryOut true posted
        (tcpserverSend world.server message allocated).2
  | .recvCb conn pdata data allocated posted =>
      some <| world.carryOut true posted
        (tcpserverRecvCb world.server conn pdata data allocated)
  | .sentCb conn posted =>
      if conn ∈ world.awaiting then
        some <|
          { world with awaiting := world.awaiting.erase conn }.carryOut
            true posted (tcpserverSentCb world.server)
      else
        none
  | .task sig accepted posted =>
      if sig ∈ world.events then
        some <|
          { world with
            events := world.events.erase sig
            history := world.history.handle world.server sig }.carryOut
            accepted posted (serverTask world.server sig)
      else
        none
  | .spurious sig =>
      some { world with events := world.events ++ [sig] }
  | .driverSent conn =>
      some { world with awaiting := world.awaiting ++ [conn] }
  | .clear queue =>
      some <| world.carryOut true true (clearQueue world.server queue)
  | .disconnectCb conn =>
      some <|
        { world with
          awaiting := world.awaiting.filter (· ≠ conn) }.carryOut
          true true (tcpserverDisconnectCb world.server)
  | .init ipInfo listening keepsEvents keepsCallbacks =>
      some <|
        { world with
          events :=
            if ipInfo && !keepsEvents then [] else world.events
          awaiting :=
            if ipInfo && !keepsCallbacks then [] else world.awaiting
          }.carryOut
          true true (serverInitTcp world.server ipInfo listening).2

end World

/-- The server as a transition system. -/
def serverSystem : System World Step where
  start := .boot
  next := World.next

end EspFirmware
