import EspFirmware.MqttReceive

/-!
# The states of a session

Of a client, only its state, its connection and its ticks decide what it does
next; the packets pass through it.  What a step of the client can do to these
is said here once.
-/

namespace EspFirmware

open Library

/-! ## Events -/

/-- What happens to a client, with what it is given. -/
inductive MqttEvent where
  | start (cached : Option UInt32)
  | stop
  | dnsFound (ipaddr : Option UInt32)
  | connectCb
  | reconCb
  | disconCb
  | sentCb
  | recv (pdata : List UInt8) (stack : Nat → Nat → Bool)
  | timer
  | task (answers : MqttClient.TaskAnswers)
  | call (call : MqttCall) (stack : Nat → Bool)

/-- The same without what is given. -/
inductive MqttEventKind where
  | start
  | stop
  | dnsFound
  | connectCb
  | reconCb
  | disconCb
  | sentCb
  | recv
  | timer
  | task
  | call
deriving DecidableEq

/-- The kind of an event. -/
def MqttEvent.kind : MqttEvent → MqttEventKind
  | start _ => .start
  | stop => .stop
  | dnsFound _ => .dnsFound
  | connectCb => .connectCb
  | reconCb => .reconCb
  | disconCb => .disconCb
  | sentCb => .sentCb
  | recv _ _ => .recv
  | timer => .timer
  | task _ => .task
  | call _ _ => .call

/--
What a client makes of an event.  It is `none` only for data of a session in
which `mqtt_tcpclient_recv` comes to a PUBLISH whose 16-bit length is 0, and
looks at it for ever.
-/
def MqttClient.handle (client : MqttClient) :
    MqttEvent → Option (MqttClient × List MqttAction)
  | .start cached => some (client.mqttConnect cached)
  | .stop => some client.mqttDisconnect
  | .dnsFound ipaddr => some (client.mqttDnsFound ipaddr)
  | .connectCb => some client.mqttTcpclientConnectCb
  | .reconCb => some client.mqttTcpclientReconCb
  | .disconCb => some client.mqttTcpclientDisconCb
  | .sentCb => some client.mqttTcpclientSentCb
  | .recv pdata stack => client.mqttTcpclientRecv pdata stack
  | .timer => some client.mqttTimer
  | .task answers => some (client.mqttTask answers)
  | .call call stack =>
      let made := client.call stack call
      some (made.1, made.2.1)

/-! ## Control -/

/-- What decides what a client does next. -/
structure MqttControl where
  pCon : Option Nat
  connections : Nat
  timerArmed : Bool
  keepalive : Nat
  keepAliveTick : Nat
  reconnectTick : Nat
  sendTimeout : Nat
  connState : ConnState
deriving DecidableEq

/-- The control of a client. -/
def MqttClient.control (client : MqttClient) : MqttControl where
  pCon := client.pCon
  connections := client.connections
  timerArmed := client.timerArmed
  keepalive := client.keepalive
  keepAliveTick := client.keepAliveTick
  reconnectTick := client.reconnectTick
  sendTimeout := client.sendTimeout
  connState := client.connState

/-- The blocks of a connection. -/
def connectionBlocks : Option Nat → List EspconnBlock
  | none => []
  | some number => [.tcp number, .pCon number]

namespace MqttAction

/-- A callback for data, a post, or a request to close the given connection. -/
def Plain (pCon : Option Nat) : MqttAction → Prop
  | dataCb _ | disconnectedCb | publishedCb | post => True
  | disconnect other => other = pCon
  | heap _ | connect _ | gethostbyname _ | sent _ _ _ | connectedCb => False

/-- The beginning of a connection. -/
def Begins (number : Nat) : MqttAction → Prop
  | connect pCon | gethostbyname pCon => pCon = some number
  | _ => False

end MqttAction

namespace MqttControl

/--
The callbacks are made for the connection which the client has, and the timer
only when it is armed.  A connection that was freed makes no callback.
-/
def enabled (control : MqttControl) : MqttEventKind → Bool
  | .timer => control.timerArmed
  | .dnsFound | .connectCb | .reconCb | .disconCb | .sentCb | .recv =>
      control.pCon.isSome
  | .start | .stop | .task | .call => true

/-- A connection is made: the old blocks are freed, and two new ones are taken. -/
def connected (control : MqttControl) : MqttControl :=
  { control with
    pCon := some control.connections
    connections := control.connections + 1
    timerArmed := true
    keepAliveTick := 0
    reconnectTick := 0
    connState := .tcpConnecting }

/-- What `MQTT_Connect` does to the heap. -/
def connectHeap (control : MqttControl) : List MqttAction :=
  (connectionBlocks control.pCon).map (fun block => .heap (.free block)) ++
    [.heap (.take (.pCon control.connections)),
      .heap (.take (.tcp control.connections))]

theorem heap_of_mem_connectHeap
    {control : MqttControl} {action : MqttAction}
    (member : action ∈ control.connectHeap) :
    ∃ event, action = .heap event := by
  rcases List.mem_append.mp member with old | new
  · rcases List.mem_map.mp old with ⟨block, -, rfl⟩
    exact ⟨_, rfl⟩
  · rcases List.mem_cons.mp new with rfl | last
    · exact ⟨_, rfl⟩
    · rw [List.mem_singleton.mp last]
      exact ⟨_, rfl⟩

/-- What one event can do to the control, and the actions with it. -/
inductive Step (before : MqttControl) :
    MqttEventKind → MqttControl → List MqttAction → Prop where
  /-- Nothing that concerns the session. -/
  | quiet {kind : MqttEventKind} {actions : List MqttAction}
      (passive : kind = .dnsFound ∨ kind = .recv)
      (plain : ∀ action ∈ actions, action.Plain before.pCon) :
      Step before kind before actions
  /-- The queue only, and the task with nothing to do. -/
  | queued {kind : MqttEventKind} {actions : List MqttAction}
      (passive :
        kind = .call ∨ kind = .task ∧ before.connState ≠ .tcpReconnect)
      (posts : ∀ action ∈ actions, action = .post) :
      Step before kind before actions
  /-- `MQTT_Connect`, called by the firmware or by the task. -/
  | connect {kind : MqttEventKind} {begins : MqttAction}
      (caller :
        kind = .start ∨ kind = .task ∧ before.connState = .tcpReconnect)
      (number : begins.Begins before.connections) :
      Step before kind before.connected (before.connectHeap ++ [begins])
  /-- `MQTT_Disconnect`. -/
  | disconnect :
      Step before .stop { before with pCon := none, timerArmed := false }
        ((connectionBlocks before.pCon).map fun block => .heap (.free block))
  /-- A name is resolved. -/
  | resolved :
      Step before .dnsFound { before with connState := .tcpConnecting }
        [.connect before.pCon, .post]
  /-- A connection is lost, or never was made. -/
  | lost {kind : MqttEventKind} {actions : List MqttAction}
      (cause : kind = .dnsFound ∨ kind = .reconCb ∨ kind = .disconCb)
      (plain : ∀ action ∈ actions, action.Plain before.pCon) :
      Step before kind { before with connState := .tcpReconnectReq } actions
  /-- CONNECT is sent. -/
  | greet (bytes : List UInt8) :
      Step before .connectCb
        { before with
          sendTimeout := mqttSendTimout
          connState := .mqttConnectSending }
        [.sent .connectCb before.pCon bytes, .post]
  /-- CONNACK is received. -/
  | accepted {actions : List MqttAction}
      (waiting : before.connState = .mqttConnectSending)
      (plain : ∀ action ∈ actions, action.Plain before.pCon) :
      Step before .recv { before with connState := .mqttData }
        (.connectedCb :: actions)
  /-- What was sent has arrived. -/
  | arrived {actions : List MqttAction}
      (plain : ∀ action ∈ actions, action.Plain before.pCon) :
      Step before .sentCb { before with sendTimeout := 0 } actions
  /-- The timer in a session. -/
  | tick
      (session : before.connState = .mqttData)
      (early : (before.keepAliveTick + 1) % 2 ^ 32 ≤ before.keepalive) :
      Step before .timer
        { before with
          keepAliveTick := (before.keepAliveTick + 1) % 2 ^ 32
          sendTimeout := before.sendTimeout - 1 }
        []
  /-- The timer when it is time for PINGREQ. -/
  | ping (bytes : List UInt8)
      (session : before.connState = .mqttData)
      (late : before.keepalive < (before.keepAliveTick + 1) % 2 ^ 32) :
      Step before .timer
        { before with
          keepAliveTick := 0
          sendTimeout := mqttSendTimout - 1 }
        [.sent .timer before.pCon bytes, .post]
  /-- The timer after a loss. -/
  | wait
      (request : before.connState = .tcpReconnectReq)
      (early : before.reconnectTick + 1 ≤ mqttReconnectTimeout) :
      Step before .timer
        { before with
          reconnectTick := before.reconnectTick + 1
          sendTimeout := before.sendTimeout - 1 }
        []
  /-- The timer when it is time for another attempt. -/
  | retry
      (request : before.connState = .tcpReconnectReq)
      (late : mqttReconnectTimeout < before.reconnectTick + 1) :
      Step before .timer
        { before with
          reconnectTick := 0
          sendTimeout := before.sendTimeout - 1
          connState := .tcpReconnect }
        [.post]
  /-- The timer at any other time. -/
  | idle
      (other :
        before.connState ≠ .mqttData ∧ before.connState ≠ .tcpReconnectReq) :
      Step before .timer
        { before with sendTimeout := before.sendTimeout - 1 } []
  /-- A packet of the queue is sent. -/
  | send (bytes : List UInt8)
      (session : before.connState = .mqttData)
      (rested : before.sendTimeout = 0) :
      Step before .task { before with sendTimeout := mqttSendTimout }
        [.sent .task before.pCon bytes]

end MqttControl

/-! ## Every event is such a step -/

namespace MqttClient

variable {client after : MqttClient} {actions : List MqttAction} {pCon : Option Nat}

/-- Actions of the application's calls, and of the callback for data. -/
theorem plain_append
    {front back : List MqttAction}
    (first : ∀ action ∈ front, action.Plain pCon)
    (second : ∀ action ∈ back, action.Plain pCon) :
    ∀ action ∈ front ++ back, action.Plain pCon := by
  intro action member
  rcases List.mem_append.mp member with old | new
  · exact first action old
  · exact second action new

theorem plain_post : ∀ action ∈ [MqttAction.post], action.Plain pCon := by
  intro action member
  rw [List.mem_singleton.mp member]
  trivial

theorem plain_of_posts
    (posts : ∀ action ∈ actions, action = .post) :
    ∀ action ∈ actions, action.Plain pCon := by
  intro action member
  rw [posts action member]
  trivial

theorem posts_enqueue (client : MqttClient) (stack : Nat → Bool) :
    ∀ action ∈ (client.enqueue stack).2.1, action = .post := by
  intro action member
  rw [enqueue] at member
  dsimp only at member
  split at member
  · exact List.mem_singleton.mp member
  · cases member

/-- A call of the application leaves the control alone. -/
theorem control_call
    (client : MqttClient) (stack : Nat → Bool) (call : MqttCall) :
    (client.call stack call).1.control = client.control ∧
      ∀ action ∈ (client.call stack call).2.1, action = .post := by
  cases call with
  | publish topic data qos retain =>
      rw [MqttClient.call, mqttPublish]
      dsimp only
      split
      · refine ⟨rfl, ?_⟩
        intro action member
        cases member
      · exact ⟨rfl, posts_enqueue _ stack⟩
  | subscribe topic qos =>
      exact ⟨rfl, posts_enqueue _ stack⟩

theorem control_calls
    (client : MqttClient) (pCon : Option Nat) (stack : Nat → Nat → Bool)
    (calls : List MqttCall) :
    (client.calls stack calls).1.control = client.control ∧
      ∀ action ∈ (client.calls stack calls).2, action.Plain pCon := by
  induction calls generalizing client stack with
  | nil =>
      refine ⟨rfl, ?_⟩
      intro action member
      cases member
  | cons call calls induction =>
      have first := control_call client (stack 0) call
      have rest :=
        induction (client.call (stack 0) call).1 fun number =>
          stack (number + 1)
      exact ⟨rest.1.trans first.1, plain_append (plain_of_posts first.2) rest.2⟩

/-- The inner `switch` leaves the control alone. -/
theorem control_receiveData
    {msgType : Option MqttMessageType} {msgQos : UInt8} {msgId : UInt16}
    {len : Nat}
    (received :
      client.receiveData msgType msgQos msgId len = some (after, actions)) :
    after.control = client.control ∧ ∀ action ∈ actions, action.Plain client.pCon := by
  have silent {other : MqttClient}
      (same : other.control = client.control)
      (returned : some (other, []) = some (after, actions)) :
      after.control = client.control ∧
        ∀ action ∈ actions, action.Plain client.pCon := by
    cases returned
    refine ⟨same, ?_⟩
    intro action member
    cases member
  cases msgType with
  | none =>
      exact silent rfl received
  | some type =>
      cases type with
      | publish =>
          rcases Option.bind_eq_some_iff.mp received with ⟨event, -, same⟩
          cases same
          constructor
          · rw [acknowledge]
            split
            · rfl
            · split <;> rfl
          · intro action member
            rw [List.mem_singleton.mp member]
            trivial
      | pubrec | pubrel | pingreq =>
          refine silent ?_ received
          rfl
      | connect | connack | puback | pubcomp | subscribe | suback
      | unsubscribe | unsuback | pingresp | disconnect =>
          exact silent rfl received

/-- What a callback for data does to the control: CONNACK is accepted, or nothing happens. -/
theorem control_readPacket
    {pdata : List UInt8} {stack : Nat → Nat → Bool}
    {again : Option (List UInt8)}
    (read : client.readPacket pdata stack = some (after, actions, again)) :
    after.control = client.control ∧ (∀ action ∈ actions, action.Plain client.pCon) ∧
        (again = none ∨ client.connState = .mqttData) ∨
      client.connState = .mqttConnectSending ∧ again = none ∧
        after.control = { client.control with connState := .mqttData } ∧
          ∃ others,
            actions = .connectedCb :: others ∧
              ∀ action ∈ others, action.Plain client.pCon := by
  have nothing : ∀ action ∈ ([] : List MqttAction), action.Plain client.pCon := by
    intro action member
    cases member
  rw [readPacket] at read
  split at read
  · rcases Option.bind_eq_some_iff.mp read with ⟨first, -, read⟩
    rcases Option.bind_eq_some_iff.mp read with ⟨msgId, -, read⟩
    cases state : client.connState with
    | mqttConnectSending =>
        have sameState : (client.store pdata).connState = .mqttConnectSending :=
          state
        simp only [sameState] at read
        cases read
        rw [receiveConnack]
        split
        · split
          · refine .inl ⟨rfl, ?_, .inl rfl⟩
            intro action member
            rw [List.mem_singleton.mp member]
            trivial
          · have made :=
              control_calls
                { client.store pdata with connState := .mqttData }
                client.pCon stack (client.store pdata).connectedCalls
            exact .inr ⟨rfl, rfl, made.1, _, rfl, made.2⟩
        · exact .inl ⟨rfl, nothing, .inl rfl⟩
    | mqttData =>
        have sameState : (client.store pdata).connState = .mqttData := state
        simp only [sameState] at read
        rcases Option.bind_eq_some_iff.mp read with ⟨total, -, read⟩
        rcases Option.bind_eq_some_iff.mp read with
          ⟨⟨middle, made⟩, received, read⟩
        have kept := control_receiveData received
        split at read
        · cases read
          exact .inl ⟨kept.1, kept.2, .inr rfl⟩
        · cases read
          exact .inl ⟨kept.1, kept.2, .inl rfl⟩
    | wifiInit | tcpReconnectReq | tcpReconnect | tcpConnecting =>
        have sameState : (client.store pdata).connState = client.connState :=
          rfl
        rw [state] at sameState
        simp only [sameState] at read
        cases read
        exact .inl ⟨rfl, nothing, .inl rfl⟩
  · cases read
    exact .inl ⟨rfl, nothing, .inl rfl⟩

/-- The same of the whole callback. -/
theorem control_readPackets
    {stack : Nat → Nat → Bool} {fuel : Nat} {pdata : List UInt8}
    (read : readPackets stack fuel client pdata = some (after, actions)) :
    after.control = client.control ∧ (∀ action ∈ actions, action.Plain client.pCon) ∨
      client.connState = .mqttConnectSending ∧
        after.control = { client.control with connState := .mqttData } ∧
          ∃ others,
            actions = .connectedCb :: others ∧
              ∀ action ∈ others, action.Plain client.pCon := by
  induction fuel generalizing client pdata after actions with
  | zero =>
      cases read
  | succ fuel induction =>
      rw [readPackets] at read
      rcases Option.bind_eq_some_iff.mp read with
        ⟨⟨middle, made, again⟩, packet, read⟩
      have first := control_readPacket packet
      cases again with
      | none =>
          cases read
          rcases first with
            ⟨same, plain, -⟩ | ⟨state, -, same, others, rfl, plain⟩
          · exact .inl ⟨same, plain_append plain plain_post⟩
          · exact
              .inr
                ⟨state, same, others ++ [.post], rfl,
                  plain_append plain plain_post⟩
      | some rest =>
          rcases Option.bind_eq_some_iff.mp read with
            ⟨⟨last, more⟩, behind, same⟩
          cases same
          rcases first with ⟨same, plain, none | session⟩ | ⟨-, none, -⟩
          · cases none
          · have state : middle.connState = .mqttData :=
              (congrArg MqttControl.connState same).trans session
            have held : middle.pCon = client.pCon :=
              congrArg MqttControl.pCon same
            rcases induction behind with
              ⟨sameRest, plainRest⟩ | ⟨sending, -⟩
            · rw [held] at plainRest
              exact
                .inl ⟨sameRest.trans same, plain_append plain plainRest⟩
            · rw [state] at sending
              cases sending
          · cases none

/-- `MQTT_Connect` is a step, whoever calls it. -/
theorem step_mqttConnect
    {kind : MqttEventKind} (client : MqttClient) (cached : Option UInt32)
    (caller :
      kind = .start ∨ kind = .task ∧ client.connState = .tcpReconnect) :
    client.control.Step kind (client.mqttConnect cached).1.control
      (client.mqttConnect cached).2 := by
  have step (begins : MqttAction)
      (number : begins.Begins client.connections) :
      client.control.Step kind client.control.connected
        (client.control.connectHeap ++ [begins]) :=
    .connect caller number
  rw [mqttConnect, mqttDisconnect]
  cases held : client.pCon with
  | none =>
      have heap :
          client.control.connectHeap =
            [.heap (.take (.pCon client.connections)),
              .heap (.take (.tcp client.connections))] := by
        rw [MqttControl.connectHeap, control, held]
        rfl
      rw [heap] at step
      dsimp only
      split
      · exact step (.connect (some client.connections)) rfl
      · exact step (.gethostbyname (some client.connections)) rfl
  | some number =>
      have heap :
          client.control.connectHeap =
            [.heap (.free (.tcp number)), .heap (.free (.pCon number)),
              .heap (.take (.pCon client.connections)),
              .heap (.take (.tcp client.connections))] := by
        rw [MqttControl.connectHeap, control, held]
        rfl
      rw [heap] at step
      dsimp only
      split
      · exact step (.connect (some client.connections)) rfl
      · exact step (.gethostbyname (some client.connections)) rfl

theorem step_mqttTimer (client : MqttClient) :
    client.control.Step .timer client.mqttTimer.1.control
      client.mqttTimer.2 := by
  rw [mqttTimer]
  split
  · next state =>
      have session : client.control.connState = .mqttData := state
      dsimp only
      split
      · next late =>
          exact .ping _ session late
      · next early =>
          exact .tick session (Nat.le_of_not_lt early)
  · next state =>
      have request : client.control.connState = .tcpReconnectReq := state
      dsimp only
      split
      · next late =>
          exact .retry request late
      · next early =>
          exact .wait request (Nat.le_of_not_lt early)
  · next noSession noRequest =>
      exact .idle ⟨noSession, noRequest⟩

theorem step_mqttTask (client : MqttClient) (answers : TaskAnswers) :
    client.control.Step .task (client.mqttTask answers).1.control
      (client.mqttTask answers).2 := by
  have quiet (settled : client.connState ≠ .tcpReconnect) :
      client.control.Step .task client.control [] := by
    refine .queued (.inr ⟨rfl, settled⟩) ?_
    intro action member
    cases member
  rw [mqttTask]
  split
  · next state =>
      exact step_mqttConnect client answers.cached (.inr ⟨rfl, state⟩)
  · next state =>
      have session : client.control.connState = .mqttData := state
      have idle := quiet (by rw [state]; exact ConnState.noConfusion)
      split
      · exact idle
      · next ready =>
          have rested : client.control.sendTimeout = 0 :=
            not_not.mp (not_or.mp ready).2
          dsimp only
          split
          · exact idle
          · exact .send _ session rested
  · next settled _ =>
      exact quiet settled

/-- Whatever a client makes of an event is a step of its control. -/
theorem step_handle
    {event : MqttEvent}
    (handled : client.handle event = some (after, actions)) :
    client.control.Step event.kind after.control actions := by
  have made {result : MqttClient × List MqttAction} {kind : MqttEventKind}
      (same : some result = some (after, actions))
      (step : client.control.Step kind result.1.control result.2) :
      client.control.Step kind after.control actions := by
    rw [Option.some.inj same] at step
    exact step
  cases event with
  | start cached =>
      exact made handled (step_mqttConnect client cached (.inl rfl))
  | stop =>
      refine made handled ?_
      have step : client.control.Step .stop _ _ := .disconnect
      rw [mqttDisconnect]
      cases held : client.pCon with
      | none =>
          rw [control, held] at step ⊢
          exact step
      | some number =>
          rw [control, held] at step ⊢
          exact step
  | dnsFound ipaddr =>
      refine made handled ?_
      cases ipaddr with
      | none =>
          refine .lost (.inl rfl) ?_
          intro action member
          cases member
      | some addr =>
          rw [mqttDnsFound]
          split
          · exact .resolved
          · exact .quiet (.inl rfl) plain_post
  | connectCb =>
      exact made handled (.greet _)
  | reconCb =>
      exact made handled (.lost (.inr (.inl rfl)) plain_post)
  | disconCb =>
      refine made handled (.lost (.inr (.inr rfl)) ?_)
      intro action member
      rcases List.mem_cons.mp member with rfl | last
      · trivial
      · exact plain_post action last
  | sentCb =>
      refine made handled (.arrived ?_)
      rw [mqttTcpclientSentCb]
      split
      · intro action member
        rcases List.mem_cons.mp member with rfl | last
        · trivial
        · exact plain_post action last
      · exact plain_post
  | recv pdata stack =>
      rcases control_readPackets handled with
        ⟨same, plain⟩ | ⟨waiting, same, others, rfl, plain⟩
      · rw [same]
        exact .quiet (.inr rfl) plain
      · rw [same]
        exact .accepted waiting plain
  | timer =>
      exact made handled (step_mqttTimer client)
  | task answers =>
      exact made handled (step_mqttTask client answers)
  | call call stack =>
      have called := control_call client stack call
      refine made handled ?_
      rw [called.1]
      exact .queued (.inl rfl) called.2

end MqttClient

/-! ## Runs -/

/-- What happened: an event in a state of the client, or an action. -/
inductive MqttEntry where
  | began (kind : MqttEventKind) (state : ConnState)
  | did (action : MqttAction)
deriving DecidableEq

/-- A client with what happened so far. -/
structure MqttWorld where
  client : MqttClient
  log : List MqttEntry

/-- What an event adds to the log. -/
def entriesOf
    (kind : MqttEventKind) (state : ConnState) (actions : List MqttAction) :
    List MqttEntry :=
  .began kind state :: actions.map .did

/--
A client and the events that may happen to it.  A run ends with data from which
the client does not come back.
-/
def mqttSystem (client : MqttClient) : System MqttWorld MqttEvent where
  start := { client := client, log := [] }
  next world event :=
    if world.client.control.enabled event.kind then
      (world.client.handle event).map fun handled =>
        { client := handled.1
          log :=
            world.log ++
              entriesOf event.kind world.client.connState handled.2 }
    else
      none

/-- What an event does to the world. -/
theorem mqttSystem_next
    {client : MqttClient} {world after : MqttWorld} {event : MqttEvent}
    (taken : (mqttSystem client).next world event = some after) :
    world.client.control.enabled event.kind = true ∧
      ∃ actions,
        world.client.handle event = some (after.client, actions) ∧
          after.log =
            world.log ++
              entriesOf event.kind world.client.connState actions := by
  simp only [mqttSystem] at taken
  split at taken
  · next enabled =>
      rcases Option.map_eq_some_iff.mp taken with
        ⟨⟨middle, actions⟩, handled, rfl⟩
      exact ⟨enabled, actions, handled, rfl⟩
  · cases taken

/-- An invariant of the control and the log holds of every client that is reached. -/
theorem mqttSystem_invariant
    {client : MqttClient}
    {invariant : MqttControl → List MqttEntry → Prop}
    (initially : invariant client.control [])
    (kept :
      ∀ before kind after actions log,
        before.enabled kind = true → before.Step kind after actions →
          invariant before log →
            invariant after
              (log ++ entriesOf kind before.connState actions))
    {world : MqttWorld}
    (reached : (mqttSystem client).Reachable world) :
    invariant world.client.control world.log := by
  induction reached with
  | start =>
      exact initially
  | next _ taken induction =>
      rcases mqttSystem_next taken with ⟨enabled, actions, handled, log⟩
      rw [log]
      exact
        kept _ _ _ _ _ enabled (MqttClient.step_handle handled) induction

end EspFirmware
