import EspFirmware.Library.Custody
import EspFirmware.Library.EventLog
import EspFirmware.ServerWorld

/-!
# The memory of the server

The log lists what the server has done since the boot.  From it follows which
blocks were handed to the server, which of them it copied itself, and which
it freed.  An address stands for one allocation: the heap does not answer with
a block which somebody owns, so a block is handed over once, and static memory
is no block of the heap.

While `tcpparser_process_data` works on a command, other steps may be taken,
and the command is freed behind them.
-/

namespace EspFirmware

open Library

/-! ## Blocks -/

/-- The block which the data of a message is, if its receiver has to free it. -/
def blockOf (mem : Memtype) (data : Buffer) : List Nat :=
  if mem = .heapMem then [data.address] else []

/-- The blocks of messages. -/
def heapBlocks (messages : List Message) : List Nat :=
  messages.flatMap fun message => blockOf message.mem message.data

namespace Server

/-- The block of the fragmented message in progress. -/
def progress (server : Server) : List Nat :=
  if server.sending && server.moreFragments then
    blockOf server.sendingMem server.firstSendingChunk
  else
    []

/-- The blocks which the server has to free. -/
def blocks (server : Server) : Multiset Nat :=
  ↑(heapBlocks server.sendq.messages) + ↑server.progress +
    ↑(heapBlocks server.recvq.messages)

end Server

/-! ## The log -/

namespace Action

/-- The payload on the heap which `tcpserver_send` accepts. -/
def accepted : Action → List Nat
  | .push .sendq message true => blockOf message.mem message.data
  | _ => []

/-- The payload in static memory which `tcpserver_send` is given. -/
def static : Action → List Nat
  | .push .sendq message _ =>
      if message.mem = .staticMem then [message.data.address] else []
  | _ => []

/-- The copy which `tcpserver_recv_cb` allocates. -/
def copied : Action → List Nat
  | .osZalloc address => [address]
  | _ => []

/-- The copy which nobody owns when it could not be queued. -/
def leaked : Action → List Nat
  | .push .recvq message false => blockOf message.mem message.data
  | _ => []

/-- The block which is freed. -/
def freed : Action → List Nat
  | .osFree address => [address]
  | _ => []

/-- What an action does with blocks. -/
def heapEvents (action : Action) : List (HeapEvent Nat) :=
  (action.accepted ++ action.copied).map .take ++ action.freed.map .free

end Action

/-- What a log did with blocks. -/
def heapEvents (log : List Action) : List (HeapEvent Nat) :=
  log.flatMap Action.heapEvents

/-- The payloads on the heap which `tcpserver_send` accepted. -/
def acceptedBlocks (log : List Action) : List Nat :=
  log.flatMap Action.accepted

/-- The payloads in static memory which `tcpserver_send` was given. -/
def staticBlocks (log : List Action) : List Nat :=
  log.flatMap Action.static

/-- The copies which `tcpserver_recv_cb` allocated. -/
def copiedBlocks (log : List Action) : List Nat :=
  log.flatMap Action.copied

/-- The copies which could not be queued. -/
def leakedBlocks (log : List Action) : List Nat :=
  log.flatMap Action.leaked

/-- The blocks which were freed. -/
def freedBlocks (log : List Action) : List Nat :=
  log.flatMap Action.freed

/-! ## Runs with a log -/

/-- What a step makes the server do. -/
def World.effect (world : World) : Step → Effect
  | .send message allocated _ =>
      (tcpserverSend world.server message allocated).2
  | .recvCb conn pdata data allocated _ =>
      tcpserverRecvCb world.server conn pdata data allocated
  | .sentCb _ _ => tcpserverSentCb world.server
  | .task sig _ _ => serverTask world.server sig
  | .clear queue => clearQueue world.server queue
  | .disconnectCb _ => tcpserverDisconnectCb world.server
  | .init ipInfo listening _ _ =>
      (serverInitTcp world.server ipInfo listening).2
  | .spurious _ | .driverSent _ => { server := world.server, actions := [] }

/-- The world, and what its server has done since the boot. -/
structure LoggedWorld where
  world : World
  log : List Action

/-- What happens to the server, step by step or while a command is processed. -/
inductive LoggedStep where
  /-- One step of the world. -/
  | plain (step : Step)
  /--
  `server_task` handles `SERVER_SIG_RX`, and `tcpparser_process_data` takes
  the steps before it returns.
  -/
  | process (steps : List Step)

namespace LoggedWorld

/-- The world at boot. -/
def boot : LoggedWorld where
  world := .boot
  log := []

/-- The heap blocks which were handed to the server so far. -/
def named (state : LoggedWorld) : List Nat :=
  acceptedBlocks state.log ++ copiedBlocks state.log

/--
What is handed over is a block of its own: a payload on the heap, and a copy,
is nobody else's, and static memory is not on the heap.
-/
def Own (state : LoggedWorld) : Step → Prop
  | .send message allocated _ =>
      if message.mem = .heapMem then
        allocated = true →
          message.data.address ∉ state.named ∧
            message.data.address ∉ staticBlocks state.log
      else
        message.data.address ∉ state.named
  | .recvCb _ _ data _ _ =>
      ∀ address ∈ data,
        address ∉ state.named ∧ address ∉ staticBlocks state.log
  | .sentCb _ _ | .task _ _ _ | .spurious _ | .driverSent _ | .clear _
  | .disconnectCb _ | .init _ _ _ _ => True

instance (state : LoggedWorld) : (step : Step) → Decidable (state.Own step)
  | .send message allocated _ =>
      inferInstanceAs (Decidable (if message.mem = .heapMem then
        allocated = true →
          message.data.address ∉ state.named ∧
            message.data.address ∉ staticBlocks state.log
      else
        message.data.address ∉ state.named))
  | .recvCb _ _ data _ _ =>
      inferInstanceAs (Decidable (∀ address ∈ data,
        address ∉ state.named ∧ address ∉ staticBlocks state.log))
  | .sentCb _ _ | .task _ _ _ | .spurious _ | .driverSent _ | .clear _
  | .disconnectCb _ | .init _ _ _ _ => inferInstanceAs (Decidable True)

/-- Take one step, and write down what the server does. -/
def step (state : LoggedWorld) (step : Step) : Option LoggedWorld :=
  if state.Own step then
    (state.world.next step).map fun world =>
      { world
        log := state.log ++ (state.world.effect step).actions }
  else
    none

/-- The world between two steps of `tcpparser_process_data`. -/
def stepSystem : System LoggedWorld Step where
  start := boot
  next := step

/-- The first part of `SERVER_SIG_RX`, up to the call of `tcpparser_process_data`. -/
def enterProcess (message : Message) : List Action :=
  [.etsIntrLock, .unshift .recvq (some message), .etsIntrUnlock,
    .tcpparserProcessData message.data message.len message.conn]

/--
`SERVER_SIG_RX` with the steps which are taken while the message is
processed.
-/
def process
    (state : LoggedWorld) (message : Message) (steps : List Step) :
    Option LoggedWorld :=
  ((state.world.next (.task .rx true true)).bind fun world =>
    stepSystem.run { world, log := state.log ++ enterProcess message }
      steps).map fun after =>
    { after with log := after.log ++ freeHeapMem message.mem message.data }

/-- The step function. -/
def next (state : LoggedWorld) : LoggedStep → Option LoggedWorld
  | .plain step => state.step step
  | .process steps =>
      match state.world.server.recvq.unshift with
      | none => state.step (.task .rx true true)
      | some (message, _) => state.process message steps

end LoggedWorld

/-- The server with its log as a transition system. -/
def loggedSystem : System LoggedWorld LoggedStep where
  start := .boot
  next := LoggedWorld.next

/-! ## The log belongs to the runs of the server -/

theorem World.server_carryOut
    (accepted posted : Bool) (world : World) (effect : Effect) :
    (world.carryOut accepted posted effect).server = effect.server := by
  have kept (actions : List Action) (world : World) :
      (actions.foldl (World.perform accepted posted) world).server =
        world.server := by
    induction actions generalizing world with
    | nil =>
        rfl
    | cons action actions induction =>
        rw [List.foldl_cons, induction]
        rfl
  rw [carryOut, kept]

/-- The server is left as the effect of the step says. -/
theorem World.server_of_next
    {world after : World} {step : Step}
    (taken : world.next step = some after) :
    after.server = (world.effect step).server := by
  cases step with
  | send | recvCb | clear | disconnectCb | init =>
      rw [← Option.some.inj taken, server_carryOut]
      rfl
  | sentCb | task =>
      rw [next] at taken
      split at taken
      · rw [← Option.some.inj taken, server_carryOut]
        rfl
      · cases taken
  | spurious | driverSent =>
      rw [← Option.some.inj taken]
      rfl

namespace LoggedWorld

theorem step_eq_some
    {state after : LoggedWorld} {step : Step}
    (taken : state.step step = some after) :
    state.Own step ∧
      state.world.next step = some after.world ∧
      after.log = state.log ++ (state.world.effect step).actions := by
  rw [LoggedWorld.step] at taken
  split at taken
  · rename_i own
    rcases Option.map_eq_some_iff.mp taken with ⟨world, moved, same⟩
    subst same
    exact ⟨own, moved, rfl⟩
  · cases taken

/-- A command is taken out, processed and freed. -/
theorem process_eq_some
    {state after : LoggedWorld} {message : Message} {steps : List Step}
    (taken : state.process message steps = some after) :
    ∃ world inner,
      state.world.next (.task .rx true true) = some world ∧
        stepSystem.run
            { world, log := state.log ++ enterProcess message } steps =
          some inner ∧
        after =
          { inner with
            log := inner.log ++ freeHeapMem message.mem message.data } := by
  rcases Option.map_eq_some_iff.mp taken with ⟨inner, ran, same⟩
  rcases Option.bind_eq_some_iff.mp ran with ⟨world, moved, ran⟩
  exact ⟨world, inner, moved, ran, same.symm⟩

theorem reachable_of_run
    {state after : LoggedWorld} {steps : List Step}
    (reached : serverSystem.Reachable state.world)
    (ran : stepSystem.run state steps = some after) :
    serverSystem.Reachable after.world := by
  induction steps generalizing state with
  | nil =>
      cases ran
      exact reached
  | cons step steps induction =>
      rcases Option.bind_eq_some_iff.mp ran with ⟨middle, taken, ran⟩
      exact induction (reached.next (step_eq_some taken).2.1) ran

/-- The worlds of a run with a log are those of a run of the server. -/
theorem world_reached
    {state : LoggedWorld}
    (reached : loggedSystem.Reachable state) :
    serverSystem.Reachable state.world := by
  refine
    @System.Reachable.invariant _ _ loggedSystem
      (fun state => serverSystem.Reachable state.world) .start ?_ state reached
  intro state step after here taken
  cases step with
  | plain step =>
      exact here.next (step_eq_some taken).2.1
  | process steps =>
      simp only [loggedSystem, LoggedWorld.next] at taken
      have handled (world : World)
          (moved : state.world.next (.task .rx true true) = some world) :
          serverSystem.Reachable world :=
        @System.Reachable.next _ _ serverSystem _ _ (.task .rx true true)
          here moved
      split at taken
      · exact handled after.world (step_eq_some taken).2.1
      · rcases process_eq_some taken with ⟨world, inner, moved, ran, rfl⟩
        exact
          @reachable_of_run { world, log := _ } inner steps
            (handled world moved) ran

end LoggedWorld

end EspFirmware
