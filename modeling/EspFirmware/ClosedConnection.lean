import EspFirmware.DeviceCamera

/-!
# Nothing is sent to a closed connection

The disconnect and reconnect callbacks only print.  A connection which is
closed while the server or the camera still holds it is passed to
`espconn_sent` later on.  Where neither of them holds it, it never is.
-/

namespace EspFirmware

open Library

/-! ## Connections which the server holds -/

/--
A message of the connection waits in a queue, or fragments of one have not
been sent.
-/
def Server.Holds (server : Server) (conn : Conn) : Prop :=
  (∃ message ∈ server.recvq.messages, message.conn = conn) ∨
    (∃ message ∈ server.sendq.messages, message.conn = conn) ∨
      server.sending = true ∧ server.moreFragments = true ∧
        server.sendingConn = conn

instance (server : Server) (conn : Conn) : Decidable (server.Holds conn) :=
  inferInstanceAs (Decidable (_ ∨ _ ∨ _))

/-- The server holds only connections which are allowed. -/
def Server.HoldsOnly (allowed : Conn → Prop) (server : Server) : Prop :=
  ∀ conn, server.Holds conn → allowed conn

/-- The step brings in no other connection. -/
def Step.Brings (allowed : Conn → Prop) : Step → Prop
  | .send message _ _ => allowed message.conn
  | .recvCb conn _ _ _ _ => allowed conn
  | .task _ _ _ | .sentCb _ _ | .spurious _ | .driverSent _ | .clear _
  | .disconnectCb _ | .init _ _ _ _ => True

section

variable
    {allowed : Conn → Prop}

namespace Server.HoldsOnly

variable {server : Server}

theorem recvq
    (only : server.HoldsOnly allowed) :
    ∀ message ∈ server.recvq.messages, allowed message.conn :=
  fun message member => only _ (Or.inl ⟨message, member, rfl⟩)

theorem sendq
    (only : server.HoldsOnly allowed) :
    ∀ message ∈ server.sendq.messages, allowed message.conn :=
  fun message member => only _ (Or.inr (Or.inl ⟨message, member, rfl⟩))

theorem fragment
    (only : server.HoldsOnly allowed)
    (busy : server.sending = true)
    (more : server.moreFragments = true) :
    allowed server.sendingConn :=
  only _ (Or.inr (Or.inr ⟨busy, more, rfl⟩))

/-- It is enough to look at the queues and the fragments. -/
theorem intro
    (recvq : ∀ message ∈ server.recvq.messages, allowed message.conn)
    (sendq : ∀ message ∈ server.sendq.messages, allowed message.conn)
    (fragment :
      server.sending = true → server.moreFragments = true →
        allowed server.sendingConn) :
    server.HoldsOnly allowed := by
  rintro conn (⟨message, member, rfl⟩ | ⟨message, member, rfl⟩ |
    ⟨busy, more, rfl⟩)
  · exact recvq message member
  · exact sendq message member
  · exact fragment busy more

end Server.HoldsOnly

/-- The calls which were made since some state are for allowed connections. -/
def CallsOnly (allowed : Conn → Prop) (before after : World) : Prop :=
  ∃ calls,
    after.history.calls = before.history.calls ++ calls ∧
      ∀ call ∈ calls, allowed call.conn

theorem CallsOnly.none
    {before after : World}
    (same : after.history.calls = before.history.calls) :
    CallsOnly allowed before after :=
  ⟨[], by rw [same, List.append_nil], nofun⟩

theorem CallsOnly.one
    {before after : World} {call : Fragment}
    (equal : after.history.calls = before.history.calls ++ [call])
    (right : allowed call.conn) :
    CallsOnly allowed before after := by
  refine ⟨[call], equal, ?_⟩
  intro other member
  rw [List.mem_singleton.mp member]
  exact right

theorem CallsOnly.trans
    {first second third : World}
    (left : CallsOnly allowed first second)
    (right : CallsOnly allowed second third) :
    CallsOnly allowed first third := by
  rcases left with ⟨early, earlyEqual, earlyRight⟩
  rcases right with ⟨late, lateEqual, lateRight⟩
  refine ⟨early ++ late, ?_, ?_⟩
  · rw [lateEqual, earlyEqual, List.append_assoc]
  · intro call member
    rcases List.mem_append.mp member with before | after
    · exact earlyRight call before
    · exact lateRight call after

/-- A step sends to connections which the server holds, and to no others. -/
theorem Taken.holdsOnly
    {world after : World} {step : Step}
    (only : world.server.HoldsOnly allowed)
    (brings : step.Brings allowed)
    (taken : Taken world step after) :
    after.server.HoldsOnly allowed ∧ CallsOnly allowed world after := by
  have received := only.recvq
  have queued := only.sendq
  cases taken with
  | sendRefused | recvRefused | sent | rxEmpty | txBusy | txEmpty
  | spurious | driverSent | disconnected | initRefused =>
      exact ⟨only, .none rfl⟩
  | sendQueued message posted =>
      refine ⟨.intro received ?_ only.fragment, .none rfl⟩
      intro other member
      rcases List.mem_append.mp member with old | new
      · exact queued other old
      · rw [List.mem_singleton.mp new]
        exact brings
  | recvQueued conn pdata address posted =>
      refine ⟨.intro ?_ queued only.fragment, .none rfl⟩
      intro other member
      rcases List.mem_append.mp member with old | new
      · exact received other old
      · rw [List.mem_singleton.mp new]
        exact brings
  | rxTaken accepted posted message recvq pending taken =>
      have shape := MessageQueue.unshift_messages taken
      refine ⟨.intro ?_ queued only.fragment, .none rfl⟩
      intro other member
      exact received other (shape ▸ List.mem_cons_of_mem _ member)
  | txShort accepted posted message sendq pending idle taken short =>
      have shape := MessageQueue.unshift_messages taken
      refine ⟨.intro received ?_ nofun, .one rfl ?_⟩
      · intro other member
        exact queued other (shape ▸ List.mem_cons_of_mem _ member)
      · exact queued message (shape ▸ List.mem_cons_self)
  | txLong accepted posted message sendq pending idle taken long =>
      have shape := MessageQueue.unshift_messages taken
      have here := queued message (shape ▸ List.mem_cons_self)
      refine ⟨.intro received ?_ fun _ _ => here, .one rfl here⟩
      intro other member
      exact queued other (shape ▸ List.mem_cons_of_mem _ member)
  | doneLast accepted posted pending busy more last =>
      exact ⟨.intro received queued nofun, .one rfl (only.fragment busy more)⟩
  | doneMiddle accepted posted pending busy more notLast =>
      exact
        ⟨.intro received queued fun _ _ => only.fragment busy more,
          .one rfl (only.fragment busy more)⟩
  | doneIdle accepted posted pending noFragment =>
      exact ⟨.intro received queued nofun, .none rfl⟩
  | clearSendq =>
      exact ⟨.intro received nofun only.fragment, .none rfl⟩
  | clearRecvq =>
      exact ⟨.intro nofun queued only.fragment, .none rfl⟩
  | initDone =>
      exact ⟨.intro nofun nofun only.fragment, .none rfl⟩

/-- The same over several steps. -/
theorem holdsOnly_of_run
    {world after : World} {steps : List Step}
    (only : world.server.HoldsOnly allowed)
    (brings : ∀ step ∈ steps, step.Brings allowed)
    (ran : serverSystem.run world steps = some after) :
    after.server.HoldsOnly allowed ∧ CallsOnly allowed world after := by
  induction steps generalizing world with
  | nil =>
      cases ran
      exact ⟨only, .none rfl⟩
  | cons step rest induction =>
      simp only [System.run, Option.bind_eq_some_iff] at ran
      rcases ran with ⟨middle, taken, ranRest⟩
      have here :=
        (World.taken_of_next taken).holdsOnly only
          (brings step List.mem_cons_self)
      have later :=
        induction here.1 (fun step member => brings step (.tail _ member))
          ranRest
      exact ⟨later.1, here.2.trans later.2⟩

end

/-! ## Steps of commands -/

/-- A command sends only over its connection. -/
theorem CommandEffect.brings
    {allowed : Conn → Prop} {conn : Conn} {answers : RxAnswers}
    (right : allowed conn)
    {effect : CommandEffect} {step : Step}
    (member : step ∈ effect.serverSteps conn answers) :
    step.Brings allowed := by
  cases effect with
  | sendReply text =>
      simp only [serverSteps] at member
      split at member
      · cases member
      · rw [List.mem_singleton.mp member]
        exact right
  | network action =>
      cases action with
      | staServerClose | apServerClose =>
          simp only [serverSteps, List.mem_cons, List.not_mem_nil,
            or_false] at member
          rcases member with rfl | rfl
          · trivial
          · trivial
      | _ =>
          cases member
  | apServerInit =>
      rw [List.mem_singleton.mp member]
      trivial
  | temperatureGetTemperature | lightingGetLight =>
      simp only [serverSteps] at member
      split at member
      · rw [List.mem_singleton.mp member]
        trivial
      · cases member
  | config | locatorSetHighPower | locatorSetLowPower | heaterTurnOff
  | heaterTurnOn | lightingDim =>
      cases member

/-- Pictures are sent to their requesters. -/
theorem brings_pictureSteps
    {allowed : Conn → Prop} {completed : List Delivery}
    (right : ∀ picture ∈ completed, allowed picture.conn)
    {posted : List Bool} {step : Step}
    (member : step ∈ pictureSteps completed posted) :
    step.Brings allowed := by
  induction completed generalizing posted with
  | nil =>
      cases member
  | cons picture rest induction =>
      rcases List.mem_cons.mp member with rfl | later
      · exact right picture List.mem_cons_self
      · exact
          induction (fun picture member => right picture (.tail _ member))
            later

/-! ## The device -/

/-- Nothing is late if the connections are open. -/
theorem DeviceLog.lateCalls_call
    (log : DeviceLog) {conns : List Conn}
    (opened : ∀ conn ∈ conns, conn ∉ log.closed) :
    (log.call conns).lateCalls = log.lateCalls := by
  have none : conns.filter (· ∈ log.closed) = [] := by
    rw [List.filter_eq_nil_iff]
    intro conn member
    simpa using opened conn member
  rw [call, none, List.append_nil]

/-- A closed connection is held nowhere, and was never called. -/
structure ConnsOpen (device : Device) : Prop where
  held :
    device.world.server.HoldsOnly fun conn => conn ∉ device.log.closed
  aims :
    device.camera.uart.etsIntr = true →
      device.camera.Aims fun _ conn => conn ∉ device.log.closed
  calls : device.log.lateCalls = []

namespace ConnsOpen

variable {device base after : Device} {steps : List Step}

/-- The server takes steps which bring in open connections only. -/
theorem served
    (opened : ConnsOpen base)
    (brings : ∀ step ∈ steps, step.Brings fun conn => conn ∉ base.log.closed)
    (served : Device.Served base steps after) :
    ConnsOpen after := by
  rcases holdsOnly_of_run opened.held brings served.ran with
    ⟨held, calls, equal, right⟩
  have late :
      (base.log.call
        ((after.world.history.calls.drop
          base.world.history.calls.length).map
            Fragment.conn)).lateCalls = base.log.lateCalls := by
    apply DeviceLog.lateCalls_call
    rw [equal, List.drop_left]
    intro conn member
    rcases List.mem_map.mp member with ⟨call, here, rfl⟩
    exact right call here
  rw [served.after_eq]
  exact ⟨held, opened.aims, late.trans opened.calls⟩

/-- The camera goes on, and sends its pictures. -/
theorem shoot
    {camera : Camera}
    (opened : ConnsOpen device)
    (aimed :
      device.camera.Aimed (fun _ conn => conn ∉ device.log.closed)
          device.camera.deliveries →
        camera.Aimed (fun _ conn => conn ∉ device.log.closed)
          device.camera.deliveries) :
    ConnsOpen (device.shoot camera) ∧
      ∀ posted,
        ∀ step ∈ pictureSteps (completedPictures device.camera camera) posted,
          step.Brings fun conn => conn ∉ device.log.closed := by
  have aimed := aimed ⟨opened.aims, .start _ device.camera⟩
  have right := (completedPictures_eq aimed.delivers).2
  exact
    ⟨⟨opened.held, aimed.aims, opened.calls⟩,
      fun _ _ member => brings_pictureSteps right member⟩

/-- A connection is closed which nobody holds. -/
theorem close
    {conn : Conn}
    (opened : ConnsOpen device)
    (unheld : ¬device.world.server.Holds conn)
    (unaimed :
      device.camera.uart.etsIntr = true →
        device.camera.uart.current.recvCb = .cameraPictureRecvDone →
          device.camera.replyConn ≠ conn) :
    ConnsOpen
      { device with
        log :=
          { device.log with closed := device.log.closed ++ [conn] } } where
  held := by
    intro other held closed
    rcases List.mem_append.mp closed with old | new
    · exact opened.held other held old
    · rw [List.mem_singleton.mp new] at held
      exact unheld held
  aims := by
    intro on index installed picture closed
    rcases List.mem_append.mp closed with old | new
    · exact opened.aims on index installed picture old
    · apply unaimed on
      · rw [Uart.current, installed]
        exact picture
      · exact List.mem_singleton.mp new
  calls := opened.calls

end ConnsOpen

/-! ### A command is carried out -/

theorem ConnsOpen.execute
    {device : Device} {received : ReceivedCommand} {answers : RxAnswers}
    {run : CommandRun}
    (opened : ConnsOpen device)
    (here : received.conn ∉ device.log.closed)
    (ran :
      runCommand device.flash device.camera received.conn received.command
        answers.input = some run) :
    ConnsOpen (device.execute received answers run) ∧
      ∀ step ∈ device.commandSteps received.conn answers run,
        step.Brings fun conn => conn ∉ device.log.closed := by
  have camera := commandCamera_of_run ran
  have aimed :=
    camera.aimed
      ⟨opened.aims, .start (fun _ conn => conn ∉ device.log.closed) _⟩
      (fun _ _ _ => here)
  have right := (completedPictures_eq aimed.delivers).2
  refine ⟨⟨opened.held, aimed.aims, ?_⟩, ?_⟩
  · refine Eq.trans (DeviceLog.lateCalls_call _ ?_) opened.calls
    intro conn member
    split at member
    · rw [List.mem_singleton.mp member]
      exact here
    · cases member
  · intro step member
    rcases List.mem_append.mp member with picture | effect
    · exact brings_pictureSteps right picture
    · rcases List.mem_flatMap.mp effect with ⟨action, -, step⟩
      exact CommandEffect.brings here step

/-! ### Runs -/

/-- A connection which is closed is held neither by the server nor by the camera. -/
def ClosesUnheld (device : Device) : DeviceStep → Prop
  | .disconnectCb conn =>
      ¬device.world.server.Holds conn ∧
        (device.camera.uart.etsIntr = true →
          device.camera.uart.current.recvCb = .cameraPictureRecvDone →
            device.camera.replyConn ≠ conn)
  | _ => True

instance (device : Device) (step : DeviceStep) :
    Decidable (ClosesUnheld device step) := by
  unfold ClosesUnheld
  split <;> infer_instance

theorem connsOpen_next
    {device after : Device} {step : DeviceStep}
    (opened : ConnsOpen device)
    (unheld : ClosesUnheld device step)
    (taken : device.next step = some after) :
    ConnsOpen after := by
  cases Device.taken_of_next taken with
  | recvCb new served =>
      apply opened.served _ served
      simpa [Step.Brings] using new
  | @rxRun _ answers message recvq world command run dequeued task parsed
      ran served =>
      have member : message ∈ device.world.server.recvq.messages := by
        rw [MessageQueue.unshift_messages dequeued]
        exact List.mem_cons_self
      have here := opened.held.recvq message member
      have held :=
        (holdsOnly_of_run opened.held (by simp [Step.Brings]) task).1
      have taken : ConnsOpen { device with world } :=
        ⟨held, opened.aims, opened.calls⟩
      have executed :=
        @ConnsOpen.execute _ { conn := message.conn, command } answers _
          taken here ran
      exact executed.1.served executed.2 served
  | disconnectCb served =>
      apply (opened.close unheld.1 unheld.2).served _ served
      simp [Step.Brings]
  | @initDone _ answers camera steps reset inits served =>
      have reset := Camera.resetIn_cases reset
      have shot := opened.shoot reset.aimed
      have driven :
          ConnsOpen
            { device.shoot camera with
              drivers :=
                device.drivers.performAll
                  (configEffects
                    (DeviceConfig.deviceInit device.flash
                      answers.init).trace) } :=
        ⟨shot.1.held, shot.1.aims, shot.1.calls⟩
      apply driven.served _ served
      intro step member
      rcases inits step member with ⟨_, _, _, _, rfl⟩
      trivial
  | @byte _ arrival posted served =>
      have shot := opened.shoot fun aimed => aimed.receive arrival
      exact shot.1.served (shot.2 [posted]) served
  | unlockTimer armed =>
      have aimed :=
        (Camera.Aimed.mk opened.aims (.start _ device.camera)).withFields
          device.camera.previousRxbuffer device.camera.busy false
          device.camera.collided
      exact ⟨opened.held, aimed.cancelled.aims, opened.calls⟩
  | pwm started =>
      exact ⟨opened.held, opened.aims, opened.calls⟩
  | sentCb served | rxEmpty served | rxIgnored _ served _ | tx served
  | txDone served | spurious served | serverClose served
  | serverInit served =>
      apply opened.served _ served
      simp [Step.Brings]

/--
Along every run in which a connection is closed only while neither the server
nor the camera holds it, no closed connection is passed to `espconn_sent`.
-/
theorem closed_not_called_if_unheld
    (flash : Flash) (steps : List DeviceStep)
    (unheld : (deviceSystem flash).Each ClosesUnheld (.boot flash) steps) :
    (deviceSystem flash).Always (fun device => device.log.lateCalls = [])
      (.boot flash) steps := by
  have start : ConnsOpen (Device.boot flash) :=
    ⟨.intro nofun nofun nofun, nofun, rfl⟩
  apply unheld.always (fun _ opened => opened.calls) _ start
  intro device step after opened met taken
  exact connsOpen_next opened met taken

/-! ### A client which does not wait for its reply -/

/-- A `Mac Get` arrives, and the reply to it is queued. -/
def macGetArrives (conn : Conn) : List DeviceStep :=
  [.recvCb conn (.ofText "Mac Get" (by decide)) (some 1) true true,
    .rx .served]

theorem closed_not_called_if_unheld_twoClients :
    (deviceSystem fun _ => 0xFF).Always
      (fun device => device.log.lateCalls = []) (.boot fun _ => 0xFF)
      (macGetArrives 1 ++
        [.tx true true, .sentCb 1 true, .txDone true true,
          .disconnectCb 1] ++
          macGetArrives 2 ++ [.tx true true]) :=
  closed_not_called_if_unheld _ _ (by decide +kernel)

/-- The reply is sent after its connection is closed. -/
theorem reply_to_closed_connection :
    ¬∀ flash steps,
      (deviceSystem flash).Always (fun device => device.log.lateCalls = [])
        (.boot flash) steps := by
  intro always
  have ran :
      ((deviceSystem fun _ => 0xFF).run (.boot fun _ => 0xFF)
          (macGetArrives 1 ++ [.disconnectCb 1, .tx true true])).map
          (fun device => device.log.lateCalls) =
        some [1] := by
    decide +kernel
  rcases (always _ _).last_of_map ran with ⟨device, observed, none⟩
  rw [observed] at none
  cases none

end EspFirmware
