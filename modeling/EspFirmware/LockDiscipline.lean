import EspFirmware.Library.CriticalSection
import EspFirmware.Replies

/-!
# Where the queues are accessed

The receive interrupt passes a picture which is complete to `tcpserver_send`,
between any two actions of other code.  The queues and the flag `sending` are
meant to be accessed between `ets_intr_lock` and `ets_intr_unlock`.  Only the
functions which clear the queues do not.
-/

namespace EspFirmware

open Library

/-! ## Pushes in an interrupt -/

namespace Camera

/-- Bytes may come which make the receive interrupt push a picture. -/
def CanPush (camera : Camera) : Prop :=
  ∃ arrivals, (camera.receiveAll arrivals).deliveries ≠ camera.deliveries

/-- A picture is pushed by the interrupt while it is received into its buffer. -/
theorem canPush_iff (camera : Camera) :
    camera.CanPush ↔
      camera.uart.listening = true ∧
        camera.uart.current.recvCb = .cameraPictureRecvDone := by
  constructor
  · rintro ⟨arrivals, more⟩
    constructor
    · by_contra deaf
      rw [receiveAll_of_not_listening (Bool.not_eq_true _ ▸ deaf)] at more
      exact more rfl
    · cases callback : camera.uart.current.recvCb with
      | cameraPictureRecvDone =>
          rfl
      | null =>
          rw [receiveAll_null callback] at more
          exact absurd rfl more
  · rintro ⟨listens, picture⟩
    cases buffer : camera.uart.buffer with
    | none =>
        rw [Uart.current, buffer] at picture
        cases picture
    | some index =>
        refine
          ⟨List.replicate camera.uart.remaining { byte := 0, queued := true },
            ?_⟩
        have completes :=
          receiveAll_completes listens picture buffer
            (List.length_replicate.ge :
              camera.uart.remaining ≤
                (List.replicate camera.uart.remaining
                  ({ byte := 0, queued := true } : Arrival)).length)
        rcases completes.completed with ⟨last, -, after⟩
        rw [after]
        simp [pictureRecvDone]

end Camera

/-! ## The discipline -/

/-- What an action of the server means for the interrupt lock. -/
def Action.lockRole : Action → LockRole
  | .etsIntrLock => .acquire
  | .etsIntrUnlock => .release
  | .push _ _ _ | .unshift _ _ | .clear _ | .isEmpty _ | .readSending
  | .writeSending _ => .inside
  | .espconnSent _ _ _ | .tcpparserProcessData _ _ _ => .outside
  | .osZalloc _ | .osFree _ | .systemOsTask | .systemOsPost _ => .free

/--
Accesses which an interrupt can disturb are in critical sections, nothing is
sent or processed in one, and none is left open.
-/
structure LockDiscipline (disturbed : Prop) (trace : List Action) :
    Prop where
  guarded : disturbed → Guarded Action.lockRole trace
  excluded : Excluded Action.lockRole trace
  released : ¬ Held Action.lockRole trace

/-- The functions of the server which the SDK or other code calls. -/
inductive EntryPoint where
  | serverTask (sig : Signal)
  | tcpserverRecvCb (conn : Conn) (pdata : Segment) (data : Option Nat)
      (allocated : Bool)
  | tcpserverSend (message : Message) (allocated : Bool)
  | serverInitTcp (ipInfo listening : Bool)
  | staServerClose
  | apServerClose

namespace EntryPoint

/-- A call. -/
def effect (server : Server) : EntryPoint → Effect
  | serverTask sig => EspFirmware.serverTask server sig
  | tcpserverRecvCb conn pdata data allocated =>
      EspFirmware.tcpserverRecvCb server conn pdata data allocated
  | tcpserverSend message allocated =>
      (EspFirmware.tcpserverSend server message allocated).2
  | serverInitTcp ipInfo listening =>
      (EspFirmware.serverInitTcp server ipInfo listening).2
  | staServerClose => EspFirmware.staServerClose server
  | apServerClose => EspFirmware.apServerClose server

/-- The call clears the queues. -/
def Clears : EntryPoint → Prop
  | serverInitTcp ipInfo _ => ipInfo = true
  | staServerClose | apServerClose => True
  | serverTask _ | tcpserverRecvCb _ _ _ _ | tcpserverSend _ _ => False

end EntryPoint

/-! ## Calls which keep it -/

@[simp]
theorem holdLock_freeHeapMem (held : Bool) (mem : Memtype) (data : Buffer) :
    holdLock Action.lockRole held (freeHeapMem mem data) = some held := by
  cases mem with
  | heapMem =>
      rfl
  | staticMem =>
      rfl

theorem holdLock_serverTask (server : Server) (sig : Signal) :
    holdLock Action.lockRole false (serverTask server sig).actions =
      some false := by
  cases sig with
  | rx =>
      simp only [serverTask, Server.taskRx]
      split
      · rw [holdLock_append]
        exact holdLock_freeHeapMem false _ _
      · rfl
  | tx =>
      simp only [serverTask, Server.taskTx]
      split
      · split
        · split
          · rw [holdLock_append]
            exact holdLock_freeHeapMem false _ _
          · rfl
        · rfl
      · rfl
  | txDone =>
      simp only [serverTask, Server.taskTxDone]
      split
      · split
        · rw [List.append_assoc, holdLock_append]
          exact
            (holdLock_append false _ _).trans
              (congrArg (Option.bind · _) (holdLock_freeHeapMem false _ _))
        · rfl
      · split
        · rfl
        · rfl

theorem holdLock_tcpserverRecvCb
    (server : Server) (conn : Conn) (pdata : Segment)
    (data : Option Nat) (allocated : Bool) :
    holdLock Action.lockRole false
        (tcpserverRecvCb server conn pdata data allocated).actions =
      some false := by
  cases data with
  | none =>
      rfl
  | some address =>
      simp only [tcpserverRecvCb]
      split
      · rfl
      · rfl

theorem holdLock_tcpserverSend
    (server : Server) (message : Message) (allocated : Bool) :
    holdLock Action.lockRole false
        (tcpserverSend server message allocated).2.actions =
      some false := by
  rw [tcpserverSend]
  split
  · rfl
  · rfl

/-- Whoever does not clear the queues keeps the discipline. -/
theorem holdLock_of_not_clears
    {server : Server} {entry : EntryPoint}
    (keeps : ¬ entry.Clears) :
    holdLock Action.lockRole false (entry.effect server).actions =
      some false := by
  cases entry with
  | serverTask sig =>
      exact holdLock_serverTask server sig
  | tcpserverRecvCb conn pdata data allocated =>
      exact holdLock_tcpserverRecvCb server conn pdata data allocated
  | tcpserverSend message allocated =>
      exact holdLock_tcpserverSend server message allocated
  | serverInitTcp ipInfo listening =>
      cases ipInfo with
      | false =>
          rfl
      | true =>
          exact absurd rfl keeps
  | staServerClose | apServerClose =>
      exact absurd trivial keeps

/-! ## Calls which clear the queues -/

theorem lockRole_freeHeapMem
    {mem : Memtype} {data : Buffer} {action : Action}
    (member : action ∈ freeHeapMem mem data) :
    action.lockRole = .free := by
  rw [freeHeapMem] at member
  split at member
  · cases List.mem_singleton.mp member
    rfl
  · cases member

/-- Clearing takes no lock and sends nothing. -/
theorem lockRole_clearQueue
    {server : Server} {queue : QueueName} {action : Action}
    (member : action ∈ (clearQueue server queue).actions) :
    action.lockRole = .free ∨ action = .clear queue := by
  cases queue with
  | sendq | recvq =>
      simp only [clearQueue, List.mem_append, List.mem_flatMap,
        List.mem_singleton] at member
      rcases member with ⟨message, -, freed⟩ | rfl
      · exact Or.inl (lockRole_freeHeapMem freed)
      · exact Or.inr rfl

/-- What the functions do which clear the queues. -/
theorem lockRole_of_clears
    {server : Server} {entry : EntryPoint} {action : Action}
    (clears : entry.Clears)
    (member : action ∈ (entry.effect server).actions) :
    action.lockRole = .free ∨ ∃ queue, action = .clear queue := by
  have closing :
      action ∈
          ((clearQueue server .sendq).andThen (clearQueue · .recvq)).actions →
        action.lockRole = .free ∨ ∃ queue, action = .clear queue := by
    intro member
    rcases List.mem_append.mp member with first | second
    · exact (lockRole_clearQueue first).imp_right fun same => ⟨_, same⟩
    · exact (lockRole_clearQueue second).imp_right fun same => ⟨_, same⟩
  cases entry with
  | serverTask | tcpserverRecvCb | tcpserverSend =>
      exact clears.elim
  | serverInitTcp ipInfo listening =>
      cases clears
      rcases List.mem_append.mp member with cleared | registered
      · exact closing cleared
      · cases List.mem_singleton.mp registered
        exact Or.inl rfl
  | staServerClose | apServerClose =>
      exact closing member

/-- The queue to which an interrupt pushes is among those which are cleared. -/
theorem clear_sendq_mem_of_clears
    {entry : EntryPoint}
    (server : Server)
    (clears : entry.Clears) :
    .clear .sendq ∈ (entry.effect server).actions := by
  have closing :
      .clear .sendq ∈
        ((clearQueue server .sendq).andThen
          (clearQueue · .recvq)).actions := by
    simp [Effect.andThen, clearQueue]
  cases entry with
  | serverTask | tcpserverRecvCb | tcpserverSend =>
      exact clears.elim
  | serverInitTcp ipInfo listening =>
      cases clears
      exact List.mem_append_left _ closing
  | staServerClose | apServerClose =>
      exact closing

/-- Nothing which clears the queues is in a critical section. -/
theorem unguarded_of_clears
    {entry : EntryPoint}
    (server : Server)
    (clears : entry.Clears) :
    ¬ Guarded Action.lockRole (entry.effect server).actions ∧
      Excluded Action.lockRole (entry.effect server).actions ∧
        ¬ Held Action.lockRole (entry.effect server).actions := by
  have roles : ∀ action ∈ (entry.effect server).actions,
      action.lockRole = .free ∨ action.lockRole = .inside := by
    intro action member
    rcases lockRole_of_clears clears member with free | ⟨queue, rfl⟩
    · exact Or.inl free
    · exact Or.inr rfl
  have never : ∀ action ∈ (entry.effect server).actions,
      action.lockRole ≠ .acquire := by
    intro action member
    rcases roles action member with role | role
    · simp [role]
    · simp [role]
  refine ⟨?_, excluded_of_forall ?_, not_held_of_forall never⟩
  · rw [guarded_iff_of_forall never]
    intro outside
    exact outside _ (clear_sendq_mem_of_clears server clears) rfl
  · intro action member
    rcases roles action member with role | role
    · simp [role]
    · simp [role]

/-! ## The discipline of the server -/

/--
No call leaves the lock held, or sends or processes anything under it.  The
accesses to the queues and to the flag are in critical sections exactly when
the call does not clear the queues while an interrupt may push a picture.
-/
theorem lock_discipline_iff
    (camera : Camera) (server : Server) (entry : EntryPoint) :
    LockDiscipline camera.CanPush (entry.effect server).actions ↔
      ¬ (entry.Clears ∧ camera.CanPush) := by
  by_cases clears : entry.Clears
  · rcases unguarded_of_clears server clears with
      ⟨unguarded, excluded, released⟩
    constructor
    · rintro discipline ⟨-, pushes⟩
      exact unguarded (discipline.guarded pushes)
    · intro quiet
      exact
        ⟨fun pushes => absurd ⟨clears, pushes⟩ quiet, excluded, released⟩
  · rcases holdLock_eq_some_false_iff.mp
        (holdLock_of_not_clears clears) with ⟨guarded, excluded, released⟩
    exact
      iff_of_true ⟨fun _ => guarded, excluded, released⟩ fun both =>
        clears both.1

/-! ### A `Connect` command while a picture is received -/

/-- The camera is initialised, and a picture is requested. -/
def pictureRequested : List DeviceStep :=
  .initDone (initDoneAnswers true (answered [0x76, 0x00, 0x26, 0x00])) ::
    getPictureArrives 1 (pictureInput 0 [] [])

/-- The access point is closed while the interrupt receives a picture. -/
theorem closing_disturbs_queue :
    ¬∀ flash device entry,
      (deviceSystem flash).Reachable device →
        LockDiscipline device.camera.CanPush
          (EntryPoint.effect device.world.server entry).actions := by
  intro keeps
  have ran :
      ((deviceSystem fastCameraFlash).run (.boot fastCameraFlash)
          pictureRequested).map
          (fun device =>
            (device.camera.uart.listening,
              device.camera.uart.current.recvCb)) =
        some (true, .cameraPictureRecvDone) := by
    decide +kernel
  rcases Option.map_eq_some_iff.mp ran with ⟨device, ranTo, observed⟩
  rw [Prod.mk.injEq] at observed
  have pushes := device.camera.canPush_iff.mpr observed
  have reached :=
    @System.Reachable.run _ _ (deviceSystem fastCameraFlash) _ _ _ .start ranTo
  have discipline := keeps fastCameraFlash device .apServerClose reached
  exact
    (@unguarded_of_clears .apServerClose device.world.server trivial).1
      (discipline.guarded pushes)

end EspFirmware
