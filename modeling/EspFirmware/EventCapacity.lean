import EspFirmware.ServerSteps

/-!
# The event queue of the server task

`system_os_post` drops an event when the queue of `SERVER_TASK_QUEUE_LEN`
entries is full.  `tcpserver_recv_cb` pushes a command first and posts its
event afterwards, and does not look at the result of the post.  A received
command therefore keeps an event of its own in exactly the runs in which every
command finds room for its event, or a spare `SERVER_SIG_RX` event which a
clear has left behind.
-/

namespace EspFirmware

open EspFirmware.Library

/-- `system_os_post` succeeds when the event queue is not full. -/
def hasRoom (events : List Signal) : Bool :=
  decide (events.length < serverTaskQueueLen)

/-- Every outcome of `system_os_post` is that of the bounded queue. -/
def Step.bounded (world : World) : Step → Bool
  | .send _ _ posted => posted == hasRoom world.events
  | .recvCb _ _ _ _ posted => posted == hasRoom world.events
  | .sentCb _ posted => posted == hasRoom world.events
  | .task sig _ posted => posted == hasRoom (world.events.erase sig)
  | .spurious _ => false
  | _ => true

/-- The server with the event queue it declares. -/
def boundedSystem : System World Step :=
  serverSystem.restrict fun world step => step.bounded world = true

/-- Every received command has an event which will have it processed. -/
def NoneStranded (world : World) : Prop :=
  world.server.recvq.messages.length ≤ world.events.count .rx

/-- A command which is queued finds room for its event, or a spare event. -/
def FindsEvent (world : World) : Step → Prop
  | .recvCb _ _ data allocated _ =>
      data ≠ none → allocated = true →
        world.events.length < serverTaskQueueLen ∨
          world.server.recvq.messages.length < world.events.count .rx
  | _ => True

theorem NoneStranded.step
    {world after : World} {step : Step}
    (served : NoneStranded world)
    (bounded : step.bounded world = true)
    (taken : Taken world step after) :
    NoneStranded after ↔ FindsEvent world step := by
  unfold NoneStranded at served ⊢
  cases taken with
  | recvRefused conn pdata data allocated posted refused =>
      apply iff_of_true served
      intro copied nodeAllocated
      rcases refused with noCopy | noNode
      · exact (copied noCopy).elim
      · rw [nodeAllocated] at noNode
        cases noNode
  | recvQueued conn pdata address posted =>
      have outcome : posted = hasRoom world.events := by
        simpa [Step.bounded] using bounded
      simp only [List.length_append, List.length_singleton,
        List.count_append, count_posts, and_true, outcome, hasRoom,
        decide_eq_true_eq, FindsEvent, ne_eq, reduceCtorEq,
        not_false_eq_true, forall_const]
      split <;> omega
  | rxTaken accepted posted message recvq pending unshifted =>
      have positive : 0 < world.events.count .rx :=
        List.count_pos_iff.mpr pending
      apply iff_of_true _ True.intro
      rw [MessageQueue.unshift_messages unshifted,
        List.length_cons] at served
      change recvq.messages.length ≤ (world.events.erase .rx).count .rx
      rw [List.count_erase_self]
      omega
  | rxEmpty accepted posted pending empty =>
      apply iff_of_true _ True.intro
      simp [empty]
  | clearRecvq | initDone =>
      apply iff_of_true _ True.intro
      simp
  | doneIdle accepted posted pending noFragment =>
      apply iff_of_true _ True.intro
      have noneAdded :
          (if world.server.sendq.messages = [] then []
            else posts posted .tx).count Signal.rx = 0 := by
        split <;> simp
      simpa [noneAdded] using served
  | spurious => cases bounded
  | sendRefused | sendQueued | sent | txBusy | txEmpty | txShort | txLong
  | doneLast | doneMiddle | driverSent | clearSendq | disconnected
  | initRefused =>
      apply iff_of_true _ True.intro
      simpa using served

/--
In every run over the bounded event queue: in every state `recvq` holds at
most as many messages as `SERVER_SIG_RX` events are pending, exactly when
every command queued finds room for its event or a spare event.
-/
theorem received_commands_served_iff (steps : List Step) :
    boundedSystem.Always NoneStranded World.boot steps ↔
      boundedSystem.Each FindsEvent World.boot steps := by
  have bootServed : NoneStranded World.boot := Nat.zero_le _
  apply System.always_iff_each_of_step _ steps bootServed
  intro world step after served taken
  have allowed := System.restrict_next_eq_some.mp taken
  exact served.step allowed.1 (World.taken_of_next allowed.2)

/-- One received byte. -/
def oneByte : Segment where
  bytes := [0]
  bounded := by decide

/-- Twenty commands fill the event queue, and one more is received. -/
def burst : List Step :=
  List.replicate 20 (.recvCb 1 oneByte (some 1) true true) ++
    [.recvCb 1 oneByte (some 1) true false]

/-- The last command of the burst has no event. -/
theorem burst_strands_command :
    ¬ boundedSystem.Always NoneStranded World.boot burst := by
  intro always
  have counts :
      (boundedSystem.run World.boot burst).map
          (fun world =>
            (world.server.recvq.messages.length,
              world.events.count .rx)) =
        some (21, 20) := by
    rfl
  rcases always.last_of_map counts with ⟨world, equal, served⟩
  rcases Prod.mk.inj equal with ⟨messages, events⟩
  unfold NoneStranded at served
  omega

end EspFirmware
