import EspFirmware.SendCompletion

/-!
# Recovery of the sender

When no completion is owed any more, only `sending` decides whether the next
message is sent.  The flag is set before `espconn_sent` is called and cleared
by a completion or by the last fragment, and by nothing else: neither a failed
call, nor a disconnect, nor `server_init_tcp` resets it.  So the sender
recovers in exactly the runs in which no step takes away the last completion
owed while `sending` stays set.
-/

namespace EspFirmware

open EspFirmware.Library

/-- The length `server_task` hands to `espconn_sent` first. -/
def firstLen (message : Message) : UInt16 :=
  if message.len ≤ tcpMaxPacketSize then message.len else tcpMaxPacketSize

/--
Whatever is pushed next with `tcpserver_send`, its `SERVER_SIG_TX` event hands
the oldest queued message to `espconn_sent`; on an empty queue, that is the
message pushed.
-/
def HandsOver (server : Server) : Prop :=
  ∀ message : Message,
    ∃ oldest rest,
      server.sendq.messages ++ [message] = oldest :: rest ∧
        Action.espconnSent oldest.conn (.start oldest.data)
            (firstLen oldest) ∈
          (serverTask (tcpserverSend server message true).2.server
            .tx).actions

/-- Once no completion is owed, the next message goes out. -/
def Recovered (world : World) : Prop :=
  world.completions = 0 →
    world.server.sending = false ∧ HandsOver world.server

theorem handsOver_of_idle
    {server : Server}
    (idle : server.sending = false) :
    HandsOver server := by
  intro message
  have nonempty : server.sendq.messages ++ [message] ≠ [] := by simp
  rcases List.exists_cons_of_ne_nil nonempty with ⟨oldest, rest, equal⟩
  refine ⟨oldest, rest, equal, ?_⟩
  simp only [tcpserverSend, MessageQueue.push, if_true, serverTask,
    Server.taskTx, idle, MessageQueue.unshift, equal]
  by_cases short : oldest.len ≤ tcpMaxPacketSize
  · simp [short, firstLen]
  · simp [short, firstLen]

theorem recovered_iff (world : World) :
    Recovered world ↔
      (world.completions = 0 → world.server.sending = false) := by
  constructor
  · intro recovered none
    exact (recovered none).1
  · intro idle none
    exact ⟨idle none, handsOver_of_idle (idle none)⟩

/--
The step takes away the last completion owed, or makes a call which will never
be completed while none is owed, and `sending` stays set.
-/
def Strands (world : World) : Step → Prop
  | .task .tx accepted _ =>
      accepted = false ∧ world.server.sending = false ∧
        world.server.sendq.messages ≠ [] ∧ world.completions = 0
  | .task .txDone accepted _ =>
      accepted = false ∧ world.server.sending = true ∧
        world.server.moreFragments = true ∧
          ¬ world.server.sendingLen ≤ tcpMaxPacketSize ∧
            world.completions = 1
  | .sentCb _ posted =>
      posted = false ∧ world.server.sending = true ∧
        world.completions = 1
  | .disconnectCb conn =>
      world.server.sending = true ∧ Signal.txDone ∉ world.events ∧
        ∀ waiting ∈ world.awaiting, waiting = conn
  | .init ipInfo _ keepsEvents keepsCallbacks =>
      ipInfo = true ∧ world.server.sending = true ∧
        (keepsEvents = true → Signal.txDone ∉ world.events) ∧
          (keepsCallbacks = true → world.awaiting = [])
  | _ => False

theorem completions_eq_zero {world : World} :
    world.completions = 0 ↔
      world.awaiting = [] ∧ Signal.txDone ∉ world.events := by
  rw [World.completions, Nat.add_eq_zero_iff, List.length_eq_zero_iff,
    List.count_eq_zero]

/-- Steps which neither set `sending` nor lose a completion. -/
theorem recovered_of_mono
    {world after : World}
    (recovered : Recovered world)
    (sending :
      after.server.sending = true → world.server.sending = true)
    (completions : world.completions ≤ after.completions) :
    Recovered after := by
  rw [recovered_iff] at recovered ⊢
  intro none
  cases flag : after.server.sending with
  | false => rfl
  | true =>
      have idle := recovered (by omega)
      rw [sending flag] at idle
      cases idle

/-- Counting what is left after a step decides whether `sending` may stay set. -/
theorem recovered_iff_of_completions
    {world : World} {completions : Nat}
    (counted : world.completions = completions) :
    Recovered world ↔
      ¬ (world.server.sending = true ∧ completions = 0) := by
  rw [recovered_iff, counted]
  cases world.server.sending <;> simp

theorem Recovered.step
    {world after : World} {step : Step}
    (recovered : Recovered world)
    (taken : Taken world step after) :
    Recovered after ↔ ¬ Strands world step := by
  have kept
      (sending :
        after.server.sending = true → world.server.sending = true)
      (completions : world.completions ≤ after.completions)
      (harmless : ¬ Strands world step) :
      Recovered after ↔ ¬ Strands world step :=
    iff_of_true (recovered_of_mono recovered sending completions) harmless
  cases taken with
  | sendRefused | recvRefused | initRefused =>
      exact kept id le_rfl (by simp [Strands])
  | sendQueued | recvQueued | rxTaken | rxEmpty | spurious | driverSent
  | clearSendq | clearRecvq =>
      apply kept id
      · simp [World.completions]
      · simp [Strands]
  | sent conn posted waiting =>
      have positive := List.length_pos_of_mem waiting
      cases posted with
      | true =>
          apply kept id
          · simp only [World.completions, List.count_append, count_posts,
              List.length_erase_of_mem waiting, and_self, if_true]
            omega
          · simp [Strands]
      | false =>
          rw [recovered_iff_of_completions rfl]
          simp only [World.completions, posts, List.count_append,
            List.length_erase_of_mem waiting, Strands, Bool.false_eq_true,
            if_false, List.count_nil, true_and, Nat.add_zero]
          apply not_congr
          apply and_congr_right
          intro _
          omega
  | txBusy accepted posted pending busy =>
      apply kept id
      · simp [World.completions]
      · simp [Strands, busy]
  | txEmpty accepted posted pending idle empty =>
      apply kept id
      · simp [World.completions]
      · simp [Strands, empty]
  | txShort accepted posted message sendq pending idle unshifted
  | txLong accepted posted message sendq pending idle unshifted =>
      have nonempty : world.server.sendq.messages ≠ [] := by
        rw [MessageQueue.unshift_messages unshifted]
        exact List.cons_ne_nil _ _
      rw [recovered_iff_of_completions rfl]
      cases accepted <;>
        simp [World.completions, Strands, idle, nonempty, awaits]
  | doneLast accepted posted pending busy more last =>
      rw [recovered_iff_of_completions rfl]
      simp [Strands, last]
  | doneMiddle accepted posted pending busy more notLast =>
      have positive := count_txDone_pos pending
      rw [recovered_iff_of_completions rfl]
      cases accepted with
      | true => simp [World.completions, Strands, awaits]
      | false =>
          simp only [World.completions, Strands, awaits, busy, more,
            notLast, List.count_erase_self, Bool.false_eq_true, if_false,
            List.append_nil, not_false_eq_true, true_and]
          apply not_congr
          omega
  | doneIdle accepted posted pending noFragment =>
      rw [recovered_iff_of_completions rfl]
      have harmless :
          ¬ Strands world (.task .txDone accepted posted) := by
        rintro ⟨_, busy, more, _⟩
        exact noFragment ⟨busy, more⟩
      simp [harmless]
  | disconnected conn =>
      rw [recovered_iff_of_completions rfl]
      simp only [Strands, completions_eq_zero]
      apply not_congr
      apply and_congr_right
      intro _
      rw [and_comm]
      apply and_congr_right
      intro _
      simp [List.filter_eq_nil_iff]
  | initDone listening keepsEvents keepsCallbacks =>
      rw [recovered_iff_of_completions rfl]
      simp only [Strands, completions_eq_zero, true_and]
      apply not_congr
      apply and_congr_right
      intro _
      cases keepsEvents <;> cases keepsCallbacks <;> simp [and_comm]

/--
In every run, with calls of `espconn_sent` that fail, peers that disconnect
and servers that are initialised again: the sender recovers in every state
exactly when no step strands it.
-/
theorem sender_recovers_iff (steps : List Step) :
    serverSystem.Always Recovered World.boot steps ↔
      serverSystem.Each (fun world step => ¬ Strands world step)
        World.boot steps := by
  have bootRecovered : Recovered World.boot := by
    rw [recovered_iff]
    exact fun _ => rfl
  apply System.always_iff_each_of_step _ steps bootRecovered
  intro world step after recovered taken
  exact recovered.step (World.taken_of_next taken)

/-- A reply of one byte which `espconn_sent` refuses. -/
def refusedRun : List Step :=
  [.send (.zeros 1 1) true true, .task .tx false true]

/-- After it nothing is owed, and `sending` stays set. -/
theorem refused_send_strands :
    ¬ serverSystem.Always Recovered World.boot refusedRun := by
  intro always
  have stranded :
      (serverSystem.run World.boot refusedRun).map
          (fun world => (world.completions, world.server.sending)) =
        some (0, true) := by
    rfl
  rcases always.last_of_map stranded with ⟨world, equal, recovered⟩
  rcases Prod.mk.inj equal with ⟨none, busy⟩
  have idle := (recovered none).1
  rw [busy] at idle
  cases idle

end EspFirmware
