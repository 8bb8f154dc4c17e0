import EspFirmware.BlockOwnership

/-!
# Send buffers are freed once, and not before they are sent

A payload which `tcpserver_send` has accepted is in `sendq`, in the fragmented
message in progress, or freed.  Copies of received commands are kept apart
from it by their allocation, and static memory is not on the heap.
-/

namespace EspFirmware

open Library

namespace LoggedWorld

/-- `espconn_sent` is given a message which was accepted, and not freed since. -/
def ReadsOwned (front : List Action) (action : Action) : Prop :=
  ∀ data, action.Reads data →
    data.address ∉ freedBlocks front ∧
      ∃ message, .push .sendq message true ∈ front ∧ message.data = data

/--
The invariant of runs with a log.  The blocks `busy` belong to the command
which is processed.
-/
structure Owned (busy : List Nat) (state : LoggedWorld) : Prop where
  coherent : state.world.server.Coherent
  kept :
    custody 0 (heapEvents state.log) =
      some (state.world.server.blocks + ↑(leakedBlocks state.log) + ↑busy)
  once : state.named.Nodup
  apart : ∀ address ∈ staticBlocks state.log, address ∉ state.named
  carried :
    ∀ mem data, state.world.server.Carries mem data →
      ∃ message, .push .sendq message true ∈ state.log ∧
        message.mem = mem ∧ message.data = data
  received :
    ∀ address ∈ heapBlocks state.world.server.recvq.messages,
      address ∈ copiedBlocks state.log
  leaked :
    ∀ address ∈ leakedBlocks state.log, address ∈ copiedBlocks state.log
  processed : ∀ address ∈ busy, address ∈ copiedBlocks state.log
  reads : Justified ReadsOwned state.log

theorem owned_boot :
    boot.Owned [] where
  coherent := Server.coherent_boot
  kept := rfl
  once := List.nodup_nil
  apart := fun _ member => by cases member
  carried := by
    rintro mem data (⟨message, member, -⟩ | ⟨more, -⟩)
    · cases member
    · cases more
  received := fun _ member => by cases member
  leaked := fun _ member => by cases member
  processed := fun _ member => by cases member
  reads := justified_nil

/-- What is left of the server when a command has been taken out. -/
theorem server_of_process
    {state : LoggedWorld}
    {world : World} {message : Message} {recvq : MessageQueue}
    (dequeued :
      state.world.server.recvq.unshift = some (message, recvq))
    (moved : state.world.next (.task .rx true true) = some world) :
    world.server = { state.world.server with recvq } := by
  rw [World.server_of_next moved, World.effect, serverTask, Server.taskRx,
    dequeued]

namespace Owned

variable {busy : List Nat} {state : LoggedWorld}

theorem taken_eq (state : LoggedWorld) :
    taken (heapEvents state.log) = ↑state.named := by
  rw [taken_heapEvents, named, Multiset.coe_add]

theorem mem_named_of_freed
    (owned : state.Owned busy)
    {address : Nat}
    (freed : address ∈ freedBlocks state.log) :
    address ∈ state.named := by
  have member :=
    mem_taken_of_mem_freed owned.kept
      (by rw [freed_heapEvents, Multiset.mem_coe]; exact freed)
  rwa [taken_eq, Multiset.mem_coe] at member

/-- A block which was handed over is held, or it was freed once. -/
theorem count_eq_one
    (owned : state.Owned busy)
    {address : Nat}
    (named : address ∈ state.named) :
    (state.world.server.blocks + ↑(leakedBlocks state.log) +
        ↑busy).count address +
      (freedBlocks state.log).count address = 1 := by
  have once : (taken (heapEvents state.log)).Nodup := by
    rw [taken_eq, Multiset.coe_nodup]
    exact owned.once
  have member : address ∈ taken (heapEvents state.log) := by
    rw [taken_eq]
    exact named
  have counted := count_eq_one_of_custody owned.kept once member
  rwa [freed_heapEvents, Multiset.coe_count] at counted

/-- A message which the server carries was accepted, and is not freed. -/
theorem readsOwned_of_carries
    (owned : state.Owned busy)
    {mem : Memtype} {data : Buffer}
    (carries : state.world.server.Carries mem data) :
    data.address ∉ freedBlocks state.log ∧
      ∃ message, .push .sendq message true ∈ state.log ∧
        message.data = data := by
  rcases owned.carried mem data carries with ⟨message, pushed, heap, same⟩
  refine ⟨?_, message, pushed, same⟩
  intro freed
  have named := owned.mem_named_of_freed freed
  cases mem with
  | heapMem =>
      have held :=
        Server.mem_blocks_of_carries owned.coherent carries
      have counted := owned.count_eq_one named
      have held' := Multiset.count_pos.mpr held
      have freed' := List.count_pos_iff.mpr freed
      rw [Multiset.count_add, Multiset.count_add] at counted
      omega
  | staticMem =>
      refine owned.apart data.address ?_ named
      refine List.mem_flatMap.mpr ⟨_, pushed, ?_⟩
      rw [Action.static, if_pos heap, same]
      exact List.mem_singleton_self _

/-- What the server does next keeps the invariant. -/
theorem concat
    (owned : state.Owned busy)
    {world : World} {actions : List Action} {busyAfter : List Nat}
    (handed : state.Handed actions)
    (coherent : world.server.Coherent)
    (kept :
      custody (state.world.server.blocks + (busy : Multiset Nat))
          (heapEvents actions) =
        some (world.server.blocks + ↑(leakedBlocks actions) + ↑busyAfter))
    (carried :
      ∀ mem data, world.server.Carries mem data →
        state.world.server.Carries mem data ∨
          ∃ message, .push .sendq message true ∈ actions ∧
            message.mem = mem ∧ message.data = data)
    (received :
      ∀ address ∈ heapBlocks world.server.recvq.messages,
        address ∈ heapBlocks state.world.server.recvq.messages ∨
          address ∈ copiedBlocks actions)
    (leaked :
      ∀ address ∈ leakedBlocks actions, address ∈ copiedBlocks actions)
    (processed :
      ∀ address ∈ busyAfter,
        address ∈ busy ∨
          address ∈ heapBlocks state.world.server.recvq.messages)
    (reads :
      Justified
        (fun front action => ∀ data, action.Reads data →
          freedBlocks front = [] ∧
            ∃ mem, state.world.server.Carries mem data)
        actions) :
    LoggedWorld.Owned busyAfter { world, log := state.log ++ actions } where
  coherent := coherent
  kept := by
    have framed := custody_frame kept ↑(leakedBlocks state.log)
    rw [heapEvents_append, custody_append_of owned.kept,
      add_right_comm, framed, leakedBlocks_append,
      ← Multiset.coe_add]
    congr 1
    abel
  once := by
    have nodup : (state.named ++
        (acceptedBlocks actions ++ copiedBlocks actions)).Nodup := by
      rw [List.nodup_append]
      refine ⟨owned.once, handed.once, ?_⟩
      intro address old other new same
      exact (handed.apart other new).1 (same ▸ old)
    refine (List.Perm.nodup_iff ?_).mpr nodup
    rw [← Multiset.coe_eq_coe, named, named, acceptedBlocks_append,
      copiedBlocks_append]
    simp only [← Multiset.coe_add]
    abel
  apart := by
    intro address static member
    have split : address ∈ state.named ∨
        address ∈ acceptedBlocks actions ++ copiedBlocks actions := by
      rw [named, acceptedBlocks_append, copiedBlocks_append] at member
      rw [named]
      simp only [List.mem_append] at member ⊢
      tauto
    rw [staticBlocks_append, List.mem_append] at static
    rcases split with old | new
    · rcases static with before | now
      · exact owned.apart address before old
      · exact handed.static address now old
    · rcases static with before | now
      · exact (handed.apart address new).2.1 before
      · exact (handed.apart address new).2.2 now
  carried := by
    intro mem data carries
    rcases carried mem data carries with before | ⟨message, pushed, same⟩
    · rcases owned.carried mem data before with ⟨message, pushed, same⟩
      exact ⟨message, List.mem_append_left _ pushed, same⟩
    · exact ⟨message, List.mem_append_right _ pushed, same⟩
  received := by
    intro address member
    rw [copiedBlocks_append, List.mem_append]
    exact (received address member).imp (owned.received address) id
  leaked := by
    intro address member
    rw [leakedBlocks_append, List.mem_append] at member
    rw [copiedBlocks_append, List.mem_append]
    exact member.imp (owned.leaked address) (leaked address)
  processed := by
    intro address member
    rw [copiedBlocks_append, List.mem_append]
    left
    rcases processed address member with old | new
    · exact owned.processed address old
    · exact owned.received address new
  reads := by
    rw [justified_append]
    refine ⟨owned.reads, reads.imp ?_⟩
    intro front action fits data read
    rcases fits data read with ⟨unfreed, mem, carries⟩
    rcases owned.readsOwned_of_carries carries with
      ⟨alive, message, pushed, same⟩
    refine ⟨?_, message, List.mem_append_left _ pushed, same⟩
    rw [freedBlocks_append, unfreed, List.append_nil]
    exact alive

/-- A step keeps the invariant. -/
theorem step
    (owned : state.Owned busy)
    {after : LoggedWorld} {step : Step}
    (taken : state.step step = some after) :
    after.Owned busy := by
  rcases step_eq_some taken with ⟨own, moved, logged⟩
  have fair := state.world.fair_effect owned.coherent step
  have server := World.server_of_next moved
  have same : after =
      { world := after.world
        log := state.log ++ (state.world.effect step).actions } := by
    rw [← logged]
  rw [same]
  refine owned.concat own.handed ?_ ?_ ?_ ?_ fair.leaked ?_ fair.reads
  · rw [server]
    exact fair.coherent
  · rw [server]
    exact custody_frame fair.kept ↑busy
  · rw [server]
    exact fair.carried
  · rw [server]
    exact fair.received
  · exact fun address member => Or.inl member

theorem run
    (owned : state.Owned busy)
    {after : LoggedWorld} {steps : List Step}
    (ran : stepSystem.run state steps = some after) :
    after.Owned busy := by
  induction steps generalizing state with
  | nil =>
      cases ran
      exact owned
  | cons step steps induction =>
      rcases Option.bind_eq_some_iff.mp ran with ⟨middle, taken, ran⟩
      exact induction (owned.step taken) ran

/-- A command is taken out of `recvq`, and is processed. -/
theorem enter
    (owned : state.Owned [])
    {world : World} {message : Message} {recvq : MessageQueue}
    (dequeued :
      state.world.server.recvq.unshift = some (message, recvq))
    (server : world.server = { state.world.server with recvq }) :
    LoggedWorld.Owned (blockOf message.mem message.data)
      { world, log := state.log ++ enterProcess message } := by
  have queued : heapBlocks state.world.server.recvq.messages =
      blockOf message.mem message.data ++ heapBlocks recvq.messages := by
    rw [MessageQueue.unshift_messages dequeued, heapBlocks_cons]
  refine owned.concat (.of_plain ?_) ?_ ?_ ?_ ?_ ?_ ?_ ?_
  · simp [enterProcess, Action.Plain, Action.accepted, Action.copied,
      Action.static]
  · rw [server]
    exact owned.coherent
  · rw [Server.blocks_of_recvq dequeued, server, Multiset.coe_nil,
      Multiset.add_zero, Multiset.add_comm]
    simp [enterProcess, heapEvents, Action.heapEvents, Action.accepted,
      Action.copied, Action.freed, leakedBlocks, Action.leaked]
  · rw [server]
    exact fun _ _ carries => Or.inl carries
  · intro address member
    rw [server] at member
    rw [queued]
    exact Or.inl (List.mem_append_right _ member)
  · simp [enterProcess, leakedBlocks, Action.leaked]
  · intro address member
    rw [queued]
    exact Or.inr (List.mem_append_left _ member)
  · exact justified_of_deaf (by simp [enterProcess, Action.Reads])

/-- The command is freed when it has been processed. -/
theorem leave
    {message : Message}
    (owned : state.Owned (blockOf message.mem message.data)) :
    LoggedWorld.Owned []
      { state with
        log := state.log ++ freeHeapMem message.mem message.data } := by
  rw [freeHeapMem_eq]
  refine owned.concat (.of_plain ?_) owned.coherent ?_
    (fun _ _ carries => Or.inl carries) (fun _ member => Or.inl member)
    ?_ (fun _ member => by cases member) (justified_osFree _ _)
  · simp [Action.Plain, Action.accepted, Action.copied, Action.static]
  · rw [heapEvents_osFree, leakedBlocks_osFree, Multiset.add_comm,
      custody_free_all, Multiset.coe_nil, Multiset.add_zero,
      Multiset.add_zero]
  · rw [leakedBlocks_osFree]
    exact fun _ member => by cases member

/-- Every step of a run keeps the invariant. -/
theorem next
    (owned : state.Owned [])
    {after : LoggedWorld} {step : LoggedStep}
    (taken : loggedSystem.next state step = some after) :
    after.Owned [] := by
  cases step with
  | plain step =>
      exact owned.step taken
  | process steps =>
      simp only [loggedSystem, LoggedWorld.next] at taken
      split at taken
      · exact owned.step taken
      · rename_i message recvq dequeued
        rcases process_eq_some taken with ⟨world, inner, moved, ran, rfl⟩
        have entered :=
          owned.enter dequeued (server_of_process dequeued moved)
        exact (entered.run ran).leave

end Owned

/-- The invariant holds in every state of a run. -/
theorem owned_of_reachable
    {state : LoggedWorld}
    (reached : loggedSystem.Reachable state) :
    state.Owned [] :=
  @System.Reachable.invariant _ _ loggedSystem (LoggedWorld.Owned [])
    owned_boot (fun _ _ _ owned taken => owned.next taken) state reached

end LoggedWorld

/-! ## The payloads -/

/--
What becomes of the payloads.  A payload on the heap which was accepted is
once in `sendq`, in progress or freed, and `espconn_sent` is given nothing
which was freed before.  Static memory is not freed.  A payload which was
refused is neither freed nor read, unless another call has handed the same
memory over.  When nothing waits and nothing is sent, everything is freed.
-/
structure SendCustody (state : LoggedWorld) : Prop where
  place :
    ∀ address ∈ acceptedBlocks state.log,
      (heapBlocks state.world.server.sendq.messages).count address +
          state.world.server.progress.count address +
        (freedBlocks state.log).count address = 1
  alive :
    Justified
      (fun front action => ∀ data, action.Reads data →
        data.address ∉ freedBlocks front)
      state.log
  static : ∀ address ∈ staticBlocks state.log, address ∉ freedBlocks state.log
  refused :
    ∀ message, .push .sendq message false ∈ state.log →
      message.data.address ∉ copiedBlocks state.log →
        (∀ other, .push .sendq other true ∈ state.log →
          other.data.address ≠ message.data.address) →
          message.data.address ∉ freedBlocks state.log ∧
            ∀ action ∈ state.log, ∀ data, action.Reads data →
              data.address ≠ message.data.address
  drained :
    state.world.server.sendq.messages = [] →
      state.world.server.sending = false →
        ∀ address ∈ acceptedBlocks state.log,
          (freedBlocks state.log).count address = 1

namespace LoggedWorld.Owned

variable {state : LoggedWorld}

/-- Accepted payloads are not among the copies. -/
theorem not_copied
    {busy : List Nat}
    (owned : state.Owned busy)
    {address : Nat}
    (accepted : address ∈ acceptedBlocks state.log) :
    address ∉ copiedBlocks state.log := by
  intro copied
  exact (List.nodup_append.mp owned.once).2.2 address accepted address copied
    rfl

/-- An accepted payload is in one place. -/
theorem place
    (owned : state.Owned [])
    {address : Nat}
    (accepted : address ∈ acceptedBlocks state.log) :
    (heapBlocks state.world.server.sendq.messages).count address +
        state.world.server.progress.count address +
      (freedBlocks state.log).count address = 1 := by
  have notCopied := owned.not_copied accepted
  have counted :=
    owned.count_eq_one (List.mem_append_left _ accepted)
  have received :
      (heapBlocks state.world.server.recvq.messages).count address = 0 :=
    List.count_eq_zero.mpr fun member =>
      notCopied (owned.received address member)
  have leaked : (leakedBlocks state.log).count address = 0 :=
    List.count_eq_zero.mpr fun member =>
      notCopied (owned.leaked address member)
  rw [Server.blocks] at counted
  simp only [Multiset.count_add, Multiset.coe_count, received, leaked,
    List.count_nil, Nat.add_zero] at counted
  exact counted

/-- Whatever is freed was accepted or copied. -/
theorem handed_of_freed
    (owned : state.Owned [])
    {address : Nat}
    (freed : address ∈ freedBlocks state.log) :
    (∃ message, .push .sendq message true ∈ state.log ∧
        message.data.address = address) ∨
      address ∈ copiedBlocks state.log := by
  rcases List.mem_append.mp (owned.mem_named_of_freed freed) with
    accepted | copied
  · left
    rcases List.mem_flatMap.mp accepted with ⟨action, member, block⟩
    cases action with
    | push queue message stored =>
        cases queue with
        | sendq =>
            cases stored with
            | true =>
                rw [Action.accepted, blockOf] at block
                split at block
                · exact ⟨message, member, (List.mem_singleton.mp block).symm⟩
                · cases block
            | false =>
                cases block
        | recvq =>
            cases block
    | _ =>
        cases block
  · exact Or.inr copied

end LoggedWorld.Owned

/-- Every payload has one owner in every state of every run. -/
theorem send_buffers_owned
    {state : LoggedWorld}
    (reached : loggedSystem.Reachable state) :
    SendCustody state := by
  have owned := LoggedWorld.owned_of_reachable reached
  exact
    { place := fun address accepted => owned.place accepted
      alive := owned.reads.imp fun front action fits data read =>
        (fits data read).1
      static := fun address static freed =>
        owned.apart address static (owned.mem_named_of_freed freed)
      refused := by
        intro message pushed notCopied unaccepted
        constructor
        · intro freed
          rcases owned.handed_of_freed freed with
            ⟨other, accepted, same⟩ | copied
          · exact unaccepted other accepted same
          · exact notCopied copied
        · intro action member data read same
          rcases List.append_of_mem member with ⟨front, back, layout⟩
          rcases (owned.reads front action back layout data read).2 with
            ⟨other, accepted, sent⟩
          apply unaccepted other
          · rw [layout]
            exact List.mem_append_left _ accepted
          · rw [sent, same]
      drained := by
        intro empty idle address accepted
        have counted := owned.place accepted
        rw [empty, Server.progress_of_idle idle] at counted
        simpa using counted }

/-- A long message on the heap is sent in two parts while `sendq` is cleared. -/
theorem send_buffers_owned_cleared :
    ∃ state : LoggedWorld,
      freedBlocks state.log = [1] ∧ SendCustody state := by
  have ran :
      (loggedSystem.run .boot
        [.plain (.send (.zeros 7 1500) true true),
          .plain (.task .tx true true), .plain (.clear .sendq),
          .plain (.sentCb 7 true),
          .plain (.task .txDone false true)]).map
          (fun state => freedBlocks state.log) = some [1] := by
    decide
  rcases Option.map_eq_some_iff.mp ran with ⟨state, ended, freed⟩
  exact ⟨state, freed, send_buffers_owned (System.Reachable.start.run ended)⟩

end EspFirmware
