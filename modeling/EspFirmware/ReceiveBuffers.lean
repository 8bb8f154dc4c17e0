import EspFirmware.SendBuffers

/-!
# Copies of received data are freed once, unless they cannot be queued

The copy which `tcpserver_recv_cb` makes belongs to `recvq` and then to the
task which frees it.  When the node of the queue cannot be allocated, nobody
frees the copy.
-/

namespace EspFirmware

open Library

/-- Every copy is in `recvq`, or it was freed once. -/
def ReceiveCustody (state : LoggedWorld) : Prop :=
  ∀ address ∈ copiedBlocks state.log,
    (heapBlocks state.world.server.recvq.messages).count address +
      (freedBlocks state.log).count address = 1

/-- A receive callback whose copy is allocated also gets a node for the queue. -/
def Step.QueuesCopy : Step → Prop
  | .recvCb _ _ data allocated _ => data ≠ none → allocated = true
  | .send _ _ _ | .sentCb _ _ | .task _ _ _ | .spurious _ | .driverSent _
  | .clear _ | .disconnectCb _ | .init _ _ _ _ => True

/-- The same for all steps which are taken while a command is processed. -/
def LoggedWorld.QueuesCopies (state : LoggedWorld) : LoggedStep → Prop
  | .plain step => step.QueuesCopy
  | .process steps =>
      state.world.server.recvq.messages ≠ [] →
        ∀ step ∈ steps, step.QueuesCopy

/-! ## Leaks -/

/-- Only copies are leaked. -/
theorem leakedBlocks_eq_nil
    {server : Server} {effect : Effect}
    (fair : effect.Fair server)
    (plain : ∀ action ∈ effect.actions, action.copied = []) :
    leakedBlocks effect.actions = [] := by
  rw [List.eq_nil_iff_forall_not_mem]
  intro address leaked
  rcases List.mem_flatMap.mp (fair.leaked address leaked) with
    ⟨action, member, copied⟩
  rw [plain action member] at copied
  cases copied

/-- A step leaks a copy when it does not get a node for it. -/
theorem leakedBlocks_effect_iff
    (world : World) (coherent : world.server.Coherent) (step : Step) :
    leakedBlocks (world.effect step).actions = [] ↔ step.QueuesCopy := by
  have fair := world.fair_effect coherent step
  cases step with
  | recvCb conn pdata data allocated posted =>
      cases data with
      | none =>
          exact iff_of_true rfl fun some => absurd rfl some
      | some address =>
          cases allocated with
          | false =>
              apply iff_of_false
              · simp [World.effect, tcpserverRecvCb, MessageQueue.push,
                  leakedBlocks, Action.leaked, Segment.message, blockOf]
              · intro queues
                cases queues (Option.some_ne_none address)
          | true =>
              exact iff_of_true rfl fun _ => rfl
  | send message allocated posted =>
      refine iff_of_true (leakedBlocks_eq_nil fair ?_) True.intro
      cases allocated <;>
        simp [World.effect, tcpserverSend, MessageQueue.push, Action.copied]
  | task sig accepted posted =>
      refine iff_of_true (leakedBlocks_eq_nil fair ?_) True.intro
      exact fun action member =>
        (Action.plain_of_all
          (LoggedWorld.takesNone_serverTask world.server sig)
          action member).2.1
  | clear queue =>
      refine iff_of_true (leakedBlocks_eq_nil fair ?_) True.intro
      exact fun action member =>
        (Action.plain_of_all
          (LoggedWorld.takesNone_clearQueue world.server queue)
          action member).2.1
  | init ipInfo listening keepsEvents keepsCallbacks =>
      refine iff_of_true (leakedBlocks_eq_nil fair ?_) True.intro
      exact fun action member =>
        (Action.plain_of_all
          (LoggedWorld.takesNone_serverInitTcp world.server ipInfo listening)
          action member).2.1
  | sentCb | disconnectCb | spurious | driverSent =>
      exact iff_of_true rfl True.intro

/-- The blocks on the sending side are those of messages which are carried. -/
theorem Server.carries_of_mem
    {server : Server} {address : Nat}
    (member :
      address ∈ heapBlocks server.sendq.messages ∨
        address ∈ server.progress) :
    ∃ data, server.Carries .heapMem data ∧ data.address = address := by
  rcases member with queued | started
  · rcases List.mem_flatMap.mp queued with ⟨message, waits, block⟩
    rw [blockOf] at block
    split at block
    · rename_i heap
      exact ⟨message.data, Or.inl ⟨message, waits, heap, rfl⟩,
        (List.mem_singleton.mp block).symm⟩
    · cases block
  · rw [Server.progress] at started
    split at started
    · rename_i busy
      rw [blockOf] at started
      split at started
      · rename_i heap
        exact ⟨server.firstSendingChunk,
          Or.inr ⟨((Bool.and_eq_true _ _).mp busy).2, heap, rfl⟩,
          (List.mem_singleton.mp started).symm⟩
      · cases started
    · cases started

namespace LoggedWorld

/-- Messages on the heap which wait in `sendq` were accepted. -/
theorem Owned.accepted_of_carries
    {busy : List Nat} {state : LoggedWorld}
    (owned : state.Owned busy)
    {data : Buffer}
    (carries : state.world.server.Carries .heapMem data) :
    data.address ∈ acceptedBlocks state.log := by
  rcases owned.carried .heapMem data carries with
    ⟨message, pushed, heap, same⟩
  refine List.mem_flatMap.mpr ⟨_, pushed, ?_⟩
  rw [Action.accepted, blockOf, if_pos heap, same]
  exact List.mem_singleton_self _

/-- A copy is in `recvq`, was freed once, or was leaked. -/
theorem Owned.copy_place
    {state : LoggedWorld}
    (owned : state.Owned [])
    {address : Nat}
    (copied : address ∈ copiedBlocks state.log) :
    (heapBlocks state.world.server.recvq.messages).count address +
          (freedBlocks state.log).count address +
        (leakedBlocks state.log).count address = 1 := by
  have apart :
      ∀ data, state.world.server.Carries .heapMem data →
        data.address ≠ address := by
    intro data carries same
    exact owned.not_copied (owned.accepted_of_carries carries)
      (same ▸ copied)
  have queued :
      (heapBlocks state.world.server.sendq.messages).count address = 0 := by
    rw [List.count_eq_zero]
    intro member
    rcases Server.carries_of_mem (Or.inl member) with ⟨data, carries, same⟩
    exact apart data carries same
  have started : state.world.server.progress.count address = 0 := by
    rw [List.count_eq_zero]
    intro member
    rcases Server.carries_of_mem (Or.inr member) with ⟨data, carries, same⟩
    exact apart data carries same
  have counted := owned.count_eq_one (List.mem_append_right _ copied)
  rw [Server.blocks] at counted
  simp only [Multiset.count_add, Multiset.coe_count, queued, started,
    List.count_nil, Nat.add_zero, Nat.zero_add] at counted
  omega

/-- The copies are in custody exactly when none was leaked. -/
theorem Owned.receiveCustody_iff
    {state : LoggedWorld}
    (owned : state.Owned []) :
    ReceiveCustody state ↔ leakedBlocks state.log = [] := by
  constructor
  · intro custody
    rw [List.eq_nil_iff_forall_not_mem]
    intro address leaked
    have copied := owned.leaked address leaked
    have place := owned.copy_place copied
    have kept := custody address copied
    have lost := List.count_pos_iff.mpr leaked
    omega
  · intro none address copied
    have place := owned.copy_place copied
    rw [none, List.count_nil, Nat.add_zero] at place
    exact place

/-- A run leaks nothing when its steps queue their copies. -/
theorem Owned.leaked_run_iff
    {busy : List Nat} {state after : LoggedWorld} {steps : List Step}
    (owned : state.Owned busy)
    (ran : stepSystem.run state steps = some after) :
    leakedBlocks after.log = [] ↔
      leakedBlocks state.log = [] ∧ ∀ step ∈ steps, step.QueuesCopy := by
  induction steps generalizing state with
  | nil =>
      cases ran
      exact (and_iff_left fun _ member => by cases member).symm
  | cons step steps induction =>
      rcases Option.bind_eq_some_iff.mp ran with ⟨middle, taken, ran⟩
      have logged := (step_eq_some taken).2.2
      rw [induction (owned.step taken) ran, logged, leakedBlocks_append,
        List.append_eq_nil_iff,
        leakedBlocks_effect_iff state.world owned.coherent,
        List.forall_mem_cons, and_assoc]

/-- A step leaks nothing when it queues its copies. -/
theorem Owned.leaked_next_iff
    {state after : LoggedWorld} {step : LoggedStep}
    (owned : state.Owned [])
    (taken : loggedSystem.next state step = some after) :
    leakedBlocks after.log = [] ↔
      leakedBlocks state.log = [] ∧ state.QueuesCopies step := by
  have plain {step : Step}
      (taken : state.step step = some after) :
      leakedBlocks after.log = [] ↔
        leakedBlocks state.log = [] ∧ step.QueuesCopy := by
    rw [(step_eq_some taken).2.2, leakedBlocks_append,
      List.append_eq_nil_iff,
      leakedBlocks_effect_iff state.world owned.coherent]
  cases step with
  | plain step =>
      exact plain taken
  | process steps =>
      simp only [loggedSystem, LoggedWorld.next] at taken
      split at taken
      · rename_i empty
        have none := MessageQueue.unshift_eq_none.mp empty
        rw [plain taken]
        exact and_congr_right fun _ =>
          iff_of_true True.intro fun some => absurd none some
      · rename_i message recvq dequeued
        have some : state.world.server.recvq.messages ≠ [] := by
          rw [MessageQueue.unshift_messages dequeued]
          exact List.cons_ne_nil _ _
        rcases process_eq_some taken with ⟨world, inner, moved, ran, rfl⟩
        have entered :=
          owned.enter dequeued (server_of_process dequeued moved)
        have quiet : leakedBlocks (enterProcess message) = [] :=
          rfl
        rw [freeHeapMem_eq, leakedBlocks_append, leakedBlocks_osFree,
          List.append_nil, entered.leaked_run_iff ran, leakedBlocks_append,
          quiet, List.append_nil]
        exact and_congr_right fun _ =>
          ⟨fun queues _ => queues, fun queues => queues some⟩

end LoggedWorld

/--
Every copy is in `recvq` or freed once in all states of a run exactly when no
receive callback of the run allocates its copy and then fails to queue it.
-/
theorem receive_buffers_owned_iff (steps : List LoggedStep) :
    loggedSystem.Always ReceiveCustody .boot steps ↔
      loggedSystem.Each LoggedWorld.QueuesCopies .boot steps := by
  have exactly (state : LoggedWorld) (step : LoggedStep)
      (after : LoggedWorld)
      (owned : state.Owned []) (custody : ReceiveCustody state)
      (taken : loggedSystem.next state step = some after) :
      (ReceiveCustody after ↔ state.QueuesCopies step) ∧
        (ReceiveCustody after → after.Owned []) := by
    have ownedAfter := owned.next taken
    have none := owned.receiveCustody_iff.mp custody
    constructor
    · rw [ownedAfter.receiveCustody_iff, owned.leaked_next_iff taken]
      exact and_iff_right none
    · exact fun _ => ownedAfter
  have booted : ReceiveCustody .boot := by
    intro address copied
    cases copied
  exact System.always_iff_each exactly steps LoggedWorld.owned_boot booted

/-- A segment is received while there is no memory for a node of the queue. -/
theorem receive_buffers_leaked :
    ¬∀ steps : List LoggedStep,
      loggedSystem.Always ReceiveCustody .boot steps := by
  intro owned
  have always :=
    owned
      [.plain
        (.recvCb 7 { bytes := [65], bounded := by decide } (some 1) false
          true)]
  have blocks :
      (loggedSystem.run .boot
          [.plain
            (.recvCb 7 { bytes := [65], bounded := by decide } (some 1)
              false true)]).map
          (fun state =>
            (copiedBlocks state.log,
              heapBlocks state.world.server.recvq.messages,
              freedBlocks state.log)) =
        some ([1], [], []) := by
    decide
  rcases always.last_of_map blocks with ⟨after, observed, custody⟩
  simp only [Prod.mk.injEq] at observed
  rcases observed with ⟨copied, queued, freed⟩
  have once := custody 1 (by rw [copied]; exact List.mem_singleton_self 1)
  rw [queued, freed] at once
  cases once

end EspFirmware
