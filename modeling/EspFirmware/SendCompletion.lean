import EspFirmware.ServerSteps

/-!
# Completions of the sending side

A call of `espconn_sent` owes a completion: first its sent callback is
awaited, then the `SERVER_SIG_TX_DONE` event which the callback posts is
pending.  This module treats runs in which nothing owed is lost: every call
is accepted and followed by its callback, and no posted event is dropped.

There no message waits without a trigger.  That at most one send is
outstanding fails, because the branch which sends the last fragment clears
`sending` before that fragment is completed; it holds in exactly the runs in
which no message is dequeued in between.
-/

namespace EspFirmware

open EspFirmware.Library

/-- The completions owed: awaited sent callbacks and pending events. -/
def World.completions (world : World) : Nat :=
  world.awaiting.length + world.events.count .txDone

/--
Every completion owed is delivered; drivers may send on their own.  The server
may be initialised again where that costs neither events nor callbacks.
-/
def Step.delivers : Step → Bool
  | .send _ _ posted => posted
  | .recvCb _ _ _ _ posted => posted
  | .sentCb _ posted => posted
  | .task _ accepted posted => accepted && posted
  | .spurious _ => false
  | .driverSent _ => true
  | .clear _ => true
  | .disconnectCb _ => false
  | .init _ _ keepsEvents keepsCallbacks => keepsEvents && keepsCallbacks

/-- The same, and only `server_task` calls `espconn_sent`. -/
def Step.deliversToTask (step : Step) : Bool :=
  match step with
  | .driverSent _ => false
  | _ => step.delivers

/-! ## No lost wake-up -/

/-- Whatever is unfinished on the sending side has a trigger. -/
structure Awake (world : World) : Prop where
  queued :
    world.server.sendq.messages ≠ [] →
      Signal.tx ∈ world.events ∨
        Signal.txDone ∈ world.events ∨ world.awaiting ≠ []
  busy :
    world.server.sending = true ∨ world.server.moreFragments = true →
      Signal.txDone ∈ world.events ∨ world.awaiting ≠ []
  fragments :
    world.server.moreFragments = true → world.server.sending = true

theorem Awake.boot : Awake World.boot where
  queued nonempty := (nonempty rfl).elim
  busy flags := by
    rcases flags with sending | more
    · cases sending
    · cases more
  fragments more := by cases more

/-- Triggers which are still there keep the server awake. -/
theorem Awake.mono
    {world after : World}
    (awake : Awake world)
    (sendq : after.server.sendq = world.server.sendq)
    (sending : after.server.sending = world.server.sending)
    (more :
      after.server.moreFragments = world.server.moreFragments)
    (tx : Signal.tx ∈ world.events → Signal.tx ∈ after.events)
    (completion :
      Signal.txDone ∈ world.events ∨ world.awaiting ≠ [] →
        Signal.txDone ∈ after.events ∨ after.awaiting ≠ []) :
    Awake after where
  queued nonempty := by
    rw [sendq] at nonempty
    rcases awake.queued nonempty with pending | owed
    · exact Or.inl (tx pending)
    · exact Or.inr (completion owed)
  busy flags := by
    rw [sending, more] at flags
    exact completion (awake.busy flags)
  fragments := by
    rw [sending, more]
    exact awake.fragments

/-- A send whose callback is awaited triggers whatever is left. -/
theorem Awake.of_awaiting
    {world : World}
    (owed : world.awaiting ≠ [])
    (fragments :
      world.server.moreFragments = true →
        world.server.sending = true) :
    Awake world where
  queued := fun _ => Or.inr (Or.inr owed)
  busy := fun _ => Or.inr owed
  fragments := fragments

theorem awaits_true_ne_nil (awaiting : List Conn) (conn : Conn) :
    awaiting ++ awaits true conn ≠ [] := by
  simp [awaits]

theorem Awake.step
    {world after : World} {step : Step}
    (awake : Awake world)
    (delivers : step.delivers = true)
    (taken : Taken world step after) :
    Awake after := by
  have keepTx {sig : Signal} (different : Signal.tx ≠ sig) :
      Signal.tx ∈ world.events → Signal.tx ∈ world.events.erase sig :=
    (List.mem_erase_of_ne different).mpr
  have keepDone {sig : Signal} (different : Signal.txDone ≠ sig) :
      Signal.txDone ∈ world.events ∨ world.awaiting ≠ [] →
        Signal.txDone ∈ world.events.erase sig ∨ world.awaiting ≠ [] :=
    Or.imp_left (List.mem_erase_of_ne different).mpr
  cases taken with
  | sendRefused | recvRefused | initRefused => exact awake
  | spurious | disconnected => cases delivers
  | sendQueued message posted =>
      simp only [Step.delivers] at delivers
      subst delivers
      exact
        { queued := fun _ => Or.inl (by simp [posts])
          busy := fun flags =>
            (awake.busy flags).imp_left (List.mem_append_left _)
          fragments := awake.fragments }
  | recvQueued conn pdata address posted =>
      exact
        awake.mono rfl rfl rfl (List.mem_append_left _)
          (Or.imp_left (List.mem_append_left _))
  | sent conn posted waiting =>
      simp only [Step.delivers] at delivers
      subst delivers
      exact
        awake.mono rfl rfl rfl (List.mem_append_left _)
          (fun _ => Or.inl (by simp [posts]))
  | rxTaken | rxEmpty =>
      exact
        awake.mono rfl rfl rfl (keepTx (by decide))
          (keepDone (by decide))
  | txBusy accepted posted pending busy =>
      have owed :
          Signal.txDone ∈ world.events.erase .tx ∨ world.awaiting ≠ [] :=
        keepDone (by decide) (awake.busy (Or.inl busy))
      exact
        { queued := fun _ => Or.inr owed
          busy := fun _ => owed
          fragments := awake.fragments }
  | txEmpty accepted posted pending idle empty =>
      exact
        { queued := fun nonempty => (nonempty empty).elim
          busy := fun flags => keepDone (by decide) (awake.busy flags)
          fragments := awake.fragments }
  | txShort accepted posted message
  | txLong accepted posted message =>
      rcases (Bool.and_eq_true _ _).mp delivers with ⟨rfl, rfl⟩
      exact
        .of_awaiting (awaits_true_ne_nil _ message.conn) (fun _ => rfl)
  | doneLast accepted posted pending busy =>
      rcases (Bool.and_eq_true _ _).mp delivers with ⟨rfl, rfl⟩
      exact .of_awaiting (awaits_true_ne_nil _ _) id
  | doneMiddle accepted posted pending busy =>
      rcases (Bool.and_eq_true _ _).mp delivers with ⟨rfl, rfl⟩
      exact .of_awaiting (awaits_true_ne_nil _ _) (fun _ => busy)
  | doneIdle accepted posted pending noFragment =>
      rcases (Bool.and_eq_true _ _).mp delivers with ⟨rfl, rfl⟩
      have noMore : world.server.moreFragments ≠ true := by
        intro more
        exact noFragment ⟨awake.fragments more, more⟩
      constructor
      · intro nonempty
        left
        change world.server.sendq.messages ≠ [] at nonempty
        simp [nonempty, posts]
      · rintro (sending | more)
        · cases sending
        · exact (noMore more).elim
      · intro more
        exact (noMore more).elim
  | driverSent conn =>
      exact
        awake.mono rfl rfl rfl id
          (fun _ => Or.inr (by simp))
  | clearSendq =>
      exact
        { queued := fun nonempty => (nonempty rfl).elim
          busy := awake.busy
          fragments := awake.fragments }
  | clearRecvq => exact awake.mono rfl rfl rfl id id
  | initDone listening =>
      rcases (Bool.and_eq_true _ _).mp delivers with ⟨rfl, rfl⟩
      exact
        { queued := fun nonempty => (nonempty rfl).elim
          busy := awake.busy
          fragments := awake.fragments }

/--
In every state reached by steps which deliver all completions owed: a
non-empty `sendq` has a pending event or an awaited callback to serve it, a
message in transmission has a completion owed, and fragments never remain
while `sending` is false.
-/
theorem no_lost_send_wakeup
    (world : World)
    (reached :
      (serverSystem.restrict
        fun _ step => step.delivers = true).Reachable world) :
    (world.server.sendq.messages ≠ [] →
      Signal.tx ∈ world.events ∨
        Signal.txDone ∈ world.events ∨ world.awaiting ≠ []) ∧
      (world.server.sending = true ∨
          world.server.moreFragments = true →
        Signal.txDone ∈ world.events ∨ world.awaiting ≠ []) ∧
        ¬ (world.server.moreFragments = true ∧
          world.server.sending = false) := by
  have awake : Awake world :=
    reached.invariant Awake.boot fun _ _ _ awake taken =>
      have allowed := System.restrict_next_eq_some.mp taken
      awake.step allowed.1 (World.taken_of_next allowed.2)
  refine ⟨awake.queued, awake.busy, ?_⟩
  rintro ⟨more, idle⟩
  rw [awake.fragments more] at idle
  cases idle

/-- A message is sent, and another one is pushed while it is under way. -/
def waitingRun : List Step :=
  [.send (.zeros 1 1) true true, .task .tx true true,
    .send (.zeros 1 1) true true, .task .tx true true]

theorem no_lost_send_wakeup_waiting :
    ∃ world,
      (serverSystem.restrict
          fun _ step => step.delivers = true).run World.boot waitingRun =
        some world ∧
        world.server.sendq.messages ≠ [] ∧
          (Signal.tx ∈ world.events ∨
            Signal.txDone ∈ world.events ∨ world.awaiting ≠ []) := by
  have waits :
      ((serverSystem.restrict
          fun _ step => step.delivers = true).run World.boot waitingRun).map
          (fun world => world.server.sendq.messages.length) =
        some 1 := by
    rfl
  rcases Option.map_eq_some_iff.mp waits with ⟨world, ran, one⟩
  have reached :
      (serverSystem.restrict
        fun _ step => step.delivers = true).Reachable world :=
    System.Reachable.start.run ran
  have nonempty : world.server.sendq.messages ≠ [] := by
    intro empty
    rw [empty] at one
    cases one
  exact
    ⟨world, ran, nonempty, (no_lost_send_wakeup world reached).1 nonempty⟩

/-! ## At most one send is outstanding -/

/-- The sends issued less the completions handled are zero or one. -/
def OneOutstanding (world : World) : Prop :=
  world.history.calls.length = world.history.handled ∨
    world.history.calls.length = world.history.handled + 1

/--
While the last fragment of a fragmented message is not completed, no
`SERVER_SIG_TX` event is handled which finds a message in `sendq`.
-/
def AwaitsLastFragment (world : World) (step : Step) : Prop :=
  world.history.finishing = true →
    (∃ accepted posted, step = .task .tx accepted posted) →
      world.server.sendq.messages = []

/-- How the flags count the completions owed, as long as one is enough. -/
structure Accounted (world : World) : Prop where
  balance :
    world.history.calls.length =
      world.history.handled + world.completions
  busy :
    world.server.sending = true →
      0 < world.completions ∧ world.history.finishing = false
  idle :
    world.server.sending = false →
      (world.history.finishing = true ↔ 0 < world.completions)
  fragments :
    world.server.moreFragments = true → world.server.sending = true

theorem Accounted.boot : Accounted World.boot where
  balance := rfl
  busy sending := by cases sending
  idle _ := by decide
  fragments more := by cases more

theorem oneOutstanding_iff
    {world : World}
    (accounted : Accounted world) :
    OneOutstanding world ↔ world.completions ≤ 1 := by
  have balance := accounted.balance
  unfold OneOutstanding
  omega

/-- Steps which leave the flags and the completions alone keep the account. -/
theorem Accounted.mono
    {world after : World}
    (accounted : Accounted world)
    (sending : after.server.sending = world.server.sending)
    (more :
      after.server.moreFragments = world.server.moreFragments)
    (calls : after.history.calls = world.history.calls)
    (handled : after.history.handled = world.history.handled)
    (finishing : after.history.finishing = world.history.finishing)
    (completions : after.completions = world.completions) :
    Accounted after where
  balance := by
    rw [calls, handled, completions]
    exact accounted.balance
  busy := by
    rw [sending, finishing, completions]
    exact accounted.busy
  idle := by
    rw [sending, finishing, completions]
    exact accounted.idle
  fragments := by
    rw [sending, more]
    exact accounted.fragments

/-- A pending completion is one of those owed. -/
theorem count_txDone_pos
    {world : World}
    (pending : Signal.txDone ∈ world.events) :
    0 < world.events.count .txDone :=
  List.count_pos_iff.mpr pending

/-- One send stays outstanding exactly when the step waits; if so, the account is kept. -/
def StepExact (world : World) (step : Step) (after : World) : Prop :=
  (OneOutstanding after ↔ AwaitsLastFragment world step) ∧
    (OneOutstanding after → Accounted after)

theorem awaitsLastFragment_of_ne
    {world : World} {step : Step}
    (other : ∀ accepted posted, step ≠ .task .tx accepted posted) :
    AwaitsLastFragment world step := by
  rintro _ ⟨accepted, posted, equal⟩
  exact (other accepted posted equal).elim

theorem StepExact.of_accounted
    {world after : World} {step : Step}
    (accounted : Accounted after)
    (atMostOne : after.completions ≤ 1)
    (waits : AwaitsLastFragment world step) :
    StepExact world step after :=
  ⟨⟨fun _ => waits,
      fun _ => (oneOutstanding_iff accounted).mpr atMostOne⟩,
    fun _ => accounted⟩

/-- A step which leaves the flags and the completions alone is exact. -/
theorem StepExact.of_same
    {world after : World} {step : Step}
    (accounted : Accounted world)
    (oneBefore : world.completions ≤ 1)
    (sending : after.server.sending = world.server.sending)
    (more :
      after.server.moreFragments = world.server.moreFragments)
    (calls : after.history.calls = world.history.calls)
    (handled : after.history.handled = world.history.handled)
    (finishing : after.history.finishing = world.history.finishing)
    (completions : after.completions = world.completions)
    (waits : AwaitsLastFragment world step) :
    StepExact world step after := by
  have accountedAfter : Accounted after :=
    accounted.mono sending more calls handled finishing completions
  apply StepExact.of_accounted accountedAfter _ waits
  rw [completions]
  exact oneBefore

/--
A message is dequeued.  If the last fragment of the message before is not
completed, a second send is outstanding from then on.
-/
theorem StepExact.of_dequeue
    {world after : World} {accepted posted : Bool}
    (accounted : Accounted world)
    (idle : world.server.sending = false)
    (nonempty : world.server.sendq.messages ≠ [])
    (sending : after.server.sending = true)
    (calls :
      after.history.calls.length = world.history.calls.length + 1)
    (handled : after.history.handled = world.history.handled)
    (finishing : after.history.finishing = world.history.finishing)
    (completions : after.completions = world.completions + 1) :
    StepExact world (.task .tx accepted posted) after := by
  have balance := accounted.balance
  cases flag : world.history.finishing with
  | true =>
      have owed : 0 < world.completions :=
        (accounted.idle idle).mp flag
      have two : ¬ OneOutstanding after := by
        unfold OneOutstanding
        omega
      have doesNotWait :
          ¬ AwaitsLastFragment world (.task .tx accepted posted) := by
        intro waits
        exact nonempty (waits flag ⟨accepted, posted, rfl⟩)
      exact ⟨iff_of_false two doesNotWait, fun one => (two one).elim⟩
  | false =>
      have none : world.completions = 0 := by
        have noneOwed := mt (accounted.idle idle).mpr
        rw [flag] at noneOwed
        have notPositive := noneOwed Bool.false_ne_true
        omega
      have waits :
          AwaitsLastFragment world (.task .tx accepted posted) := by
        intro finishingNow
        rw [flag] at finishingNow
        cases finishingNow
      apply StepExact.of_accounted _ (by omega) waits
      constructor
      · omega
      · intro _
        exact ⟨by omega, by rw [finishing, flag]⟩
      · intro idleAfter
        rw [sending] at idleAfter
        cases idleAfter
      · intro _
        exact sending

/-- Handling a completion leaves one less owed; posting a wake-up adds none. -/
theorem completions_handled
    {world : World}
    (positive : 0 < world.events.count .txDone)
    (server : Server) (history : History) :
    World.completions
        { server
          events :=
            world.events.erase .txDone ++
              (if world.server.sendq.messages = [] then []
                else posts true .tx)
          awaiting := world.awaiting
          history } =
      world.completions - 1 := by
  have noneAdded :
      (if world.server.sendq.messages = [] then []
        else posts true .tx).count Signal.txDone = 0 := by
    split <;> simp
  simp only [World.completions, List.count_append, noneAdded,
    List.count_erase_self]
  omega

/-- Handling a completion and sending again leaves as many owed as before. -/
theorem completions_handled_sent
    {world : World}
    (positive : 0 < world.events.count .txDone)
    (conn : Conn) (server : Server) (history : History) :
    World.completions
        { server
          events := world.events.erase .txDone
          awaiting := world.awaiting ++ awaits true conn
          history } =
      world.completions := by
  simp only [World.completions, List.length_append, length_awaits, if_true,
    List.count_erase_self]
  omega

/--
The next fragment is sent for a completion that is handled.  `finishing` tells
the last one, which clears `sending`, from those before.
-/
theorem StepExact.of_fragment
    {world after : World} {accepted posted : Bool}
    (accounted : Accounted world)
    (oneBefore : world.completions ≤ 1)
    (owed : 0 < world.completions)
    (calls :
      after.history.calls.length = world.history.calls.length + 1)
    (handled : after.history.handled = world.history.handled + 1)
    (completions : after.completions = world.completions)
    (finishing : after.history.finishing = !after.server.sending)
    (fragments :
      after.server.moreFragments = true →
        after.server.sending = true) :
    StepExact world (.task .txDone accepted posted) after := by
  have balance := accounted.balance
  apply StepExact.of_accounted
  · constructor
    · omega
    · intro sending
      exact ⟨by omega, by rw [finishing, sending]; rfl⟩
    · intro idle
      rw [finishing, idle, completions]
      exact iff_of_true rfl owed
    · exact fragments
  · rw [completions]
    exact oneBefore
  · exact awaitsLastFragment_of_ne (by simp)

/--
One step from an accounted state with at most one send outstanding: there is
still at most one exactly when the step waits for a last fragment.
-/
theorem Accounted.step
    {world after : World} {step : Step}
    (accounted : Accounted world)
    (one : OneOutstanding world)
    (delivers : step.deliversToTask = true)
    (taken : Taken world step after) :
    StepExact world step after := by
  have oneBefore : world.completions ≤ 1 :=
    (oneOutstanding_iff accounted).mp one
  have balance := accounted.balance
  cases taken with
  | spurious | driverSent | disconnected => cases delivers
  | sendRefused | recvRefused | initRefused =>
      exact
        .of_accounted accounted oneBefore
          (awaitsLastFragment_of_ne (by simp))
  | sendQueued | recvQueued =>
      refine
        .of_same accounted oneBefore rfl rfl rfl rfl rfl ?_
          (awaitsLastFragment_of_ne (by simp))
      simp [World.completions]
  | clearSendq | clearRecvq =>
      exact
        .of_same accounted oneBefore rfl rfl rfl rfl rfl rfl
          (awaitsLastFragment_of_ne (by simp))
  | initDone listening =>
      rcases (Bool.and_eq_true _ _).mp delivers with ⟨rfl, rfl⟩
      exact
        .of_same accounted oneBefore rfl rfl rfl rfl rfl rfl
          (awaitsLastFragment_of_ne (by simp))
  | sent conn posted waiting =>
      simp only [Step.deliversToTask, Step.delivers] at delivers
      subst delivers
      have positive := List.length_pos_of_mem waiting
      refine
        .of_same accounted oneBefore rfl rfl rfl rfl rfl ?_
          (awaitsLastFragment_of_ne (by simp))
      simp only [World.completions, List.count_append, count_posts,
        List.length_erase_of_mem waiting, and_self, if_true]
      omega
  | rxTaken | rxEmpty =>
      refine
        .of_same accounted oneBefore rfl rfl rfl rfl rfl ?_
          (awaitsLastFragment_of_ne (by simp))
      simp [World.completions]
  | txBusy accepted posted pending busy =>
      refine .of_same accounted oneBefore rfl rfl rfl rfl rfl ?_ ?_
      · simp [World.completions]
      · intro finishing
        rw [(accounted.busy busy).2] at finishing
        cases finishing
  | txEmpty accepted posted pending idle empty =>
      refine
        .of_same accounted oneBefore rfl rfl rfl rfl rfl ?_
          (fun _ _ => empty)
      simp [World.completions]
  | txShort accepted posted message sendq pending idle unshifted
  | txLong accepted posted message sendq pending idle unshifted =>
      rcases (Bool.and_eq_true _ _).mp delivers with ⟨rfl, rfl⟩
      apply StepExact.of_dequeue accounted idle
      · rw [MessageQueue.unshift_messages unshifted]
        exact List.cons_ne_nil _ _
      · rfl
      · simp
      · rfl
      · rfl
      · simp only [World.completions, List.length_append, length_awaits,
          List.count_erase, if_true]
        simp
        omega
  | doneLast accepted posted pending busy
  | doneMiddle accepted posted pending busy =>
      rcases (Bool.and_eq_true _ _).mp delivers with ⟨rfl, rfl⟩
      apply StepExact.of_fragment accounted oneBefore (accounted.busy busy).1
      · simp
      · rfl
      · exact completions_handled_sent (count_txDone_pos pending) _ _ _
      · simp [busy]
      · simp [busy]
  | doneIdle accepted posted pending noFragment =>
      rcases (Bool.and_eq_true _ _).mp delivers with ⟨rfl, rfl⟩
      have positive := count_txDone_pos pending
      have onlyOne : world.completions = 1 := by
        have atLeastOne : 0 < world.completions := by
          unfold World.completions
          omega
        omega
      have completions :=
        completions_handled positive
      apply StepExact.of_accounted
      · constructor
        · rw [completions]
          simp only
          omega
        · intro sending
          cases sending
        · intro _
          rw [completions, onlyOne]
          simp
        · intro more
          exact (noFragment ⟨accounted.fragments more, more⟩).elim
      · rw [completions]
        omega
      · exact awaitsLastFragment_of_ne (by simp)

/-- The server when everything owed is delivered and no driver sends. -/
def deliveringSystem : System World Step :=
  serverSystem.restrict fun _ step => step.deliversToTask = true

/--
In every run which delivers all completions owed, the sends issued less the
completions handled are zero or one in every state exactly when no
`SERVER_SIG_TX` event dequeues a message while the last fragment of the
message before is not completed.
-/
theorem one_send_outstanding_iff (steps : List Step) :
    deliveringSystem.Always OneOutstanding World.boot steps ↔
      deliveringSystem.Each AwaitsLastFragment World.boot steps := by
  apply System.always_iff_each _ steps Accounted.boot (Or.inl rfl)
  intro world step after accounted one taken
  have allowed := System.restrict_next_eq_some.mp taken
  exact
    accounted.step one allowed.1 (World.taken_of_next allowed.2)

/--
A message of two fragments is sent; before its last fragment is completed, a
second message is pushed and its event handled.
-/
def overtakingRun : List Step :=
  [.send (.zeros 1 1461) true true, .task .tx true true, .sentCb 1 true,
    .task .txDone true true, .send (.zeros 1 1) true true,
    .task .tx true true]

/-- Three sends are issued there, and one completion is handled. -/
theorem two_sends_outstanding :
    ¬ deliveringSystem.Always OneOutstanding World.boot overtakingRun := by
  intro always
  have counts :
      (deliveringSystem.run World.boot overtakingRun).map
          (fun world =>
            (world.history.calls.length, world.history.handled)) =
        some (3, 1) := by
    rfl
  rcases always.last_of_map counts with ⟨world, equal, one⟩
  rcases Prod.mk.inj equal with ⟨calls, handled⟩
  unfold OneOutstanding at one
  omega

end EspFirmware
