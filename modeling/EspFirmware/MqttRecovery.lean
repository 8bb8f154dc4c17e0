import EspFirmware.MqttPace

/-!
# A client which is left alone

Without a callback of the SDK, only a lost connection is followed by another
one, and only once.  A CONNACK which does not come is waited for for ever.
-/

namespace EspFirmware

open Library

/-- An event of the firmware itself, which neither starts nor stops the client. -/
def MqttEventKind.own : MqttEventKind → Bool
  | .timer | .task | .call => true
  | .start | .stop | .dnsFound | .connectCb | .reconCb | .disconCb | .sentCb
  | .recv => false

/-- How many ticks a client waits before its task makes another connection. -/
def MqttControl.ticksLeft (control : MqttControl) : Option Nat :=
  match control.connState with
  | .tcpReconnect => some 0
  | .tcpReconnectReq =>
      some (mqttReconnectTimeout - control.reconnectTick + 1)
  | .wifiInit | .tcpConnecting | .mqttConnectSending | .mqttData => none

/-- Behind so many ticks comes the task. -/
def Due (left : Nat) (kinds : List MqttEventKind) : Prop :=
  ∃ front back, kinds = front ++ .task :: back ∧ left ≤ front.count .timer

/-- The events make a client connect anew. -/
def Renews (control : MqttControl) (kinds : List MqttEventKind) : Prop :=
  ∃ left ∈ control.ticksLeft, Due left kinds

theorem not_due_nil (left : Nat) : ¬Due left [] := by
  rintro ⟨front, back, layout, -⟩
  exact List.append_ne_nil_of_right_ne_nil front (List.cons_ne_nil _ _)
    layout.symm

theorem due_timer (left : Nat) (kinds : List MqttEventKind) :
    Due left (.timer :: kinds) ↔ Due (left - 1) kinds := by
  constructor
  · rintro ⟨front, back, layout, enough⟩
    cases front with
    | nil =>
        cases layout
    | cons first front =>
        rw [List.cons_append, List.cons.injEq] at layout
        rw [← layout.1, List.count_cons_self] at enough
        exact ⟨front, back, layout.2, Nat.sub_le_of_le_add enough⟩
  · rintro ⟨front, back, rfl, enough⟩
    refine ⟨.timer :: front, back, rfl, ?_⟩
    rw [List.count_cons_self]
    exact Nat.le_add_of_sub_le enough

/-- Any other event changes nothing, unless it is the task when it is due. -/
theorem due_other
    {left : Nat} {kind : MqttEventKind} (kinds : List MqttEventKind)
    (other : kind ≠ .timer)
    (early : kind = .task → 0 < left) :
    Due left (kind :: kinds) ↔ Due left kinds := by
  constructor
  · rintro ⟨front, back, layout, enough⟩
    cases front with
    | nil =>
        rw [List.nil_append, List.cons.injEq] at layout
        exact absurd enough (Nat.not_le_of_lt (early layout.1))
    | cons first front =>
        rw [List.cons_append, List.cons.injEq] at layout
        rw [← layout.1, List.count_cons_of_ne other] at enough
        exact ⟨front, back, layout.2, enough⟩
  · rintro ⟨front, back, rfl, enough⟩
    refine ⟨kind :: front, back, rfl, ?_⟩
    rw [List.count_cons_of_ne other]
    exact enough

/-! ## One event -/

/-- No other connection is made, while so many ticks go by. -/
structure Stays (before after : MqttControl) (ticks : Nat) : Prop where
  connections : after.connections = before.connections
  pCon : after.pCon = before.pCon
  left : after.ticksLeft = before.ticksLeft.map (· - ticks)
  state : before.ticksLeft = none → after.connState = before.connState

theorem Stays.refl (control : MqttControl) : Stays control control 0 where
  connections := rfl
  pCon := rfl
  left := by
    cases control.ticksLeft <;> rfl
  state := fun _ => rfl

theorem Stays.trans
    {first second third : MqttControl} {early late : Nat}
    (front : Stays first second early) (back : Stays second third late) :
    Stays first third (early + late) where
  connections := back.connections.trans front.connections
  pCon := back.pCon.trans front.pCon
  left := by
    rw [back.left, front.left, Option.map_map]
    refine congrArg (Option.map · first.ticksLeft) ?_
    funext left
    exact Nat.sub_sub left early late
  state := by
    intro none
    have noneThen : second.ticksLeft = Option.none := by
      rw [front.left, none]
      rfl
    exact (back.state noneThen).trans (front.state none)

/-- What an event of the firmware itself does: the task connects when it is due. -/
theorem own_step
    {before after : MqttControl} {kind : MqttEventKind}
    {actions : List MqttAction}
    (own : kind.own = true)
    (step : before.Step kind after actions) :
    kind = .task ∧ before.ticksLeft = some 0 ∧ after = before.connected ∨
      (kind = .task → before.ticksLeft ≠ some 0) ∧
        Stays before after (if kind = .timer then 1 else 0) := by
  have notDue
      (settled : before.connState ≠ .tcpReconnect) :
      before.ticksLeft ≠ some 0 := by
    rw [MqttControl.ticksLeft]
    cases state : before.connState with
    | tcpReconnect =>
        exact absurd state settled
    | tcpReconnectReq =>
        exact fun due => Nat.succ_ne_zero _ (Option.some.inj due)
    | wifiInit | tcpConnecting | mqttConnectSending | mqttData =>
        intro due
        cases due
  cases step with
  | quiet passive plain =>
      rcases passive with rfl | rfl <;> cases own
  | queued passive posts =>
      rcases passive with rfl | ⟨rfl, settled⟩
      · exact .inr ⟨MqttEventKind.noConfusion, .refl before⟩
      · exact .inr ⟨fun _ => notDue settled, .refl before⟩
  | connect caller number =>
      rcases caller with rfl | ⟨rfl, state⟩
      · cases own
      · refine .inl ⟨rfl, ?_, rfl⟩
        rw [MqttControl.ticksLeft, state]
  | lost cause plain =>
      rcases cause with rfl | rfl | rfl <;> cases own
  | disconnect | resolved | greet bytes | accepted waiting plain
  | arrived plain =>
      cases own
  | tick session early | ping bytes session late =>
      refine .inr ⟨MqttEventKind.noConfusion, rfl, rfl, ?_, fun _ => rfl⟩
      simp only [MqttControl.ticksLeft, session, Option.map_none]
  | wait request early =>
      refine .inr ⟨MqttEventKind.noConfusion, rfl, rfl, ?_, fun _ => rfl⟩
      simp only [MqttControl.ticksLeft, request, Option.map_some, if_true]
      refine congrArg some ?_
      omega
  | retry request late =>
      refine .inr ⟨MqttEventKind.noConfusion, rfl, rfl, ?_, ?_⟩
      · simp only [MqttControl.ticksLeft, request, Option.map_some, if_true]
        refine congrArg some ?_
        omega
      · intro none
        simp only [MqttControl.ticksLeft, request, reduceCtorEq] at none
  | idle other =>
      refine .inr ⟨MqttEventKind.noConfusion, rfl, rfl, ?_, fun _ => rfl⟩
      cases state : before.connState with
      | mqttData =>
          exact absurd state other.1
      | tcpReconnectReq =>
          exact absurd state other.2
      | tcpReconnect | wifiInit | tcpConnecting | mqttConnectSending =>
          simp only [MqttControl.ticksLeft, state]
          rfl
  | send bytes session rested =>
      have settled : before.connState ≠ .tcpReconnect := by
        rw [session]
        exact ConnState.noConfusion
      refine .inr ⟨fun _ => notDue settled, rfl, rfl, ?_, fun _ => rfl⟩
      simp only [MqttControl.ticksLeft, session, Option.map_none]

/-- Outside of a session, the firmware itself sends nothing, and does not get into one. -/
theorem own_silent
    {before after : MqttControl} {kind : MqttEventKind}
    {actions : List MqttAction}
    (own : kind.own = true)
    (step : before.Step kind after actions)
    (outside : before.connState ≠ .mqttData) :
    after.connState ≠ .mqttData ∧
      ∀ entry ∈ entriesOf kind before.connState actions, ¬entry.Sent := by
  have quiet (posts : ∀ action ∈ actions, ∀ sender pCon bytes,
        action ≠ .sent sender pCon bytes) :
      ∀ entry ∈ entriesOf kind before.connState actions, ¬entry.Sent := by
    rintro entry member ⟨sender, pCon, bytes, rfl⟩
    rcases List.mem_cons.mp member with began | done
    · cases began
    · rcases List.mem_map.mp done with ⟨action, acted, same⟩
      exact posts action acted sender pCon bytes (MqttEntry.did.inj same)
  cases step with
  | quiet passive plain =>
      rcases passive with rfl | rfl <;> cases own
  | queued passive posts =>
      refine ⟨outside, quiet ?_⟩
      intro action member sender pCon bytes same
      rw [posts action member] at same
      cases same
  | connect caller number =>
      refine ⟨ConnState.noConfusion, quiet ?_⟩
      rintro action member sender pCon bytes rfl
      rcases List.mem_append.mp member with heap | last
      · rcases MqttControl.heap_of_mem_connectHeap heap with ⟨event, same⟩
        cases same
      · rw [← List.mem_singleton.mp last] at number
        exact number.elim
  | lost cause plain =>
      rcases cause with rfl | rfl | rfl <;> cases own
  | disconnect | resolved | greet bytes | accepted waiting plain
  | arrived plain =>
      cases own
  | tick session early | ping bytes session late
  | send bytes session rested =>
      exact absurd session outside
  | wait request early | idle other =>
      refine ⟨outside, quiet ?_⟩
      intro action member
      cases member
  | retry request late =>
      refine ⟨ConnState.noConfusion, quiet ?_⟩
      intro action member sender pCon bytes same
      rw [List.mem_singleton.mp member] at same
      cases same

/-! ## Runs -/

/-- What the events of the firmware itself make of a client. -/
structure LeftAlone
    (before after : MqttWorld) (kinds : List MqttEventKind) : Prop where
  /-- One new connection, which is then waited for. -/
  renewed :
    Renews before.client.control kinds →
      after.client.control.connections =
          before.client.control.connections + 1 ∧
        after.client.control.pCon =
            some before.client.control.connections ∧
          after.client.control.connState = .tcpConnecting
  /-- No other connection. -/
  stayed :
    ¬Renews before.client.control kinds →
      Stays before.client.control after.client.control
        (kinds.count .timer)
  /-- Nothing is sent outside of a session. -/
  silent :
    before.client.control.connState ≠ .mqttData →
      after.client.control.connState ≠ .mqttData ∧
        ∃ entries,
          after.log = before.log ++ entries ∧
            ∀ entry ∈ entries, ¬entry.Sent

theorem not_renews_of_none
    {control : MqttControl} (none : control.ticksLeft = none)
    (kinds : List MqttEventKind) :
    ¬Renews control kinds := by
  rintro ⟨left, waits, -⟩
  rw [none] at waits
  cases waits

/-- One event in front of others. -/
theorem renews_cons
    {before after : MqttControl} {kind : MqttEventKind}
    (kinds : List MqttEventKind)
    (early : kind = .task → before.ticksLeft ≠ some 0)
    (stays : Stays before after (if kind = .timer then 1 else 0)) :
    Renews before (kind :: kinds) ↔ Renews after kinds := by
  cases waits : before.ticksLeft with
  | none =>
      have none : after.ticksLeft = Option.none := by
        rw [stays.left, waits]
        rfl
      exact iff_of_false (not_renews_of_none waits _) (not_renews_of_none none _)
  | some left =>
      have same {control : MqttControl} {ticks : Nat}
          (waits : control.ticksLeft = some ticks)
          (kinds : List MqttEventKind) :
          Renews control kinds ↔ Due ticks kinds := by
        rw [Renews, waits]
        constructor
        · rintro ⟨other, held, due⟩
          rwa [Option.some.inj held]
        · exact fun due => ⟨ticks, rfl, due⟩
      rw [same waits]
      have left' := stays.left
      rw [waits, Option.map_some] at left'
      rw [same left']
      by_cases timer : kind = .timer
      · rw [if_pos timer, timer]
        exact due_timer left kinds
      · rw [if_neg timer]
        refine due_other kinds timer ?_
        intro task
        refine Nat.pos_of_ne_zero ?_
        rintro rfl
        exact early task waits

theorem leftAlone_of_run
    {client : MqttClient} {before after : MqttWorld} {events : List MqttEvent}
    (own : ∀ event ∈ events, event.kind.own = true)
    (ran : (mqttSystem client).run before events = some after) :
    LeftAlone before after (events.map MqttEvent.kind) := by
  induction events generalizing before with
  | nil =>
      cases ran
      refine ⟨?_, fun _ => .refl _, fun outside => ⟨outside, [], ?_, ?_⟩⟩
      · rintro ⟨left, -, due⟩
        exact absurd due (not_due_nil left)
      · exact (List.append_nil _).symm
      · intro entry member
        cases member
  | cons event events induction =>
      rw [System.run] at ran
      rcases Option.bind_eq_some_iff.mp ran with ⟨middle, taken, ranRest⟩
      rcases mqttSystem_next taken with ⟨-, actions, handled, log⟩
      have step := MqttClient.step_handle handled
      have ownHere := own event List.mem_cons_self
      have rest :=
        induction (fun other member => own other (.tail _ member)) ranRest
      have silent
          (outside : before.client.control.connState ≠ .mqttData) :
          after.client.control.connState ≠ .mqttData ∧
            ∃ entries,
              after.log = before.log ++ entries ∧
                ∀ entry ∈ entries, ¬entry.Sent := by
        have first := own_silent ownHere step outside
        rcases rest.silent first.1 with ⟨state, entries, logRest, quiet⟩
        refine
          ⟨state,
            entriesOf event.kind before.client.connState actions ++ entries,
            ?_, ?_⟩
        · rw [logRest, log, List.append_assoc]
        · intro entry member
          rcases List.mem_append.mp member with here | later
          · exact first.2 entry here
          · exact quiet entry later
      rw [List.map_cons]
      rcases own_step ownHere step with ⟨task, due, connected⟩ | ⟨early, stays⟩
      · -- the task connects, and what follows is waiting
        have none : middle.client.control.ticksLeft = none := by
          rw [connected]
          rfl
        have waited := rest.stayed (not_renews_of_none none _)
        refine ⟨?_, ?_, silent⟩
        · intro _
          rw [waited.connections, waited.pCon, waited.state none, connected]
          exact ⟨rfl, rfl, rfl⟩
        · intro idle
          refine absurd ⟨0, due, [], events.map MqttEvent.kind, ?_, ?_⟩ idle
          · rw [task]
            rfl
          · exact Nat.zero_le _
      · have same := renews_cons (events.map MqttEvent.kind) early stays
        refine ⟨?_, ?_, silent⟩
        · intro renews
          have renewed := rest.renewed (same.mp renews)
          rw [stays.connections] at renewed
          exact renewed
        · intro idle
          have waited := stays.trans (rest.stayed (fun due => idle (same.mpr due)))
          rw [List.count_cons, Nat.add_comm]
          by_cases timer : event.kind = .timer
          · rw [if_pos timer] at waited
            rw [if_pos (beq_iff_eq.mpr timer)]
            exact waited
          · rw [if_neg timer] at waited
            rw [if_neg (fun same => timer (beq_iff_eq.mp same))]
            exact waited

/-- Only `MQTT_Disconnect` disarms the timer. -/
theorem armed_of_step
    {before after : MqttControl} {kind : MqttEventKind}
    {actions : List MqttAction}
    (step : before.Step kind after actions)
    (other : kind ≠ .stop)
    (armed : before.timerArmed = true) :
    after.timerArmed = true := by
  cases step with
  | disconnect =>
      exact absurd rfl other
  | connect caller number =>
      rfl
  | quiet passive plain | queued passive posts | resolved | lost cause plain
  | greet bytes | accepted waiting plain | arrived plain | tick session early
  | ping bytes session late | wait request early | retry request late
  | idle other | send bytes session rested =>
      exact armed

/-- An event of the firmware itself always happens while the timer is armed. -/
theorem own_happens
    (client : MqttClient) {world : MqttWorld} {event : MqttEvent}
    (own : event.kind.own = true)
    (armed : world.client.timerArmed = true) :
    ∃ after,
      (mqttSystem client).next world event = some after ∧
        after.client.timerArmed = true := by
  have enabled : world.client.control.enabled event.kind = true := by
    cases event with
    | timer =>
        exact armed
    | task answers | call call stack =>
        rfl
    | start cached | stop | dnsFound ipaddr | connectCb | reconCb | disconCb
    | sentCb | recv pdata stack =>
        cases own
  have handles : ∃ handled, world.client.handle event = some handled := by
    cases event with
    | timer | task answers | call call stack =>
        exact ⟨_, rfl⟩
    | start cached | stop | dnsFound ipaddr | connectCb | reconCb | disconCb
    | sentCb | recv pdata stack =>
        cases own
  rcases handles with ⟨⟨after, actions⟩, handled⟩
  have running : event.kind ≠ .stop := by
    intro stop
    rw [stop] at own
    cases own
  have stillArmed : after.control.timerArmed = true :=
    armed_of_step (MqttClient.step_handle handled) running armed
  refine
    ⟨{ client := after
       log :=
         world.log ++ entriesOf event.kind world.client.connState actions },
      ?_, stillArmed⟩
  simp only [mqttSystem, enabled, if_true, handled, Option.map_some]

/--
Without the callbacks of the SDK, a client makes another connection exactly when
its own was lost and its task comes behind enough ticks, and it makes only one.
In any other state it stays for ever, and outside of a session it sends nothing.
-/
theorem mqtt_left_alone
    (client : MqttClient) (world : MqttWorld) {events : List MqttEvent}
    (own : ∀ event ∈ events, event.kind.own = true) :
    (world.client.timerArmed = true →
        ((mqttSystem client).run world events).isSome = true) ∧
      ∀ after, (mqttSystem client).run world events = some after →
        LeftAlone world after (events.map MqttEvent.kind) := by
  refine ⟨?_, fun after ran => leftAlone_of_run own ran⟩
  intro armed
  induction events generalizing world with
  | nil =>
      rfl
  | cons event events induction =>
      rcases own_happens client (own event List.mem_cons_self) armed with
        ⟨middle, taken, stillArmed⟩
      rw [System.run, taken]
      exact
        induction middle (fun other member => own other (.tail _ member))
          stillArmed

/-- Six ticks and the task, behind the loss of a connection. -/
def mqttSixTicks : List MqttEvent :=
  List.replicate 6 .timer ++
    [.task { isBegin := true, stale := 0, cached := none }]

theorem mqtt_left_alone_mqttSixTicks :
    (mqttAfterShortSession.client.timerArmed = true →
        ((mqttSystem mqttSilent).run mqttAfterShortSession
          mqttSixTicks).isSome = true) ∧
      ∀ after,
        (mqttSystem mqttSilent).run mqttAfterShortSession mqttSixTicks =
            some after →
          LeftAlone mqttAfterShortSession after
            (mqttSixTicks.map MqttEvent.kind) := by
  refine mqtt_left_alone mqttSilent mqttAfterShortSession ?_
  decide

/-- These make the client connect anew. -/
example :
    Renews mqttAfterShortSession.client.control
      (mqttSixTicks.map MqttEvent.kind) :=
  ⟨6, by decide +kernel, List.replicate 6 .timer, [], rfl, by decide⟩

end EspFirmware
