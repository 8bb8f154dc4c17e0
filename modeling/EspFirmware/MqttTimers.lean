import EspFirmware.MqttPace

/-!
# The ticks of the timer

PINGREQ is sent at every tick that is one too many for the keepalive time, and
another connection is made only after six ticks of waiting.
-/

namespace EspFirmware

open Library

/-- `MQTT_Connect` takes the blocks of a new connection. -/
def MqttEntry.renews : MqttEntry → Bool
  | .did (.heap (.take (.tcp _))) => true
  | _ => false

/-- PINGREQ is sent. -/
def MqttEntry.pings : MqttEntry → Bool
  | .did (.sent .timer _ _) => true
  | _ => false

/-- What happened since the last `MQTT_Connect`. -/
def sinceConnect (log : List MqttEntry) : List MqttEntry :=
  since MqttEntry.renews log

/-- How often the timer ran in a state. -/
def ticksIn (state : ConnState) (log : List MqttEntry) : Nat :=
  log.count (.began .timer state)

/-- How often PINGREQ was sent. -/
def pings (log : List MqttEntry) : Nat :=
  log.countP MqttEntry.pings

/-- What the ticks since the last `MQTT_Connect` have to do with the state. -/
structure Timed (control : MqttControl) (log : List MqttEntry) : Prop where
  session :
    ticksIn .mqttData (sinceConnect log) =
      pings (sinceConnect log) * (control.keepalive + 1) +
        control.keepAliveTick
  early : control.keepAliveTick ≤ control.keepalive
  waiting :
    ∃ attempts,
      ticksIn .tcpReconnectReq (sinceConnect log) =
          attempts * (mqttReconnectTimeout + 1) + control.reconnectTick ∧
        (control.connState = .tcpReconnect → 0 < attempts)
  soon : control.reconnectTick ≤ mqttReconnectTimeout

theorem ticksIn_append (state : ConnState) (front back : List MqttEntry) :
    ticksIn state (front ++ back) =
      ticksIn state front + ticksIn state back :=
  List.count_append

theorem pings_append (front back : List MqttEntry) :
    pings (front ++ back) = pings front + pings back :=
  List.countP_append

/-- An event is a tick at most once. -/
theorem ticksIn_entriesOf
    (state other : ConnState) (kind : MqttEventKind)
    (actions : List MqttAction) :
    ticksIn state (entriesOf kind other actions) =
      if kind = .timer ∧ other = state then 1 else 0 := by
  have none :
      (actions.map MqttEntry.did).count (.began .timer state) = 0 := by
    refine List.count_eq_zero_of_not_mem ?_
    intro member
    rcases List.mem_map.mp member with ⟨action, -, same⟩
    cases same
  rw [ticksIn, entriesOf, List.count_cons, none, Nat.zero_add]
  by_cases tick : kind = .timer ∧ other = state
  · rw [if_pos tick, tick.1, tick.2, beq_self_eq_true, if_pos rfl]
  · rw [if_neg tick, if_neg]
    intro same
    cases eq_of_beq same
    exact tick ⟨rfl, rfl⟩

/-- Only the timer sends PINGREQ. -/
theorem pings_entriesOf
    {before after : MqttControl} {kind : MqttEventKind}
    {actions : List MqttAction}
    (step : before.Step kind after actions)
    (other : kind ≠ .timer) (state : ConnState) :
    pings (entriesOf kind state actions) = 0 := by
  rw [pings, List.countP_eq_zero]
  intro entry member
  rcases List.mem_cons.mp member with rfl | done
  · exact Bool.false_ne_true
  · rcases List.mem_map.mp done with ⟨action, acted, rfl⟩
    cases action with
    | sent sender pCon bytes =>
        cases sender with
        | connectCb | task =>
            exact Bool.false_ne_true
        | timer =>
            exact absurd (kind_of_sent step acted).1 other
    | heap event | connect pCon | gethostbyname pCon | disconnect pCon
    | connectedCb | disconnectedCb | publishedCb | dataCb copied | post =>
        exact Bool.false_ne_true

/-- Only `MQTT_Connect` takes blocks. -/
theorem not_renews_of_step
    {before after : MqttControl} {kind : MqttEventKind}
    {actions : List MqttAction}
    (step : before.Step kind after actions)
    (same : after.connections = before.connections)
    (state : ConnState) :
    ∀ entry ∈ entriesOf kind state actions, entry.renews = false := by
  intro entry member
  rcases List.mem_cons.mp member with rfl | done
  · rfl
  · rcases List.mem_map.mp done with ⟨action, acted, rfl⟩
    cases action with
    | connect pCon | gethostbyname pCon | disconnect pCon
    | sent sender pCon bytes | connectedCb | disconnectedCb | publishedCb
    | dataCb copied | post =>
        rfl
    | heap event =>
        cases step with
        | quiet passive plain | lost cause plain | arrived plain =>
            exact (plain _ acted).elim
        | queued passive posts =>
            cases posts _ acted
        | connect caller number =>
            exact absurd same (Nat.succ_ne_self before.connections)
        | disconnect =>
            rcases List.mem_map.mp acted with ⟨block, -, freed⟩
            cases freed
            rfl
        | accepted waiting plain =>
            rcases List.mem_cons.mp acted with accepts | rest
            · cases accepts
            · exact (plain _ rest).elim
        | resolved | greet bytes | tick session early
        | ping bytes session late | wait request early
        | retry request late | idle other | send bytes session rested =>
            simp at acted

namespace Timed

variable {control after : MqttControl} {log entries : List MqttEntry}

/-- Other events than the timer, which are not `MQTT_Connect` either. -/
theorem untimed
    (timed : Timed control log)
    {kind : MqttEventKind} {actions : List MqttAction}
    (step : control.Step kind after actions)
    (other : kind ≠ .timer)
    (same : after.connections = control.connections)
    (keepalive : after.keepalive = control.keepalive)
    (tick : after.keepAliveTick = control.keepAliveTick)
    (reconnect : after.reconnectTick = control.reconnectTick)
    (state :
      after.connState = .tcpReconnect → control.connState = .tcpReconnect) :
    Timed after (log ++ entriesOf kind control.connState actions) := by
  have back :
      sinceConnect (log ++ entriesOf kind control.connState actions) =
        sinceConnect log ++ entriesOf kind control.connState actions :=
    since_append (not_renews_of_step step same control.connState) log
  have none (state : ConnState) :
      ticksIn state (entriesOf kind control.connState actions) = 0 := by
    rw [ticksIn_entriesOf, if_neg]
    exact fun timer => other timer.1
  refine ⟨?_, ?_, ?_, ?_⟩
  · rw [back, ticksIn_append, none, pings_append,
      pings_entriesOf step other, tick, keepalive]
    exact timed.session
  · rw [tick, keepalive]
    exact timed.early
  · rcases timed.waiting with ⟨attempts, count, due⟩
    refine ⟨attempts, ?_, fun here => due (state here)⟩
    rw [back, ticksIn_append, none, reconnect]
    exact count
  · rw [reconnect]
    exact timed.soon

/-- A tick is counted in the state in which it came. -/
theorem ticked
    {actions : List MqttAction}
    (step : control.Step .timer after actions)
    (same : after.connections = control.connections)
    (log : List MqttEntry) (state : ConnState) :
    ticksIn state
        (sinceConnect (log ++ entriesOf .timer control.connState actions)) =
      ticksIn state (sinceConnect log) +
        if control.connState = state then 1 else 0 := by
  have back :
      sinceConnect (log ++ entriesOf .timer control.connState actions) =
        sinceConnect log ++ entriesOf .timer control.connState actions :=
    since_append (not_renews_of_step step same control.connState) log
  rw [back, ticksIn_append, ticksIn_entriesOf]
  simp only [true_and]

theorem pinged
    {actions : List MqttAction}
    (step : control.Step .timer after actions)
    (same : after.connections = control.connections)
    (log : List MqttEntry) :
    pings
        (sinceConnect (log ++ entriesOf .timer control.connState actions)) =
      pings (sinceConnect log) + pings (actions.map .did) := by
  have back :
      sinceConnect (log ++ entriesOf .timer control.connState actions) =
        sinceConnect log ++ entriesOf .timer control.connState actions :=
    since_append (not_renews_of_step step same control.connState) log
  rw [back, pings_append]
  rfl

/-- A new connection is one without a tick. -/
theorem connected
    (control : MqttControl) (log : List MqttEntry) (kind : MqttEventKind)
    {begins : MqttAction} (number : begins.Begins control.connections) :
    Timed control.connected
      (log ++
        entriesOf kind control.connState
          (control.connectHeap ++ [begins])) := by
  have layout :
      log ++
          entriesOf kind control.connState
            (control.connectHeap ++ [begins]) =
        (log ++
            entriesOf kind control.connState
              ((connectionBlocks control.pCon).map (fun block =>
                  .heap (.free block)) ++
                [.heap (.take (.pCon control.connections))])) ++
          .did (.heap (.take (.tcp control.connections))) ::
            [.did begins] := by
    simp [entriesOf, MqttControl.connectHeap]
  have plain :
      (MqttEntry.did begins).renews = false ∧
        (MqttEntry.did begins).pings = false := by
    cases begins with
    | connect pCon | gethostbyname pCon =>
        exact ⟨rfl, rfl⟩
    | heap event | disconnect pCon | sent sender pCon bytes | connectedCb
    | disconnectedCb | publishedCb | dataCb copied | post =>
        exact number.elim
  have back :
      sinceConnect
          (log ++
            entriesOf kind control.connState
              (control.connectHeap ++ [begins])) =
        [.did begins] := by
    rw [sinceConnect, layout]
    refine since_append_of_marked rfl ?_ _
    intro other member
    rw [List.mem_singleton.mp member]
    exact plain.1
  have none (state : ConnState) : ticksIn state [.did begins] = 0 := by
    refine List.count_eq_zero_of_not_mem ?_
    intro member
    cases List.mem_singleton.mp member
  have noPing : pings [.did begins] = 0 := by
    rw [pings, List.countP_eq_zero]
    intro other member
    rw [List.mem_singleton.mp member, plain.2]
    exact Bool.false_ne_true
  refine ⟨?_, Nat.zero_le _, ⟨0, ?_, ConnState.noConfusion⟩, Nat.zero_le _⟩
  · rw [back, none, noPing, Nat.zero_mul]
    rfl
  · rw [back, none, Nat.zero_mul]
    rfl

end Timed

/-- The counts are kept by every step. -/
theorem timed_step
    {before after : MqttControl} {kind : MqttEventKind}
    {actions : List MqttAction} {log : List MqttEntry}
    (step : before.Step kind after actions)
    (possible : before.keepalive < 2 ^ 32 - 1)
    (timed : Timed before log) :
    Timed after (log ++ entriesOf kind before.connState actions) := by
  have session := timed.session
  have early := timed.early
  have whole : (before.keepAliveTick + 1) % 2 ^ 32 = before.keepAliveTick + 1 := by
    omega
  rcases timed.waiting with ⟨attempts, count, due⟩
  cases step with
  | quiet passive plain =>
      have other : kind ≠ .timer := by
        rcases passive with rfl | rfl <;> simp
      exact
        timed.untimed (.quiet passive plain) other rfl rfl rfl rfl id
  | queued passive posts =>
      have other : kind ≠ .timer := by
        rcases passive with rfl | ⟨rfl, -⟩ <;> simp
      exact
        timed.untimed (.queued passive posts) other rfl rfl rfl rfl id
  | connect caller number =>
      exact .connected before log kind number
  | disconnect =>
      exact timed.untimed .disconnect (by simp) rfl rfl rfl rfl id
  | resolved =>
      exact timed.untimed .resolved (by simp) rfl rfl rfl rfl (by simp)
  | lost cause plain =>
      have other : kind ≠ .timer := by
        rcases cause with rfl | rfl | rfl <;> simp
      exact
        timed.untimed (.lost cause plain) other rfl rfl rfl rfl (by simp)
  | greet bytes =>
      exact timed.untimed (.greet bytes) (by simp) rfl rfl rfl rfl (by simp)
  | accepted waiting plain =>
      exact
        timed.untimed (.accepted waiting plain) (by simp) rfl rfl rfl rfl
          (by simp)
  | arrived plain =>
      exact timed.untimed (.arrived plain) (by simp) rfl rfl rfl rfl id
  | tick state soon =>
      have step : before.Step .timer _ _ := .tick state soon
      refine ⟨?_, soon, ⟨attempts, ?_, ?_⟩, timed.soon⟩
      · rw [Timed.ticked step rfl, Timed.pinged step rfl, if_pos state, whole]
        exact congrArg Nat.succ session
      · rw [Timed.ticked step rfl, if_neg (by simp [state])]
        exact count
      · exact due
  | ping bytes state late =>
      have step : before.Step .timer _ _ := .ping bytes state late
      have full : before.keepAliveTick = before.keepalive := by
        omega
      refine ⟨?_, Nat.zero_le _, ⟨attempts, ?_, ?_⟩, timed.soon⟩
      · rw [Timed.ticked step rfl, Timed.pinged step rfl, if_pos state,
          session, full]
        change _ = (pings (sinceConnect log) + 1) * (before.keepalive + 1) + 0
        rw [Nat.succ_mul]
        omega
      · rw [Timed.ticked step rfl, if_neg (by simp [state])]
        exact count
      · exact due
  | wait state soon =>
      have step : before.Step .timer _ _ := .wait state soon
      refine ⟨?_, early, ⟨attempts, ?_, ?_⟩, soon⟩
      · rw [Timed.ticked step rfl, Timed.pinged step rfl,
          if_neg (by simp [state])]
        exact session
      · rw [Timed.ticked step rfl, if_pos state]
        exact congrArg Nat.succ count
      · exact due
  | retry state late =>
      have step : before.Step .timer _ _ := .retry state late
      have full : before.reconnectTick = mqttReconnectTimeout := by
        have soon := timed.soon
        omega
      refine ⟨?_, early, ⟨attempts + 1, ?_, ?_⟩, Nat.zero_le _⟩
      · rw [Timed.ticked step rfl, Timed.pinged step rfl,
          if_neg (by simp [state])]
        exact session
      · rw [Timed.ticked step rfl, if_pos state, count, full, Nat.succ_mul]
        rfl
      · intro _
        exact Nat.succ_pos attempts
  | idle other =>
      have step : before.Step .timer _ _ := .idle other
      refine ⟨?_, early, ⟨attempts, ?_, ?_⟩, timed.soon⟩
      · rw [Timed.ticked step rfl, Timed.pinged step rfl, if_neg other.1]
        exact session
      · rw [Timed.ticked step rfl, if_neg other.2]
        exact count
      · exact due
  | send bytes session rested =>
      exact
        timed.untimed (.send bytes session rested) (by simp) rfl rfl rfl rfl id

/-- The task makes another connection only after six ticks of waiting. -/
def Patient (before : List MqttEntry) (entry : MqttEntry) : Prop :=
  entry = .began .task .tcpReconnect →
    mqttReconnectTimeout + 1 ≤
      ticksIn .tcpReconnectReq (sinceConnect before)

theorem patient_step
    {before : MqttControl} {kind : MqttEventKind}
    {actions : List MqttAction} {log : List MqttEntry}
    (timed : Timed before log)
    (patient : Justified Patient log) :
    Justified Patient (log ++ entriesOf kind before.connState actions) := by
  refine justified_append.mpr ⟨patient, ?_⟩
  intro front entry back layout retries
  cases front with
  | nil =>
      rw [List.nil_append, entriesOf, List.cons.injEq] at layout
      have same := layout.1.trans retries
      rw [List.append_nil]
      have state : before.connState = .tcpReconnect :=
        (MqttEntry.began.inj same).2
      rcases timed.waiting with ⟨attempts, count, due⟩
      rw [count]
      have once :=
        Nat.mul_le_mul_right (mqttReconnectTimeout + 1) (due state)
      omega
  | cons first front =>
      rw [List.cons_append, entriesOf, List.cons.injEq] at layout
      have member : entry ∈ actions.map MqttEntry.did := by
        rw [layout.2]
        exact List.mem_append_right front List.mem_cons_self
      rcases List.mem_map.mp member with ⟨action, -, same⟩
      rw [← same] at retries
      cases retries

/-- PINGREQ and the next connection come in their time. -/
structure OnTime (keepalive : Nat) (world : MqttWorld) : Prop where
  /-- Since the last `MQTT_Connect`, whatever else was sent. -/
  pinged :
    pings (sinceConnect world.log) =
      ticksIn .mqttData (sinceConnect world.log) / (keepalive + 1)
  patient : Justified Patient world.log

variable {host : CString} {connectInfo : MqttConnectInfo} {calls : List MqttCall}

/--
In whatever order the events come: of the ticks in a session, exactly every one
that completes a keepalive time and one more sends PINGREQ, and the task makes
another connection only after six ticks of waiting.
-/
theorem mqtt_timer_on_time
    {world : MqttWorld}
    (possible :
      (MqttClient.init host connectInfo calls).keepalive < 2 ^ 32 - 1)
    (reached :
      (mqttSystem (.init host connectInfo calls)).Reachable world) :
    OnTime (MqttClient.init host connectInfo calls).keepalive world := by
  have kept :
      world.client.control.keepalive =
          (MqttClient.init host connectInfo calls).keepalive ∧
        Timed world.client.control world.log ∧
          Justified Patient world.log := by
    refine
      @mqttSystem_invariant _
        (fun control log =>
          control.keepalive =
              (MqttClient.init host connectInfo calls).keepalive ∧
            Timed control log ∧ Justified Patient log)
        ?_ ?_ _ reached
    · refine ⟨rfl, ⟨?_, Nat.zero_le _, ⟨0, ?_, ?_⟩, Nat.zero_le _⟩, ?_⟩
      · exact (Nat.zero_mul _).symm
      · exact (Nat.zero_mul _).symm
      · exact ConnState.noConfusion
      · exact justified_nil
    · rintro before kind after actions log - step ⟨same, timed, patient⟩
      refine ⟨?_, timed_step step ?_ timed, patient_step timed patient⟩
      · rw [← same]
        cases step <;> rfl
      · rw [same]
        exact possible
  rcases kept with ⟨same, timed, patient⟩
  refine ⟨?_, patient⟩
  have session := timed.session
  have early := timed.early
  rw [same] at session early
  rw [session, Nat.add_comm, Nat.add_mul_div_right _ _ (Nat.succ_pos _),
    Nat.div_eq_of_lt (Nat.lt_succ_of_le early), Nat.zero_add]

theorem mqtt_timer_on_time_mqttAfterShortSession :
    OnTime mqttSilent.keepalive mqttAfterShortSession :=
  mqtt_timer_on_time (by decide) reachable_mqttAfterShortSession

end EspFirmware
