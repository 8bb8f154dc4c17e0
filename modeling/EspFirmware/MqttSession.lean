import EspFirmware.Library.EventLog
import EspFirmware.MqttControl

/-!
# The order of a session

On every connection CONNECT comes first, and nothing else is sent before
CONNACK, in whatever order the events come.  The blocks of the connections are
freed once each.
-/

namespace EspFirmware

open Library

/-! ## The handshake -/

/-- CONNACK is accepted. -/
def AcceptsSession (entry : MqttEntry) : Prop :=
  entry = .did .connectedCb

/-- CONNECT is sent. -/
def Greets : MqttEntry → Prop
  | .did (.sent .connectCb _ _) => True
  | _ => False

/-- A connection is lost, or another one is asked for. -/
def EndsConnection : MqttEntry → Prop
  | .began .reconCb _ | .began .disconCb _ | .did (.connect _)
  | .did (.gethostbyname _) => True
  | _ => False

/-- A session ends with its connection, or when the next one begins. -/
def EndsSession (entry : MqttEntry) : Prop :=
  EndsConnection entry ∨ ∃ state, entry = .began .connectCb state

/-- What has to be in the log before something is sent, or CONNACK is accepted. -/
structure InSession (before : List MqttEntry) (entry : MqttEntry) :
    Prop where
  sent :
    ∀ sender pCon bytes, entry = .did (.sent sender pCon bytes) →
      sender ≠ .connectCb → Open AcceptsSession EndsSession before
  accepted :
    AcceptsSession entry → Open Greets EndsConnection before

/-- The order of a log, and how far the handshake is in a state. -/
structure SessionOrder (control : MqttControl) (log : List MqttEntry) :
    Prop where
  ordered : Justified InSession log
  session :
    control.connState = .mqttData → Open AcceptsSession EndsSession log
  greeted :
    control.connState = .mqttConnectSending →
      Open Greets EndsConnection log

/-- An entry that has nothing to do with the handshake. -/
def Aside : MqttEntry → Prop
  | .began kind _ => kind ≠ .connectCb ∧ kind ≠ .reconCb ∧ kind ≠ .disconCb
  | .did action =>
      (∃ pCon, action.Plain pCon) ∨ ∃ event, action = .heap event

theorem Aside.inSession
    {entry : MqttEntry} (aside : Aside entry) (before : List MqttEntry) :
    InSession before entry where
  sent := by
    rintro sender pCon bytes rfl -
    rcases aside with ⟨held, plain⟩ | ⟨event, same⟩
    · exact plain.elim
    · cases same
  accepted := by
    rintro rfl
    rcases aside with ⟨held, plain⟩ | ⟨event, same⟩
    · exact plain.elim
    · cases same

theorem Aside.not_endsSession
    {entry : MqttEntry} (aside : Aside entry) : ¬EndsSession entry := by
  rintro (ends | ⟨state, rfl⟩)
  · cases entry with
    | began kind state =>
        cases kind with
        | reconCb =>
            exact aside.2.1 rfl
        | disconCb =>
            exact aside.2.2 rfl
        | start | stop | dnsFound | connectCb | sentCb | recv | timer | task
        | call =>
            exact ends
    | did action =>
        rcases aside with ⟨held, plain⟩ | ⟨event, rfl⟩
        · cases action with
          | connect pCon | gethostbyname pCon =>
              exact plain
          | heap event | disconnect pCon | sent sender pCon bytes
          | connectedCb | disconnectedCb | publishedCb | dataCb copied
          | post =>
              exact ends
        · exact ends
  · exact aside.1 rfl

theorem Aside.not_endsConnection
    {entry : MqttEntry} (aside : Aside entry) : ¬EndsConnection entry :=
  fun ends => aside.not_endsSession (.inl ends)

/-- What an event adds that has nothing to do with the handshake. -/
theorem aside_entriesOf
    {kind : MqttEventKind} {actions : List MqttAction} {pCon : Option Nat}
    (passive : kind ≠ .connectCb ∧ kind ≠ .reconCb ∧ kind ≠ .disconCb)
    (plain : ∀ action ∈ actions, action.Plain pCon)
    (state : ConnState) :
    ∀ entry ∈ entriesOf kind state actions, Aside entry := by
  intro entry member
  rcases List.mem_cons.mp member with rfl | done
  · exact passive
  · rcases List.mem_map.mp done with ⟨action, acted, rfl⟩
    exact .inl ⟨pCon, plain action acted⟩

namespace SessionOrder

variable {control after : MqttControl} {log entries : List MqttEntry}

/-- Nothing of the handshake happens, and no state of it is entered. -/
theorem aside
    (order : SessionOrder control log)
    (asides : ∀ entry ∈ entries, Aside entry)
    (session : after.connState = .mqttData → control.connState = .mqttData)
    (greeted :
      after.connState = .mqttConnectSending →
        control.connState = .mqttConnectSending) :
    SessionOrder after (log ++ entries) where
  ordered :=
    order.ordered.append fun entry member => (asides entry member).inSession
  session := fun state =>
    (order.session (session state)).append fun entry member =>
      (asides entry member).not_endsSession
  greeted := fun state =>
    (order.greeted (greeted state)).append fun entry member =>
      (asides entry member).not_endsConnection

/-- Something is sent in a session. -/
theorem sent
    (order : SessionOrder control log)
    (state : control.connState = .mqttData)
    (sender : MqttSender) (pCon : Option Nat) (bytes : List UInt8) :
    SessionOrder control (log ++ [.did (.sent sender pCon bytes)]) where
  ordered := by
    refine justified_concat.mpr ⟨order.ordered, ?_, ?_⟩
    · intro _ _ _ _ _
      exact order.session state
    · intro accepts
      cases accepts
  session := by
    intro _
    refine (order.session state).append ?_
    intro entry member
    rw [List.mem_singleton.mp member]
    rintro (ends | ⟨other, same⟩)
    · exact ends
    · cases same
  greeted := by
    intro other
    rw [state] at other
    cases other

/-- Outside of the handshake and of a session only the order of the log counts. -/
theorem outside
    (ordered : Justified InSession log)
    (session : control.connState ≠ .mqttData)
    (greeted : control.connState ≠ .mqttConnectSending) :
    SessionOrder control log :=
  ⟨ordered, fun state => absurd state session,
    fun state => absurd state greeted⟩

end SessionOrder

/-- A post, like every plain action, has nothing to do with the handshake. -/
theorem aside_post : ∀ entry ∈ [MqttEntry.did .post], Aside entry := by
  intro entry member
  rw [List.mem_singleton.mp member]
  exact .inl ⟨none, trivial⟩

/-- An entry fits any log when nothing is sent in a session and no CONNACK is accepted. -/
def Free : MqttEntry → Prop
  | .began _ _ => True
  | .did (.sent sender _ _) => sender = .connectCb
  | .did action => action ≠ .connectedCb

theorem Free.inSession
    {entry : MqttEntry} (free : Free entry) (before : List MqttEntry) :
    InSession before entry where
  sent := by
    rintro sender pCon bytes rfl other
    exact absurd free other
  accepted := by
    rintro rfl
    exact absurd rfl free

/-- An event whose actions are free. -/
theorem free_entriesOf
    {actions : List MqttAction}
    (free : ∀ action ∈ actions, Free (.did action))
    (kind : MqttEventKind) (state : ConnState) :
    ∀ entry ∈ entriesOf kind state actions, Free entry := by
  intro entry member
  rcases List.mem_cons.mp member with rfl | done
  · trivial
  · rcases List.mem_map.mp done with ⟨action, acted, rfl⟩
    exact free action acted

theorem free_of_plain
    {action : MqttAction} {pCon : Option Nat} (plain : action.Plain pCon) :
    Free (.did action) := by
  cases action with
  | sent sender pCon bytes =>
      exact plain.elim
  | connectedCb =>
      exact plain.elim
  | heap event | connect pCon | gethostbyname pCon | disconnect pCon
  | disconnectedCb | publishedCb | dataCb copied | post =>
      exact MqttAction.noConfusion

theorem free_connectHeap (control : MqttControl) :
    ∀ action ∈ control.connectHeap, Free (.did action) := by
  intro action member
  rcases MqttControl.heap_of_mem_connectHeap member with ⟨event, rfl⟩
  exact MqttAction.noConfusion

theorem free_of_begins
    {action : MqttAction} {number : Nat} (begins : action.Begins number) :
    Free (.did action) := by
  cases action with
  | connect pCon | gethostbyname pCon =>
      exact MqttAction.noConfusion
  | heap event | disconnect pCon | sent sender pCon bytes | connectedCb
  | disconnectedCb | publishedCb | dataCb copied | post =>
      exact begins.elim

/-- The order of a session is kept by every step. -/
theorem sessionOrder_step
    {before after : MqttControl} {kind : MqttEventKind}
    {actions : List MqttAction} {log : List MqttEntry}
    (step : before.Step kind after actions)
    (order : SessionOrder before log) :
    SessionOrder after (log ++ entriesOf kind before.connState actions) := by
  have nothing :
      ∀ action ∈ ([] : List MqttAction), action.Plain before.pCon := by
    intro action member
    cases member
  have free {entries : List MqttEntry}
      (each : ∀ entry ∈ entries, Free entry) :
      Justified InSession (log ++ entries) :=
    order.ordered.append fun entry member => (each entry member).inSession
  -- what comes with an event that sends in a session
  have sending
      (kind : MqttEventKind) (sender : MqttSender) (bytes : List UInt8)
      (passive : kind ≠ .connectCb ∧ kind ≠ .reconCb ∧ kind ≠ .disconCb)
      (state : before.connState = .mqttData) :
      SessionOrder before
        (log ++ [.began kind before.connState] ++
          [.did (.sent sender before.pCon bytes)]) := by
    refine (order.aside ?_ id id).sent state sender before.pCon bytes
    exact aside_entriesOf passive nothing before.connState
  cases step with
  | quiet passive plain =>
      refine order.aside (aside_entriesOf ?_ plain _) id id
      rcases passive with rfl | rfl <;> decide
  | queued passive posts =>
      have plain : ∀ action ∈ actions, action.Plain before.pCon :=
        MqttClient.plain_of_posts posts
      refine order.aside (aside_entriesOf ?_ plain _) id id
      rcases passive with rfl | ⟨rfl, -⟩ <;> decide
  | connect caller number =>
      refine .outside (free (free_entriesOf ?_ _ _)) ConnState.noConfusion
        ConnState.noConfusion
      intro action member
      rcases List.mem_append.mp member with heap | last
      · exact free_connectHeap before action heap
      · rw [List.mem_singleton.mp last]
        exact free_of_begins number
  | disconnect =>
      refine order.aside ?_ id id
      intro entry member
      rcases List.mem_cons.mp member with rfl | done
      · have passive :
            (.stop : MqttEventKind) ≠ .connectCb ∧
              (.stop : MqttEventKind) ≠ .reconCb ∧
                (.stop : MqttEventKind) ≠ .disconCb := by
          decide
        exact passive
      · rcases List.mem_map.mp done with ⟨action, acted, rfl⟩
        rcases List.mem_map.mp acted with ⟨block, -, rfl⟩
        exact .inr ⟨_, rfl⟩
  | resolved =>
      refine .outside (free (free_entriesOf ?_ _ _)) ConnState.noConfusion
        ConnState.noConfusion
      intro action member
      rcases List.mem_cons.mp member with rfl | last
      · exact MqttAction.noConfusion
      · rw [List.mem_singleton.mp last]
        exact MqttAction.noConfusion
  | lost cause plain =>
      refine .outside (free (free_entriesOf ?_ _ _)) ConnState.noConfusion
        ConnState.noConfusion
      intro action member
      exact free_of_plain (plain action member)
  | greet bytes =>
      refine
        { ordered := free (free_entriesOf ?_ _ _)
          session := ConnState.noConfusion
          greeted := ?_ }
      · intro action member
        rcases List.mem_cons.mp member with rfl | last
        · rfl
        · rw [List.mem_singleton.mp last]
          exact MqttAction.noConfusion
      · intro _
        have opened :
            Open Greets EndsConnection
              (log ++ [.began .connectCb before.connState] ++
                [.did (.sent .connectCb before.pCon bytes), .did .post]) := by
          refine open_append_of_opens trivial ?_
          intro later member
          exact (aside_post later member).not_endsConnection
        rw [List.append_assoc] at opened
        exact opened
  | @accepted actions waiting plain =>
      have recv :
          SessionOrder before (log ++ [.began .recv before.connState]) :=
        order.aside (aside_entriesOf (by decide) nothing _) id id
      have asides : ∀ entry ∈ actions.map MqttEntry.did, Aside entry := by
        intro entry member
        rcases List.mem_map.mp member with ⟨action, acted, rfl⟩
        exact .inl ⟨before.pCon, plain action acted⟩
      have accepts :
          InSession (log ++ [.began .recv before.connState])
            (.did .connectedCb) := by
        refine ⟨?_, fun _ => recv.greeted waiting⟩
        intro sender pCon bytes same
        cases same
      have ordered :=
        (justified_concat.mpr ⟨recv.ordered, accepts⟩).append
          fun entry member => (asides entry member).inSession
      have opened :
          Open AcceptsSession EndsSession
            (log ++ [.began .recv before.connState] ++
              .did .connectedCb :: actions.map MqttEntry.did) := by
        refine open_append_of_opens rfl ?_
        intro later member
        exact (asides later member).not_endsSession
      rw [List.append_assoc, List.append_assoc] at ordered
      rw [List.append_assoc] at opened
      exact ⟨ordered, fun _ => opened, ConnState.noConfusion⟩
  | arrived plain =>
      exact order.aside (aside_entriesOf (by decide) plain _) id id
  | tick session early =>
      exact order.aside (aside_entriesOf (by decide) nothing _) id id
  | ping bytes session late =>
      have ordered :=
        (sending .timer .timer bytes (by decide) session).aside aside_post id
          id
      rw [List.append_assoc, List.append_assoc] at ordered
      exact ⟨ordered.ordered, ordered.session, ordered.greeted⟩
  | wait request early =>
      exact order.aside (aside_entriesOf (by decide) nothing _) id id
  | retry request late =>
      refine .outside (free (free_entriesOf ?_ _ _)) ConnState.noConfusion
        ConnState.noConfusion
      intro action member
      rw [List.mem_singleton.mp member]
      exact MqttAction.noConfusion
  | idle other =>
      exact order.aside (aside_entriesOf (by decide) nothing _) id id
  | send bytes session rested =>
      have ordered := sending .task .task bytes (by decide) session
      rw [List.append_assoc] at ordered
      exact ⟨ordered.ordered, ordered.session, ordered.greeted⟩

variable {host : CString} {connectInfo : MqttConnectInfo} {calls : List MqttCall}

/--
In whatever order the events come: CONNACK is accepted only once CONNECT was
sent over the connection, and nothing but CONNECT is sent before CONNACK.
-/
theorem mqtt_session_order
    {world : MqttWorld}
    (reached :
      (mqttSystem (.init host connectInfo calls)).Reachable world) :
    Justified InSession world.log := by
  have order : SessionOrder world.client.control world.log := by
    refine mqttSystem_invariant ?_ ?_ reached
    · exact
        .outside justified_nil ConnState.noConfusion ConnState.noConfusion
    · intro _ _ _ _ _ _ step order
      exact sessionOrder_step step order
  exact order.ordered

/-- The client of the firmware without the calls of `mqttConnectedCb`. -/
def mqttSilent : MqttClient :=
  .init mqttInit.host mqttInit.connectInfo []

/-- A session in which a message is published, and which is lost. -/
def mqttShortSession : List MqttEvent :=
  [.start none, .connectCb, .sentCb,
    .recv [0x20, 0x02, 0x00, 0x00] fun _ _ => true,
    .call (.publish (some (mqttText "/t" (by decide))) [1] 0 0) fun _ => true,
    .task { isBegin := true, stale := 0, cached := none }, .sentCb, .disconCb]

/-- The client after the session. -/
def mqttAfterShortSession : MqttWorld :=
  ((mqttSystem mqttSilent).run (mqttSystem mqttSilent).start
    mqttShortSession).get
    (by decide +kernel)

theorem reachable_mqttAfterShortSession :
    (mqttSystem mqttSilent).Reachable mqttAfterShortSession :=
  System.Reachable.start.run (Option.some_get _).symm

theorem mqtt_session_order_mqttAfterShortSession :
    Justified InSession mqttAfterShortSession.log :=
  mqtt_session_order reachable_mqttAfterShortSession

end EspFirmware
