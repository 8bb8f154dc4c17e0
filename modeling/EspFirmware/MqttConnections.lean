import EspFirmware.Library.EventLog
import EspFirmware.MqttSession

/-!
# The blocks of the connections

`MQTT_Connect` takes two blocks for every connection, and `MQTT_Disconnect`
frees them.  Each is freed at most once, and the SDK is never called with a
connection whose blocks were freed.
-/

namespace EspFirmware

open Library

/-- The number of the connection which a block belongs to. -/
def EspconnBlock.number : EspconnBlock → Nat
  | pCon number | tcp number => number

/-- What an entry does to the heap. -/
def MqttEntry.heapEvent : MqttEntry → Option (HeapEvent EspconnBlock)
  | .did (.heap event) => some event
  | _ => none

/-- What was done to the heap. -/
def espconnEvents (log : List MqttEntry) : List (HeapEvent EspconnBlock) :=
  log.filterMap MqttEntry.heapEvent

/-- The SDK is called with a connection. -/
def Uses (pCon : Option Nat) : MqttEntry → Prop
  | .did (.connect other) | .did (.gethostbyname other)
  | .did (.disconnect other) | .did (.sent _ other _) => other = pCon
  | _ => False

/-- `MQTT_Disconnect` was called by the firmware. -/
def Stopped (log : List MqttEntry) : Prop :=
  ∃ state, .began .stop state ∈ log

/--
The connection which the SDK is called with is the only one whose blocks are
held; it is `NULL` only once the firmware has called `MQTT_Disconnect`.
-/
def UsesHeld (before : List MqttEntry) (entry : MqttEntry) : Prop :=
  ∀ pCon, Uses pCon entry →
    custody 0 (espconnEvents before) = some ↑(connectionBlocks pCon) ∧
      (pCon = none → Stopped before)

/-- The blocks of the connection are held, and no others. -/
structure ConnectionHeld (control : MqttControl) (log : List MqttEntry) :
    Prop where
  held :
    custody 0 (espconnEvents log) = some ↑(connectionBlocks control.pCon)
  numbered :
    ∀ block ∈ taken (espconnEvents log), block.number < control.connections
  once : (taken (espconnEvents log)).Nodup
  used : Justified UsesHeld log
  armed : control.timerArmed = true → control.pCon.isSome = true
  stopped :
    control.pCon = none → control.connState = .wifiInit ∨ Stopped log

/-- The connection, its number and the timer are left alone. -/
def MqttControl.SameConnection (before after : MqttControl) : Prop :=
  after.pCon = before.pCon ∧ after.connections = before.connections ∧
    after.timerArmed = before.timerArmed

theorem espconnEvents_append (front back : List MqttEntry) :
    espconnEvents (front ++ back) =
      espconnEvents front ++ espconnEvents back :=
  List.filterMap_append

theorem espconnEvents_entriesOf
    (kind : MqttEventKind) (state : ConnState) (actions : List MqttAction) :
    espconnEvents (entriesOf kind state actions) =
      actions.filterMap fun action => (MqttEntry.did action).heapEvent :=
  List.filterMap_map

theorem heapEvents_map_free (blocks : List EspconnBlock) :
    ((blocks.map fun block => MqttAction.heap (.free block)).filterMap
        fun action => (MqttEntry.did action).heapEvent) =
      blocks.map .free := by
  rw [List.filterMap_map]
  exact congrFun (@List.filterMap_eq_map _ _ HeapEvent.free) blocks

theorem Stopped.append
    {log : List MqttEntry} (stopped : Stopped log)
    (entries : List MqttEntry) :
    Stopped (log ++ entries) := by
  rcases stopped with ⟨state, member⟩
  exact ⟨state, List.mem_append_left entries member⟩

/-- An entry which leaves the heap alone, and calls the SDK with the given connection. -/
structure On (pCon : Option Nat) (entry : MqttEntry) : Prop where
  heap : entry.heapEvent = none
  used : ∀ other, Uses other entry → other = pCon

theorem espconnEvents_of_on
    {pCon : Option Nat} {entries : List MqttEntry}
    (on : ∀ entry ∈ entries, On pCon entry) :
    espconnEvents entries = [] := by
  rw [espconnEvents, List.filterMap_eq_nil_iff]
  intro entry member
  exact (on entry member).heap

namespace ConnectionHeld

variable {control after : MqttControl} {log entries : List MqttEntry}

/-- The SDK is called, and the heap is left alone. -/
theorem on
    (owned : ConnectionHeld control log)
    (each : ∀ entry ∈ entries, On control.pCon entry)
    (named :
      control.pCon = none → ∀ entry ∈ entries, Uses none entry →
        Stopped log)
    (same : control.SameConnection after)
    (stopped :
      after.pCon = none → after.connState = .wifiInit ∨ Stopped log) :
    ConnectionHeld after (log ++ entries) := by
  rcases same with ⟨same, connections, armed⟩
  have events : espconnEvents (log ++ entries) = espconnEvents log := by
    rw [espconnEvents_append, espconnEvents_of_on each, List.append_nil]
  refine
    { held := ?_
      numbered := ?_
      once := ?_
      used := justified_append.mpr ⟨owned.used, ?_⟩
      armed := ?_
      stopped := ?_ }
  · rw [events, same]
    exact owned.held
  · rw [events, connections]
    exact owned.numbered
  · rw [events]
    exact owned.once
  · intro front entry back layout pCon uses
    have member : entry ∈ entries := by
      rw [layout]
      exact List.mem_append_right front List.mem_cons_self
    have before : ∀ earlier ∈ front, On control.pCon earlier := by
      intro earlier inFront
      refine each earlier ?_
      rw [layout]
      exact List.mem_append_left _ inFront
    have current : pCon = control.pCon := (each entry member).used pCon uses
    constructor
    · rw [espconnEvents_append, espconnEvents_of_on before, List.append_nil,
        current]
      exact owned.held
    · intro null
      rw [null] at uses current
      exact (named current.symm entry member uses).append front
  · rw [same, armed]
    exact owned.armed
  · intro null
    exact (stopped null).imp id fun stop => stop.append entries

/-- The blocks of the connection are freed. -/
theorem freed_all
    (owned : ConnectionHeld control log) :
    custody 0
        (espconnEvents log ++ (connectionBlocks control.pCon).map .free) =
      some 0 := by
  have all := custody_free_all (connectionBlocks control.pCon) 0
  rw [Multiset.add_zero] at all
  rw [custody_append_of owned.held, all]

/-- Entries which do not call the SDK. -/
theorem usesHeld_append
    (owned : ConnectionHeld control log)
    (unused : ∀ entry ∈ entries, ∀ pCon, ¬ Uses pCon entry) :
    Justified UsesHeld (log ++ entries) := by
  refine owned.used.append ?_
  intro entry member front pCon uses
  exact absurd uses (unused entry member pCon)

/-- A connection is closed by the firmware. -/
theorem disconnected
    (owned : ConnectionHeld control log) :
    ConnectionHeld { control with pCon := none, timerArmed := false }
      (log ++
        entriesOf .stop control.connState
          ((connectionBlocks control.pCon).map fun block =>
            .heap (.free block))) := by
  have events :
      espconnEvents
          (log ++
            entriesOf .stop control.connState
              ((connectionBlocks control.pCon).map fun block =>
                .heap (.free block))) =
        espconnEvents log ++ (connectionBlocks control.pCon).map .free := by
    rw [espconnEvents_append, espconnEvents_entriesOf, heapEvents_map_free]
  refine
    { held := ?_
      numbered := ?_
      once := ?_
      used := owned.usesHeld_append ?_
      armed := Bool.false_ne_true.elim
      stopped := ?_ }
  · rw [events]
    exact owned.freed_all
  · rw [events, taken_append, taken_map_free, Multiset.add_zero]
    exact owned.numbered
  · rw [events, taken_append, taken_map_free, Multiset.add_zero]
    exact owned.once
  · intro entry member pCon uses
    rcases List.mem_cons.mp member with rfl | done
    · exact uses
    · rcases List.mem_map.mp done with ⟨action, acted, rfl⟩
      rcases List.mem_map.mp acted with ⟨block, -, rfl⟩
      exact uses
  · intro _
    exact
      .inr
        ⟨control.connState,
          List.mem_append_right log List.mem_cons_self⟩

/-- A connection is closed, or was never made, and the next one is made. -/
theorem connected
    (owned : ConnectionHeld control log)
    (kind : MqttEventKind) {begins : MqttAction}
    (number : begins.Begins control.connections) :
    ConnectionHeld control.connected
      (log ++
        entriesOf kind control.connState
          (control.connectHeap ++ [begins])) := by
  have split :
      log ++
          entriesOf kind control.connState
            (control.connectHeap ++ [begins]) =
        log ++ entriesOf kind control.connState control.connectHeap ++
          [.did begins] := by
    rw [entriesOf, entriesOf, List.map_append, List.append_assoc]
    rfl
  have begun : espconnEvents [.did begins] = [] := by
    cases begins with
    | connect pCon | gethostbyname pCon =>
        rfl
    | heap event | disconnect pCon | sent sender pCon bytes | connectedCb
    | disconnectedCb | publishedCb | dataCb copied | post =>
        exact number.elim
  have events :
      espconnEvents
          (log ++ entriesOf kind control.connState control.connectHeap) =
        espconnEvents log ++ (connectionBlocks control.pCon).map .free ++
          [EspconnBlock.pCon control.connections,
            EspconnBlock.tcp control.connections].map .take := by
    rw [espconnEvents_append, espconnEvents_entriesOf,
      MqttControl.connectHeap, List.filterMap_append, heapEvents_map_free,
      List.append_assoc]
    rfl
  have held :
      custody 0
          (espconnEvents
            (log ++ entriesOf kind control.connState control.connectHeap)) =
        some ↑(connectionBlocks (some control.connections)) := by
    rw [events, custody_append_of owned.freed_all]
    rfl
  have taken :
      taken
          (espconnEvents
            (log ++ entriesOf kind control.connState control.connectHeap)) =
        taken (espconnEvents log) +
          ↑[EspconnBlock.pCon control.connections,
            EspconnBlock.tcp control.connections] := by
    rw [events, taken_append, taken_append, taken_map_free,
      Multiset.add_zero, taken_map_take]
  rw [split]
  refine
    { held := ?_
      numbered := ?_
      once := ?_
      used := justified_concat.mpr ⟨owned.usesHeld_append ?_, ?_⟩
      armed := fun _ => rfl
      stopped := fun null => absurd null (Option.some_ne_none _) }
  · rw [espconnEvents_append, begun, List.append_nil]
    exact held
  · rw [espconnEvents_append, begun, List.append_nil, taken]
    intro block member
    rcases Multiset.mem_add.mp member with old | new
    · exact Nat.lt_succ_of_lt (owned.numbered block old)
    · rcases List.mem_cons.mp new with rfl | last
      · exact Nat.lt_succ_self control.connections
      · rw [List.mem_singleton.mp last]
        exact Nat.lt_succ_self control.connections
  · rw [espconnEvents_append, begun, List.append_nil, taken,
      Multiset.nodup_add]
    refine ⟨owned.once, ?_, ?_⟩
    · simp
    · rw [Multiset.disjoint_left]
      intro block old new
      have below := owned.numbered block old
      rcases List.mem_cons.mp new with rfl | last
      · exact Nat.lt_irrefl control.connections below
      · rw [List.mem_singleton.mp last] at below
        exact Nat.lt_irrefl control.connections below
  · intro entry member pCon uses
    rcases List.mem_cons.mp member with rfl | done
    · exact uses
    · rcases List.mem_map.mp done with ⟨action, acted, rfl⟩
      rcases MqttControl.heap_of_mem_connectHeap acted with ⟨event, rfl⟩
      exact uses
  · intro pCon uses
    have current : pCon = some control.connections := by
      cases begins with
      | connect other | gethostbyname other =>
          exact uses.symm.trans number
      | heap event | disconnect other | sent sender other bytes
      | connectedCb | disconnectedCb | publishedCb | dataCb copied | post =>
          exact number.elim
    rw [current]
    exact ⟨held, fun null => absurd null (Option.some_ne_none _)⟩

end ConnectionHeld

theorem on_began
    (pCon : Option Nat) (kind : MqttEventKind) (state : ConnState) :
    On pCon (.began kind state) where
  heap := rfl
  used := by
    intro other uses
    cases uses

theorem on_sent
    (sender : MqttSender) (pCon : Option Nat) (bytes : List UInt8) :
    On pCon (.did (.sent sender pCon bytes)) where
  heap := rfl
  used := by
    intro other uses
    exact uses.symm

theorem on_plain
    {pCon : Option Nat} {action : MqttAction}
    (plain : action.Plain pCon) :
    On pCon (.did action) := by
  cases action with
  | disconnect current =>
      refine ⟨rfl, ?_⟩
      intro other uses
      exact uses.symm.trans plain
  | dataCb copied | disconnectedCb | publishedCb | post =>
      refine ⟨rfl, ?_⟩
      intro other uses
      cases uses
  | heap event | connect current | gethostbyname current
  | sent sender current bytes | connectedCb =>
      exact plain.elim

theorem on_entriesOf
    {pCon : Option Nat} {actions : List MqttAction}
    (on : ∀ action ∈ actions, On pCon (.did action))
    (kind : MqttEventKind) (state : ConnState) :
    ∀ entry ∈ entriesOf kind state actions, On pCon entry := by
  intro entry member
  rcases List.mem_cons.mp member with rfl | done
  · exact on_began pCon kind state
  · rcases List.mem_map.mp done with ⟨action, acted, rfl⟩
    exact on action acted

/-- The blocks of the connection are held after every step. -/
theorem connectionHeld_step
    {before after : MqttControl} {kind : MqttEventKind}
    {actions : List MqttAction} {log : List MqttEntry}
    (enabled : before.enabled kind = true)
    (step : before.Step kind after actions)
    (owned : ConnectionHeld before log) :
    ConnectionHeld after
      (log ++ entriesOf kind before.connState actions) := by
  -- a callback of the SDK has a connection
  have callback
      (present : before.pCon.isSome = true)
      (on : ∀ action ∈ actions, On before.pCon (.did action))
      (same : before.SameConnection after) :
      ConnectionHeld after
        (log ++ entriesOf kind before.connState actions) := by
    have some : before.pCon ≠ none := Option.isSome_iff_ne_none.mp present
    refine
      owned.on (on_entriesOf on kind before.connState)
        (fun null => absurd null some) same ?_
    rw [same.1]
    exact fun null => absurd null some
  have nothing : ∀ action ∈ ([] : List MqttAction), On before.pCon (.did action) := by
    intro action member
    cases member
  have plainPost : MqttAction.Plain before.pCon .post := trivial
  have post : On before.pCon (.did .post) :=
    on_plain plainPost
  have unchanged : before.SameConnection before := ⟨rfl, rfl, rfl⟩
  cases step with
  | quiet passive plain =>
      have present : before.pCon.isSome = true := by
        rcases passive with rfl | rfl <;> exact enabled
      refine callback present ?_ unchanged
      exact fun action member => on_plain (plain action member)
  | queued passive posts =>
      refine
        owned.on (on_entriesOf ?_ kind before.connState) ?_ unchanged
          owned.stopped
      · intro action member
        rw [posts action member]
        exact post
      · intro _ entry member uses
        rcases List.mem_cons.mp member with rfl | done
        · cases uses
        · rcases List.mem_map.mp done with ⟨action, acted, rfl⟩
          rw [posts action acted] at uses
          cases uses
  | connect caller number =>
      exact owned.connected kind number
  | disconnect =>
      exact owned.disconnected
  | resolved =>
      refine callback enabled ?_ unchanged
      intro action member
      rcases List.mem_cons.mp member with rfl | last
      · refine ⟨rfl, ?_⟩
        intro other uses
        exact uses.symm
      · rw [List.mem_singleton.mp last]
        exact post
  | lost cause plain =>
      have present : before.pCon.isSome = true := by
        rcases cause with rfl | rfl | rfl <;> exact enabled
      refine callback present ?_ unchanged
      exact fun action member => on_plain (plain action member)
  | greet bytes =>
      refine callback enabled ?_ unchanged
      intro action member
      rcases List.mem_cons.mp member with rfl | last
      · exact on_sent .connectCb before.pCon bytes
      · rw [List.mem_singleton.mp last]
        exact post
  | accepted waiting plain =>
      refine callback enabled ?_ unchanged
      intro action member
      rcases List.mem_cons.mp member with rfl | last
      · refine ⟨rfl, ?_⟩
        intro other uses
        cases uses
      · exact on_plain (plain action last)
  | arrived plain =>
      refine callback enabled ?_ unchanged
      exact fun action member => on_plain (plain action member)
  | tick session early =>
      exact callback (owned.armed enabled) nothing unchanged
  | ping bytes session late =>
      refine callback (owned.armed enabled) ?_ unchanged
      intro action member
      rcases List.mem_cons.mp member with rfl | last
      · exact on_sent .timer before.pCon bytes
      · rw [List.mem_singleton.mp last]
        exact post
  | wait request early =>
      exact callback (owned.armed enabled) nothing unchanged
  | retry request late =>
      refine callback (owned.armed enabled) ?_ unchanged
      intro action member
      rw [List.mem_singleton.mp member]
      exact post
  | idle other =>
      exact callback (owned.armed enabled) nothing unchanged
  | send bytes session rested =>
      have stopped : before.pCon = none → Stopped log := by
        intro null
        refine (owned.stopped null).resolve_left ?_
        rw [session]
        exact ConnState.noConfusion
      refine
        owned.on (on_entriesOf ?_ .task before.connState)
          (fun null _ _ _ => stopped null) unchanged
          fun null => .inr (stopped null)
      intro action member
      rw [List.mem_singleton.mp member]
      exact on_sent .task before.pCon bytes

variable {host : CString} {connectInfo : MqttConnectInfo} {calls : List MqttCall}

/--
In whatever order the events come: exactly the blocks of the present connection
are held, every block is taken only once, and the SDK is never called with a
connection that was freed, nor with `NULL` before `MQTT_Disconnect`.
-/
theorem mqtt_connections_held
    {world : MqttWorld}
    (reached :
      (mqttSystem (.init host connectInfo calls)).Reachable world) :
    custody 0 (espconnEvents world.log) =
        some ↑(connectionBlocks world.client.pCon) ∧
      (taken (espconnEvents world.log)).Nodup ∧
      Justified UsesHeld world.log := by
  have owned : ConnectionHeld world.client.control world.log := by
    refine mqttSystem_invariant ?_ ?_ reached
    · exact
        { held := rfl
          numbered := fun _ member => absurd member (Multiset.notMem_zero _)
          once := Multiset.nodup_zero
          used := justified_nil
          armed := Bool.false_ne_true.elim
          stopped := fun _ => .inl rfl }
    · intro _ _ _ _ _ enabled step owned
      exact connectionHeld_step enabled step owned
  exact ⟨owned.held, owned.once, owned.used⟩

theorem mqtt_connections_held_mqttAfterShortSession :
    custody 0 (espconnEvents mqttAfterShortSession.log) =
        some ↑(connectionBlocks mqttAfterShortSession.client.pCon) ∧
      (taken (espconnEvents mqttAfterShortSession.log)).Nodup ∧
      Justified UsesHeld mqttAfterShortSession.log :=
  mqtt_connections_held reachable_mqttAfterShortSession

end EspFirmware
