import EspFirmware.Library.EventLog
import EspFirmware.MqttOrder

/-!
# One packet at a time

The task sends a packet only when the sent callback has come since the packet
before, or `MQTT_SEND_TIMOUT` has run down.  The callback does not tell which
packet it is about: one of them stands for all that are on their way.
-/

namespace EspFirmware

open Library

/-- The timer runs. -/
def MqttEntry.isTick : MqttEntry → Bool
  | .began .timer _ => true
  | _ => false

/-- How often the timer has run. -/
def ticks (log : List MqttEntry) : Nat :=
  log.countP MqttEntry.isTick

/-- A sent callback has come, whichever packet it is about. -/
def Arrived (log : List MqttEntry) : Prop :=
  ∃ state, .began .sentCb state ∈ log

/-- How many ticks are waited for a packet; the timer counts its own one. -/
def MqttSender.wait : MqttSender → Nat
  | .connectCb | .task => mqttSendTimout
  | .timer => mqttSendTimout - 1

/--
Before the task sends, a sent callback has come since every earlier packet, or
that packet was waited for.
-/
def Paced (before : List MqttEntry) (entry : MqttEntry) : Prop :=
  ∀ pCon bytes, entry = .did (.sent .task pCon bytes) →
    ∀ front sender other earlier back,
      before = front ++ .did (.sent sender other earlier) :: back →
        Arrived back ∨ sender.wait ≤ ticks back

/-- An entry with which something is sent. -/
def MqttEntry.Sent (entry : MqttEntry) : Prop :=
  ∃ sender pCon bytes, entry = .did (.sent sender pCon bytes)

theorem ticks_append (front back : List MqttEntry) :
    ticks (front ++ back) = ticks front + ticks back :=
  List.countP_append

theorem Arrived.append
    {log : List MqttEntry} (arrived : Arrived log)
    (entries : List MqttEntry) :
    Arrived (log ++ entries) := by
  rcases arrived with ⟨state, member⟩
  exact ⟨state, List.mem_append_left entries member⟩

/-- The order of a log, and what is left to be waited for. -/
structure Pace (control : MqttControl) (log : List MqttEntry) : Prop where
  paced : Justified Paced log
  waits :
    ∀ front sender other bytes back,
      log = front ++ .did (.sent sender other bytes) :: back →
        Arrived back ∨ sender.wait ≤ control.sendTimeout + ticks back
  bounded : control.sendTimeout ≤ mqttSendTimout

namespace Pace

variable {control after : MqttControl} {log entries : List MqttEntry}

/-- Nothing is sent. -/
theorem silent
    (pace : Pace control log)
    (unsent : ∀ entry ∈ entries, ¬ entry.Sent)
    (waited :
      Arrived entries ∨
        control.sendTimeout ≤ after.sendTimeout + ticks entries)
    (bounded : after.sendTimeout ≤ mqttSendTimout) :
    Pace after (log ++ entries) where
  bounded := bounded
  paced := by
    refine pace.paced.append ?_
    rintro entry member front pCon bytes rfl
    exact absurd ⟨.task, pCon, bytes, rfl⟩ (unsent _ member)
  waits := by
    intro front sender other bytes back layout
    rcases split_append layout with ⟨older, rfl, before⟩ | ⟨newer, -, same⟩
    · rcases waited with ⟨state, here⟩ | later
      · exact .inl ⟨state, List.mem_append_right older here⟩
      · refine (pace.waits front sender other bytes older before).imp ?_ ?_
        · exact fun arrived => arrived.append entries
        · intro enough
          rw [ticks_append]
          omega
    · refine absurd ⟨sender, other, bytes, rfl⟩ (unsent _ ?_)
      rw [same]
      exact List.mem_append_right newer List.mem_cons_self

/-- Something is sent; the task sends only where nothing is left to be waited for. -/
theorem sent
    (pace : Pace control log)
    (sender : MqttSender)
    (own : sender.wait ≤ control.sendTimeout)
    (rested :
      sender = .task → ∃ rest, Pace rest log ∧ rest.sendTimeout = 0)
    (pCon : Option Nat) (bytes : List UInt8) :
    Pace control (log ++ [.did (.sent sender pCon bytes)]) where
  bounded := pace.bounded
  paced := by
    refine justified_concat.mpr ⟨pace.paced, ?_⟩
    rintro ownCon ownBytes same front other otherCon otherBytes back layout
    cases same
    rcases rested rfl with ⟨rest, before, none⟩
    have waits := before.waits front other otherCon otherBytes back layout
    rwa [none, Nat.zero_add] at waits
  waits := by
    intro front other otherCon otherBytes back layout
    rcases split_concat layout with ⟨-, same, rfl⟩ | ⟨older, rfl, before⟩
    · cases same
      exact .inr own
    · refine (pace.waits front other otherCon otherBytes older before).imp ?_ ?_
      · exact fun arrived => arrived.append _
      · intro enough
        rw [ticks_append]
        omega

/-- A post comes behind a packet. -/
theorem append_post
    (pace : Pace control log) :
    Pace control (log ++ [.did .post]) := by
  refine pace.silent ?_ (.inr (Nat.le_add_right _ _)) pace.bounded
  rintro entry member ⟨sender, pCon, bytes, rfl⟩
  cases List.mem_singleton.mp member

end Pace

theorem not_sent_of_posts
    {actions : List MqttAction}
    (posts : ∀ action ∈ actions, action = .post)
    (kind : MqttEventKind) (state : ConnState) :
    ∀ entry ∈ entriesOf kind state actions, ¬ entry.Sent := by
  rintro entry member ⟨sender, pCon, bytes, rfl⟩
  rcases List.mem_cons.mp member with same | done
  · cases same
  · rcases List.mem_map.mp done with ⟨action, acted, same⟩
    cases same
    cases posts _ acted

/-- Where neither CONNECT nor PINGREQ nor a packet of the queue is due, nothing is sent. -/
theorem not_sent_of_kind
    {before after : MqttControl} {kind : MqttEventKind}
    {actions : List MqttAction}
    (step : before.Step kind after actions)
    (greets : kind ≠ .connectCb)
    (ticks : kind ≠ .timer)
    (sends : kind = .task → before.connState ≠ .mqttData)
    (state : ConnState) :
    ∀ entry ∈ entriesOf kind state actions, ¬ entry.Sent := by
  rintro entry member ⟨sender, pCon, bytes, rfl⟩
  rcases List.mem_cons.mp member with same | done
  · cases same
  · rcases List.mem_map.mp done with ⟨action, acted, same⟩
    cases same
    rcases kind_of_sent step acted with ⟨rfl, session⟩
    cases sender with
    | connectCb =>
        exact greets rfl
    | timer =>
        exact ticks rfl
    | task =>
        exact sends rfl (session rfl)

/-- The pace is kept by every step. -/
theorem pace_step
    {before after : MqttControl} {kind : MqttEventKind}
    {actions : List MqttAction} {log : List MqttEntry}
    (step : before.Step kind after actions)
    (pace : Pace before log) :
    Pace after (log ++ entriesOf kind before.connState actions) := by
  have bounded := pace.bounded
  have posts : ∀ action ∈ ([.post] : List MqttAction), action = .post := by
    intro action member
    exact List.mem_singleton.mp member
  have nothing : ∀ action ∈ ([] : List MqttAction), action = .post := by
    intro action member
    cases member
  -- an event without a packet, which leaves the wait alone
  have untimed
      (unsent :
        ∀ entry ∈ entriesOf kind before.connState actions, ¬ entry.Sent)
      (same : after.sendTimeout = before.sendTimeout) :
      Pace after (log ++ entriesOf kind before.connState actions) := by
    refine pace.silent unsent (.inr ?_) ?_
    · rw [same]
      exact Nat.le_add_right _ _
    · rw [same]
      exact bounded
  -- a tick without a packet
  have ticked {actions : List MqttAction}
      (unsent :
        ∀ entry ∈ entriesOf .timer before.connState actions, ¬ entry.Sent)
      (same : after.sendTimeout = before.sendTimeout - 1) :
      Pace after (log ++ entriesOf .timer before.connState actions) := by
    refine pace.silent unsent (.inr ?_) ?_
    · rw [same, entriesOf, ticks, List.countP_cons,
        if_pos (show MqttEntry.isTick (.began .timer _) = true from rfl)]
      omega
    · omega
  -- the beginning of an event which sends
  have begun (kind : MqttEventKind) (middle : MqttControl)
      (wait :
        mqttSendTimout ≤
          middle.sendTimeout + ticks [.began kind before.connState])
      (small : middle.sendTimeout ≤ mqttSendTimout) :
      Pace middle (log ++ [.began kind before.connState]) := by
    refine
      pace.silent (not_sent_of_posts nothing kind before.connState) (.inr ?_)
        small
    exact Nat.le_trans bounded wait
  cases step with
  | quiet passive plain =>
      refine untimed (not_sent_of_kind (.quiet passive plain) ?_ ?_ ?_ _) rfl
      all_goals rcases passive with rfl | rfl
      all_goals simp
  | queued passive posts =>
      exact untimed (not_sent_of_posts posts _ _) rfl
  | connect caller number =>
      refine untimed (not_sent_of_kind (.connect caller number) ?_ ?_ ?_ _) rfl
      · rcases caller with rfl | ⟨rfl, -⟩ <;> simp
      · rcases caller with rfl | ⟨rfl, -⟩ <;> simp
      · rcases caller with rfl | ⟨rfl, state⟩
        · simp
        · simp [state]
  | disconnect =>
      exact
        untimed (not_sent_of_kind .disconnect (by simp) (by simp) (by simp) _)
          rfl
  | resolved =>
      exact
        untimed (not_sent_of_kind .resolved (by simp) (by simp) (by simp) _)
          rfl
  | lost cause plain =>
      refine untimed (not_sent_of_kind (.lost cause plain) ?_ ?_ ?_ _) rfl
      all_goals rcases cause with rfl | rfl | rfl
      all_goals simp
  | accepted waiting plain =>
      exact
        untimed
          (not_sent_of_kind (.accepted waiting plain) (by simp) (by simp)
            (by simp) _)
          rfl
  | arrived plain =>
      refine
        pace.silent
          (not_sent_of_kind (.arrived plain) (by simp) (by simp) (by simp) _)
          (.inl ⟨before.connState, List.mem_cons_self⟩) (Nat.zero_le _)
  | tick session early | wait request early | idle other =>
      exact ticked (not_sent_of_posts nothing _ _) rfl
  | retry request late =>
      exact ticked (not_sent_of_posts posts _ _) rfl
  | greet bytes =>
      have greeted :=
        (begun .connectCb
          { before with
            sendTimeout := mqttSendTimout
            connState := .mqttConnectSending }
          (Nat.le_add_right _ _) (Nat.le_refl _)).sent .connectCb
          (Nat.le_refl _) MqttSender.noConfusion before.pCon bytes
      have posted := greeted.append_post
      rw [List.append_assoc, List.append_assoc] at posted
      exact posted
  | ping bytes session late =>
      have pinged :=
        (begun .timer
          { before with
            keepAliveTick := 0
            sendTimeout := mqttSendTimout - 1 }
          (Nat.le_refl _) (Nat.sub_le _ _)).sent .timer (Nat.le_refl _)
          MqttSender.noConfusion before.pCon bytes
      have posted := pinged.append_post
      rw [List.append_assoc, List.append_assoc] at posted
      exact posted
  | send bytes session rested =>
      have quiet : Pace before (log ++ [.began .task before.connState]) :=
        pace.silent (not_sent_of_posts nothing .task before.connState)
          (.inr (Nat.le_add_right _ _)) bounded
      have fed :=
        (begun .task { before with sendTimeout := mqttSendTimout }
          (Nat.le_add_right _ _) (Nat.le_refl _)).sent .task (Nat.le_refl _)
          (fun _ => ⟨before, quiet, rested⟩) before.pCon bytes
      rw [List.append_assoc] at fed
      exact fed

variable {host : CString} {connectInfo : MqttConnectInfo} {calls : List MqttCall}

/--
In whatever order the events come: the task sends a packet only when, since
each earlier packet, some sent callback has come or five ticks went by; for
PINGREQ four are enough.
-/
theorem mqtt_task_waits
    {world : MqttWorld}
    (reached :
      (mqttSystem (.init host connectInfo calls)).Reachable world) :
    Justified Paced world.log := by
  have pace : Pace world.client.control world.log := by
    refine mqttSystem_invariant ?_ ?_ reached
    · refine ⟨justified_nil, ?_, Nat.zero_le _⟩
      intro front sender other bytes back layout
      simp at layout
    · intro _ _ _ _ _ _ step pace
      exact pace_step step pace
  exact pace.paced

theorem mqtt_task_waits_mqttAfterShortSession :
    Justified Paced mqttAfterShortSession.log :=
  mqtt_task_waits reachable_mqttAfterShortSession

end EspFirmware
