import EspFirmware.Parser
import EspFirmware.Server
import EspFirmware.Station

/-!
# Credentials of any length

The credentials of a `Connect` command are parts of a TCP segment, and no
function between the segment and the station configuration limits their
length.  They stay inside their fields exactly if the client keeps to the
widths of the fields, or if the device does not become a station.
-/

namespace EspFirmware

open Library

/-! ## From the segment to the station -/

/-- What `connect_to_network` does. -/
structure ConnectCall where
  server : Effect
  receivedConnectInstruction : Bool
  station : StationCall

/-- `connect_to_network`. -/
def connectToNetwork
    (server : Server) (layout : StationLayout) (stack : Nat → UInt8)
    (answers : StationAnswers) (ssid password : List UInt8) :
    ConnectCall where
  server := apServerClose server
  receivedConnectInstruction := true
  station := startStation layout stack answers ssid password

/-- The part of a segment which is a string. -/
def Segment.text (segment : Segment) : List UInt8 :=
  before 0 segment.bytes

/-- The copy which `tcpserver_recv_cb` makes begins with the string of the segment. -/
theorem Segment.copy_pointsTo (segment : Segment) (address : Nat) :
    PointsTo (segment.copy address).bytes (.inside 0) segment.text := by
  have nonzero := not_mem_before 0 segment.bytes
  by_cases zero : 0 ∈ segment.bytes
  · have layout :
        (segment.copy address).bytes =
          [] ++ (segment.text ++ 0 :: (after 0 segment.bytes ++ [0])) := by
      have parts := eq_before_append_after zero
      have whole := congrArg (fun bytes => bytes ++ [(0 : UInt8)]) parts
      simpa [copy, text] using whole
    exact .inside layout rfl nonzero
  · have layout :
        (segment.copy address).bytes = [] ++ (segment.text ++ 0 :: []) := by
      rw [copy, text, before_of_not_mem zero]
      rfl
    exact .inside layout rfl nonzero

/-! ## Copies inside their fields -/

/-- The values which `start_station` assigns to the fields. -/
def StationField.assigned
    (field : StationField) (ssid password : List UInt8) :
    List UInt8 :=
  match field with
  | .ssid => ssid ++ List.replicate (32 - ssid.length) 0
  | .password => password ++ List.replicate (64 - password.length) 0
  | .bssidSet => [0]
  | .bssid => List.replicate 6 0

/-- No copy leaves its field, and every field keeps the value assigned to it. -/
structure StaysInside
    (layout : StationLayout) (ssid password : List UInt8)
    (call : StationCall) :
    Prop where
  copies : ∀ write ∈ call.writes, write.Inside layout
  fields :
    ∀ config, call.config = some config →
      ∀ field : StationField,
        readRange config (layout.offset field) field.width =
          field.assigned ssid password

section

variable
    (layout : StationLayout) (stack : Nat → UInt8)
    (answers : StationAnswers)

/-- The copies leave in each field what is assigned to it. -/
theorem overlay_stationWrites
    {ssid password content : List UInt8} {field : StationField}
    (width : content.length = field.width) :
    (stationWrites ssid password).foldl field.overlay content =
      field.assigned ssid password := by
  have cleared : content.drop field.width = [] :=
    List.drop_eq_nil_of_le (Nat.le_of_eq width)
  cases field <;>
    simp only [StationField.width] at cleared <;>
    simp only [stationWrites, StationField.overlay, StationField.assigned,
      List.foldl_cons, List.foldl_nil, List.length_replicate,
      List.length_singleton, List.drop_replicate, reduceCtorEq, if_true,
      if_false, cleared, List.append_nil]

/-- `start_station` stays inside the fields exactly for credentials that fit. -/
theorem staysInside_startStation_iff (ssid password : List UInt8) :
    StaysInside layout ssid password
        (startStation layout stack answers ssid password) ↔
      (answers.opmode = true →
        ssid.length ≤ 32 ∧ password.length ≤ 64) := by
  cases opmode : answers.opmode with
  | false =>
      simp only [startStation, opmode, Bool.false_eq_true, if_false,
        false_implies, iff_true]
      constructor
      · intro write member
        cases member
      · intro config none
        cases none
  | true =>
      simp only [startStation, opmode, if_true, true_implies]
      constructor
      · intro stays
        have ssidInside :=
          stays.copies { field := .ssid, bytes := ssid } (by
            simp [stationWrites])
        have passwordInside :=
          stays.copies { field := .password, bytes := password } (by
            simp [stationWrites])
        exact
          ⟨(FieldWrite.inside_iff layout _).mp ssidInside,
            (FieldWrite.inside_iff layout _).mp passwordInside⟩
      · rintro ⟨ssidFits, passwordFits⟩
        have inside :
            ∀ write ∈ stationWrites ssid password, write.Inside layout := by
          intro write member
          rw [FieldWrite.inside_iff]
          simp only [stationWrites, List.mem_cons, List.not_mem_nil, or_false]
            at member
          rcases member with rfl | rfl | rfl | rfl | rfl | rfl <;>
            simp [StationField.width, ssidFits, passwordFits]
        refine ⟨inside, ?_⟩
        intro config equal field
        cases equal
        rw [readRange_copyAll inside,
          overlay_stationWrites (length_readRange _ _ _)]

/--
A `Connect` command keeps to the fields of the station configuration exactly if
the device does not become a station, or both of its parameters fit.
-/
theorem connect_command_stays_inside_iff
    (server : Server) (segment : Segment) (address : Nat) :
    (∀ ssid password,
        (tcpparserProcessData (segment.copy address).bytes).2 =
            some (.connectToNetwork ssid password) →
          StaysInside layout ssid password
            (connectToNetwork server layout stack answers ssid
              password).station) ↔
      (before colon segment.text = ascii "Connect" →
        answers.opmode = true →
          (before semicolon (after colon segment.text)).length ≤ 32 ∧
            (after semicolon (after colon segment.text)).length ≤ 64) := by
  have parsed :=
    tcpparserProcessData_connect_iff (segment.copy_pointsTo address)
  constructor
  · intro stays connect
    have fits :=
      stays _ _ ((parsed _ _).mpr ⟨connect, rfl, rfl⟩)
    exact (staysInside_startStation_iff layout stack answers _ _).mp fits
  · intro fits ssid password command
    rcases (parsed ssid password).mp command with ⟨connect, rfl, rfl⟩
    exact
      (staysInside_startStation_iff layout stack answers _ _).mpr
        (fits connect)

end

/-! ## A network name of 33 bytes -/

/-- The fields one behind the other. -/
def packedLayout : StationLayout where
  offset
    | .ssid => 0
    | .password => 32
    | .bssidSet => 96
    | .bssid => 97
  apart := by
    intro left right differs
    cases left <;> cases right <;>
      first
      | exact absurd rfl differs
      | decide

/-- A command with a network name of 33 bytes and no password. -/
def longName : Segment where
  bytes := ascii "Connect:" ++ List.replicate 33 97 ++ [semicolon]
  bounded := by decide

/-- The answers of a device which becomes a station. -/
def becomesStation : StationAnswers where
  opmode := true
  setConfig := true
  connect := true

/-- The last byte of the name is copied into the password, which is not empty any more. -/
theorem long_name_overruns :
    ¬ (∀ ssid password,
        (tcpparserProcessData (longName.copy 0).bytes).2 =
            some (.connectToNetwork ssid password) →
          StaysInside packedLayout ssid password
            (connectToNetwork Server.boot packedLayout (fun _ => 0)
              becomesStation ssid password).station) ∧
      copyAll packedLayout (fun _ => 0)
          (stationWrites (List.replicate 33 97) []) 32 = 97 := by
  constructor
  · intro stays
    have parsed :
        (tcpparserProcessData (longName.copy 0).bytes).2 =
          some (.connectToNetwork (List.replicate 33 97) []) := by
      decide
    have fits :=
      (staysInside_startStation_iff packedLayout (fun _ => 0) becomesStation
        (List.replicate 33 97) []).mp (stays _ _ parsed) rfl
    exact absurd fits.1 (by decide)
  · decide

end EspFirmware
