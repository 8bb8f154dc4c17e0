import EspFirmware.DeviceInfo
import EspFirmware.Wifi
import Mathlib.Data.List.TakeWhile

/-!
# The name of the access point

`go_back_to_ap` has the name of its network made from the MAC address, in an
array on its stack, and does not look whether that succeeded.  What
`start_access_point` then passes to the SDK is what was on the stack before.
-/

namespace EspFirmware

open Library

/-! ## From the MAC address to the configuration -/

/-- `DEFAULT_AP_SSID_PREFIX`. -/
def defaultApSsidPrefix : List UInt8 := ascii "ESP_"

/-- `DEFAULT_AP_PASSWORD`, in the array which it initialises. -/
def defaultApPassword : Chars 64 := .zeros 64

/-- `DEFAULT_AP_CHANNEL`. -/
def defaultApChannel : UInt8 := 6

/-- The array `ssid` of `go_back_to_ap`, and the memory behind it. -/
structure ApFrame where
  ssid : Chars 32
  behind : List UInt8

/-- The memory from the array on. -/
def ApFrame.memory (frame : ApFrame) : List UInt8 :=
  frame.ssid.bytes ++ frame.behind

/-- The text which `generate_default_ssid` prints. -/
def defaultSsid (mac : Chars 6) : List UInt8 :=
  defaultApSsidPrefix ++ strMac mac

/--
`generate_default_ssid`, with the outcome of `wifi_get_macaddr`: the memory
from `ssid` on, and whether it returned 0.
-/
def generateDefaultSsid
    (ssid : List UInt8) (len : UInt8) (mac : Option (Chars 6)) :
    List UInt8 × Bool :=
  if len.toNat ≤ defaultApSsidPrefix.length + 1 + 3 then
    (ssid, false)
  else
    match mac with
    | none => (ssid, false)
    | some mac => (osMemcpy ssid 0 (defaultSsid mac ++ [0]), true)

/-- `struct softap_config`. -/
structure SoftapConfig where
  ssid : List UInt8
  password : Chars 64
  ssidLen : UInt8
  channel : UInt8
  authmode : UInt8
  ssidHidden : UInt8
  maxConnection : UInt8
  beaconInterval : UInt16
deriving DecidableEq

/-- The name of the network, as the SDK is told it. -/
def SoftapConfig.name (config : SoftapConfig) : List UInt8 :=
  config.ssid.take config.ssidLen.toNat

/-- What becomes of the call of `wifi_softap_set_config`. -/
inductive SoftapCall where
  | notMade
  /-- Before it, `strlen` finds no end of the name in the memory. -/
  | lost
  | told (config : SoftapConfig)
deriving DecidableEq

/--
`start_access_point`, with the outcome of `wifi_set_opmode` and the memory
which `ssid` points to.
-/
def softapCall
    (startOpmode : Bool) (ssid : List UInt8) (password : Chars 64)
    (channel : UInt8) :
    SoftapCall :=
  if startOpmode then
    match stringAt ssid 0 with
    | none => .lost
    | some text =>
        .told
          { ssid := ssid.take 32
            password := password
            ssidLen := UInt8.ofNat text.length
            channel := channel
            authmode := 0
            ssidHidden := 0
            maxConnection := 10
            beaconInterval := 100 }
  else
    .notMade

/-- The array `ssid` when `go_back_to_ap` passes it on, and the memory behind it. -/
def ApFrame.passedOn (frame : ApFrame) (mac : Option (Chars 6)) : List UInt8 :=
  (generateDefaultSsid frame.memory 32 mac).1

/-- `go_back_to_ap`, with the mode that it finds: a device which is an access point stays one. -/
def accessPointCall
    (mode : Opmode) (answers : ApAnswers) (frame : ApFrame)
    (mac : Option (Chars 6)) :
    SoftapCall :=
  match mode with
  | .softapMode => .notMade
  | .nullMode | .stationMode | .stationapMode =>
      softapCall answers.startOpmode (frame.passedOn mac) defaultApPassword
        defaultApChannel

/-- Where the code comes to `strlen`, this finds its terminator in the array. -/
def StaysInSsid
    (mode : Opmode) (answers : ApAnswers) (frame : ApFrame)
    (mac : Option (Chars 6)) :
    Prop :=
  accessPointCall mode answers frame mac ≠ .notMade →
    0 ∈ (frame.passedOn mac).take 32

/-! ## The text -/

theorem toNat_hexDigit {nibble : UInt8} (small : nibble.toNat < 16) :
    (hexDigit nibble).toNat =
      if nibble.toNat < 10 then 48 + nibble.toNat else 87 + nibble.toNat := by
  have below : nibble < 10 ↔ nibble.toNat < 10 := UInt8.lt_iff_toNat_lt
  by_cases digit : nibble.toNat < 10
  · rw [hexDigit, if_pos (below.mpr digit), if_pos digit, UInt8.toNat_add]
    change (48 + nibble.toNat) % 256 = _
    omega
  · rw [hexDigit, if_neg (mt below.mp digit), if_neg digit, UInt8.toNat_add]
    change (87 + nibble.toNat) % 256 = _
    omega

theorem hexDigit_inj
    {left right : UInt8}
    (smallLeft : left.toNat < 16) (smallRight : right.toNat < 16)
    (same : hexDigit left = hexDigit right) :
    left.toNat = right.toNat := by
  have equal := congrArg UInt8.toNat same
  rw [toNat_hexDigit smallLeft, toNat_hexDigit smallRight] at equal
  split at equal <;> split at equal <;> omega

/-- A digit is no separator, and no terminator. -/
theorem hexDigit_ne_zero {nibble : UInt8} (small : nibble.toNat < 16) :
    hexDigit nibble ≠ 0 := by
  intro zero
  have equal := congrArg UInt8.toNat zero
  rw [toNat_hexDigit small, UInt8.toNat_zero] at equal
  split at equal <;> omega

theorem toNat_high (byte : UInt8) : (byte / 16).toNat = byte.toNat / 16 :=
  UInt8.toNat_div byte 16

theorem toNat_low (byte : UInt8) : (byte % 16).toNat = byte.toNat % 16 :=
  UInt8.toNat_mod byte 16

theorem high_lt (byte : UInt8) : (byte / 16).toNat < 16 := by
  have bound := byte.toNat_lt
  rw [toNat_high]
  omega

theorem low_lt (byte : UInt8) : (byte % 16).toNat < 16 := by
  rw [toNat_low]
  exact Nat.mod_lt _ (Nat.zero_lt_succ 15)

/-- A byte is known by its two digits. -/
theorem hexByte_inj {left right : UInt8} :
    hexByte left = hexByte right ↔ left = right := by
  constructor
  · intro same
    rw [hexByte, hexByte, List.cons.injEq, List.cons.injEq] at same
    have high := hexDigit_inj (high_lt left) (high_lt right) same.1
    have low := hexDigit_inj (low_lt left) (low_lt right) same.2.1
    rw [toNat_high, toNat_high] at high
    rw [toNat_low, toNat_low] at low
    rw [← UInt8.toNat_inj]
    omega
  · exact congrArg hexByte

theorem zero_not_mem_hexByte (byte : UInt8) : 0 ∉ hexByte byte := by
  rw [hexByte, List.mem_pair, not_or]
  exact
    ⟨(hexDigit_ne_zero (high_lt byte)).symm,
      (hexDigit_ne_zero (low_lt byte)).symm⟩

/-- Parts of the same length can be told apart, whatever separates them. -/
theorem intercalate_inj
    {separator : UInt8} {width : Nat} {left right : List (List UInt8)}
    (leftWidth : ∀ part ∈ left, part.length = width)
    (rightWidth : ∀ part ∈ right, part.length = width)
    (count : left.length = right.length)
    (same :
      [separator].intercalate left = [separator].intercalate right) :
    left = right := by
  induction left generalizing right with
  | nil =>
      exact (List.eq_nil_of_length_eq_zero count.symm).symm
  | cons part left induction =>
      cases right with
      | nil =>
          cases count
      | cons other right =>
          have widths : part.length = other.length :=
            (leftWidth part List.mem_cons_self).trans
              (rightWidth other List.mem_cons_self).symm
          have counts := Nat.succ.inj count
          cases left with
          | nil =>
              cases right with
              | nil =>
                  simpa [List.intercalate] using same
              | cons _ _ =>
                  cases counts
          | cons next left =>
              cases right with
              | nil =>
                  cases counts
              | cons following right =>
                  rw [List.intercalate_cons_cons, List.intercalate_cons_cons,
                    List.append_assoc, List.append_assoc] at same
                  have parts := List.append_inj same widths
                  have rest := List.append_cancel_left parts.2
                  rw [parts.1,
                    induction
                      (fun part member =>
                        leftWidth part (List.mem_cons_of_mem _ member))
                      (fun part member =>
                        rightWidth part (List.mem_cons_of_mem _ member))
                      counts rest]

/-- The text tells all addresses apart. -/
theorem strMac_inj {left right : Chars 6} :
    strMac left = strMac right ↔ left = right := by
  constructor
  · intro same
    have colon : ascii ":" = [58] := by
      decide
    have width (bytes : List UInt8) :
        ∀ part ∈ bytes.map hexByte, part.length = 2 := by
      intro part member
      rcases List.mem_map.mp member with ⟨byte, _, rfl⟩
      rfl
    rw [strMac, strMac, colon] at same
    have bytes :=
      intercalate_inj (width left.bytes) (width right.bytes) (by simp) same
    apply Chars.ext
    exact List.map_injective_iff.mpr (fun _ _ => hexByte_inj.mp) bytes
  · exact congrArg strMac

theorem not_mem_intercalate
    {separator byte : UInt8} {parts : List (List UInt8)}
    (apart : byte ≠ separator)
    (free : ∀ part ∈ parts, byte ∉ part) :
    byte ∉ [separator].intercalate parts := by
  induction parts with
  | nil =>
      exact List.not_mem_nil
  | cons part rest induction =>
      have here := free part List.mem_cons_self
      have others :=
        induction fun part member => free part (List.mem_cons_of_mem _ member)
      cases rest with
      | nil =>
          simpa [List.intercalate] using here
      | cons next rest =>
          rw [List.intercalate_cons_cons, List.mem_append, List.mem_append,
            List.mem_singleton, not_or, not_or]
          exact ⟨⟨here, apart⟩, others⟩

theorem zero_not_mem_strMac (mac : Chars 6) : 0 ∉ strMac mac := by
  have colon : ascii ":" = [58] := by
    decide
  rw [strMac, colon]
  apply not_mem_intercalate (by decide)
  intro part member
  rcases List.mem_map.mp member with ⟨byte, _, rfl⟩
  exact zero_not_mem_hexByte byte

theorem length_defaultSsid (mac : Chars 6) :
    (defaultSsid mac).length = 21 := by
  rw [defaultSsid, List.length_append, length_strMac]
  rfl

theorem zero_not_mem_defaultSsid (mac : Chars 6) : 0 ∉ defaultSsid mac := by
  rw [defaultSsid, List.mem_append, not_or]
  exact ⟨by decide, zero_not_mem_strMac mac⟩

theorem defaultSsid_inj {left right : Chars 6} :
    defaultSsid left = defaultSsid right ↔ left = right := by
  rw [defaultSsid, defaultSsid, List.append_cancel_left_eq, strMac_inj]

/-! ## The array -/

section

variable {frame : ApFrame} {mac : Chars 6}

/-- The text and its terminator stay in the array. -/
theorem passedOn_some (frame : ApFrame) (mac : Chars 6) :
    frame.passedOn (some mac) =
      (defaultSsid mac ++ 0 :: frame.ssid.bytes.drop 22) ++ frame.behind := by
  have long : ¬(32 : UInt8).toNat ≤ defaultApSsidPrefix.length + 1 + 3 := by
    decide
  have length := length_defaultSsid mac
  rw [ApFrame.passedOn, generateDefaultSsid, if_neg long]
  simp only [osMemcpy, ApFrame.memory, List.take_zero, List.nil_append,
    Nat.zero_add, List.length_append, length, List.length_singleton]
  rw [List.drop_append_of_le_length (by rw [Chars.length_bytes]; decide)]
  simp

/-- Without an address, it is left as it was. -/
theorem passedOn_none (frame : ApFrame) :
    frame.passedOn none = frame.ssid.bytes ++ frame.behind := by
  rw [ApFrame.passedOn, generateDefaultSsid]
  split <;> rfl

/-- A string which is short enough is the name. -/
theorem softapCall_name
    {memory text back : List UInt8}
    (layout : memory = text ++ 0 :: back)
    (nonzero : 0 ∉ text) (short : text.length ≤ 32)
    (password : Chars 64) (channel : UInt8) :
    ∃ config,
      softapCall true memory password channel = .told config ∧
        config.name = text := by
  have found : stringAt memory 0 = some text := by
    rw [stringAt, List.drop_zero, layout, if_pos (by simp),
      before_append nonzero]
  have whole : (UInt8.ofNat text.length).toNat = text.length := by
    rw [UInt8.toNat_ofNat']
    omega
  rw [softapCall, if_pos rfl, found]
  refine ⟨_, rfl, ?_⟩
  change (memory.take 32).take (UInt8.ofNat text.length).toNat = text
  rw [whole, List.take_take, Nat.min_eq_left short, layout, List.take_left]

/-! ## The access point -/

variable {mode : Opmode} {answers : ApAnswers} {read : Option (Chars 6)}

/-- With the mode set, the code comes to `strlen` and to the SDK. -/
theorem softapCall_eq_notMade_iff
    {startOpmode : Bool} {ssid : List UInt8} {password : Chars 64}
    {channel : UInt8} :
    softapCall startOpmode ssid password channel = .notMade ↔
      startOpmode = false := by
  cases startOpmode with
  | false =>
      exact iff_of_true rfl rfl
  | true =>
      rw [softapCall, if_pos rfl]
      split <;> exact iff_of_false nofun nofun

theorem accessPointCall_eq_notMade_iff :
    accessPointCall mode answers frame read = .notMade ↔
      mode = .softapMode ∨ answers.startOpmode = false := by
  cases mode with
  | softapMode =>
      exact iff_of_true rfl (.inl rfl)
  | nullMode | stationMode | stationapMode =>
      rw [accessPointCall, softapCall_eq_notMade_iff]
      exact ⟨.inr, fun either => either.resolve_left nofun⟩

/-- The call is the one in the trace of `go_back_to_ap`. -/
theorem accessPointCall_made_iff :
    accessPointCall mode answers frame read ≠ .notMade ↔
      ∃ success, .wifiSoftapSetConfig success ∈ goBackToAp mode answers := by
  rw [Ne, accessPointCall_eq_notMade_iff]
  rcases answers with ⟨disconnect, opmode, startOpmode, softapConfig⟩
  cases mode <;> cases startOpmode <;> cases softapConfig <;>
    simp [goBackToAp, startAccessPoint]

/-- Of a call that is made, the outcome is that of `start_access_point`. -/
theorem accessPointCall_of_made
    (made : accessPointCall mode answers frame read ≠ .notMade) :
    accessPointCall mode answers frame read =
      softapCall true (frame.passedOn read) defaultApPassword
        defaultApChannel := by
  have reached := accessPointCall_eq_notMade_iff.not.mp made
  have started : answers.startOpmode = true := by
    rw [← Bool.not_eq_false]
    exact fun failed => reached (.inr failed)
  cases mode with
  | softapMode =>
      exact absurd (.inl rfl) reached
  | nullMode | stationMode | stationapMode =>
      rw [accessPointCall, started]

/-- With an address, the name is the text which was printed. -/
theorem accessPointCall_some
    (made : accessPointCall mode answers frame (some mac) ≠ .notMade) :
    ∃ config,
      accessPointCall mode answers frame (some mac) = .told config ∧
        config.name = defaultSsid mac := by
  have length := length_defaultSsid mac
  rw [accessPointCall_of_made made]
  apply softapCall_name _ (zero_not_mem_defaultSsid mac) (by omega)
  · exact frame.ssid.bytes.drop 22 ++ frame.behind
  · rw [passedOn_some, List.append_assoc, List.cons_append]

theorem name_of_told
    {config : SoftapConfig}
    (told : accessPointCall mode answers frame (some mac) = .told config) :
    config.name = defaultSsid mac := by
  have made : accessPointCall mode answers frame (some mac) ≠ .notMade := by
    rw [told]
    exact nofun
  rcases accessPointCall_some made with ⟨other, same, name⟩
  rw [told, SoftapCall.told.injEq] at same
  rw [same, name]

/-- Without one, it is what lay in the array. -/
theorem accessPointCall_none
    (made : accessPointCall mode answers frame none ≠ .notMade)
    (ended : 0 ∈ frame.ssid.bytes) :
    ∃ config,
      accessPointCall mode answers frame none = .told config ∧
        config.name = before 0 frame.ssid.bytes := by
  have short := length_before_lt ended
  rw [Chars.length_bytes] at short
  rw [accessPointCall_of_made made]
  apply softapCall_name _ (not_mem_before 0 _) (Nat.le_of_lt short)
  · exact after 0 frame.ssid.bytes ++ frame.behind
  · rw [passedOn_none, ← List.cons_append, ← List.append_assoc,
      ← eq_before_append_after ended]

/-- A terminator is in the array after an address was printed, or when it was there before. -/
theorem zero_mem_passedOn_iff :
    0 ∈ (frame.passedOn read).take 32 ↔
      read.isSome = true ∨ 0 ∈ frame.ssid.bytes := by
  cases read with
  | none =>
      rw [passedOn_none, List.take_left' frame.ssid.length_bytes]
      simp
  | some mac =>
      have width :
          (defaultSsid mac ++ 0 :: frame.ssid.bytes.drop 22).length = 32 := by
        simp [length_defaultSsid]
      rw [passedOn_some, List.take_left' width]
      simp

theorem staysInSsid_iff :
    StaysInSsid mode answers frame read ↔
      mode = .softapMode ∨ answers.startOpmode = false ∨
        read.isSome = true ∨ 0 ∈ frame.ssid.bytes := by
  rw [StaysInSsid, zero_mem_passedOn_iff, Ne,
    accessPointCall_eq_notMade_iff]
  tauto

/--
Whatever lies on the stack: unless the device is an access point already, or
its mode cannot be set, `go_back_to_ap` comes to `strlen` and then to the SDK.
There `strlen` stays in the array `ssid` exactly when the address could be
read, or the array held a zero before.  The name is then that of the address,
which no other address has, or else what lay there.
-/
theorem access_point_named
    (mode : Opmode) (answers : ApAnswers) (frame : ApFrame)
    (read : Option (Chars 6)) :
    ((accessPointCall mode answers frame read ≠ .notMade ↔
        ∃ success, .wifiSoftapSetConfig success ∈ goBackToAp mode answers) ∧
      (accessPointCall mode answers frame read = .notMade ↔
        mode = .softapMode ∨ answers.startOpmode = false)) ∧
      (StaysInSsid mode answers frame read ↔
        mode = .softapMode ∨ answers.startOpmode = false ∨
          read.isSome = true ∨ 0 ∈ frame.ssid.bytes) ∧
        (accessPointCall mode answers frame read ≠ .notMade →
          StaysInSsid mode answers frame read →
            ∃ config,
              accessPointCall mode answers frame read = .told config ∧
                config.name =
                  match read with
                  | some mac => defaultSsid mac
                  | none => before 0 frame.ssid.bytes) ∧
          ∀ mac config, read = some mac →
            accessPointCall mode answers frame read = .told config →
              ∀ mode' answers' frame' mac' config',
                accessPointCall mode' answers' frame' (some mac') =
                    .told config' →
                  (config.name = config'.name ↔ mac = mac') := by
  refine
    ⟨⟨accessPointCall_made_iff, accessPointCall_eq_notMade_iff⟩,
      staysInSsid_iff, ?_, ?_⟩
  · intro made stays
    cases read with
    | none =>
        have ended := zero_mem_passedOn_iff.mp (stays made)
        exact accessPointCall_none made (ended.resolve_left nofun)
    | some mac =>
        exact accessPointCall_some made
  · rintro mac config rfl call mode' answers' frame' mac' config' call'
    rw [name_of_told call, name_of_told call', defaultSsid_inj]

end

end EspFirmware
