import EspFirmware.StringScans

/-!
# Datagrams are parsed where they lie

`udpserver_recv_cb` prints a datagram and gives it to the parser, without a
copy and without a terminator.  The length goes along and is never used: what
keeps the parser inside of the datagram is a terminator or a separator which
the sender has put there.
-/

namespace EspFirmware

open Library Program

/-! ## The parser -/

/-- What a datagram asks for, compiled for use as a locator. -/
inductive UdpCommand where
  | helloEspDevices
  | devicesLowPower
  | unknown
deriving DecidableEq

/-- `udpparser_process_data`, up to the command which it has found. -/
def udpparserProcessData : Program UInt8 UdpCommand :=
  (separateScan 0 colon).andThen fun _ =>
    (osStrcmp 0 (ascii "Hello ESP Devices?")).andThen fun hello =>
      if hello then
        done .helloEspDevices
      else
        (osStrcmp 0 (ascii "Devices Low Power")).andThen fun lowPower =>
          done (if lowPower then .devicesLowPower else .unknown)

/-- `udpserver_recv_cb`: the text of the datagram which it prints, and the command. -/
def udpserverRecvCb : Program UInt8 (List UInt8 × UdpCommand) :=
  (printString 0).andThen fun printed =>
    udpparserProcessData.andThen fun command =>
      done (printed, command)

/-! ## What keeps it inside -/

/-- The command for a command word. -/
def udpCommandOf (cmd : List UInt8) : UdpCommand :=
  if cmd = ascii "Hello ESP Devices?" then .helloEspDevices
  else if cmd = ascii "Devices Low Power" then .devicesLowPower
  else .unknown

/-- Once a terminator is there, the comparisons stay in front of it. -/
theorem confined_udpparser
    {datagram : List UInt8} {found : Scanned UInt8}
    (stopped :
      (scan (fun _ => separateStops colon) 0 datagram).result =
        some found) :
    ∃ after,
      udpparserProcessData.Confined datagram after
        (udpCommandOf (before 0 after)) := by
  rcases confined_separateScan (Nat.zero_le _) stopped with
    ⟨after, params, separated, ended⟩
  have hello :=
    @confined_osStrcmp after (ascii "Hello ESP Devices?") 0 ended
      (by decide)
  have lowPower :=
    @confined_osStrcmp after (ascii "Devices Low Power") 0 ended
      (by decide)
  refine ⟨after, separated.andThen (hello.andThen ?_)⟩
  rw [List.drop_zero] at lowPower ⊢
  rw [udpCommandOf]
  by_cases same : before 0 after = ascii "Hello ESP Devices?"
  · rw [decide_eq_true same, if_pos rfl, if_pos same]
    exact confined_done _ _
  · rw [decide_eq_false same, if_neg Bool.false_ne_true, if_neg same]
    apply lowPower.andThen
    by_cases low : before 0 after = ascii "Devices Low Power"
    · rw [decide_eq_true low, if_pos rfl, if_pos low]
      exact confined_done _ _
    · rw [decide_eq_false low, if_neg Bool.false_ne_true, if_neg low]
      exact confined_done _ _

/-- The scan of the parser ends in the datagram at a terminator or a separator. -/
theorem exists_separatorScan_iff (datagram : List UInt8) :
    (∃ found,
      (scan (fun _ => separateStops colon) 0 datagram).result =
        some found) ↔
      0 ∈ datagram ∨ colon ∈ datagram := by
  have byte_stops :
      (∃ offset, ∃ inside : offset < datagram.length,
        separateStops colon datagram[offset] = true) ↔
        0 ∈ datagram ∨ colon ∈ datagram := by
    refine Iff.trans (@List.exists_mem_iff_getElem _ datagram
      (fun byte => separateStops colon byte = true)).symm ?_
    simp only [separateStops, Bool.or_eq_true, beq_iff_eq]
    constructor
    · rintro ⟨byte, member, rfl | rfl⟩
      · exact Or.inl member
      · exact Or.inr member
    · rintro (zero | separator)
      · exact ⟨0, zero, Or.inl rfl⟩
      · exact ⟨colon, separator, Or.inr rfl⟩
  rw [← byte_stops]
  exact exists_scanFrom_iff

theorem udpparser_staysInside_iff (datagram : List UInt8) :
    udpparserProcessData.StaysInside datagram ↔
      0 ∈ datagram ∨ colon ∈ datagram := by
  rw [← exists_separatorScan_iff]
  constructor
  · intro stays
    by_contra passes
    rw [← Option.isSome_iff_exists, Option.not_isSome_iff_eq_none] at passes
    have beyond := load_mem_scan passes []
    exact stays.not_load (mem_andThen _ (mem_andThen _ beyond))
  · rintro ⟨found, stopped⟩
    rcases confined_udpparser stopped with ⟨after, confined⟩
    exact confined.staysInside

theorem udpserver_staysInside_iff (datagram : List UInt8) :
    udpserverRecvCb.StaysInside datagram ↔ 0 ∈ datagram := by
  constructor
  · intro stays
    by_contra unterminated
    have passes :
        (scan (fun _ byte => byte == 0) 0 datagram).result = none := by
      rw [← Option.not_isSome_iff_eq_none, Option.isSome_iff_exists]
      rintro ⟨found, stopped⟩
      rcases scanFrom_eq_some_iff.mp stopped with ⟨⟨back, layout⟩, zero, -⟩
      apply unterminated
      rw [← List.drop_zero (l := datagram), layout, beq_iff_eq.mp zero]
      simp
    have beyond := load_mem_scan passes []
    exact stays.not_load (mem_andThen _ (mem_andThen _ beyond))
  · intro terminated
    have printed := @confined_printString datagram 0 terminated
    rcases (exists_separatorScan_iff datagram).mpr (Or.inl terminated) with
      ⟨found, stopped⟩
    rcases confined_udpparser stopped with ⟨after, confined⟩
    have both :
        udpserverRecvCb.Confined datagram after
          (before 0 datagram, udpCommandOf (before 0 after)) :=
      printed.andThen (confined.andThen (confined_done _ _))
    exact both.staysInside

/--
The parser stays inside of a datagram, and does not depend on what is behind
it, exactly when there is a terminator or a separator in the datagram.  The
callback also prints it, and needs a terminator.
-/
theorem datagram_stays_inside_iff (datagram : List UInt8) :
    (udpparserProcessData.StaysInside datagram ↔
      0 ∈ datagram ∨ colon ∈ datagram) ∧
    (udpserverRecvCb.StaysInside datagram ↔ 0 ∈ datagram) := by
  constructor
  · exact udpparser_staysInside_iff datagram
  · exact udpserver_staysInside_iff datagram

/-- What is behind a datagram decides whether it is a greeting. -/
theorem datagram_reads_on :
    (udpparserProcessData (ascii "Hello ESP Devices?" ++ [0])).result =
        some .helloEspDevices ∧
      (udpparserProcessData (ascii "Hello ESP Devices?" ++ [33, 0])).result =
          some .unknown ∧
        ¬∀ datagram, udpparserProcessData.StaysInside datagram := by
  have greeted :
      (udpparserProcessData (ascii "Hello ESP Devices?" ++ [0])).result =
        some .helloEspDevices := by
    decide
  have ignored :
      (udpparserProcessData (ascii "Hello ESP Devices?" ++ [33, 0])).result =
        some .unknown := by
    decide
  refine ⟨greeted, ignored, ?_⟩
  intro stays
  have same := (stays (ascii "Hello ESP Devices?")).same [0] [33, 0]
  rw [greeted, ignored] at same
  cases same.2.2

end EspFirmware
