import EspFirmware.Library.ByteStuffing
import EspFirmware.RingBuffer

/-!
# Frames in the ring buffer

`proto.c` of the MQTT library.  `PROTO_AddRb` puts a packet into the ring
buffer byte by byte, and leaves what it has put when the buffer is full.
-/

namespace EspFirmware

open Library

/-! ## The parser -/

/-- `PROTO_PARSER`, with the `dataLen` bytes of `buf`; no callback is ever set. -/
structure ProtoParser where
  buf : List UInt8
  bufSize : Nat
  isEsc : Bool
  isBegin : Bool
deriving DecidableEq

/-- `PROTO_Init`, which does not set `isBegin`. -/
def protoInit (bufSize : Nat) (isBegin : Bool) : ProtoParser where
  buf := []
  bufSize := bufSize
  isEsc := false
  isBegin := isBegin

/-- `PROTO_ParseByte`, and whether it returns 0. -/
def protoParseByte (parser : ProtoParser) (value : UInt8) :
    ProtoParser × Bool :=
  if value = 0x7D then
    ({ parser with isEsc := true }, false)
  else if value = 0x7E then
    ({ parser with buf := [], isEsc := false, isBegin := true }, false)
  else if value = 0x7F then
    ({ parser with isBegin := false }, true)
  else if parser.isBegin then
    let stored := if parser.isEsc then value ^^^ 0x20 else value
    ({ parser with
        isEsc := false
        buf :=
          if parser.buf.length < parser.bufSize then
            parser.buf ++ [stored]
          else
            parser.buf },
      false)
  else
    (parser, false)

variable {size : Nat}

/-- The loop of `PROTO_ParseRb`: the packet, if one is complete, and the rest of the buffer. -/
def parseRbLoop (parser : ProtoParser) (rb : RingBuf size) :
    Option (List UInt8) × RingBuf size :=
  match _got : rb.get with
  | none => (none, rb)
  | some (c, after) =>
      let parsed := protoParseByte parser c
      if parsed.2 then (some parsed.1.buf, after)
      else parseRbLoop parsed.1 after
termination_by rb.fillCnt
decreasing_by
  rw [RingBuf.fillCnt_get _got]
  exact Nat.lt_succ_self _

/-- `PROTO_ParseRb`; `isBegin` is what the stack holds where the parser is. -/
def protoParseRb (rb : RingBuf size) (maxBufLen : Nat) (isBegin : Bool) :
    Option (List UInt8) × RingBuf size :=
  parseRbLoop (protoInit maxBufLen isBegin) rb

/-! ## Adding a packet -/

/-- The loop of `PROTO_AddRb`, with the count of 16 bits that it returns. -/
def addRbLoop (rb : RingBuf size) (i : UInt16) :
    List UInt8 → RingBuf size × Option UInt16
  | [] =>
      match rb.put 0x7F with
      | none => (rb, none)
      | some ended => (ended, some i)
  | value :: packet =>
      if value = 0x7D ∨ value = 0x7E ∨ value = 0x7F then
        match rb.put 0x7D with
        | none => (rb, none)
        | some escaped =>
            match escaped.put (value ^^^ 0x20) with
            | none => (escaped, none)
            | some added => addRbLoop added (i + 2) packet
      else
        match rb.put value with
        | none => (rb, none)
        | some added => addRbLoop added (i + 1) packet

/--
`PROTO_AddRb`; `none` stands for -1.  With a buffer of 65535 bytes or more, the
callers would take the count 65535 for it too.
-/
def protoAddRb (rb : RingBuf size) (packet : List UInt8) :
    RingBuf size × Option UInt16 :=
  match rb.put 0x7E with
  | none => (rb, none)
  | some begun => addRbLoop begun 2 packet

/-! ## The frames -/

/-- The marks of the frames. -/
def protoFraming : Framing UInt8 where
  begins := 0x7E
  ends := 0x7F
  escape := 0x7D
  change value := value ^^^ 0x20
  begins_ne_ends := by decide
  ends_ne_escape := by decide
  begins_ne_escape := by decide
  change_change value := by
    rw [UInt8.xor_assoc, UInt8.xor_self, UInt8.xor_zero]
  change_begins := by decide
  change_ends := by decide
  change_escape := by decide

theorem mem_marks_iff {value : UInt8} :
    value ∈ protoFraming.marks ↔
      value = 0x7D ∨ value = 0x7E ∨ value = 0x7F := by
  simp only [Framing.marks, protoFraming, List.mem_cons, List.not_mem_nil,
    or_false]
  tauto

/-! ## Offering bytes -/

/-- Put bytes until one is refused, and whether none was. -/
def RingBuf.offer (rb : RingBuf size) : List UInt8 → RingBuf size × Bool
  | [] => (rb, true)
  | c :: rest =>
      match rb.put c with
      | none => (rb, false)
      | some after => after.offer rest

namespace RingBuf

/-- The bytes for which there is room are put. -/
theorem contents_offer (rb : RingBuf size) (bytes : List UInt8) :
    (rb.offer bytes).1.contents =
      rb.contents ++ bytes.take (size - rb.contents.length) := by
  induction bytes generalizing rb with
  | nil =>
      rw [offer, List.take_nil, List.append_nil]
  | cons c rest induction =>
      cases putTo : rb.put c with
      | none =>
          have full := put_eq_none_iff.mp putTo
          rw [offer, putTo, full, Nat.sub_self, List.take_zero,
            List.append_nil]
      | some after =>
          have room : rb.contents.length < size := by
            have bounded := rb.bounded
            rw [← length_contents] at bounded
            have notFull := (@put_eq_none_iff _ rb c).not.mp (by simp [putTo])
            omega
          have left :
              size - rb.contents.length =
                size - (rb.contents.length + 1) + 1 := by
            omega
          simp only [offer, putTo, induction, contents_put putTo, left,
            List.take_succ_cons, List.append_assoc, List.length_append,
            List.length_singleton, List.singleton_append]

/-- All bytes are put exactly if there is room for them. -/
theorem offer_eq_true_iff {rb : RingBuf size} {bytes : List UInt8} :
    (rb.offer bytes).2 = true ↔
      rb.contents.length + bytes.length ≤ size := by
  induction bytes generalizing rb with
  | nil =>
      have bounded := rb.bounded
      rw [← length_contents] at bounded
      exact iff_of_true rfl bounded
  | cons c rest induction =>
      cases putTo : rb.put c with
      | none =>
          have full := put_eq_none_iff.mp putTo
          simp only [offer, putTo, full, List.length_cons,
            Bool.false_eq_true, false_iff]
          omega
      | some after =>
          simp only [offer, putTo, induction, contents_put putTo,
            List.length_append, List.length_cons, List.length_nil]
          omega

end RingBuf

/-- Counting up twice is counting up once by the sum. -/
theorem count_add (i : UInt16) (few more : Nat) :
    i + UInt16.ofNat few + UInt16.ofNat more = i + UInt16.ofNat (more + few) := by
  rw [Nat.add_comm, UInt16.ofNat_add, UInt16.add_assoc]

/-- `PROTO_AddRb` offers the frame of the packet, and returns its length. -/
theorem addRbLoop_eq
    (rb : RingBuf size) (i : UInt16) (packet : List UInt8) :
    addRbLoop rb i packet =
      ((rb.offer (protoFraming.stuff packet ++ [0x7F])).1,
        if (rb.offer (protoFraming.stuff packet ++ [0x7F])).2 then
          some (i + UInt16.ofNat (protoFraming.stuff packet).length)
        else
          none) := by
  induction packet generalizing rb i with
  | nil =>
      rw [addRbLoop]
      cases ended : rb.put 0x7F with
      | none =>
          simp [Framing.stuff, RingBuf.offer, ended]
      | some after =>
          simp [Framing.stuff, RingBuf.offer, ended]
  | cons value packet induction =>
      rw [addRbLoop, Framing.stuff, List.flatMap_cons, ← Framing.stuff,
        Framing.stuffSymbol, List.append_assoc]
      by_cases mark : value ∈ protoFraming.marks
      · rw [if_pos (mem_marks_iff.mp mark), if_pos mark]
        have hidden :
            [protoFraming.escape, protoFraming.change value] =
              [0x7D, value ^^^ 0x20] := rfl
        rw [hidden]
        cases escaped : rb.put 0x7D with
        | none =>
            simp [RingBuf.offer, escaped]
        | some middle =>
            cases added : middle.put (value ^^^ 0x20) with
            | none =>
                simp [RingBuf.offer, escaped, added]
            | some after =>
                simp only [RingBuf.offer, escaped, added, induction,
                  List.cons_append, List.nil_append, List.length_cons]
                rw [← count_add i 2]
                rfl
      · rw [if_neg (mem_marks_iff.not.mp mark), if_neg mark]
        cases added : rb.put value with
        | none =>
            simp [RingBuf.offer, added]
        | some after =>
            simp only [RingBuf.offer, added, induction, List.cons_append,
              List.nil_append, List.length_cons]
            rw [← count_add i 1]
            rfl

theorem protoAddRb_eq (rb : RingBuf size) (packet : List UInt8) :
    protoAddRb rb packet =
      ((rb.offer (protoFraming.frame packet)).1,
        if (rb.offer (protoFraming.frame packet)).2 then
          some (UInt16.ofNat (protoFraming.frame packet).length)
        else
          none) := by
  have frame :
      protoFraming.frame packet =
        0x7E :: (protoFraming.stuff packet ++ [0x7F]) := rfl
  rw [protoAddRb, protoFraming.length_frame, frame]
  cases begun : rb.put 0x7E with
  | none =>
      simp [RingBuf.offer, begun]
  | some after =>
      simp only [RingBuf.offer, begun, addRbLoop_eq]
      rw [Nat.add_comm, UInt16.ofNat_add]
      rfl

/-- In every buffer that is small enough the whole length is counted, which is not -1. -/
theorem count_protoAddRb
    {rb : RingBuf size} {packet : List UInt8} {count : UInt16}
    (small : size < 65535)
    (counted : (protoAddRb rb packet).2 = some count) :
    count.toNat = (protoFraming.frame packet).length ∧ count ≠ 0xFFFF := by
  rw [protoAddRb_eq] at counted
  by_cases taken : (rb.offer (protoFraming.frame packet)).2 = true
  · have room := RingBuf.offer_eq_true_iff.mp taken
    rw [if_pos taken] at counted
    have value : count.toNat = (protoFraming.frame packet).length := by
      rw [← Option.some.inj counted, UInt16.toNat_ofNat']
      omega
    refine ⟨value, ?_⟩
    rintro rfl
    have all : (0xFFFF : UInt16).toNat = 65535 := rfl
    omega
  · rw [if_neg taken] at counted
    cases counted

/-! ## Reading a packet -/

/-- What the parser has read of a packet. -/
def ProtoParser.deframer (parser : ProtoParser) : Deframer UInt8 where
  data := parser.buf
  escaped := parser.isEsc
  inside := parser.isBegin

/-- A byte that completes no packet is read as a symbol of a frame. -/
theorem deframer_parseByte
    (parser : ProtoParser) {value : UInt8}
    (passes : value ≠ 0x7F) :
    (protoParseByte parser value).2 = false ∧
      (protoParseByte parser value).1.bufSize = parser.bufSize ∧
        (protoParseByte parser value).1.deframer =
          protoFraming.read parser.bufSize parser.deframer value := by
  rw [protoParseByte, Framing.read]
  by_cases escape : value = 0x7D
  · rw [if_pos escape, if_pos (show value = protoFraming.escape from escape)]
    exact ⟨rfl, rfl, rfl⟩
  · rw [if_neg escape,
      if_neg (show ¬value = protoFraming.escape from escape)]
    by_cases begins : value = 0x7E
    · rw [if_pos begins,
        if_pos (show value = protoFraming.begins from begins)]
      exact ⟨rfl, rfl, rfl⟩
    · rw [if_neg begins, if_neg passes,
        if_neg (show ¬value = protoFraming.begins from begins),
        if_neg (show ¬value = protoFraming.ends from passes)]
      cases inside : parser.isBegin with
      | false =>
          exact ⟨rfl, rfl, by simp [ProtoParser.deframer, inside]⟩
      | true =>
          refine ⟨rfl, rfl, ?_⟩
          simp [ProtoParser.deframer, inside, protoFraming]

/-- The packet which is read, and what is left in the buffer. -/
theorem parseRbLoop_spec (parser : ProtoParser) (rb : RingBuf size) :
    (parseRbLoop parser rb).1 =
        (protoFraming.deframe parser.bufSize parser.deframer
          rb.contents).map Prod.fst ∧
      (parseRbLoop parser rb).2.contents =
        ((protoFraming.deframe parser.bufSize parser.deframer
          rb.contents).map Prod.snd).getD [] := by
  induction parser, rb using parseRbLoop.induct with
  | case1 parser rb got =>
      have empty := RingBuf.get_eq_none_iff.mp got
      rw [parseRbLoop]
      split
      · rw [empty]
        exact ⟨rfl, rfl⟩
      · next some =>
          rw [got] at some
          cases some
  | case2 parser rb c after got parsed complete =>
      have first := RingBuf.contents_get got
      have ends : c = 0x7F := by
        by_contra passes
        have goesOn := (deframer_parseByte parser passes).1
        rw [goesOn] at complete
        cases complete
      have found :
          protoFraming.deframe parser.bufSize parser.deframer rb.contents =
            some (parser.buf, after.contents) := by
        rw [first, Framing.deframe, ends]
        exact if_pos rfl
      have kept : (protoParseByte parser c).1.buf = parser.buf := by
        rw [ends]
        rfl
      rw [parseRbLoop]
      split
      · next none =>
          rw [got] at none
          cases none
      · next other rest some =>
          rw [got] at some
          cases some
          rw [if_pos complete, found, kept]
          exact ⟨rfl, rfl⟩
  | case3 parser rb c after got parsed incomplete induction =>
      have first := RingBuf.contents_get got
      have passes : c ≠ 0x7F := by
        rintro rfl
        exact incomplete rfl
      have goesOn := deframer_parseByte parser passes
      have next :
          protoFraming.deframe parser.bufSize parser.deframer rb.contents =
            protoFraming.deframe parser.bufSize
              (protoParseByte parser c).1.deframer after.contents := by
        rw [first, Framing.deframe, goesOn.2.2]
        exact if_neg passes
      rw [parseRbLoop]
      split
      · next none =>
          rw [got] at none
          cases none
      · next other rest some =>
          rw [got] at some
          cases some
          rw [if_neg incomplete, next]
          rw [goesOn.2.1] at induction
          exact induction

end EspFirmware
