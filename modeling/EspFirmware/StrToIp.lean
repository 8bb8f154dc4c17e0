import EspFirmware.DeviceInfo
import EspFirmware.Library.SignedWord
import EspFirmware.NumericParameters

/-!
# Dotted addresses

`UTILS_StrToIP` tells an address from a host name.  It counts its numbers in
an `int`, where those wrap which have too many digits.
-/

namespace EspFirmware

open Library

/-- `'.'`. -/
def dot : UInt8 := 46

/--
One turn of the loop of `UTILS_StrToIP`: the number in front of the byte that
ends it, and what is behind that byte.  The end of the string is a byte like
any other.
-/
def strToIpTurn (last : Bool) : Int → List UInt8 → Option (Int × List UInt8)
  | n, [] =>
      if last then
        some (n, [])
      else
        none
  | n, c :: start =>
      if 48 ≤ c ∧ c ≤ 57 then
        strToIpTurn last (intOf (intOf (n * 10) + (c.toNat - 48 : Nat))) start
      else if last ∨ c = dot then
        some (n, start)
      else
        none

/-- The turns which are left. -/
def strToIpFrom (start : List UInt8) : Nat → Option (List UInt8)
  | 0 => some []
  | turns + 1 =>
      match strToIpTurn (decide (turns = 0)) 0 start with
      | none => none
      | some (n, start) =>
          if 256 ≤ n then
            none
          else
            (strToIpFrom start turns).map (UInt8.ofInt n :: ·)

/-- `UTILS_StrToIP`. -/
def utilsStrToIp (str : List UInt8) : Option (List UInt8) :=
  strToIpFrom str 4

/-! ## What is accepted -/

/-- Bytes of digits only, perhaps none at all. -/
def Digits (bytes : List UInt8) : Prop :=
  ∀ byte ∈ bytes, 48 ≤ byte ∧ byte ≤ 57

/-- Groups of digits with dots between them; behind the last one is no digit. -/
inductive Dotted : List (List UInt8) → List UInt8 → Prop where
  | last {digits rest : List UInt8}
      (numeric : Digits digits)
      (ended : ∀ byte ∈ rest.head?, ¬(48 ≤ byte ∧ byte ≤ 57)) :
      Dotted [digits] (digits ++ rest)
  | next {digits text : List UInt8} {group : List UInt8}
      {groups : List (List UInt8)}
      (numeric : Digits digits)
      (more : Dotted (group :: groups) text) :
      Dotted (digits :: group :: groups) (digits ++ dot :: text)

/-- The `int` which a group of digits is read as. -/
def groupInt (digits : List UInt8) : Int :=
  intOf (decimalValue digits)

theorem intOf_step (value digit : Nat) :
    intOf (intOf (intOf value * 10) + digit) =
      intOf ((value * 10 + digit : Nat) : Int) := by
  rw [intOf_mul_left, intOf_add_left]
  push_cast
  rfl

/-- Digits are counted into the number, and leave what is behind them. -/
theorem strToIpTurn_digits
    {digits : List UInt8} (numeric : Digits digits)
    (last : Bool) (value : Nat) (rest : List UInt8) :
    strToIpTurn last (intOf value) (digits ++ rest) =
      strToIpTurn last
        (intOf
          ((digits.foldl
            (fun value byte => value * 10 + (byte.toNat - 48)) value : Nat) :
            Int))
        rest := by
  induction digits generalizing value with
  | nil =>
      rfl
  | cons byte digits induction =>
      rw [List.cons_append, strToIpTurn,
        if_pos (numeric byte List.mem_cons_self), intOf_step,
        List.foldl_cons]
      exact induction (fun other member => numeric other (.tail _ member)) _

theorem strToIpTurn_group
    {digits : List UInt8} (numeric : Digits digits)
    (last : Bool) (rest : List UInt8) :
    strToIpTurn last 0 (digits ++ rest) =
      strToIpTurn last (groupInt digits) rest :=
  strToIpTurn_digits numeric last 0 rest

/-- The byte which is stored of a group. -/
theorem ofInt_groupInt (digits : List UInt8) :
    UInt8.ofInt (groupInt digits) = UInt8.ofNat (decimalValue digits) := by
  have low : groupInt digits % 2 ^ 8 = (decimalValue digits : Int) % 2 ^ 8 :=
    intOf_emod (by decide)
  rw [← UInt8.toNat_inj, UInt8.ofInt, UInt8.toNat_ofNat',
    UInt8.toNat_ofNat', low]
  omega

/-- A string begins with a group of digits, which may be empty. -/
theorem exists_digits (text : List UInt8) :
    ∃ digits rest,
      text = digits ++ rest ∧ Digits digits ∧
        ∀ byte ∈ rest.head?, ¬(48 ≤ byte ∧ byte ≤ 57) := by
  induction text with
  | nil =>
      refine ⟨[], [], rfl, ?_, ?_⟩
      · intro byte member
        cases member
      · intro byte member
        cases member
  | cons byte text induction =>
      by_cases digit : 48 ≤ byte ∧ byte ≤ 57
      · rcases induction with ⟨digits, rest, rfl, numeric, ended⟩
        refine ⟨byte :: digits, rest, rfl, ?_, ended⟩
        intro other member
        rcases List.mem_cons.mp member with rfl | later
        · exact digit
        · exact numeric other later
      · refine ⟨[], byte :: text, rfl, ?_, ?_⟩
        · intro other member
          cases member
        · intro other member
          rw [← Option.some.inj member]
          exact digit

/-- The last turn takes any byte for the end of its number. -/
theorem strToIpTurn_last
    {digits rest : List UInt8} (numeric : Digits digits)
    (ended : ∀ byte ∈ rest.head?, ¬(48 ≤ byte ∧ byte ≤ 57)) :
    strToIpTurn true 0 (digits ++ rest) =
      some (groupInt digits, rest.tail) := by
  rw [strToIpTurn_group numeric]
  cases rest with
  | nil =>
      rfl
  | cons byte rest =>
      rw [strToIpTurn, if_neg (ended byte rfl), if_pos (.inl rfl)]
      rfl

/-- Any other turn insists on a dot. -/
theorem strToIpTurn_next
    {digits start : List UInt8} (numeric : Digits digits) :
    strToIpTurn false 0 (digits ++ dot :: start) =
      some (groupInt digits, start) := by
  rw [strToIpTurn_group numeric, strToIpTurn, if_neg (by decide),
    if_pos (.inr rfl)]

theorem dotted_of_strToIpTurn
    {text start : List UInt8} {n : Int}
    (read : strToIpTurn false 0 text = some (n, start)) :
    ∃ digits, Digits digits ∧ n = groupInt digits ∧
      text = digits ++ dot :: start := by
  rcases exists_digits text with ⟨digits, rest, rfl, numeric, ended⟩
  rw [strToIpTurn_group numeric] at read
  cases rest with
  | nil =>
      cases read
  | cons byte rest =>
      rw [strToIpTurn, if_neg (ended byte rfl)] at read
      split at read
      · next stop =>
          have point : byte = dot := stop.resolve_left Bool.false_ne_true
          have same := Prod.mk.inj (Option.some.inj read)
          exact ⟨digits, numeric, same.1.symm, by rw [point, same.2]⟩
      · cases read

/-- A turn reads a number below 256, and the others read what is behind it. -/
theorem strToIpFrom_eq_some
    {turns : Nat} {text bytes : List UInt8} :
    strToIpFrom text (turns + 1) = some bytes ↔
      ∃ n start others,
        strToIpTurn (decide (turns = 0)) 0 text = some (n, start) ∧
          n < 256 ∧ strToIpFrom start turns = some others ∧
            bytes = UInt8.ofInt n :: others := by
  rw [strToIpFrom]
  constructor
  · intro read
    split at read
    · cases read
    · next n start turn =>
        split at read
        · cases read
        · next small =>
            rcases Option.map_eq_some_iff.mp read with ⟨others, rest, rfl⟩
            exact ⟨n, start, others, turn, by omega, rest, rfl⟩
  · rintro ⟨n, start, others, turn, small, rest, rfl⟩
    rw [turn]
    dsimp only
    rw [if_neg (by omega), rest]
    rfl

/-- The bytes of groups. -/
def groupBytes (groups : List (List UInt8)) : List UInt8 :=
  groups.map fun digits => UInt8.ofNat (decimalValue digits)

/-- What so many turns accept, and what they store. -/
theorem strToIpFrom_iff
    (turns : Nat) (text bytes : List UInt8) :
    strToIpFrom text (turns + 1) = some bytes ↔
      ∃ groups,
        groups.length = turns + 1 ∧ Dotted groups text ∧
          (∀ digits ∈ groups, groupInt digits < 256) ∧
            bytes = groupBytes groups := by
  induction turns generalizing text bytes with
  | zero =>
      rw [strToIpFrom_eq_some]
      constructor
      · rintro ⟨n, start, others, turn, small, rest, rfl⟩
        cases rest
        rcases exists_digits text with ⟨digits, rest, rfl, numeric, ended⟩
        rw [decide_eq_true rfl, strToIpTurn_last numeric ended] at turn
        have same : groupInt digits = n :=
          (Prod.mk.inj (Option.some.inj turn)).1
        refine ⟨[digits], rfl, .last numeric ended, ?_, ?_⟩
        · intro group member
          rw [List.mem_singleton.mp member, same]
          exact small
        · rw [← same, ofInt_groupInt]
          rfl
      · rintro ⟨groups, length, dotted, small, rfl⟩
        cases dotted with
        | @last digits rest numeric ended =>
            refine
              ⟨groupInt digits, rest.tail, [],
                strToIpTurn_last numeric ended,
                small digits List.mem_cons_self, rfl, ?_⟩
            rw [ofInt_groupInt]
            rfl
        | next numeric more =>
            cases length
  | succ turns induction =>
      rw [strToIpFrom_eq_some]
      constructor
      · rintro ⟨n, start, others, turn, small, rest, rfl⟩
        rcases (induction start others).mp rest with
          ⟨groups, length, dotted, bounds, rfl⟩
        rw [decide_eq_false (Nat.succ_ne_zero turns)] at turn
        rcases dotted_of_strToIpTurn turn with ⟨digits, numeric, same, rfl⟩
        cases groups with
        | nil =>
            cases length
        | cons group groups =>
            refine
              ⟨digits :: group :: groups, congrArg Nat.succ length,
                .next numeric dotted, ?_, ?_⟩
            · intro other member
              rcases List.mem_cons.mp member with rfl | later
              · rw [← same]
                exact small
              · exact bounds other later
            · rw [same, ofInt_groupInt]
              rfl
      · rintro ⟨groups, length, dotted, small, rfl⟩
        cases dotted with
        | last numeric ended =>
            cases length
        | @next digits start group groups numeric more =>
            have rest :=
              (induction start (groupBytes (group :: groups))).mpr
                ⟨group :: groups, Nat.succ.inj length, more,
                  fun other member => small other (.tail _ member), rfl⟩
            refine
              ⟨groupInt digits, start, _, ?_,
                small digits List.mem_cons_self, rest, ?_⟩
            · rw [decide_eq_false (Nat.succ_ne_zero turns)]
              exact strToIpTurn_next numeric
            · rw [ofInt_groupInt]
              rfl

/--
`UTILS_StrToIP` accepts exactly four groups of digits with dots between them,
whatever is behind the last one.  A group may be empty, and one which is too
large for an `int` counts for what it wraps to.
-/
theorem str_to_ip_iff (text bytes : List UInt8) :
    utilsStrToIp text = some bytes ↔
      ∃ groups,
        groups.length = 4 ∧ Dotted groups text ∧
          (∀ digits ∈ groups, groupInt digits < 256) ∧
            bytes = groupBytes groups :=
  strToIpFrom_iff 3 text bytes

/-- Groups with dots between them. -/
def dotted (groups : List (List UInt8)) : List UInt8 :=
  [dot].intercalate groups

/-- Groups of digits with dots between them are such groups with nothing behind them. -/
theorem dotted_of_digits
    {digits : List UInt8} {groups : List (List UInt8)}
    (numeric : ∀ group ∈ digits :: groups, Digits group) :
    Dotted (digits :: groups) (dotted (digits :: groups)) := by
  induction groups generalizing digits with
  | nil =>
      have ended : ∀ byte ∈ ([] : List UInt8).head?, ¬(48 ≤ byte ∧ byte ≤ 57) := by
        intro byte member
        cases member
      have last := Dotted.last (numeric digits List.mem_cons_self) ended
      rw [List.append_nil] at last
      rw [dotted, List.intercalate_singleton]
      exact last
  | cons group groups induction =>
      have more :=
        induction fun other member => numeric other (.tail _ member)
      rw [dotted, List.intercalate_cons_cons, List.append_assoc]
      exact .next (numeric digits List.mem_cons_self) more

/-! ## Addresses which were printed -/

theorem decimal_fin :
    ∀ number : Fin 256,
      decimalValue (decimal (UInt8.ofNat number.val)) = number.val ∧
        (decimal (UInt8.ofNat number.val)).all
            (fun byte => decide (48 ≤ byte ∧ byte ≤ 57)) =
          true := by
  decide +kernel

/-- A byte is printed in digits, with its own value. -/
theorem decimal_digits (byte : UInt8) :
    Digits (decimal byte) ∧ decimalValue (decimal byte) = byte.toNat := by
  have printed := decimal_fin ⟨byte.toNat, byte.toNat_lt⟩
  rw [UInt8.ofNat_toNat] at printed
  exact ⟨decimal_of_all printed.2, printed.1⟩

theorem groupInt_decimal_lt (byte : UInt8) :
    groupInt (decimal byte) < 256 := by
  have small := byte.toNat_lt
  rw [groupInt, (decimal_digits byte).2, intOf_natCast (by omega)]
  omega

theorem groupBytes_map_decimal (bytes : List UInt8) :
    groupBytes (bytes.map decimal) = bytes := by
  rw [groupBytes, List.map_map]
  refine (List.map_congr_left ?_).trans (List.map_id bytes)
  intro byte _
  change UInt8.ofNat (decimalValue (decimal byte)) = byte
  rw [(decimal_digits byte).2, UInt8.ofNat_toNat]

/-- An address is read back from its text. -/
theorem str_to_ip_inetNtoa (addr : UInt32) :
    utilsStrToIp (inetNtoa addr) = some (wordBytes addr) := by
  have length := length_wordBytes addr
  refine
    (strToIpFrom_iff 3 _ _).mpr
      ⟨(wordBytes addr).map decimal, ?_, ?_, ?_, ?_⟩
  · rw [List.length_map, length]
  · have point : ascii "." = [dot] := by
      decide
    rw [inetNtoa, point]
    cases bytes : wordBytes addr with
    | nil =>
        rw [bytes] at length
        cases length
    | cons byte others =>
        refine dotted_of_digits ?_
        rw [← List.map_cons]
        intro digits member
        rcases List.mem_map.mp member with ⟨printed, -, rfl⟩
        exact (decimal_digits printed).1
  · intro digits member
    rcases List.mem_map.mp member with ⟨byte, -, rfl⟩
    exact groupInt_decimal_lt byte
  · exact (groupBytes_map_decimal _).symm

/-! ## Addresses which are only looked at -/

/-- The loop of `UTILS_IsIPV4`, whose three counters have 8 bits each. -/
def isIpv4Loop : UInt8 → UInt8 → UInt8 → List UInt8 → Bool
  | segs, chcnt, _, [] => decide (segs = 3 ∧ chcnt ≠ 0)
  | segs, chcnt, accum, c :: str =>
      if c = dot then
        if chcnt = 0 then
          false
        else if segs + 1 = 4 then
          false
        else
          isIpv4Loop (segs + 1) 0 0 str
      else if 48 ≤ c ∧ c ≤ 57 then
        if 255 < (accum * 10 + c - 48).toNat then
          false
        else
          isIpv4Loop segs (chcnt + 1) (accum * 10 + c - 48) str
      else
        false

/-- `UTILS_IsIPV4`. -/
def utilsIsIpv4 : Option CString → Bool
  | none => false
  | some str => isIpv4Loop 0 0 0 str.bytes

/-- A group of digits whose number the counter does not take for 0. -/
def Counted (digits : List UInt8) : Prop :=
  Digits digits ∧ digits.length % 256 ≠ 0

theorem digits_cons {byte : UInt8} {digits : List UInt8} :
    Digits (byte :: digits) ↔ (48 ≤ byte ∧ byte ≤ 57) ∧ Digits digits :=
  List.forall_mem_cons

theorem digits_nil : Digits [] := by
  intro byte member
  cases member

theorem dotted_cons
    (byte : UInt8) (digits : List UInt8) (groups : List (List UInt8)) :
    dotted ((byte :: digits) :: groups) = byte :: dotted (digits :: groups) :=
  List.intercalate_cons_cons_left

theorem dotted_nil (groups : List (List UInt8)) :
    dotted ([] :: groups) =
      match groups with
      | [] => []
      | group :: groups => dot :: dotted (group :: groups) := by
  cases groups with
  | nil =>
      exact List.intercalate_singleton
  | cons group groups =>
      exact List.intercalate_cons_cons

/-- What the loop still accepts, with a group begun and others counted. -/
structure Remainder
    (segs chcnt : UInt8) (text digits : List UInt8)
    (groups : List (List UInt8)) : Prop where
  layout : text = dotted (digits :: groups)
  numeric : Digits digits
  counted : (chcnt.toNat + digits.length) % 256 ≠ 0
  others : ∀ group ∈ groups, Counted group
  number : segs.toNat + groups.length = 3

theorem toNat_ne_zero (value : UInt8) : value.toNat % 256 ≠ 0 ↔ value ≠ 0 := by
  rw [Nat.mod_eq_of_lt value.toNat_lt]
  exact (@UInt8.toNat_inj value 0).not

variable {segs chcnt : UInt8} {str digits : List UInt8} {groups : List (List UInt8)}

/-- A dot ends the group that is begun. -/
theorem Remainder.of_dot
    (rest : Remainder segs chcnt (dot :: str) digits groups) :
    digits = [] ∧
      ∃ group others,
        groups = group :: others ∧ str = dotted (group :: others) := by
  have layout := rest.layout
  cases digits with
  | cons byte digits =>
      rw [dotted_cons, List.cons.injEq] at layout
      have digit := (digits_cons.mp rest.numeric).1
      rw [← layout.1] at digit
      exact absurd digit (by decide)
  | nil =>
      rw [dotted_nil] at layout
      cases groups with
      | nil =>
          cases layout
      | cons group others =>
          exact ⟨rfl, group, others, rfl, (List.cons.inj layout).2⟩

/-- Any other character is a digit of that group. -/
theorem Remainder.of_other
    {c : UInt8} (point : c ≠ dot)
    (rest : Remainder segs chcnt (c :: str) digits groups) :
    (48 ≤ c ∧ c ≤ 57) ∧
      ∃ others, digits = c :: others ∧ str = dotted (others :: groups) := by
  have layout := rest.layout
  cases digits with
  | cons byte digits =>
      rw [dotted_cons, List.cons.injEq] at layout
      rw [layout.1]
      exact ⟨(digits_cons.mp rest.numeric).1, digits, rfl, layout.2⟩
  | nil =>
      rw [dotted_nil] at layout
      cases groups with
      | nil =>
          cases layout
      | cons group others =>
          exact absurd (List.cons.inj layout).1 point

/-- At its end, a string has to have four groups, the last one with a digit. -/
theorem remainder_nil_iff :
    (∃ digits groups, Remainder segs chcnt [] digits groups) ↔
      segs = 3 ∧ chcnt ≠ 0 := by
  constructor
  · rintro ⟨digits, groups, rest⟩
    have layout := rest.layout
    cases digits with
    | cons byte digits =>
        rw [dotted_cons] at layout
        cases layout
    | nil =>
        rw [dotted_nil] at layout
        cases groups with
        | cons group groups =>
            cases layout
        | nil =>
            exact
              ⟨UInt8.toNat_inj.mp rest.number,
                (toNat_ne_zero chcnt).mp rest.counted⟩
  · rintro ⟨rfl, some⟩
    refine ⟨[], [], (dotted_nil []).symm, digits_nil, ?_, ?_, rfl⟩
    · exact (toNat_ne_zero chcnt).mpr some
    · intro group member
      cases member

/-- The loop accepts exactly the rest of four groups; no number is too large for it. -/
theorem isIpv4Loop_iff
    (text : List UInt8) (segs chcnt accum : UInt8) (few : segs.toNat ≤ 3) :
    isIpv4Loop segs chcnt accum text = true ↔
      ∃ digits groups, Remainder segs chcnt text digits groups := by
  induction text generalizing segs chcnt accum with
  | nil =>
      rw [isIpv4Loop, decide_eq_true_iff, remainder_nil_iff]
  | cons c str induction =>
      rw [isIpv4Loop]
      by_cases point : c = dot
      · subst point
        rw [if_pos rfl]
        by_cases none : chcnt = 0
        · rw [if_pos none]
          refine iff_of_false Bool.false_ne_true ?_
          rintro ⟨digits, groups, rest⟩
          have counted := rest.counted
          rw [rest.of_dot.1] at counted
          exact (toNat_ne_zero chcnt).mp counted none
        · have step : (segs + 1).toNat = segs.toNat + 1 := by
            rw [UInt8.toNat_add]
            change (segs.toNat + 1) % 256 = _
            omega
          rw [if_neg none]
          by_cases last : segs + 1 = 4
          · have three : segs.toNat + 1 = 4 := by
              rw [← step, last]
              rfl
            rw [if_pos last]
            refine iff_of_false Bool.false_ne_true ?_
            rintro ⟨digits, groups, rest⟩
            rcases rest.of_dot with ⟨-, group, others, rfl, -⟩
            have number := rest.number
            rw [List.length_cons] at number
            omega
          · have more : (segs + 1).toNat ≤ 3 := by
              have four : (segs + 1).toNat ≠ 4 :=
                fun same => last (UInt8.toNat_inj.mp same)
              omega
            rw [if_neg last, induction (segs + 1) 0 0 more]
            constructor
            · rintro ⟨digits, groups, rest⟩
              refine ⟨[], digits :: groups, ?_, digits_nil, ?_, ?_, ?_⟩
              · rw [dotted_nil, rest.layout]
              · exact (toNat_ne_zero chcnt).mpr none
              · intro group member
                rcases List.mem_cons.mp member with rfl | later
                · have counted := rest.counted
                  rw [UInt8.toNat_zero, Nat.zero_add] at counted
                  exact ⟨rest.numeric, counted⟩
                · exact rest.others group later
              · have number := rest.number
                rw [List.length_cons]
                omega
            · rintro ⟨digits, groups, rest⟩
              rcases rest.of_dot with ⟨-, group, others, rfl, layout⟩
              have counted := rest.others group List.mem_cons_self
              refine
                ⟨group, others, layout, counted.1, ?_,
                  fun other member => rest.others other (.tail _ member), ?_⟩
              · rw [UInt8.toNat_zero, Nat.zero_add]
                exact counted.2
              · have number := rest.number
                rw [List.length_cons] at number
                omega
      · rw [if_neg point]
        have count (length : Nat) :
            ((chcnt + 1).toNat + length) % 256 =
              (chcnt.toNat + (length + 1)) % 256 := by
          rw [UInt8.toNat_add]
          change ((chcnt.toNat + 1) % 256 + length) % 256 = _
          omega
        by_cases digit : 48 ≤ c ∧ c ≤ 57
        · have never : ¬255 < (accum * 10 + c - 48).toNat :=
            Nat.not_lt.mpr (Nat.le_of_lt_succ (UInt8.toNat_lt _))
          rw [if_pos digit, if_neg never, induction segs (chcnt + 1) _ few]
          constructor
          · rintro ⟨digits, groups, rest⟩
            have counted := rest.counted
            rw [count] at counted
            refine
              ⟨c :: digits, groups, ?_, digits_cons.mpr ⟨digit, rest.numeric⟩,
                counted, rest.others, rest.number⟩
            rw [dotted_cons, rest.layout]
          · rintro ⟨digits, groups, rest⟩
            rcases rest.of_other point with ⟨-, others, rfl, layout⟩
            refine
              ⟨others, groups, layout, (digits_cons.mp rest.numeric).2, ?_,
                rest.others, rest.number⟩
            rw [count]
            exact rest.counted
        · rw [if_neg digit]
          refine iff_of_false Bool.false_ne_true ?_
          rintro ⟨digits, groups, rest⟩
          exact digit (rest.of_other point).1

/-- Four groups which are counted, and nothing else. -/
def FourGroups (groups : List (List UInt8)) (text : List UInt8) : Prop :=
  groups.length = 4 ∧ text = dotted groups ∧ ∀ group ∈ groups, Counted group

/--
`UTILS_IsIPV4` accepts exactly four groups of digits with dots between them,
none of them with a multiple of 256 digits: a number can be as large as it
likes.  Of these, `UTILS_StrToIP` reads the ones whose numbers are small.
-/
theorem is_ipv4_iff (text : CString) :
    (utilsIsIpv4 (some text) = true ↔
        ∃ groups, FourGroups groups text.bytes) ∧
      ∀ groups, FourGroups groups text.bytes →
        (∀ digits ∈ groups, groupInt digits < 256) →
          utilsStrToIp text.bytes = some (groupBytes groups) := by
  constructor
  · rw [utilsIsIpv4, isIpv4Loop_iff text.bytes 0 0 0 (Nat.zero_le 3)]
    constructor
    · rintro ⟨digits, groups, rest⟩
      have counted := rest.counted
      have number := rest.number
      rw [UInt8.toNat_zero, Nat.zero_add] at counted number
      refine ⟨digits :: groups, congrArg Nat.succ number, rest.layout, ?_⟩
      intro group member
      rcases List.mem_cons.mp member with rfl | later
      · exact ⟨rest.numeric, counted⟩
      · exact rest.others group later
    · rintro ⟨groups, length, layout, counted⟩
      cases groups with
      | nil =>
          cases length
      | cons digits groups =>
          have first := counted digits List.mem_cons_self
          refine
            ⟨digits, groups, layout, first.1, ?_,
              fun group member => counted group (.tail _ member), ?_⟩
          · rw [UInt8.toNat_zero, Nat.zero_add]
            exact first.2
          · rw [UInt8.toNat_zero, Nat.zero_add]
            exact Nat.succ.inj length
  · rintro groups ⟨length, layout, counted⟩ small
    refine (strToIpFrom_iff 3 _ _).mpr ⟨groups, length, ?_, small, rfl⟩
    cases groups with
    | nil =>
        cases length
    | cons digits groups =>
        rw [layout]
        exact dotted_of_digits fun group member => (counted group member).1

/-- An address for the one reader, and none for the other. -/
example :
    isIpv4Loop 0 0 0 (ascii "999.1.1.1") = true ∧
      utilsStrToIp (ascii "999.1.1.1") = none := by
  decide +kernel

end EspFirmware
