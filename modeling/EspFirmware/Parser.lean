import EspFirmware.Memory

/-!
# Commands of `parser.c`

A command is tokenised in place: `separate` puts a terminator where it finds
the separator and answers with a pointer behind it, or with an empty literal.
The block is zero-terminated, so no scan leaves it.
-/

namespace EspFirmware

open Library

/-! ## Tokens -/

/-- A `char *` into the command block, or the empty literal which `separate` returns. -/
inductive CharPtr where
  | inside (offset : Nat)
  | literal
deriving DecidableEq

/-- The string a pointer points to, if it ends inside the block. -/
def stringOf (block : List UInt8) (str : CharPtr) : Option (List UInt8) :=
  match str with
  | .inside offset => stringAt block offset
  | .literal => some []

/-- The loop of `separate`: how far the separator is, when it comes before the terminator. -/
def findSeparator (sep : UInt8) : List UInt8 → Option Nat
  | [] => none
  | byte :: rest =>
      if byte = 0 then none
      else if byte = sep then some 0
      else (findSeparator sep rest).map (· + 1)

/-- `separate`: the block with its new terminator, and the pointer it returns. -/
def separate (block : List UInt8) (str : CharPtr) (sep : UInt8) :
    List UInt8 × CharPtr :=
  match str with
  | .literal => (block, .literal)
  | .inside offset =>
      match findSeparator sep (block.drop offset) with
      | none => (block, .literal)
      | some index =>
          (block.set (offset + index) 0, .inside (offset + index + 1))

/-! ## Commands -/

/-- The separator behind a command. -/
def colon : UInt8 := 58

/-- The separator between two parameters. -/
def semicolon : UInt8 := 59

theorem colon_ne_zero :
    colon ≠ 0 := by
  decide

theorem semicolon_ne_zero :
    semicolon ≠ 0 := by
  decide

/-- What `tcpparser_process_data` does with a command, compiled for use as a locator. -/
inductive TcpCommand where
  | connectToNetwork (ssid password : List UInt8)
  | goBackToAp
  | setName (name : List UInt8)
  | setRoom (room : List UInt8)
  | setType (type : List UInt8)
  | macGet
  | power (high low : List UInt8)
  | device (cmd params : List UInt8)
deriving DecidableEq

/-- Two parameters, when both strings end inside the block. -/
def bothStrings
    (block : List UInt8) (first second : CharPtr)
    (command : List UInt8 → List UInt8 → TcpCommand) :
    Option TcpCommand :=
  match stringOf block first, stringOf block second with
  | some first, some second => some (command first second)
  | _, _ => none

/-- The tokenisation and the choice of the command in `tcpparser_process_data`. -/
def tcpparserProcessData (data : List UInt8) :
    List UInt8 × Option TcpCommand :=
  let cmd := CharPtr.inside 0
  let (block, params) := separate data cmd colon
  if stringOf block cmd = some (ascii "Connect") then
    let ssid := params
    let (block, password) := separate block params semicolon
    (block, bothStrings block ssid password .connectToNetwork)
  else if stringOf block cmd = some (ascii "Run AP") then
    (block, some .goBackToAp)
  else if stringOf block cmd = some (ascii "Name") then
    (block, (stringOf block params).map .setName)
  else if stringOf block cmd = some (ascii "Room") then
    (block, (stringOf block params).map .setRoom)
  else if stringOf block cmd = some (ascii "Type") then
    (block, (stringOf block params).map .setType)
  else if stringOf block cmd = some (ascii "Mac Get") then
    (block, some .macGet)
  else if stringOf block cmd = some (ascii "Power") then
    let high := params
    let (block, low) := separate block params semicolon
    (block, bothStrings block high low .power)
  else
    (block, bothStrings block cmd params .device)

/-! ## What a token is -/

theorem findSeparator_of_not_mem
    {sep : UInt8} {text : List UInt8}
    (nonzero : 0 ∉ text)
    (absent : sep ∉ text) (back : List UInt8) :
    findSeparator sep (text ++ 0 :: back) = none := by
  induction text with
  | nil =>
      rfl
  | cons byte rest induction =>
      rw [List.mem_cons, not_or] at nonzero absent
      rw [List.cons_append, findSeparator, if_neg (Ne.symm nonzero.1),
        if_neg (Ne.symm absent.1), induction nonzero.2 absent.2]
      rfl

theorem findSeparator_append
    {sep : UInt8} {front : List UInt8}
    (nonzero : 0 ∉ front)
    (proper : sep ≠ 0)
    (absent : sep ∉ front) (back : List UInt8) :
    findSeparator sep (front ++ sep :: back) = some front.length := by
  induction front with
  | nil =>
      rw [List.nil_append, findSeparator, if_neg proper, if_pos rfl]
      rfl
  | cons byte rest induction =>
      rw [List.mem_cons, not_or] at nonzero absent
      rw [List.cons_append, findSeparator, if_neg (Ne.symm nonzero.1),
        if_neg (Ne.symm absent.1), induction nonzero.2 absent.2]
      rfl

/-- A string lies at a pointer, inside the block. -/
inductive PointsTo (block : List UInt8) : CharPtr → List UInt8 → Prop where
  | inside {front text back : List UInt8} {offset : Nat}
      (layout : block = front ++ (text ++ 0 :: back))
      (place : offset = front.length)
      (nonzero : 0 ∉ text) :
      PointsTo block (.inside offset) text
  | literal : PointsTo block .literal []

theorem PointsTo.stringOf_eq
    {block text : List UInt8} {str : CharPtr}
    (points : PointsTo block str text) :
    stringOf block str = some text := by
  cases points with
  | inside layout place nonzero =>
      rw [stringOf, stringAt, layout, place, List.drop_left,
        if_pos (by simp), before_append nonzero]
  | literal =>
      rfl

/--
After `separate` the pointer points to the part before the separator, and the
result to the part behind it.
-/
theorem PointsTo.separate
    {block text : List UInt8} {str : CharPtr} {sep : UInt8}
    (points : PointsTo block str text)
    (proper : sep ≠ 0) :
    PointsTo (separate block str sep).1 str (before sep text) ∧
      PointsTo (separate block str sep).1 (separate block str sep).2
        (after sep text) := by
  cases points with
  | literal =>
      exact ⟨.literal, .literal⟩
  | @inside front _ back offset layout place nonzero =>
      by_cases present : sep ∈ text
      · have parts := eq_before_append_after present
        have free := not_mem_before sep text
        have frontNonzero : 0 ∉ before sep text := by
          intro member
          rw [parts] at nonzero
          exact nonzero (List.mem_append_left _ member)
        have backNonzero : 0 ∉ after sep text := by
          intro member
          rw [parts] at nonzero
          exact nonzero (List.mem_append_right _ (List.mem_cons_of_mem _ member))
        have whole :
            block =
              front ++ (before sep text ++
                sep :: (after sep text ++ 0 :: back)) := by
          have divided :=
            congrArg (fun text => front ++ (text ++ 0 :: back)) parts
          rw [layout, divided]
          simp
        have found :
            findSeparator sep (block.drop offset) =
              some (before sep text).length := by
          rw [whole, place, List.drop_left,
            findSeparator_append frontNonzero proper free]
        have ended :
            block.set (offset + (before sep text).length) 0 =
              front ++ (before sep text ++
                0 :: (after sep text ++ 0 :: back)) := by
          rw [whole, place]
          simp
        simp only [EspFirmware.separate, found]
        rw [ended]
        refine ⟨.inside rfl place frontNonzero, ?_⟩
        have behind :
            front ++ (before sep text ++ 0 :: (after sep text ++ 0 :: back)) =
              (front ++ before sep text ++ [0]) ++
                (after sep text ++ 0 :: back) := by
          simp
        rw [behind]
        refine .inside rfl ?_ backNonzero
        simp [place, Nat.add_assoc]
      · have found : findSeparator sep (block.drop offset) = none := by
          rw [layout, place, List.drop_left,
            findSeparator_of_not_mem nonzero present]
        simp only [EspFirmware.separate, found]
        rw [before_of_not_mem present, after_of_not_mem present]
        exact ⟨.inside layout place nonzero, .literal⟩

/-- Both parameters of a command that was split in two. -/
theorem bothStrings_eq
    {block first second : List UInt8} {left right : CharPtr}
    (pointsLeft : PointsTo block left first)
    (pointsRight : PointsTo block right second)
    (command : List UInt8 → List UInt8 → TcpCommand) :
    bothStrings block left right command = some (command first second) := by
  simp only [bothStrings, pointsLeft.stringOf_eq, pointsRight.stringOf_eq]

/-- Which commands connect to a network, and with which credentials. -/
theorem tcpparserProcessData_connect_iff
    {block text : List UInt8}
    (points : PointsTo block (.inside 0) text)
    (ssid password : List UInt8) :
    (tcpparserProcessData block).2 =
        some (.connectToNetwork ssid password) ↔
      before colon text = ascii "Connect" ∧
        ssid = before semicolon (after colon text) ∧
          password = after semicolon (after colon text) := by
  have command := points.separate colon_ne_zero
  have credentials := command.2.separate semicolon_ne_zero
  have cmd := command.1.stringOf_eq
  by_cases connect : before colon text = ascii "Connect"
  · have result :
        (tcpparserProcessData block).2 =
          some
            (.connectToNetwork (before semicolon (after colon text))
              (after semicolon (after colon text))) := by
      simp only [tcpparserProcessData]
      rw [if_pos (by rw [cmd, connect])]
      exact bothStrings_eq credentials.1 credentials.2 _
    rw [result]
    simp only [connect, Option.some.injEq, TcpCommand.connectToNetwork.injEq,
      true_and]
    exact and_congr eq_comm eq_comm
  · simp only [connect, false_and, iff_false]
    simp only [tcpparserProcessData]
    rw [if_neg (by rw [cmd]; simpa using connect)]
    repeat' split
    all_goals simp [bothStrings_eq command.1 command.2,
      bothStrings_eq credentials.1 credentials.2, command.2.stringOf_eq]

end EspFirmware
