import EspFirmware.ConnectCommand
import EspFirmware.StringScans

/-!
# The tokens of a command

The calls of `separate` in `tcpparser_process_data`, access by access.  Their
strings lie in two objects: in the block of the command, and in the empty
literal which `separate` returns and which its second call may be given.
-/

namespace EspFirmware

open Library Program

/-! ## Two objects -/

/-- What a token can lie in. -/
inductive TokenObject where
  | block
  | literal
deriving DecidableEq

/-- A `char *` into one of the objects. -/
structure TokenPtr where
  object : TokenObject
  offset : Nat
deriving DecidableEq

/-- The bytes of the objects. -/
structure TokenMemory where
  block : List UInt8
  literal : List UInt8
deriving DecidableEq

/-- A run on the objects: its accesses, the memory it leaves, and its result. -/
structure TokenRun (Value : Type) where
  accesses : List (TokenObject × Access)
  memory : TokenMemory
  result : Option Value

/-- The pointer which `separate` returns for a string of an object. -/
def TokenPtr.returned (object : TokenObject) : CharPtr → TokenPtr
  | .inside offset => { object, offset }
  | .literal => { object := .literal, offset := 0 }

namespace TokenMemory

/-- The bytes of an object. -/
def bytes (memory : TokenMemory) : TokenObject → List UInt8
  | .block => memory.block
  | .literal => memory.literal

/-- The objects when `tcpparser_process_data` is called. -/
def ofBlock (data : List UInt8) : TokenMemory where
  block := data
  literal := [0]

/-- Other bytes in an object. -/
def write (memory : TokenMemory) (object : TokenObject)
    (bytes : List UInt8) : TokenMemory :=
  match object with
  | .block => { memory with block := bytes }
  | .literal => { memory with literal := bytes }

/-- The string at a pointer, if it ends inside its object. -/
def string (memory : TokenMemory) (str : TokenPtr) : Option (List UInt8) :=
  stringAt (memory.bytes str.object) str.offset

/-- `separate`. -/
def separate (memory : TokenMemory) (str : TokenPtr) (sep : UInt8) :
    TokenRun TokenPtr :=
  let run := separateScan str.offset sep (memory.bytes str.object)
  { accesses := run.accesses.map (Prod.mk str.object)
    memory := memory.write str.object run.memory
    result := run.result.map (TokenPtr.returned str.object) }

end TokenMemory

/-- The pointer `cmd`, to the first byte of the block. -/
def cmdPtr : TokenPtr where
  object := .block
  offset := 0

/-- The pointers which `tcpparser_process_data` works with. -/
structure Tokens where
  cmd : TokenPtr
  params : TokenPtr
  /-- What `separate` returns for the parameters of `Connect` and `Power`. -/
  second : Option TokenPtr
deriving DecidableEq

/-- The commands which split their parameters. -/
def splits (cmd : List UInt8) : Bool :=
  cmd = ascii "Connect" || cmd = ascii "Power"

/-- The tokenisation in `tcpparser_process_data`. -/
def tokenise (data : List UInt8) : TokenRun Tokens :=
  let first := (TokenMemory.ofBlock data).separate cmdPtr colon
  match first.result with
  | none =>
      { accesses := first.accesses, memory := first.memory, result := none }
  | some params =>
      if (first.memory.string cmdPtr).any splits then
        let later := first.memory.separate params semicolon
        { accesses := first.accesses ++ later.accesses
          memory := later.memory
          result :=
            later.result.map fun ptr =>
              { cmd := cmdPtr, params, second := some ptr } }
      else
        { accesses := first.accesses
          memory := first.memory
          result := some { cmd := cmdPtr, params, second := none } }

/-! ## What the parser works with -/

/-- The command for a command word and its parameters. -/
def tcpCommandOf (cmd params : List UInt8) : TcpCommand :=
  if cmd = ascii "Connect" then
    .connectToNetwork (before semicolon params) (after semicolon params)
  else if cmd = ascii "Run AP" then .goBackToAp
  else if cmd = ascii "Name" then .setName params
  else if cmd = ascii "Room" then .setRoom params
  else if cmd = ascii "Type" then .setType params
  else if cmd = ascii "Mac Get" then .macGet
  else if cmd = ascii "Power" then
    .power (before semicolon params) (after semicolon params)
  else .device cmd params

/-- Where the separators of a command are. -/
def separators (text : List UInt8) : List Nat :=
  let cmd := before colon text
  let params := after colon text
  (if colon ∈ text then [cmd.length] else []) ++
    if splits cmd = true ∧ semicolon ∈ params then
      [cmd.length + 1 + (before semicolon params).length]
    else
      []

/-- A string lies at a pointer, inside its object. -/
def TokenMemory.Holds
    (memory : TokenMemory) (str : TokenPtr) (text : List UInt8) : Prop :=
  0 ∉ text ∧
    ∃ back,
      (memory.bytes str.object).drop str.offset = text ++ 0 :: back

/-- The tokens of a command are the parts of its text, each in its object. -/
structure TokenisedExactly
    (data text : List UInt8) (run : TokenRun Tokens) (tokens : Tokens) :
    Prop where
  result : run.result = some tokens
  cmd : run.memory.Holds tokens.cmd (before colon text)
  whole :
    splits (before colon text) = false →
      run.memory.Holds tokens.params (after colon text) ∧
        tokens.second = none
  parts :
    splits (before colon text) = true →
      run.memory.Holds tokens.params (before semicolon (after colon text)) ∧
        ∃ ptr, tokens.second = some ptr ∧
          run.memory.Holds ptr (after semicolon (after colon text))
  inside :
    ∀ access ∈ run.accesses,
      access.2.index < (run.memory.bytes access.1).length
  /-- Only separators are written, and none of them in the literal. -/
  stores :
    ∀ object index,
      (object, .store index) ∈ run.accesses ↔
        object = .block ∧ index ∈ separators text
  separator :
    ∀ index ∈ separators text,
      text[index]? = some colon ∨ text[index]? = some semicolon
  literal : run.memory.literal = [0]
  block :
    ∀ index,
      run.memory.block[index]? =
        if index ∈ separators text then some 0 else data[index]?

/-! ## One call of `separate` -/

/-- The loads of the first bytes of a string, in order. -/
def loadsOf (str count : Nat) : List Access :=
  (List.range count).map fun offset => .load (str + offset)

theorem index_lt_of_mem_loadsOf
    {str count size : Nat} {access : Access}
    (member : access ∈ loadsOf str count)
    (within : str + count ≤ size) :
    access.index < size := by
  rcases List.mem_map.mp member with ⟨offset, among, rfl⟩
  have early := List.mem_range.mp among
  rw [Access.index]
  omega

theorem drop_eq_parts
    {cells text back : List UInt8} {str : Nat} {sep : UInt8}
    (layout : cells.drop str = text ++ 0 :: back)
    (present : sep ∈ text) :
    cells.drop str =
      before sep text ++ sep :: (after sep text ++ 0 :: back) := by
  have parts := eq_before_append_after present
  rw [layout]
  conv_lhs => rw [parts]
  simp

/-- With a separator in the string, `separate` overwrites it. -/
theorem separateScan_of_mem
    {cells text back : List UInt8} {str : Nat} {sep : UInt8}
    (proper : sep ≠ 0)
    (layout : cells.drop str = text ++ 0 :: back)
    (nonzero : 0 ∉ text)
    (present : sep ∈ text) :
    separateScan str sep cells =
      { accesses :=
          loadsOf str ((before sep text).length + 1) ++
            [.store (str + (before sep text).length)]
        memory := cells.set (str + (before sep text).length) 0
        result := some (.inside (str + (before sep text).length + 1)) } := by
  have whole := drop_eq_parts layout present
  have inside : str + (before sep text).length < cells.length := by
    have length := congrArg List.length whole
    rw [List.length_drop, List.length_append, List.length_cons] at length
    omega
  have stopped :
      (scanFrom (fun _ => separateStops sep) str (cells.drop str)).2 =
        some { passed := before sep text, stop := sep } := by
    rw [scanFrom_eq_some_iff]
    refine ⟨⟨_, whole⟩, by simp [separateStops], ?_⟩
    intro offset within
    have member : (before sep text)[offset] ∈ before sep text :=
      List.getElem_mem within
    have differs : (before sep text)[offset] ≠ sep := by
      intro same
      rw [same] at member
      exact not_mem_before sep text member
    have passing : (before sep text)[offset] ≠ 0 := by
      intro zero
      rw [zero] at member
      rw [eq_before_append_after present] at nonzero
      exact nonzero (List.mem_append_left _ member)
    simp [separateStops, differs, passing]
  have loads := accesses_scanFrom stopped
  simp only [separateScan, andThen, scan, stopped, loads, if_neg proper,
    store, done, if_pos inside, loadsOf, List.append_nil]

/-- Without one, it only reads. -/
theorem separateScan_of_not_mem
    {cells text back : List UInt8} {str : Nat} {sep : UInt8}
    (layout : cells.drop str = text ++ 0 :: back)
    (nonzero : 0 ∉ text)
    (absent : sep ∉ text) :
    separateScan str sep cells =
      { accesses := loadsOf str (text.length + 1)
        memory := cells
        result := some .literal } := by
  have stopped :
      (scanFrom (fun _ => separateStops sep) str (cells.drop str)).2 =
        some { passed := text, stop := 0 } := by
    rw [scanFrom_eq_some_iff]
    refine ⟨⟨_, layout⟩, rfl, ?_⟩
    intro offset within
    have member := List.getElem_mem within
    have differs : text[offset] ≠ sep := fun same => absent (same ▸ member)
    have passing : text[offset] ≠ 0 := fun zero => nonzero (zero ▸ member)
    simp [separateStops, differs, passing]
  have loads := accesses_scanFrom stopped
  simp only [separateScan, andThen, scan, stopped, loads, done, loadsOf,
    if_true, List.append_nil]

/-- What a call of `separate` does with a string of either object. -/
structure Separates
    (memory : TokenMemory) (str : TokenPtr) (sep : UInt8) (text : List UInt8)
    (call : TokenRun TokenPtr) (ptr : TokenPtr) :
    Prop where
  result : call.result = some ptr
  first : call.memory.Holds str (before sep text)
  second : call.memory.Holds ptr (after sep text)
  place :
    sep ∈ text →
      ptr =
        { object := .block
          offset := str.offset + (before sep text).length + 1 }
  inside :
    ∀ access ∈ call.accesses,
      access.2.index < (memory.bytes access.1).length
  lengths :
    ∀ object,
      (call.memory.bytes object).length = (memory.bytes object).length
  stores :
    ∀ object index,
      (object, .store index) ∈ call.accesses ↔
        object = .block ∧ sep ∈ text ∧
          index = str.offset + (before sep text).length
  literal : call.memory.literal = [0]
  block :
    ∀ index,
      call.memory.block[index]? =
        if sep ∈ text ∧ index = str.offset + (before sep text).length then
          some 0
        else
          memory.block[index]?

/-- A string of the empty literal is empty. -/
theorem TokenMemory.Holds.text_eq_nil
    {memory : TokenMemory} {str : TokenPtr} {text : List UInt8}
    (holds : memory.Holds str text)
    (literal : memory.literal = [0])
    (object : str.object = .literal) :
    text = [] := by
  rcases holds with ⟨-, back, layout⟩
  rw [object, TokenMemory.bytes, literal] at layout
  have length := congrArg List.length layout
  rw [List.length_drop, List.length_append, List.length_cons,
    List.length_cons, List.length_nil] at length
  apply List.eq_nil_of_length_eq_zero
  omega

/-- The separator is overwritten, and what is behind it is returned. -/
theorem TokenMemory.separate_of_mem
    {memory : TokenMemory} {offset : Nat} {text back : List UInt8}
    {sep : UInt8}
    (layout : memory.block.drop offset = text ++ 0 :: back)
    (nonzero : 0 ∉ text)
    (proper : sep ≠ 0)
    (present : sep ∈ text) :
    memory.separate ⟨.block, offset⟩ sep =
      { accesses :=
          (loadsOf offset ((before sep text).length + 1) ++
            [Access.store (offset + (before sep text).length)]).map
              (Prod.mk .block)
        memory :=
          { memory with
            block :=
              memory.block.set (offset + (before sep text).length) 0 }
        result :=
          some ⟨.block, offset + (before sep text).length + 1⟩ } := by
  have scanned := separateScan_of_mem proper layout nonzero present
  simp only [TokenMemory.separate, TokenMemory.bytes, scanned]
  rfl

/-- With a separator, the string is in the block, and is divided there. -/
theorem separates_of_mem
    {memory : TokenMemory} {offset : Nat} {text back : List UInt8}
    {sep : UInt8}
    (layout : memory.block.drop offset = text ++ 0 :: back)
    (nonzero : 0 ∉ text)
    (proper : sep ≠ 0)
    (literal : memory.literal = [0])
    (present : sep ∈ text) :
    Separates memory ⟨.block, offset⟩ sep text
      (memory.separate ⟨.block, offset⟩ sep)
      ⟨.block, offset + (before sep text).length + 1⟩ := by
  have whole := drop_eq_parts layout present
  have inside : offset + (before sep text).length < memory.block.length := by
    have length := congrArg List.length whole
    rw [List.length_drop, List.length_append, List.length_cons] at length
    omega
  have call := TokenMemory.separate_of_mem layout nonzero proper present
  have parts := eq_before_append_after present
  rw [parts] at nonzero
  rw [call]
  refine ⟨rfl, ?_, ?_, fun _ => rfl, ?_, ?_, ?_, literal, ?_⟩
  · refine
      ⟨fun member => nonzero (List.mem_append_left _ member),
        after sep text ++ 0 :: back, ?_⟩
    simp only [TokenMemory.bytes]
    rw [List.drop_set, if_neg (by omega), Nat.add_sub_cancel_left, whole]
    simp
  · refine
      ⟨fun member => nonzero (List.mem_append_right _ (.tail _ member)),
        back, ?_⟩
    simp only [TokenMemory.bytes]
    rw [List.drop_set, if_pos (by omega), Nat.add_assoc, ← List.drop_drop,
      whole]
    simp
  · intro access member
    rw [List.map_append, List.mem_append] at member
    rcases member with loaded | stored
    · rcases List.mem_map.mp loaded with ⟨load, among, rfl⟩
      exact index_lt_of_mem_loadsOf among inside
    · rw [List.map_singleton, List.mem_singleton] at stored
      rw [stored]
      exact inside
  · intro other
    cases other with
    | block =>
        exact List.length_set
    | literal =>
        rfl
  · intro other index
    simp [loadsOf, present]
  · intro index
    simp only [present, true_and]
    by_cases here : index = offset + (before sep text).length
    · rw [if_pos here, here, List.getElem?_set_self inside]
    · rw [if_neg here, List.getElem?_set_ne (Ne.symm here)]

/-- Without one, nothing is written, and the literal is returned. -/
theorem separates_of_not_mem
    {memory : TokenMemory} {str : TokenPtr} {text : List UInt8} {sep : UInt8}
    (holds : memory.Holds str text)
    (literal : memory.literal = [0])
    (absent : sep ∉ text) :
    Separates memory str sep text (memory.separate str sep)
      ⟨.literal, 0⟩ := by
  have ⟨nonzero, back, layout⟩ := holds
  have call :
      memory.separate str sep =
        { accesses :=
            (loadsOf str.offset (text.length + 1)).map (Prod.mk str.object)
          memory
          result := some ⟨.literal, 0⟩ } := by
    rw [TokenMemory.separate,
      separateScan_of_not_mem layout nonzero absent]
    cases str.object <;> rfl
  rw [call]
  refine ⟨rfl, ?_, ?_, ?_, ?_, ?_, ?_, literal, ?_⟩
  · rw [before_of_not_mem absent]
    exact holds
  · rw [after_of_not_mem absent]
    exact ⟨List.not_mem_nil, [], literal⟩
  · intro member
    exact absurd member absent
  · intro access member
    rcases List.mem_map.mp member with ⟨load, among, rfl⟩
    have length := congrArg List.length layout
    rw [List.length_drop, List.length_append, List.length_cons] at length
    apply index_lt_of_mem_loadsOf among
    dsimp only
    omega
  · intro _
    rfl
  · intro other index
    simp [loadsOf, absent]
  · intro index
    rw [if_neg fun both => absent both.1]

/-- `separate` leaves the parts of a string at its pointer and at the one it returns. -/
theorem TokenMemory.Holds.separate
    {memory : TokenMemory} {str : TokenPtr} {text : List UInt8} {sep : UInt8}
    (holds : memory.Holds str text)
    (proper : sep ≠ 0)
    (literal : memory.literal = [0]) :
    ∃ ptr, Separates memory str sep text (memory.separate str sep) ptr := by
  by_cases present : sep ∈ text
  · rcases str with ⟨object, offset⟩
    have ⟨nonzero, back, layout⟩ := holds
    cases object with
    | literal =>
        rw [holds.text_eq_nil literal rfl] at present
        cases present
    | block =>
        exact ⟨_, separates_of_mem layout nonzero proper literal present⟩
  · exact ⟨_, separates_of_not_mem holds literal present⟩

/-- The string of the `CharPtr` is divided in the same way. -/
theorem TokenMemory.Holds.separate_eq
    {memory : TokenMemory} {str : CharPtr} {text : List UInt8} {sep : UInt8}
    (holds : memory.Holds (.returned .block str) text)
    (proper : sep ≠ 0)
    (literal : memory.literal = [0]) :
    (memory.separate (.returned .block str) sep).memory.block =
        (EspFirmware.separate memory.block str sep).1 ∧
      (memory.separate (.returned .block str) sep).result =
        some (.returned .block
          (EspFirmware.separate memory.block str sep).2) := by
  cases str with
  | literal =>
      have absent : sep ∉ text := by
        rw [holds.text_eq_nil literal rfl]
        exact List.not_mem_nil
      have layout :
          memory.literal.drop 0 = [] ++ 0 :: [] := literal
      have scanned :=
        separateScan_of_not_mem layout List.not_mem_nil
          (@List.not_mem_nil _ sep)
      simp only [TokenMemory.separate, TokenPtr.returned, TokenMemory.bytes,
        scanned]
      exact ⟨rfl, rfl⟩
  | inside offset =>
      rcases holds with ⟨-, back, layout⟩
      have stops :
          ∃ found,
            (scan (fun _ => separateStops sep) offset memory.block).result =
              some found := by
        rw [scan, exists_scanFrom_iff]
        have zero : 0 ∈ memory.block.drop offset := by
          rw [TokenPtr.returned, TokenMemory.bytes] at layout
          rw [layout]
          simp
        rcases List.getElem_of_mem zero with ⟨place, inside, stop⟩
        exact ⟨place, inside, by rw [stop]; rfl⟩
      rcases stops with ⟨found, stopped⟩
      have same := separateScan_eq_separate proper stopped
      refine ⟨same.1, ?_⟩
      simp only [TokenMemory.separate, TokenPtr.returned, TokenMemory.bytes,
        same.2]
      rfl

/-! ## The tokenisation -/

theorem TokenMemory.Holds.string_eq
    {memory : TokenMemory} {str : TokenPtr} {text : List UInt8}
    (holds : memory.Holds str text) :
    memory.string str = some text := by
  rcases holds with ⟨nonzero, back, layout⟩
  rw [TokenMemory.string, stringAt, layout, if_pos (by simp),
    before_append nonzero]

/-- A string in the block is kept when its bytes are. -/
theorem TokenMemory.Holds.keep
    {memory later : TokenMemory} {offset : Nat} {text : List UInt8}
    (holds : memory.Holds ⟨.block, offset⟩ text)
    (same :
      ∀ index, index ≤ offset + text.length →
        later.block[index]? = memory.block[index]?) :
    later.Holds ⟨.block, offset⟩ text := by
  rcases holds with ⟨nonzero, back, layout⟩
  change memory.block.drop offset = text ++ 0 :: back at layout
  have kept :
      (later.block.drop offset).take (text.length + 1) = text ++ [0] := by
    have read :
        (memory.block.drop offset).take (text.length + 1) = text ++ [0] := by
      rw [layout, List.take_length_add_append]
      rfl
    rw [← read]
    apply List.ext_getElem?
    intro place
    rw [List.getElem?_take, List.getElem?_take]
    split
    · rw [List.getElem?_drop, List.getElem?_drop]
      exact same _ (by omega)
    · rfl
  have whole :=
    (List.take_append_drop (text.length + 1) (later.block.drop offset)).symm
  rw [kept, List.append_assoc] at whole
  exact ⟨nonzero, _, whole⟩

theorem PointsTo.holds
    {block text : List UInt8}
    (points : PointsTo block (.inside 0) text) :
    (TokenMemory.ofBlock block).Holds cmdPtr text := by
  cases points with
  | @inside front _ back _ layout place nonzero =>
      have empty : front = [] := List.eq_nil_of_length_eq_zero place.symm
      refine ⟨nonzero, back, ?_⟩
      rw [layout, empty]
      rfl

/-- The command is the one for the two parts of the text. -/
theorem tcpparserProcessData_eq
    {block text : List UInt8}
    (points : PointsTo block (.inside 0) text) :
    (tcpparserProcessData block).2 =
      some (tcpCommandOf (before colon text) (after colon text)) := by
  have command := points.separate colon_ne_zero
  have parts := command.2.separate semicolon_ne_zero
  simp only [tcpparserProcessData, command.1.stringOf_eq,
    command.2.stringOf_eq, Option.some.injEq, tcpCommandOf]
  repeat' split
  all_goals
    first
    | rfl
    | exact bothStrings_eq parts.1 parts.2 _
    | exact bothStrings_eq command.1 command.2 _

/-- There is something behind a delimiter only if there is one. -/
theorem mem_of_mem_after
    {stop byte : UInt8} {text : List UInt8}
    (member : byte ∈ after stop text) :
    stop ∈ text := by
  by_contra absent
  rw [after_of_not_mem absent] at member
  cases member

/-- The delimiter, and what is behind it, at its place. -/
theorem getElem?_before_add
    {stop : UInt8} {text : List UInt8}
    (present : stop ∈ text) (index : Nat) :
    text[(before stop text).length + index]? =
      (stop :: after stop text)[index]? := by
  have parts := eq_before_append_after present
  calc
    text[(before stop text).length + index]? =
        (before stop text ++ stop :: after stop text)[
          (before stop text).length + index]? := by
      rw [← parts]
    _ = (stop :: after stop text)[index]? := by
      rw [List.getElem?_append_right (Nat.le_add_right _ _),
        Nat.add_sub_cancel_left]

/-- What is overwritten is a separator. -/
theorem separators_separate
    {text : List UInt8} {index : Nat}
    (member : index ∈ separators text) :
    text[index]? = some colon ∨ text[index]? = some semicolon := by
  rw [separators, List.mem_append] at member
  rcases member with first | second
  · split at first
    · rename_i present
      rw [List.mem_singleton.mp first]
      exact Or.inl (getElem?_before_add present 0)
    · cases first
  · split at second
    · rename_i both
      rw [List.mem_singleton.mp second, Nat.add_assoc, Nat.add_comm 1,
        getElem?_before_add (mem_of_mem_after both.2),
        List.getElem?_cons_succ]
      exact Or.inr (getElem?_before_add both.2 0)
    · cases second

theorem mem_separators_iff {text : List UInt8} {index : Nat} :
    index ∈ separators text ↔
      (colon ∈ text ∧ index = (before colon text).length) ∨
        (splits (before colon text) = true ∧
          semicolon ∈ after colon text ∧
            index =
              (before colon text).length + 1 +
                (before semicolon (after colon text)).length) := by
  rw [separators, List.mem_append]
  apply or_congr
  · split <;> simp_all
  · split
    · rename_i both
      simp [both.1, both.2]
    · rename_i neither
      rw [← and_assoc]
      simp [neither]

/-- A command whose parameters are not split. -/
theorem tokenisedExactly_whole
    {data text : List UInt8}
    (points : PointsTo data (.inside 0) text)
    (split : splits (before colon text) = false) :
    ∃ tokens, TokenisedExactly data text (tokenise data) tokens := by
  rcases points.holds.separate colon_ne_zero rfl with ⟨params, first⟩
  generalize called :
    (TokenMemory.ofBlock data).separate cmdPtr colon = call at first
  have run :
      tokenise data =
        { accesses := call.accesses
          memory := call.memory
          result := some { cmd := cmdPtr, params, second := none } } := by
    simp only [tokenise, called, first.result, first.first.string_eq,
      Option.any_some, split, Bool.false_eq_true, if_false]
  have separator (index : Nat) :
      index ∈ separators text ↔
        colon ∈ text ∧
          index = cmdPtr.offset + (before colon text).length := by
    rw [mem_separators_iff, split, cmdPtr, Nat.zero_add]
    simp
  rw [run]
  refine
    ⟨_, rfl, first.first, fun _ => ⟨first.second, rfl⟩, ?_, ?_, ?_,
      fun _ => separators_separate, first.literal, ?_⟩
  · intro also
    rw [split] at also
    cases also
  · intro access member
    rw [first.lengths]
    exact first.inside access member
  · intro object index
    rw [first.stores, separator]
  · intro index
    simp only [first.block, separator]
    rfl

/-- A command whose parameters are split again. -/
theorem tokenisedExactly_parts
    {data text : List UInt8}
    (points : PointsTo data (.inside 0) text)
    (split : splits (before colon text) = true) :
    ∃ tokens, TokenisedExactly data text (tokenise data) tokens := by
  rcases points.holds.separate colon_ne_zero rfl with ⟨params, first⟩
  rcases first.second.separate semicolon_ne_zero first.literal with
    ⟨ptr, later⟩
  generalize called :
    (TokenMemory.ofBlock data).separate cmdPtr colon = call at first later
  generalize calledAgain :
    call.memory.separate params semicolon = again at later
  have run :
      tokenise data =
        { accesses := call.accesses ++ again.accesses
          memory := again.memory
          result := some { cmd := cmdPtr, params, second := some ptr } } := by
    simp only [tokenise, called, first.result, first.first.string_eq,
      Option.any_some, split, if_true, calledAgain, later.result,
      Option.map_some]
  have place (member : semicolon ∈ after colon text) :
      params.offset = cmdPtr.offset + (before colon text).length + 1 := by
    rw [first.place (mem_of_mem_after member)]
  have separator (index : Nat) :
      index ∈ separators text ↔
        (colon ∈ text ∧
            index = cmdPtr.offset + (before colon text).length) ∨
          (semicolon ∈ after colon text ∧
            index =
              params.offset +
                (before semicolon (after colon text)).length) := by
    rw [mem_separators_iff, split]
    simp only [true_and, cmdPtr, Nat.zero_add]
    apply or_congr_right
    apply and_congr_right
    intro member
    rw [place member, cmdPtr, Nat.zero_add]
  rw [run]
  refine
    ⟨_, rfl, ?_, ?_, fun _ => ⟨later.first, ptr, rfl, later.second⟩, ?_, ?_,
      fun _ => separators_separate, later.literal, ?_⟩
  · apply first.first.keep
    intro index within
    rw [later.block, if_neg]
    rintro ⟨member, here⟩
    have behind := place member
    rw [cmdPtr] at behind
    omega
  · intro also
    rw [split] at also
    cases also
  · intro access member
    rw [later.lengths]
    rcases List.mem_append.mp member with early | late
    · rw [first.lengths]
      exact first.inside access early
    · exact later.inside access late
  · intro object index
    rw [List.mem_append, first.stores, later.stores, separator, and_or_left]
  · intro index
    simp only [later.block, first.block, separator]
    by_cases second :
        semicolon ∈ after colon text ∧
          index =
            params.offset + (before semicolon (after colon text)).length
    · rw [if_pos second, if_pos (Or.inr second)]
    · rw [if_neg second]
      simp only [second, or_false]
      rfl

/-- Both models of the parser leave the same block. -/
theorem tokenise_block
    {data text : List UInt8}
    (points : PointsTo data (.inside 0) text) :
    (tcpparserProcessData data).1 = (tokenise data).memory.block := by
  have holds := points.holds
  have command := points.separate colon_ne_zero
  have first :=
    @TokenMemory.Holds.separate_eq _ (.inside 0) _ _ holds colon_ne_zero rfl
  rcases holds.separate colon_ne_zero rfl with ⟨params, parts⟩
  change
    ((TokenMemory.ofBlock data).separate cmdPtr colon).memory.block =
        (separate data (.inside 0) colon).1 ∧
      ((TokenMemory.ofBlock data).separate cmdPtr colon).result =
        some (.returned .block (separate data (.inside 0) colon).2) at first
  generalize called :
    (TokenMemory.ofBlock data).separate cmdPtr colon = call at first parts
  have word := parts.first.string_eq
  have second := parts.second
  rw [Option.some.inj (parts.result.symm.trans first.2)] at second
  have later := second.separate_eq semicolon_ne_zero parts.literal
  rw [first.1] at later
  simp only [tokenise, called, first.2, word, Option.any_some, splits,
    tcpparserProcessData, command.1.stringOf_eq, Option.some.injEq]
  by_cases connect : before colon text = ascii "Connect"
  · simp [connect, later.1]
  · by_cases power : before colon text = ascii "Power"
    · have others :
          ascii "Power" ≠ ascii "Run AP" ∧ ascii "Power" ≠ ascii "Name" ∧
            ascii "Power" ≠ ascii "Room" ∧ ascii "Power" ≠ ascii "Type" ∧
              ascii "Power" ≠ ascii "Mac Get" := by
        decide
      rw [if_neg connect]
      simp [power, later.1, others]
    · rw [if_neg connect]
      simp only [connect, power, decide_false, Bool.or_false,
        Bool.false_eq_true, if_false, first.1]
      repeat' split
      all_goals rfl

/--
The command word and the parameters of a segment are the parts of its text,
which are split in place.  A network name and a password which are sent with
`Connect` arrive as they are.
-/
theorem tcpparser_tokens_exact (segment : Segment) (address : Nat) :
    (∃ tokens,
      TokenisedExactly (segment.copy address).bytes segment.text
        (tokenise (segment.copy address).bytes) tokens) ∧
    (tcpparserProcessData (segment.copy address).bytes).1 =
      (tokenise (segment.copy address).bytes).memory.block ∧
    (tcpparserProcessData (segment.copy address).bytes).2 =
      some
        (tcpCommandOf (before colon segment.text)
          (after colon segment.text)) ∧
    ∀ ssid password : List UInt8,
      semicolon ∉ ssid → 0 ∉ ssid → 0 ∉ password →
        segment.bytes =
            ascii "Connect" ++ colon :: (ssid ++ semicolon :: password) →
          (tcpparserProcessData (segment.copy address).bytes).2 =
            some (.connectToNetwork ssid password) := by
  have points := segment.copy_pointsTo address
  refine ⟨?_, tokenise_block points, tcpparserProcessData_eq points, ?_⟩
  · cases split : splits (before colon segment.text) with
    | false =>
        exact tokenisedExactly_whole points split
    | true =>
        exact tokenisedExactly_parts points split
  · intro ssid password single ssidNonzero passwordNonzero sent
    have nonzero : 0 ∉ segment.bytes := by
      rw [sent]
      simp only [List.mem_append, List.mem_cons, not_or]
      exact
        ⟨by decide, by decide, ssidNonzero, by decide, passwordNonzero⟩
    have text : segment.text = segment.bytes := before_of_not_mem nonzero
    rw [tcpparserProcessData_connect_iff points, text, sent]
    have free : colon ∉ ascii "Connect" := by
      decide
    rw [before_append free, after_append free, before_append single,
      after_append single]
    exact ⟨rfl, rfl, rfl⟩

/-- A network name with a colon, and a password with both separators. -/
def connectSegment : Segment where
  bytes := ascii "Connect:my:net;pass;word:1"
  bounded := by decide

theorem tcpparser_tokens_exact_connect :
    (tcpparserProcessData (connectSegment.copy 0).bytes).2 =
      some
        (.connectToNetwork (ascii "my:net") (ascii "pass;word:1")) := by
  apply (tcpparser_tokens_exact connectSegment 0).2.2.2
  · decide
  · decide
  · decide
  · rfl

end EspFirmware
