import EspFirmware.Library.EventLog
import EspFirmware.SensorFrame

/-!
# The memory of `read`

The accesses of `read`, `get_data_bits`, `checksum` and `set_dht` to the two
blocks, with the allocations and the releases.  `sizeof` is applied to the
pointers, so `memset` clears four bytes of each block.  An access through a
null pointer resets the device.
-/

namespace EspFirmware

open Library

/-! ## Events -/

/-- The blocks which `read` and `get_data_bits` allocate. -/
inductive SensorBlock where
  | rawData
  | data
deriving DecidableEq

/-- How many bytes are asked for. -/
def SensorBlock.size : SensorBlock → Nat
  | .rawData => maxReadTime
  | .data => readBufferSize

/-- An allocation, an access, or a release. -/
inductive SensorEvent where
  | osZalloc (block : SensorBlock)
  | load (block : SensorBlock) (index : Nat)
  | store (block : SensorBlock) (index : Nat)
  | osFree (block : SensorBlock)
deriving DecidableEq

/-- The byte which is accessed. -/
def SensorEvent.access : SensorEvent → Option (SensorBlock × Nat)
  | .load block index | .store block index => some (block, index)
  | .osZalloc _ | .osFree _ => none

/-- The outcomes of the two calls of `os_zalloc`. -/
structure SensorAnswers where
  rawData : Bool
  data : Bool
deriving DecidableEq

namespace SensorAnswers

/-- The allocation of a block succeeds. -/
def grants (answers : SensorAnswers) : SensorBlock → Bool
  | .rawData => answers.rawData
  | .data => answers.data

/-- The event is an access through a null pointer. -/
def refuses (answers : SensorAnswers) (event : SensorEvent) : Bool :=
  event.access.any fun access => !answers.grants access.1

end SensorAnswers

/-! ## The functions -/

/-- `memset(block, 0, sizeof block)`. -/
def SensorBlock.clear (block : SensorBlock) : List SensorEvent :=
  (List.range 4).map (.store block)

/-- The loop which samples the pin.  Its counter is incremented before the store. -/
def sampleEvents : List SensorEvent :=
  (List.range maxReadTime).map fun index => .store .rawData (index + 1)

/-- The loop of `get_data_bits`, from some sample on. -/
def scanEvents (scan : PulseScan) (index : Nat) :
    List Bool → List SensorEvent
  | [] => []
  | sample :: rest =>
      if readBufferSize ≤ scan.dataIndex then []
      else
        .load .rawData index ::
          if sample then scanEvents scan.one (index + 1) rest
          else if scan.onesStreak then
            -- The bit is stored, and loaded again to be printed.
            .store .data scan.dataIndex :: .load .data scan.dataIndex ::
              scanEvents scan.zero (index + 1) rest
          else scanEvents scan (index + 1) rest

/-- `get_data_bits`. -/
def getDataBitsEvents (raw : List Bool) : List SensorEvent :=
  .osZalloc .data :: (SensorBlock.data.clear ++ scanEvents .start 0 raw)

/-- Loads of the first bits of the frame, behind the protocol bit. -/
def frameLoads (count : Nat) : List SensorEvent :=
  (List.range count).map fun index => .load .data (1 + index)

/-- `checksum`. -/
def checksumEvents : List SensorEvent :=
  frameLoads (readBufferSize - 2) ++ frameLoads 5

/-- `set_dht`, which clears a sign bit. -/
def setDhtEvents (data : DataBits) : List SensorEvent :=
  frameLoads 1 ++
    ((if signBit data then [.store .data 1] else []) ++
      frameLoads (readBufferSize - 10))

/-- `read`, when no access stops it. -/
def readTrace (samples : Samples) : List SensorEvent :=
  let raw := rawData samples
  let data := getDataBits raw
  .osZalloc .rawData ::
    (SensorBlock.rawData.clear ++
      (sampleEvents ++
        (getDataBitsEvents raw ++
          (checksumEvents ++
            if checksum data then
              setDhtEvents data ++ [.osFree .rawData, .osFree .data]
            else
              []))))

/-- What a call of `read` has done, and its result, when it returns. -/
structure SensorRun where
  events : List SensorEvent
  result : Option Int
deriving DecidableEq

/-- `read`, up to its first access through a null pointer. -/
def readRun (answers : SensorAnswers) (samples : Samples) : SensorRun where
  events := uptoFirst answers.refuses (readTrace samples)
  result :=
    if (readTrace samples).any answers.refuses then
      none
    else if checksum (getDataBits (rawData samples)) then
      some 0
    else
      some (-1)

/-! ## Safe calls -/

/-- All stores are inside of their blocks. -/
def SensorRun.StoresInside (run : SensorRun) : Prop :=
  ∀ block index, .store block index ∈ run.events → index < block.size

/-- No block is accessed whose allocation failed. -/
def SensorRun.NullFree (run : SensorRun) (answers : SensorAnswers) : Prop :=
  ∀ event ∈ run.events, answers.refuses event = false

/-- A call which returns has freed each block once. -/
def SensorRun.Frees (run : SensorRun) : Prop :=
  run.result.isSome = true →
    ∀ block, run.events.count (.osFree block) = 1

/-- The call is safe, and leaves the heap as it was. -/
structure SensorRun.Safe (run : SensorRun) (answers : SensorAnswers) :
    Prop where
  inside : run.StoresInside
  granted : run.NullFree answers
  freed : run.Frees

/-! ## The accesses -/

/-- The event accesses a byte of a block. -/
def SensorEvent.Inside (event : SensorEvent) : Prop :=
  ∃ block index, event.access = some (block, index) ∧ index < block.size

theorem not_inside_osFree (block : SensorBlock) :
    ¬(SensorEvent.osFree block).Inside := by
  rintro ⟨_, _, accessed, -⟩
  cases accessed

theorem inside_clear
    {block : SensorBlock} {event : SensorEvent}
    (member : event ∈ block.clear) :
    event.Inside := by
  rcases List.mem_map.mp member with ⟨index, among, rfl⟩
  have early := List.mem_range.mp among
  refine ⟨block, index, rfl, Nat.lt_of_lt_of_le early ?_⟩
  cases block <;> decide

theorem inside_frameLoads
    {count : Nat} {event : SensorEvent}
    (member : event ∈ frameLoads count)
    (short : count < readBufferSize) :
    event.Inside := by
  rcases List.mem_map.mp member with ⟨index, among, rfl⟩
  have early := List.mem_range.mp among
  refine ⟨.data, 1 + index, rfl, ?_⟩
  rw [SensorBlock.size]
  omega

/-- The loop of `get_data_bits` stays inside of both blocks. -/
theorem inside_scanEvents
    {scan : PulseScan} {index : Nat} {rest : List Bool} {event : SensorEvent}
    (member : event ∈ scanEvents scan index rest)
    (within : index + rest.length ≤ maxReadTime) :
    event.Inside := by
  induction rest generalizing scan index with
  | nil =>
      cases member
  | cons sample rest induction =>
      rw [List.length_cons] at within
      have later {scan : PulseScan}
          (member : event ∈ scanEvents scan (index + 1) rest) :
          event.Inside :=
        induction member (by omega)
      rw [scanEvents] at member
      split at member
      · cases member
      · rename_i room
        rcases List.mem_cons.mp member with rfl | member
        · exact ⟨.rawData, index, rfl, by rw [SensorBlock.size]; omega⟩
        · split at member
          · exact later member
          · split at member
            · have inside : scan.dataIndex < SensorBlock.data.size :=
                Nat.lt_of_not_le room
              rcases List.mem_cons.mp member with rfl | member
              · exact ⟨.data, scan.dataIndex, rfl, inside⟩
              · rcases List.mem_cons.mp member with rfl | member
                · exact ⟨.data, scan.dataIndex, rfl, inside⟩
                · exact later member
            · exact later member

theorem length_rawData (samples : Samples) :
    (rawData samples).length = maxReadTime := by
  rw [rawData_eq, List.length_cons, List.length_map, List.length_range]
  rfl

/-- What `get_data_bits` and `checksum` do is inside of the blocks. -/
theorem inside_getDataBits
    {samples : Samples} {event : SensorEvent}
    (member :
      event ∈
        SensorBlock.data.clear ++
          (scanEvents .start 0 (rawData samples) ++ checksumEvents)) :
    event.Inside := by
  rcases List.mem_append.mp member with cleared | member
  · exact inside_clear cleared
  · rcases List.mem_append.mp member with scanned | checked
    · exact
        inside_scanEvents scanned
          (by rw [length_rawData, Nat.zero_add])
    · rcases List.mem_append.mp checked with packed | compared
      · exact inside_frameLoads packed (by decide)
      · exact inside_frameLoads compared (by decide)

theorem inside_setDht
    {data : DataBits} {event : SensorEvent}
    (member : event ∈ setDhtEvents data) :
    event.Inside := by
  rcases List.mem_append.mp member with sign | member
  · exact inside_frameLoads sign (by decide)
  · rcases List.mem_append.mp member with cleared | packed
    · split at cleared
      · rw [List.mem_singleton.mp cleared]
        exact ⟨.data, 1, rfl, by decide⟩
      · cases cleared
    · exact inside_frameLoads packed (by decide)

/-! ## The stretches of a call -/

/-- Until `get_data_bits` is called. -/
def samplingTrace : List SensorEvent :=
  .osZalloc .rawData :: (SensorBlock.rawData.clear ++ sampleEvents)

/-- From the second allocation on until the checksum is known. -/
def decodingTrace (samples : Samples) : List SensorEvent :=
  SensorBlock.data.clear ++
    (scanEvents .start 0 (rawData samples) ++ checksumEvents)

/-- What depends on the checksum. -/
def concludingTrace (samples : Samples) : List SensorEvent :=
  if checksum (getDataBits (rawData samples)) then
    setDhtEvents (getDataBits (rawData samples)) ++
      [.osFree .rawData, .osFree .data]
  else
    []

theorem readTrace_eq (samples : Samples) :
    readTrace samples =
      samplingTrace ++
        .osZalloc .data ::
          (decodingTrace samples ++ concludingTrace samples) := by
  simp [readTrace, samplingTrace, decodingTrace, concludingTrace,
    getDataBitsEvents]

/-- The last sample is stored behind its block, and nothing else is accessed outside. -/
theorem access_samplingTrace
    {event : SensorEvent}
    (member : event ∈ samplingTrace) :
    event = .osZalloc .rawData ∨
      ∃ index, event = .store .rawData index ∧
        (index < maxReadTime ∨ index = maxReadTime) := by
  rcases List.mem_cons.mp member with rfl | member
  · exact Or.inl rfl
  · right
    rcases List.mem_append.mp member with cleared | sampled
    · rcases List.mem_map.mp cleared with ⟨index, among, rfl⟩
      have early := List.mem_range.mp among
      refine ⟨index, rfl, Or.inl ?_⟩
      rw [maxReadTime]
      omega
    · rcases List.mem_map.mp sampled with ⟨index, among, rfl⟩
      have early := List.mem_range.mp among
      exact ⟨index + 1, rfl, by omega⟩

theorem last_mem_samplingTrace :
    SensorEvent.store .rawData maxReadTime ∈ samplingTrace := by
  apply List.mem_cons_of_mem
  apply List.mem_append_right
  exact
    List.mem_map.mpr
      ⟨maxReadTime - 1, List.mem_range.mpr (by decide), rfl⟩

theorem inside_concludingTrace
    {samples : Samples} {event : SensorEvent}
    (member : event ∈ concludingTrace samples) :
    event.Inside ∨ ∃ block, event = .osFree block := by
  rw [concludingTrace] at member
  split at member
  · rcases List.mem_append.mp member with decoded | freed
    · exact Or.inl (inside_setDht decoded)
    · right
      simp only [List.mem_cons, List.not_mem_nil, or_false] at freed
      rcases freed with rfl | rfl
      · exact ⟨.rawData, rfl⟩
      · exact ⟨.data, rfl⟩
  · cases member

/-- Every store of a call is inside of its block, but for one. -/
theorem store_mem_readTrace
    {samples : Samples} {block : SensorBlock} {index : Nat}
    (member : .store block index ∈ readTrace samples) :
    index < block.size ∨ block = .rawData ∧ index = maxReadTime := by
  have stored (inside : (SensorEvent.store block index).Inside) :
      index < block.size := by
    rcases inside with ⟨_, _, accessed, within⟩
    cases accessed
    exact within
  rw [readTrace_eq] at member
  rcases List.mem_append.mp member with sampled | member
  · rcases access_samplingTrace sampled with zalloc | ⟨place, same, bound⟩
    · cases zalloc
    · cases same
      exact bound.imp_right fun last => ⟨rfl, last⟩
  · rcases List.mem_cons.mp member with zalloc | member
    · cases zalloc
    · left
      rcases List.mem_append.mp member with decoded | concluded
      · exact stored (inside_getDataBits decoded)
      · rcases inside_concludingTrace concluded with inside | ⟨_, freed⟩
        · exact stored inside
        · cases freed

/-- The blocks are freed when the checksum is right. -/
theorem count_osFree_readTrace (samples : Samples) (block : SensorBlock) :
    (readTrace samples).count (.osFree block) =
      if checksum (getDataBits (rawData samples)) then 1 else 0 := by
  have sampled : samplingTrace.count (.osFree block) = 0 := by
    rw [List.count_eq_zero]
    intro member
    rcases access_samplingTrace member with zalloc | ⟨_, stored, -⟩
    · cases zalloc
    · cases stored
  have decoded : (decodingTrace samples).count (.osFree block) = 0 := by
    rw [List.count_eq_zero]
    intro member
    exact not_inside_osFree block (inside_getDataBits member)
  have set :
      (setDhtEvents (getDataBits (rawData samples))).count
          (.osFree block) = 0 := by
    rw [List.count_eq_zero]
    intro member
    exact not_inside_osFree block (inside_setDht member)
  rw [readTrace_eq, List.count_append, sampled, List.count_cons,
    List.count_append, decoded, concludingTrace]
  split
  · rw [List.count_append, set]
    cases block <;> rfl
  · rfl

/-! ## Calls of `read` -/

section

variable (answers : SensorAnswers) (samples : Samples)

theorem refuses_eq_false
    {event : SensorEvent}
    (granted : answers.rawData = true ∧ answers.data = true) :
    answers.refuses event = false := by
  have grants (block : SensorBlock) : answers.grants block = true := by
    cases block with
    | rawData =>
        exact granted.1
    | data =>
        exact granted.2
  rw [SensorAnswers.refuses]
  cases event.access with
  | none =>
      rfl
  | some access =>
      simp [grants]

/-- The samples are stored, when their block was allocated. -/
theorem harmless_samplingTrace
    (granted : answers.rawData = true) :
    ∀ event ∈ samplingTrace, answers.refuses event = false := by
  intro event member
  rcases access_samplingTrace member with rfl | ⟨index, rfl, -⟩
  · rfl
  · simp [SensorAnswers.refuses, SensorEvent.access, SensorAnswers.grants,
      granted]

/-- Without the first block, the call ends with its first store. -/
theorem events_of_no_rawData
    (failed : answers.rawData = false) :
    (readRun answers samples).events =
      [.osZalloc .rawData, .store .rawData 0] := by
  have shape :
      readTrace samples =
        [.osZalloc .rawData] ++
          .store .rawData 0 :: (readTrace samples).drop 2 := by
    rfl
  rw [readRun, shape]
  apply uptoFirst_of_fatal
  · intro event member
    rw [List.mem_singleton.mp member]
    rfl
  · simp [SensorAnswers.refuses, SensorEvent.access, SensorAnswers.grants,
      failed]

/-- With both blocks, nothing stops the call. -/
theorem readRun_of_granted
    (granted : answers.rawData = true ∧ answers.data = true) :
    readRun answers samples =
      { events := readTrace samples
        result :=
          if checksum (getDataBits (rawData samples)) then some 0
          else some (-1) } := by
  have harmless :
      ∀ event ∈ readTrace samples, answers.refuses event = false :=
    fun _ _ => refuses_eq_false answers granted
  have quiet : (readTrace samples).any answers.refuses = false := by
    rw [List.any_eq_false]
    intro event member
    rw [harmless event member]
    exact Bool.false_ne_true
  simp only [readRun, uptoFirst_of_harmless harmless, quiet,
    Bool.false_eq_true, if_false]

/-- Without the second block, the call ends with the first store to it. -/
theorem events_of_no_data
    (granted : answers.rawData = true)
    (failed : answers.data = false) :
    (readRun answers samples).events =
      samplingTrace ++ [.osZalloc .data, .store .data 0] := by
  have shape :
      readTrace samples =
        (samplingTrace ++ [.osZalloc .data]) ++
          .store .data 0 ::
            ((decodingTrace samples).drop 1 ++ concludingTrace samples) := by
    rw [readTrace_eq, List.append_assoc]
    rfl
  rw [readRun, shape, uptoFirst_of_fatal, List.append_assoc]
  · rfl
  · intro event member
    rcases List.mem_append.mp member with sampled | zalloc
    · exact harmless_samplingTrace answers granted event sampled
    · rw [List.mem_singleton.mp zalloc]
      rfl
  · simp [SensorAnswers.refuses, SensorEvent.access, SensorAnswers.grants,
      failed]

theorem storesInside_iff :
    (readRun answers samples).StoresInside ↔ answers.rawData = false := by
  constructor
  · intro inside
    by_contra granted
    rw [Bool.not_eq_false] at granted
    have stored :
        .store .rawData maxReadTime ∈ (readRun answers samples).events := by
      rw [readRun, readTrace_eq,
        uptoFirst_append (harmless_samplingTrace answers granted)]
      exact List.mem_append_left _ last_mem_samplingTrace
    exact Nat.lt_irrefl _ (inside _ _ stored)
  · intro failed block index member
    rw [events_of_no_rawData answers samples failed] at member
    simp only [List.mem_cons, List.not_mem_nil, or_false, reduceCtorEq,
      false_or, SensorEvent.store.injEq] at member
    rcases member with ⟨rfl, rfl⟩
    decide

theorem nullFree_iff :
    (readRun answers samples).NullFree answers ↔
      answers.rawData = true ∧ answers.data = true := by
  constructor
  · intro free
    have refused {block : SensorBlock}
        (member : .store block 0 ∈ (readRun answers samples).events) :
        answers.grants block = true := by
      have harmless := free _ member
      simpa [SensorAnswers.refuses, SensorEvent.access] using harmless
    cases first : answers.rawData with
    | false =>
        rw [events_of_no_rawData answers samples first] at refused
        have granted := @refused .rawData (by decide)
        rw [SensorAnswers.grants, first] at granted
        cases granted
    | true =>
        cases second : answers.data with
        | false =>
            rw [events_of_no_data answers samples first second] at refused
            have granted :=
              @refused .data (List.mem_append_right _ (by decide))
            rw [SensorAnswers.grants, second] at granted
            cases granted
        | true =>
            exact ⟨rfl, rfl⟩
  · intro granted event _
    exact refuses_eq_false answers granted

/-- A call returns when both blocks were allocated. -/
theorem result_readRun :
    (readRun answers samples).result =
      if answers.rawData = true ∧ answers.data = true then
        if checksum (getDataBits (rawData samples)) then some 0
        else some (-1)
      else
        none := by
  by_cases granted : answers.rawData = true ∧ answers.data = true
  · rw [if_pos granted, readRun_of_granted answers samples granted]
  · rw [if_neg granted]
    have refused : (readTrace samples).any answers.refuses = true := by
      by_contra none
      rw [Bool.not_eq_true, List.any_eq_false] at none
      apply granted
      rw [← nullFree_iff answers samples]
      intro event member
      rw [readRun, uptoFirst_of_harmless] at member
      · exact Bool.eq_false_iff.mpr (none event member)
      · intro other among
        exact Bool.eq_false_iff.mpr (none other among)
    rw [readRun, if_pos refused]

theorem frees_iff :
    (readRun answers samples).Frees ↔
      (answers.rawData = true ∧ answers.data = true →
        checksum (getDataBits (rawData samples)) = true) := by
  rw [SensorRun.Frees, result_readRun]
  by_cases granted : answers.rawData = true ∧ answers.data = true
  · have events :
        (readRun answers samples).events = readTrace samples :=
      congrArg SensorRun.events (readRun_of_granted answers samples granted)
    rw [if_pos granted, imp_iff_right granted, events]
    simp only [count_osFree_readTrace]
    cases checksum (getDataBits (rawData samples)) with
    | false =>
        simp only [Bool.false_eq_true, if_false, iff_false]
        intro freed
        exact absurd (freed rfl .data) (by decide)
    | true =>
        simp
  · simp [granted]

/--
No call of `read` is safe.  With a block for the samples it stores behind it,
and without one it stores through a null pointer.  It returns when there are
both blocks, and frees them only when the checksum is right.
-/
theorem read_never_safe :
    ¬(readRun answers samples).Safe answers ∧
    ((readRun answers samples).StoresInside ↔ answers.rawData = false) ∧
    ((readRun answers samples).NullFree answers ↔
      answers.rawData = true ∧ answers.data = true) ∧
    ((readRun answers samples).Frees ↔
      (answers.rawData = true ∧ answers.data = true →
        checksum (getDataBits (rawData samples)) = true)) ∧
    (∀ block index, .store block index ∈ readTrace samples →
      index < block.size ∨ block = .rawData ∧ index = maxReadTime) ∧
    ∀ dht : Dht,
      (readRun answers samples).result = some 0 ↔
        (answers.rawData = true ∧ answers.data = true) ∧
          (dht.read samples).isSome = true := by
  refine
    ⟨?_, storesInside_iff answers samples, nullFree_iff answers samples,
      frees_iff answers samples, fun _ _ => store_mem_readTrace, ?_⟩
  · intro safe
    have failed := (storesInside_iff answers samples).mp safe.inside
    have granted := ((nullFree_iff answers samples).mp safe.granted).1
    rw [failed] at granted
    cases granted
  · intro dht
    rw [result_readRun, Dht.read, Dht.readBits]
    split
    · rename_i granted
      cases checksum (getDataBits (rawData samples)) with
      | false =>
          simp [granted]
      | true =>
          simp [granted]
    · rename_i refused
      simp [refused]

end

/-- A pin which rests: the last sample is stored behind the block. -/
theorem read_quiet_not_safe :
    .store .rawData 4000 ∈
        (readRun { rawData := true, data := true }
          (pulseStream [])).events ∧
      ¬(readRun { rawData := true, data := true }
          (pulseStream [])).Safe { rawData := true, data := true } := by
  have stored :
      .store .rawData 4000 ∈
        (readRun { rawData := true, data := true }
          (pulseStream [])).events := by
    rw [readRun_of_granted _ _ ⟨rfl, rfl⟩, readTrace_eq]
    exact List.mem_append_left _ last_mem_samplingTrace
  refine ⟨stored, ?_⟩
  intro safe
  exact Nat.lt_irrefl _ (safe.inside _ _ stored)

end EspFirmware
