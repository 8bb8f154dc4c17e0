import Mathlib.Data.List.Basic
import Mathlib.Data.List.TakeWhile

/-!
# Programs which read and write a memory

A program is run on a memory, cell by cell.  The run lists every cell which
was accessed, also the one at which the memory came to its end, and then there
is no result.  A program is confined to the front of a memory when it stays
inside of it and does not depend on what is behind it.
-/

namespace EspFirmware.Library

universe u v w

/-- An access to one cell. -/
inductive Access where
  | load (index : Nat)
  | store (index : Nat)
deriving DecidableEq

/-- The cell which is accessed. -/
def Access.index : Access → Nat
  | .load index | .store index => index

/-- A run of a program: its accesses, the memory it leaves, and its result. -/
@[ext]
structure MemoryRun (Cell : Type u) (Value : Type v) where
  accesses : List Access
  memory : List Cell
  result : Option Value

/-- What a scan has found: the cells which it has passed, and the one which stopped it. -/
structure Scanned (Cell : Type u) where
  passed : List Cell
  stop : Cell

/-- One more cell was passed before. -/
def Scanned.behind {Cell : Type u} (cell : Cell) (found : Scanned Cell) :
    Scanned Cell :=
  { found with passed := cell :: found.passed }

/-- A program, given by its runs. -/
abbrev Program (Cell : Type u) (Value : Type v) :=
  List Cell → MemoryRun Cell Value

namespace Program

variable {Cell : Type u} {Value : Type v} {Result : Type w}

/-! ## Programs -/

/-- The program which only has a result. -/
def done (value : Value) : Program Cell Value :=
  fun memory => { accesses := [], memory, result := some value }

/-- One program after the other. -/
def andThen
    (first : Program Cell Value) (next : Value → Program Cell Result) :
    Program Cell Result :=
  fun memory =>
    let run := first memory
    match run.result with
    | none =>
        { accesses := run.accesses, memory := run.memory, result := none }
    | some value =>
        let later := next value run.memory
        { later with accesses := run.accesses ++ later.accesses }

/-- Store to one cell. -/
def store (index : Nat) (cell : Cell) : Program Cell Unit :=
  fun memory =>
    { accesses := [.store index]
      memory := memory.set index cell
      result := if index < memory.length then some () else none }

/-- The loads of a scan over the rest of a memory, and what it has found. -/
def scanFrom (stops : Nat → Cell → Bool) (index : Nat) :
    List Cell → List Access × Option (Scanned Cell)
  | [] => ([.load index], none)
  | cell :: rest =>
      if stops index cell then
        ([.load index], some { passed := [], stop := cell })
      else
        let later := scanFrom stops (index + 1) rest
        (.load index :: later.1, later.2.map (Scanned.behind cell))

/-- Load one cell after the other until one stops the scan. -/
def scan (stops : Nat → Cell → Bool) (start : Nat) :
    Program Cell (Scanned Cell) :=
  fun memory =>
    let read := scanFrom stops start (memory.drop start)
    { accesses := read.1, memory, result := read.2 }

/-! ## Scans -/

section Scan

variable {stops : Nat → Cell → Bool} {index : Nat} {found : Scanned Cell}

/-- A scan stops at the first cell which stops it. -/
theorem scanFrom_eq_some_iff {cells : List Cell} :
    (scanFrom stops index cells).2 = some found ↔
      (∃ back, cells = found.passed ++ found.stop :: back) ∧
        stops (index + found.passed.length) found.stop = true ∧
          ∀ offset (inside : offset < found.passed.length),
            stops (index + offset) found.passed[offset] = false := by
  induction cells generalizing index found with
  | nil =>
      simp [scanFrom]
  | cons cell cells induction =>
      rw [scanFrom]
      by_cases here : stops index cell = true
      · rw [if_pos here, Option.some.injEq]
        constructor
        · rintro rfl
          exact ⟨⟨cells, rfl⟩, here, fun _ inside => by cases inside⟩
        · rintro ⟨⟨back, layout⟩, stopping, before⟩
          rcases found with ⟨passed, stop⟩
          cases passed with
          | nil =>
              rw [List.nil_append, List.cons.injEq] at layout
              rw [layout.1]
          | cons head passed =>
              rw [List.cons_append, List.cons.injEq] at layout
              have passing := before 0 (Nat.zero_lt_succ _)
              rw [List.getElem_cons_zero, ← layout.1, Nat.add_zero,
                here] at passing
              cases passing
      · rw [if_neg here, Option.map_eq_some_iff]
        constructor
        · rintro ⟨later, stopped, rfl⟩
          rcases induction.mp stopped with ⟨⟨back, layout⟩, stopping, before⟩
          refine ⟨⟨back, by rw [layout]; rfl⟩, ?_, ?_⟩
          · rw [Scanned.behind, List.length_cons, Nat.add_comm _ 1,
              ← Nat.add_assoc]
            exact stopping
          · intro offset inside
            cases offset with
            | zero =>
                exact Bool.eq_false_iff.mpr here
            | succ offset =>
                have moved : index + (offset + 1) = index + 1 + offset := by
                  omega
                rw [moved]
                exact before offset (Nat.lt_of_succ_lt_succ inside)
        · rintro ⟨⟨back, layout⟩, stopping, before⟩
          rcases found with ⟨passed, stop⟩
          cases passed with
          | nil =>
              rw [List.nil_append, List.cons.injEq] at layout
              rw [← layout.1] at stopping
              exact absurd stopping here
          | cons head passed =>
              rw [List.cons_append, List.cons.injEq] at layout
              refine ⟨⟨passed, stop⟩, induction.mpr ⟨⟨back, layout.2⟩, ?_, ?_⟩, ?_⟩
              · rw [List.length_cons, Nat.add_comm _ 1,
                  ← Nat.add_assoc] at stopping
                exact stopping
              · intro offset inside
                have moved : index + 1 + offset = index + (offset + 1) := by
                  omega
                rw [moved]
                exact before (offset + 1) (Nat.succ_lt_succ inside)
              · rw [Scanned.behind, layout.1]

/-- A scan stops exactly if some cell would stop it. -/
theorem exists_scanFrom_iff {cells : List Cell} :
    (∃ found, (scanFrom stops index cells).2 = some found) ↔
      ∃ offset, ∃ inside : offset < cells.length,
        stops (index + offset) cells[offset] = true := by
  constructor
  · rintro ⟨found, stopped⟩
    rcases scanFrom_eq_some_iff.mp stopped with ⟨⟨back, rfl⟩, stopping, -⟩
    exact ⟨found.passed.length, by simp, by simpa using stopping⟩
  · rintro ⟨offset, inside, stopping⟩
    induction cells generalizing index offset with
    | nil =>
        cases inside
    | cons cell cells induction =>
        rw [scanFrom]
        by_cases here : stops index cell = true
        · rw [if_pos here]
          exact ⟨_, rfl⟩
        · rw [if_neg here]
          cases offset with
          | zero =>
              exact absurd stopping here
          | succ offset =>
              have moved : index + (offset + 1) = index + 1 + offset := by
                omega
              rw [moved] at stopping
              rcases induction offset (Nat.lt_of_succ_lt_succ inside)
                stopping with ⟨found, later⟩
              exact ⟨_, Option.map_eq_some_iff.mpr ⟨found, later, rfl⟩⟩

/-- A scan which stops does not see what is behind. -/
theorem scanFrom_append
    {front : List Cell}
    (stopped : (scanFrom stops index front).2 = some found)
    (back : List Cell) :
    scanFrom stops index (front ++ back) = scanFrom stops index front := by
  induction front generalizing index found with
  | nil =>
      cases stopped
  | cons cell front induction =>
      rw [List.cons_append, scanFrom, scanFrom]
      by_cases here : stops index cell = true
      · rw [if_pos here, if_pos here]
      · rw [scanFrom, if_neg here] at stopped
        rcases Option.map_eq_some_iff.mp stopped with ⟨rest, later, -⟩
        rw [if_neg here, if_neg here, induction later]

/-- A scan which stops has loaded every cell which it has passed, and the one which stopped it. -/
theorem accesses_scanFrom
    {cells : List Cell}
    (stopped : (scanFrom stops index cells).2 = some found) :
    (scanFrom stops index cells).1 =
      (List.range (found.passed.length + 1)).map fun offset =>
        .load (index + offset) := by
  induction cells generalizing index found with
  | nil =>
      cases stopped
  | cons cell cells induction =>
      rw [scanFrom] at stopped ⊢
      by_cases here : stops index cell = true
      · rw [if_pos here] at stopped ⊢
        cases stopped
        rfl
      · rw [if_neg here] at stopped ⊢
        rcases Option.map_eq_some_iff.mp stopped with ⟨later, ends, rfl⟩
        rw [Scanned.behind, List.length_cons, List.range_succ_eq_map,
          List.map_cons, List.map_map]
        refine congrArg (List.cons _) ((induction ends).trans ?_)
        apply List.map_congr_left
        intro offset _
        rw [Function.comp_apply, Nat.succ_eq_add_one, Nat.add_assoc,
          Nat.add_comm 1]

/-- A scan which stops has loaded only what it was given. -/
theorem index_lt_of_mem_scanFrom
    {front : List Cell}
    (stopped : (scanFrom stops index front).2 = some found)
    {access : Access}
    (member : access ∈ (scanFrom stops index front).1) :
    access.index < index + front.length := by
  induction front generalizing index found with
  | nil =>
      cases stopped
  | cons cell front induction =>
      rw [scanFrom] at stopped member
      by_cases here : stops index cell = true
      · rw [if_pos here, List.mem_singleton] at member
        rw [member, List.length_cons, Access.index]
        omega
      · rw [if_neg here] at stopped member
        rw [List.length_cons]
        rcases List.mem_cons.mp member with first | later
        · rw [first, Access.index]
          omega
        · rcases Option.map_eq_some_iff.mp stopped with ⟨rest, ends, -⟩
          have bounded := induction ends later
          omega

/-- A scan which does not stop goes on with what is behind. -/
theorem load_mem_scanFrom
    {front : List Cell}
    (passes : (scanFrom stops index front).2 = none)
    (back : List Cell) :
    .load (index + front.length) ∈ (scanFrom stops index (front ++ back)).1 := by
  induction front generalizing index with
  | nil =>
      cases back with
      | nil =>
          exact List.mem_singleton_self _
      | cons cell back =>
          rw [List.nil_append, scanFrom]
          split
          · exact List.mem_singleton_self _
          · exact List.mem_cons_self
  | cons cell front induction =>
      rw [scanFrom] at passes
      by_cases here : stops index cell = true
      · rw [if_pos here] at passes
        cases passes
      · rw [if_neg here] at passes
        have later := induction (Option.map_eq_none_iff.mp passes)
        rw [List.cons_append, scanFrom, if_neg here, List.length_cons,
          Nat.add_comm front.length, ← Nat.add_assoc]
        exact List.mem_cons_of_mem _ later

end Scan

/-! ## Programs which stay inside -/

/--
The program is confined to the front of a memory: it accesses only the front,
which it leaves as `after`, and neither its accesses nor its result depend on
what is behind.
-/
def Confined
    (program : Program Cell Value) (front after : List Cell)
    (value : Value) : Prop :=
  after.length = front.length ∧
    ∃ accesses : List Access,
      (∀ access ∈ accesses, access.index < front.length) ∧
        ∀ back,
          program (front ++ back) =
            { accesses, memory := after ++ back, result := some value }

theorem confined_done (value : Value) (front : List Cell) :
    Confined (done value) front front value :=
  ⟨rfl, [], fun _ member => (List.not_mem_nil member).elim, fun _ => rfl⟩

theorem confined_store
    {front : List Cell} {index : Nat}
    (inside : index < front.length) (cell : Cell) :
    Confined (store index cell) front (front.set index cell) () := by
  refine ⟨List.length_set, [.store index], ?_, ?_⟩
  · intro access member
    rw [List.mem_singleton.mp member]
    exact inside
  · intro back
    have within : index < (front ++ back).length := by
      rw [List.length_append]
      omega
    rw [store, if_pos within, List.set_append_left _ _ inside]

/-- A scan which stops in the front is confined to it. -/
theorem confined_scan
    {stops : Nat → Cell → Bool} {start : Nat} {front : List Cell}
    {found : Scanned Cell}
    (within : start ≤ front.length)
    (stopped : (scan stops start front).result = some found) :
    Confined (scan stops start) front front found := by
  refine ⟨rfl, (scanFrom stops start (front.drop start)).1, ?_, ?_⟩
  · intro access member
    have bounded := index_lt_of_mem_scanFrom stopped member
    rw [List.length_drop] at bounded
    omega
  · intro back
    rw [scan, List.drop_append_of_le_length within,
      scanFrom_append stopped back]
    exact MemoryRun.ext rfl rfl stopped

/-- Programs which are confined one after the other are confined. -/
theorem Confined.andThen
    {first : Program Cell Value} {next : Value → Program Cell Result}
    {front middle after : List Cell} {value : Value} {result : Result}
    (firstConfined : first.Confined front middle value)
    (nextConfined : (next value).Confined middle after result) :
    (first.andThen next).Confined front after result := by
  rcases firstConfined with ⟨firstLength, firstAccesses, firstInside, firstRuns⟩
  rcases nextConfined with ⟨nextLength, nextAccesses, nextInside, nextRuns⟩
  refine
    ⟨nextLength.trans firstLength, firstAccesses ++ nextAccesses, ?_, ?_⟩
  · intro access member
    rcases List.mem_append.mp member with early | late
    · exact firstInside access early
    · exact firstLength ▸ nextInside access late
  · intro back
    simp only [Program.andThen, firstRuns back, nextRuns back]

/-- What comes behind a program cannot undo its accesses. -/
theorem mem_andThen
    {first : Program Cell Value} (next : Value → Program Cell Result)
    {memory : List Cell} {access : Access}
    (member : access ∈ (first memory).accesses) :
    access ∈ (first.andThen next memory).accesses := by
  simp only [Program.andThen]
  split
  · exact member
  · exact List.mem_append_left _ member

/--
Whatever is behind the front of a memory, the program accesses only the
front, and it does the same.
-/
structure StaysInside (program : Program Cell Value) (front : List Cell) :
    Prop where
  inside :
    ∀ back, ∀ access ∈ (program (front ++ back)).accesses,
      access.index < front.length
  same :
    ∀ back other,
      (program (front ++ back)).accesses =
          (program (front ++ other)).accesses ∧
        (program (front ++ back)).memory.take front.length =
            (program (front ++ other)).memory.take front.length ∧
          (program (front ++ back)).result =
            (program (front ++ other)).result
  kept :
    ∀ back, (program (front ++ back)).memory.drop front.length = back

theorem Confined.staysInside
    {program : Program Cell Value} {front after : List Cell} {value : Value}
    (confined : program.Confined front after value) :
    program.StaysInside front := by
  rcases confined with ⟨length, accesses, inside, runs⟩
  refine ⟨?_, ?_, ?_⟩
  · intro back
    rw [runs back]
    exact inside
  · intro back other
    rw [runs back, runs other, ← length, List.take_left, List.take_left]
    exact ⟨rfl, rfl, rfl⟩
  · intro back
    rw [runs back, ← length, List.drop_left]

/-- A scan which does not stop in the front loads the first cell behind it. -/
theorem load_mem_scan
    {stops : Nat → Cell → Bool} {front : List Cell}
    (passes : (scan stops 0 front).result = none)
    (back : List Cell) :
    .load front.length ∈ (scan stops 0 (front ++ back)).accesses := by
  have load := load_mem_scanFrom passes back
  rw [Nat.zero_add] at load
  exact load

theorem StaysInside.not_load
    {program : Program Cell Value} {front back : List Cell}
    (stays : program.StaysInside front) :
    .load front.length ∉ (program (front ++ back)).accesses := by
  intro member
  exact Nat.lt_irrefl _ (stays.inside back _ member)

end Program

end EspFirmware.Library
