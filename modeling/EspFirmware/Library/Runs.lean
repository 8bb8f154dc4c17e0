import Mathlib.Tactic

/-!
# Runs of ones

A run of ones in a list of bits is completed by a zero behind it.  The
completed runs are found in one pass which counts the ones since the last
zero.
-/

namespace EspFirmware.Library

/-- A run of ones, by the index of its first one and its length. -/
structure Run where
  start : Nat
  length : Nat
deriving DecidableEq

/-- A maximal run of ones, with a zero behind it. -/
structure Run.CompletedIn (bits : List Bool) (run : Run) : Prop where
  nonempty : 0 < run.length
  before : ∀ index, index + 1 = run.start → bits[index]? = some false
  ones : ∀ offset < run.length, bits[run.start + offset]? = some true
  behind : bits[run.start + run.length]? = some false

/--
The completed runs of the bits which are left, when the last `count` bits
were ones and the first of these has the index `start`.
-/
def runsFrom (start count : Nat) : List Bool → List Run
  | [] => []
  | true :: rest => runsFrom start (count + 1) rest
  | false :: rest =>
      if count = 0 then
        runsFrom (start + 1) 0 rest
      else
        { start := start, length := count } ::
          runsFrom (start + count + 1) 0 rest

/-- The completed runs of a list of bits, in their order. -/
def completedRuns (bits : List Bool) : List Run :=
  runsFrom 0 0 bits

/-- A run which a zero follows is the only one that begins with its first one. -/
theorem Run.CompletedIn.length_unique
    {bits : List Bool} {run : Run} {count : Nat}
    (completed : run.CompletedIn bits)
    (ones : ∀ offset < count, bits[run.start + offset]? = some true)
    (behind : bits[run.start + count]? = some false) :
    run.length = count := by
  rcases Nat.lt_trichotomy run.length count with shorter | same | longer
  · have one := ones run.length shorter
    rw [completed.behind] at one
    cases one
  · exact same
  · have one := completed.ones count longer
    rw [behind] at one
    cases one

/-- Beside ones which a zero follows, a run is these ones or is behind them. -/
theorem Run.CompletedIn.eq_or_lt
    {bits : List Bool} {run : Run} {start count : Nat}
    (completed : run.CompletedIn bits)
    (ones : ∀ offset < count, bits[start + offset]? = some true)
    (behind : bits[start + count]? = some false)
    (after : start ≤ run.start) :
    run = { start := start, length := count } ∨
      start + count < run.start := by
  rcases Nat.eq_or_lt_of_le after with same | later
  · subst same
    left
    have length := completed.length_unique ones behind
    cases run
    cases length
    rfl
  · right
    by_contra early
    have zero := completed.before (run.start - 1) (by omega)
    rw [show run.start - 1 = start + (run.start - 1 - start) by omega] at zero
    rcases Nat.lt_or_ge (run.start - 1 - start) count with inside | outside
    · rw [ones _ inside] at zero
      cases zero
    · have one := completed.ones 0 completed.nonempty
      rw [Nat.add_zero, show run.start = start + count by omega,
        behind] at one
      cases one

/-- A pass finds the runs which begin where it is, or behind. -/
theorem mem_runsFrom_iff
    {bits rest : List Bool} {start count : Nat}
    (left : bits.drop (start + count) = rest)
    (fresh : ∀ index, index + 1 = start → bits[index]? = some false)
    (ones : ∀ offset < count, bits[start + offset]? = some true)
    (run : Run) :
    run ∈ runsFrom start count rest ↔
      run.CompletedIn bits ∧ start ≤ run.start := by
  induction rest generalizing start count with
  | nil =>
      constructor
      · intro member
        cases member
      · rintro ⟨completed, after⟩
        have short := List.drop_eq_nil_iff.mp left
        rcases List.getElem?_eq_some_iff.mp completed.behind with
          ⟨inside, -⟩
        have one := ones (run.start + run.length - start) (by omega)
        rw [show start + (run.start + run.length - start) =
          run.start + run.length by omega, completed.behind] at one
        cases one
  | cons bit rest induction =>
      have here : bits[start + count]? = some bit := by
        rw [← Nat.add_zero (start + count), ← List.getElem?_drop, left]
        rfl
      have next : bits.drop (start + count + 1) = rest := by
        rw [← List.drop_drop, left, List.drop_one, List.tail_cons]
      cases bit with
      | true =>
          rw [runsFrom]
          apply @induction start (count + 1) next fresh
          intro offset within
          rcases Nat.lt_succ_iff_lt_or_eq.mp within with earlier | last
          · exact ones offset earlier
          · rw [last]
            exact here
      | false =>
          have restart :
              run ∈ runsFrom (start + count + 1) 0 rest ↔
                run.CompletedIn bits ∧ start + count + 1 ≤ run.start := by
            apply @induction (start + count + 1) 0 next
            · intro index last
              rw [Nat.succ.inj last]
              exact here
            · intro offset within
              cases within
          rw [runsFrom]
          split
          · rename_i none
            subst none
            rw [Nat.add_zero] at restart
            rw [restart]
            constructor
            · rintro ⟨completed, after⟩
              exact ⟨completed, Nat.le_of_succ_le after⟩
            · rintro ⟨completed, after⟩
              refine ⟨completed, ?_⟩
              rcases completed.eq_or_lt ones here after with same | later
              · have nonempty := completed.nonempty
                rw [same] at nonempty
                cases nonempty
              · exact later
          · rename_i some
            rw [List.mem_cons, restart]
            constructor
            · rintro (same | ⟨completed, after⟩)
              · subst same
                exact ⟨⟨Nat.pos_of_ne_zero some, fresh, ones, here⟩,
                  Nat.le_refl start⟩
              · exact ⟨completed, by omega⟩
            · rintro ⟨completed, after⟩
              rcases completed.eq_or_lt ones here after with same | later
              · exact Or.inl same
              · exact Or.inr ⟨completed, later⟩

/-- A list of bits has the completed runs which the pass finds. -/
theorem mem_completedRuns_iff (bits : List Bool) (run : Run) :
    run ∈ completedRuns bits ↔ run.CompletedIn bits := by
  have found := @mem_runsFrom_iff bits bits 0 0 rfl
    (fun _ last => by cases last) (fun _ within => by cases within) run
  rw [completedRuns, found]
  exact and_iff_left (Nat.zero_le _)

theorem start_le_of_mem_runsFrom
    {rest : List Bool} {start count : Nat} {run : Run}
    (member : run ∈ runsFrom start count rest) :
    start ≤ run.start := by
  induction rest generalizing start count with
  | nil =>
      cases member
  | cons bit rest induction =>
      cases bit with
      | true =>
          exact induction member
      | false =>
          rw [runsFrom] at member
          split at member
          · exact Nat.le_of_succ_le (induction member)
          · rcases List.mem_cons.mp member with same | later
            · rw [same]
            · exact Nat.le_trans (by omega) (induction later)

/-- The runs are found in the order in which they begin. -/
theorem pairwise_runsFrom (rest : List Bool) (start count : Nat) :
    (runsFrom start count rest).Pairwise fun earlier later =>
      earlier.start < later.start := by
  induction rest generalizing start count with
  | nil =>
      exact List.Pairwise.nil
  | cons bit rest induction =>
      cases bit with
      | true =>
          exact induction start (count + 1)
      | false =>
          rw [runsFrom]
          split
          · exact induction (start + 1) 0
          · apply List.Pairwise.cons _ (induction (start + count + 1) 0)
            intro run later
            have after := start_le_of_mem_runsFrom later
            change start < run.start
            omega

end EspFirmware.Library
