import Mathlib.Data.List.Induction
import EspFirmware.Library.EventLog

/-!
# Critical sections of a trace

A trace takes a lock and gives it back.  Some of its actions must be inside of
a critical section and some outside of every one.  Where the lock is held is
said by the log in front of an action, and computed from left to right.
-/

namespace EspFirmware.Library

universe u

/-- What an action means for a lock. -/
inductive LockRole where
  | acquire
  | release
  | inside
  | outside
  | free
deriving DecidableEq

variable
    {Action : Type u}
    (role : Action → LockRole)
    {trace : List Action}

/-- The lock was taken, and not given back since. -/
def Held (trace : List Action) : Prop :=
  Open (fun action => role action = .acquire)
    (fun action => role action = .release) trace

/-- What must be inside of a critical section is. -/
def Guarded (trace : List Action) : Prop :=
  Justified (fun front action => role action = .inside → Held role front)
    trace

/-- What must be outside of every critical section is. -/
def Excluded (trace : List Action) : Prop :=
  Justified (fun front action => role action = .outside → ¬ Held role front)
    trace

/-- Whether the lock is held in the end, if every action is where it must be. -/
def holdLock : Bool → List Action → Option Bool
  | held, [] => some held
  | held, action :: rest =>
      match role action with
      | .acquire => holdLock true rest
      | .release => holdLock false rest
      | .inside => if held then holdLock true rest else none
      | .outside => if held then none else holdLock false rest
      | .free => holdLock held rest

variable {role}

theorem holdLock_append (held : Bool) (front back : List Action) :
    holdLock role held (front ++ back) =
      (holdLock role held front).bind fun middle =>
        holdLock role middle back := by
  induction front generalizing held with
  | nil =>
      rfl
  | cons action front induction =>
      rw [List.cons_append, holdLock, holdLock]
      cases role action with
      | acquire | release | free =>
          exact induction _
      | inside =>
          cases held with
          | false =>
              rfl
          | true =>
              exact induction true
      | outside =>
          cases held with
          | false =>
              exact induction false
          | true =>
              rfl

theorem not_held_nil :
    ¬ Held role [] := by
  rintro ⟨front, opening, back, layout, -⟩
  simp at layout

theorem held_concat {action : Action} :
    Held role (trace ++ [action]) ↔
      role action = .acquire ∨
        Held role trace ∧ role action ≠ .release :=
  open_concat

theorem guarded_concat {action : Action} :
    Guarded role (trace ++ [action]) ↔
      Guarded role trace ∧ (role action = .inside → Held role trace) :=
  justified_concat

theorem excluded_concat {action : Action} :
    Excluded role (trace ++ [action]) ↔
      Excluded role trace ∧ (role action = .outside → ¬ Held role trace) :=
  justified_concat

/-- What is computed from left to right, as the log says it. -/
inductive HoldCase (role : Action → LockRole) (trace : List Action) :
    Option Bool → Prop where
  | misplaced
      (wrong : ¬ (Guarded role trace ∧ Excluded role trace)) :
      HoldCase role trace none
  | placed {held : Bool}
      (guarded : Guarded role trace)
      (excluded : Excluded role trace)
      (holds : Held role trace ↔ held = true) :
      HoldCase role trace (some held)

theorem holdLock_cases (role : Action → LockRole) (trace : List Action) :
    HoldCase role trace (holdLock role false trace) := by
  induction trace using List.reverseRecOn with
  | nil =>
      exact
        .placed justified_nil justified_nil
          (iff_of_false not_held_nil Bool.false_ne_true)
  | append_singleton trace action induction =>
      rw [holdLock_append]
      generalize holdLock role false trace = computed at induction ⊢
      cases induction with
      | misplaced wrong =>
          refine .misplaced fun both => wrong ⟨?_, ?_⟩
          · exact (guarded_concat.mp both.1).1
          · exact (excluded_concat.mp both.2).1
      | @placed held guarded excluded holds =>
          simp only [Option.bind_some, holdLock]
          cases means : role action with
          | acquire =>
              refine .placed ?_ ?_ ?_
              · simp [guarded_concat, guarded, means]
              · simp [excluded_concat, excluded, means]
              · simp [held_concat, means]
          | release =>
              refine .placed ?_ ?_ ?_
              · simp [guarded_concat, guarded, means]
              · simp [excluded_concat, excluded, means]
              · simp [held_concat, means]
          | free =>
              refine .placed ?_ ?_ ?_
              · simp [guarded_concat, guarded, means]
              · simp [excluded_concat, excluded, means]
              · simp [held_concat, means, holds]
          | inside =>
              cases held with
              | false =>
                  refine .misplaced ?_
                  simp [guarded_concat, means, holds]
              | true =>
                  refine .placed ?_ ?_ ?_
                  · simp [guarded_concat, guarded, holds]
                  · simp [excluded_concat, excluded, means]
                  · simp [held_concat, means, holds]
          | outside =>
              cases held with
              | false =>
                  refine .placed ?_ ?_ ?_
                  · simp [guarded_concat, guarded, means]
                  · simp [excluded_concat, excluded, holds]
                  · simp [held_concat, means, holds]
              | true =>
                  refine .misplaced ?_
                  simp [excluded_concat, means, holds]

/-- A trace that passes from left to right is in order, and gives the lock back. -/
theorem holdLock_eq_some_false_iff :
    holdLock role false trace = some false ↔
      Guarded role trace ∧ Excluded role trace ∧ ¬ Held role trace := by
  have outcome := holdLock_cases role trace
  generalize holdLock role false trace = computed at outcome ⊢
  cases outcome with
  | misplaced wrong =>
      exact iff_of_false (by simp) fun all => wrong ⟨all.1, all.2.1⟩
  | placed guarded excluded holds =>
      rw [holds, Option.some_inj, Bool.not_eq_true]
      exact ⟨fun same => ⟨guarded, excluded, same⟩, fun all => all.2.2⟩

/-! ## Traces without critical sections -/

theorem not_held_of_forall
    (never : ∀ action ∈ trace, role action ≠ .acquire) :
    ¬ Held role trace := by
  rintro ⟨front, opening, back, rfl, opens, -⟩
  exact never opening (by simp) opens

theorem excluded_of_forall
    (never : ∀ action ∈ trace, role action ≠ .outside) :
    Excluded role trace := by
  rintro front action back rfl means
  exact absurd means (never action (by simp))

/-- Without a critical section nothing is inside of one. -/
theorem guarded_iff_of_forall
    (never : ∀ action ∈ trace, role action ≠ .acquire) :
    Guarded role trace ↔ ∀ action ∈ trace, role action ≠ .inside := by
  constructor
  · intro guarded action member means
    rcases List.append_of_mem member with ⟨front, back, rfl⟩
    apply not_held_of_forall _ (guarded front action back rfl means)
    intro earlier before
    exact never earlier (List.mem_append_left _ before)
  · rintro outside front action back rfl means
    exact absurd means (outside action (by simp))

end EspFirmware.Library
