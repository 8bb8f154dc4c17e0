/-!
# Answers to requests

Requests are numbered in the order in which they came, and every answer names
the request which caused it.  Both lists only grow, so it is enough to look at
the answers which are new.
-/

namespace EspFirmware.Library

universe u v

variable
    {Request : Type u}
    {Answer : Type v}

/-- Every answer fits the request which caused it, and no request has two answers. -/
structure Answered
    (fits : Request → Answer → Prop)
    (cause : Answer → Option Nat)
    (requests : List Request)
    (answers : List Answer) : Prop where
  caused :
    ∀ answer ∈ answers,
      ∃ number request,
        cause answer = some number ∧
          requests[number]? = some request ∧
            fits request answer
  once : (answers.map cause).Nodup

namespace Answered

variable
    {fits : Request → Answer → Prop}
    {cause : Answer → Option Nat}
    {requests : List Request}
    {answers : List Answer}

theorem start : Answered fits cause [] [] where
  caused := nofun
  once := List.nodup_nil

/-- A request which has an answer has come before. -/
theorem cause_lt
    (answered : Answered fits cause requests answers)
    {answer : Answer} {number : Nat}
    (member : answer ∈ answers)
    (causedBy : cause answer = some number) :
    number < requests.length := by
  rcases answered.caused answer member with ⟨found, request, same, here, _⟩
  rw [causedBy, Option.some.injEq] at same
  rw [same]
  exact (List.getElem?_eq_some_iff.mp here).1

/-- Later requests change nothing. -/
theorem request
    (answered : Answered fits cause requests answers)
    (added : List Request) :
    Answered fits cause (requests ++ added) answers where
  caused := by
    intro answer member
    rcases answered.caused answer member with
      ⟨number, request, causedBy, here, right⟩
    have within := (List.getElem?_eq_some_iff.mp here).1
    exact
      ⟨number, request, causedBy,
        (List.getElem?_append_left within).trans here, right⟩
  once := answered.once

/-- New answers, to requests which had none. -/
theorem answer
    (answered : Answered fits cause requests answers)
    {added : List Answer}
    (right : Answered fits cause requests added)
    (new : ∀ old ∈ answers, ∀ answer ∈ added, cause old ≠ cause answer) :
    Answered fits cause requests (answers ++ added) where
  caused := by
    intro answer member
    rcases List.mem_append.mp member with old | here
    · exact answered.caused answer old
    · exact right.caused answer here
  once := by
    rw [List.map_append, List.nodup_append]
    refine ⟨answered.once, right.once, ?_⟩
    intro left leftMember other otherMember
    rcases List.mem_map.mp leftMember with ⟨old, oldMember, rfl⟩
    rcases List.mem_map.mp otherMember with ⟨answer, here, rfl⟩
    exact new old oldMember answer here

end Answered

end EspFirmware.Library
