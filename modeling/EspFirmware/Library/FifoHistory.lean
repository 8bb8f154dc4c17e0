import Mathlib.Data.List.Forall2

/-!
# Histories of a queue

What was asked of a queue and what it answered.  A history is that of a queue
when every reply is due to the item which has waited longest, and nothing is
handed out exactly when no item waits.  An item may be refused.
-/

namespace EspFirmware.Library

universe u v

/-- A call of a queue, with its outcome. -/
inductive FifoEntry (Item : Type u) (Reply : Type v) where
  | put (item : Item) (accepted : Bool)
  | get (reply : Option Reply)
deriving DecidableEq

variable {Item : Type u} {Reply : Type v}

/-- The history of a queue in which the given items wait. -/
inductive FifoHistory (fits : Item → Reply → Prop) :
    List (FifoEntry Item Reply) → List Item → Prop where
  | start : FifoHistory fits [] []
  | accepted {log : List (FifoEntry Item Reply)} {waiting : List Item}
      (history : FifoHistory fits log waiting) (item : Item) :
      FifoHistory fits (log ++ [.put item true]) (waiting ++ [item])
  | refused {log : List (FifoEntry Item Reply)} {waiting : List Item}
      (history : FifoHistory fits log waiting) (item : Item) :
      FifoHistory fits (log ++ [.put item false]) waiting
  | handed {log : List (FifoEntry Item Reply)} {waiting : List Item}
      {item : Item} {reply : Reply}
      (history : FifoHistory fits log (item :: waiting))
      (due : fits item reply) :
      FifoHistory fits (log ++ [.get (some reply)]) waiting
  | nothing {log : List (FifoEntry Item Reply)}
      (history : FifoHistory fits log []) :
      FifoHistory fits (log ++ [.get none]) []

namespace FifoEntry

/-- The item which is taken in. -/
def item : FifoEntry Item Reply → Option Item
  | .put item true => some item
  | .put _ false | .get _ => none

/-- The reply which is handed out. -/
def reply : FifoEntry Item Reply → Option Reply
  | .get reply => reply
  | .put _ _ => none

end FifoEntry

/--
Every item which was taken in was handed out, or it waits: nothing is lost,
repeated or reordered.
-/
theorem FifoHistory.exact
    {fits : Item → Reply → Prop}
    {log : List (FifoEntry Item Reply)} {waiting : List Item}
    (history : FifoHistory fits log waiting) :
    ∃ handed,
      log.filterMap FifoEntry.item = handed ++ waiting ∧
        List.Forall₂ fits handed (log.filterMap FifoEntry.reply) := by
  induction history with
  | start =>
      exact ⟨[], rfl, .nil⟩
  | accepted _ item induction =>
      rcases induction with ⟨handed, items, replies⟩
      refine ⟨handed, ?_, ?_⟩
      · rw [List.filterMap_append, items, List.append_assoc]
        rfl
      · rw [List.filterMap_append, List.filterMap_cons_none rfl,
          List.filterMap_nil, List.append_nil]
        exact replies
  | refused _ item induction =>
      rcases induction with ⟨handed, items, replies⟩
      refine ⟨handed, ?_, ?_⟩
      · rw [List.filterMap_append, List.filterMap_cons_none rfl,
          List.filterMap_nil, List.append_nil]
        exact items
      · rw [List.filterMap_append, List.filterMap_cons_none rfl,
          List.filterMap_nil, List.append_nil]
        exact replies
  | @handed _ waiting item reply _ due induction =>
      rcases induction with ⟨handed, items, replies⟩
      refine ⟨handed ++ [item], ?_, ?_⟩
      · rw [List.filterMap_append, items]
        simp [FifoEntry.item]
      · rw [List.filterMap_append]
        exact List.rel_append replies (.cons due .nil)
  | nothing _ induction =>
      rcases induction with ⟨handed, items, replies⟩
      refine ⟨handed, ?_, ?_⟩
      · rw [List.filterMap_append, List.filterMap_cons_none rfl,
          List.filterMap_nil, List.append_nil]
        exact items
      · rw [List.filterMap_append, List.filterMap_cons_none rfl,
          List.filterMap_nil, List.append_nil]
        exact replies

end EspFirmware.Library
