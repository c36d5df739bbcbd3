import Mathlib.Data.List.Perm.Basic
import Mathlib.Logic.Function.Basic

/-!
A table with a fixed number of slots, each of which holds at most one item. Items are compared up
to their order, since a slot that becomes free takes the next one.
-/

namespace Slots

variable {Slot Element Item : Type}

def held (slots : List Slot) (item : Element → Option Item) (table : Slot → Element) : List Item :=
  slots.filterMap fun slot => item (table slot)

theorem held_congr (slots : List Slot) (item : Element → Option Item) (table other : Slot → Element)
    (same : ∀ slot ∈ slots, item (table slot) = item (other slot)) :
    held slots item table = held slots item other :=
  List.filterMap_congr same

variable [DecidableEq Slot]

theorem held_split (slots : List Slot) (item : Element → Option Item) (table : Slot → Element)
    (slot : Slot) (member : slot ∈ slots) :
    (held slots item table).Perm
      ((item (table slot)).toList ++ held (slots.erase slot) item table) := by
  have split := (List.perm_cons_erase member).filterMap fun slot => item (table slot)
  refine split.trans (List.Perm.of_eq ?_)
  rw [List.filterMap_cons]
  cases item (table slot) <;> rfl

/-- Replacing what one slot holds exchanges its items. -/
theorem held_update (slots : List Slot) (nodup : slots.Nodup) (item : Element → Option Item)
    (table : Slot → Element) (slot : Slot) (member : slot ∈ slots) (element : Element) :
    ((item (table slot)).toList ++ held slots item (Function.update table slot element)).Perm
      ((item element).toList ++ held slots item table) := by
  have rest : held (slots.erase slot) item (Function.update table slot element) =
      held (slots.erase slot) item table := by
    apply held_congr
    intro other kept
    have distinct : other ≠ slot := fun same => by
      rw [same] at kept
      exact nodup.not_mem_erase kept
    rw [Function.update_of_ne distinct]
  have after := held_split slots item (Function.update table slot element) slot member
  rw [Function.update_self, rest] at after
  have before := held_split slots item table slot member
  refine (after.append_left _).trans (List.Perm.trans ?_ (before.append_left _).symm)
  rw [← List.append_assoc, ← List.append_assoc]
  exact List.perm_append_comm.append_right _

end Slots
