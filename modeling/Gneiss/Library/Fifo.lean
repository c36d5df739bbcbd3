import Mathlib.Data.List.Basic

/-!
A first-in, first-out queue of bounded size. Only a queue with a free place takes an element.
-/

namespace Fifo

variable {α : Type} {size : Nat}

structure Queue (α : Type) (size : Nat) where
  items : List α
  fits : items.length ≤ size

def Queue.empty : Queue α size := ⟨[], Nat.zero_le size⟩

def Queue.count (queue : Queue α size) : Nat := queue.items.length

def Queue.put (queue : Queue α size) (item : α) (free : queue.count < size) : Queue α size where
  items := queue.items ++ [item]
  fits := by
    rw [List.length_append, List.length_singleton]
    exact free

/-- The oldest element and what is left, if there is one. -/
def Queue.pop (queue : Queue α size) : Option (α × Queue α size) :=
  match queue with
  | ⟨[], _⟩ => none
  | ⟨item :: rest, fits⟩ => some (item, ⟨rest, Nat.le_of_succ_le fits⟩)

theorem Queue.pop_items {queue rest : Queue α size} {item : α}
    (popped : queue.pop = some (item, rest)) : queue.items = item :: rest.items := by
  obtain ⟨items, fits⟩ := queue
  cases items with
  | nil => cases popped
  | cons first others =>
      simp only [Queue.pop, Option.some.injEq, Prod.mk.injEq] at popped
      obtain ⟨rfl, rfl⟩ := popped
      rfl

end Fifo
