import Mathlib.Order.Basic

/-!
Integer arithmetic whose results are checked against a range: a result outside the range is an
error.
-/

namespace Checked

structure Range where
  first : Int
  last : Int
  deriving DecidableEq, Repr

def Range.check (range : Range) (value : Int) : Option Int :=
  if range.first ≤ value ∧ value ≤ range.last then some value else none

@[simp] theorem Range.check_eq_some_iff (range : Range) (value result : Int) :
    range.check value = some result ↔
      (range.first ≤ value ∧ value ≤ range.last) ∧ value = result := by
  unfold Range.check
  split
  · rename_i inside
    rw [Option.some.injEq]
    exact ⟨fun same => ⟨inside, same⟩, fun both => both.2⟩
  · rename_i outside
    constructor
    · intro impossible
      cases impossible
    · exact fun both => (outside both.1).elim

theorem Range.check_of_mem (range : Range) (value : Int) (lower : range.first ≤ value)
    (upper : value ≤ range.last) : range.check value = some value :=
  if_pos ⟨lower, upper⟩

end Checked
