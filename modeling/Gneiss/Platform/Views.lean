import Gneiss.Library.Checked

/-!
`Gneiss_Internal.Util`: the bounds of the buffer that `Update` of a ROM session and `Modify` of a
memory session lay over a mapped file. The index type is a generic parameter; its arithmetic is
checked against the range of its base type, a conversion against the range of its target.
-/

namespace Gneiss

open Checked

def longInteger : Range := ⟨-9223372036854775808, 9223372036854775807⟩

/-- A signed integer type. Its base type is symmetric around zero, but for one more negative
value. -/
structure IndexType where
  range : Range
  base : Range
  symmetric : -base.last - 1 ≤ base.first ∧ base.first ≤ -base.last
  ordered : range.first < range.last
  lower : base.first ≤ range.first
  upper : range.last ≤ base.last

/-- The number of values. -/
def IndexType.span (index : IndexType) : Int := index.range.last - index.range.first + 1

def getFirst (index : IndexType) (length : Int) : Option Int :=
  if length < 1 then do
    let next ← index.base.check (index.range.first + 1)
    index.range.check next
  else some index.range.first

def getLast (index : IndexType) (length : Int) : Option Int :=
  if length < 1 then some index.range.first
  else do
    let difference ← index.base.check (index.range.last - index.range.first)
    let values ← index.base.check (difference + 1)
    let values ← longInteger.check values
    if length < values then do
      let first ← longInteger.check index.range.first
      let sum ← longInteger.check (first + length)
      let last ← longInteger.check (sum - 1)
      index.range.check last
    else some index.range.last

def elementCount (first last : Int) : Int := max (last - first + 1) 0

/-- The buffer over a file of this length: it starts with the first index, it does not reach past
the file, and it covers the file if there are enough indices. -/
def MatchesFile (index : IndexType) (length : Int) : Prop :=
  ∃ first last, getFirst index length = some first ∧ getLast index length = some last ∧
    (1 ≤ length → first = index.range.first) ∧
    elementCount first last = min (max length 0) index.span ∧
    elementCount first last ≤ max length 0 ∧
    (length ≤ index.span → elementCount first last = max length 0)

/-- The number of values is a value of the base type, and what is converted to `Long_Integer` is one
of its values. -/
def Computable (index : IndexType) (length : Int) : Prop :=
  length < 1 ∨
    index.span ≤ index.base.last ∧ index.span ≤ longInteger.last ∧
      (length < index.span → longInteger.first ≤ index.range.first ∧
        index.range.first + length ≤ longInteger.last)

theorem getFirst_eq (index : IndexType) (length : Int) :
    getFirst index length =
      some (if length < 1 then index.range.first + 1 else index.range.first) := by
  have ordered := index.ordered
  have lower := index.lower
  have upper := index.upper
  unfold getFirst
  split
  · rw [index.base.check_of_mem _ (by omega) (by omega)]
    exact index.range.check_of_mem _ (by omega) (by omega)
  · rfl

theorem getLast_empty (index : IndexType) (length : Int) (empty : length < 1) :
    getLast index length = some index.range.first := if_pos empty

theorem getLast_computed (index : IndexType) (length : Int) (positive : 1 ≤ length)
    (computable : Computable index length) :
    getLast index length = some (if length < index.span then index.range.first + length - 1
      else index.range.last) := by
  have ordered := index.ordered
  have lower := index.lower
  have upper := index.upper
  have symmetric := index.symmetric
  have long : longInteger.first < 0 ∧ 0 < longInteger.last := by decide
  rcases computable with empty | ⟨inBase, inLong, short⟩
  · omega
  · unfold getLast
    rw [if_neg (by omega)]
    unfold IndexType.span at inBase inLong short ⊢
    rw [index.base.check_of_mem (index.range.last - index.range.first) (by omega) (by omega)]
    simp only [Option.bind_eq_bind, Option.bind_some]
    rw [index.base.check_of_mem _ (by omega) inBase]
    simp only [Option.bind_some]
    rw [longInteger.check_of_mem _ (by omega) inLong]
    simp only [Option.bind_some]
    split
    · rename_i inside
      obtain ⟨firstLower, sumUpper⟩ := short inside
      rw [longInteger.check_of_mem _ firstLower (by omega)]
      simp only [Option.bind_some]
      rw [longInteger.check_of_mem _ (by omega) sumUpper]
      simp only [Option.bind_some]
      rw [longInteger.check_of_mem _ (by omega) (by omega)]
      exact index.range.check_of_mem _ (by omega) (by omega)
    · rfl

theorem computable_of_getLast (index : IndexType) (length last : Int) (positive : 1 ≤ length)
    (found : getLast index length = some last) : Computable index length := by
  unfold getLast at found
  rw [if_neg (by omega)] at found
  simp only [Option.bind_eq_bind, Option.bind_eq_some_iff, Range.check_eq_some_iff] at found
  obtain ⟨difference, ⟨_, rfl⟩, values, ⟨inBase, rfl⟩, long, ⟨inLong, rfl⟩, rest⟩ := found
  refine Or.inr ⟨inBase.2, inLong.2, ?_⟩
  intro inside
  unfold IndexType.span at inside
  rw [if_pos inside] at rest
  simp only [Option.bind_eq_some_iff, Range.check_eq_some_iff] at rest
  obtain ⟨first, ⟨firstInside, rfl⟩, sum, ⟨sumInside, rfl⟩, _⟩ := rest
  exact ⟨firstInside.1, sumInside.2⟩

/-- The view matches the file if and only if its bounds can be computed. -/
theorem view_matches_iff (index : IndexType) (length : Int) :
    MatchesFile index length ↔ Computable index length := by
  have ordered := index.ordered
  constructor
  · rintro ⟨first, last, _, found, _⟩
    by_cases empty : length < 1
    · exact Or.inl empty
    · exact computable_of_getLast index length last (by omega) found
  · intro computable
    by_cases empty : length < 1
    · refine ⟨_, _, getFirst_eq index length, getLast_empty index length empty, ?_, ?_⟩
      · intro positive
        omega
      · rw [if_pos empty]
        unfold elementCount IndexType.span
        omega
    · refine ⟨_, _, getFirst_eq index length,
        getLast_computed index length (by omega) computable, fun _ => if_neg empty, ?_⟩
      rw [if_neg empty]
      unfold elementCount IndexType.span
      split <;> omega

/-! `Natural` has more values than its base type has positive ones. -/

theorem natural_symmetric : -(2147483647 : Int) - 1 ≤ -2147483648 ∧
    (-2147483648 : Int) ≤ -2147483647 := by decide

theorem natural_ordered : (0 : Int) < 2147483647 := by decide

theorem natural_lower : (-2147483648 : Int) ≤ 0 := by decide

def natural : IndexType where
  range := ⟨0, 2147483647⟩
  base := ⟨-2147483648, 2147483647⟩
  symmetric := natural_symmetric
  ordered := natural_ordered
  lower := natural_lower
  upper := Int.le_refl _

theorem natural_overflows : getLast natural 1 = none ∧ ¬MatchesFile natural 1 := by
  have failed : getLast natural 1 = none := by decide +kernel
  refine ⟨failed, ?_⟩
  rintro ⟨first, last, _, found, _⟩
  rw [failed] at found
  cases found

end Gneiss
