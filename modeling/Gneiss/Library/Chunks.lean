import Mathlib.Data.List.Basic

/-!
A stream that is cut into pieces: behind an element that ends a piece, where a piece is full, and
on demand.
-/

namespace Chunks

variable {α : Type}

inductive Item (α : Type) where
  | element (value : α)
  | cut
  deriving DecidableEq, Repr

def content : List (Item α) → List α
  | [] => []
  | .element value :: rest => value :: content rest
  | .cut :: rest => content rest

structure Rule (α : Type) where
  capacity : Nat
  ends : α → Bool

/-- The pieces one item completes, and what is pending behind them. -/
def cutItem (rule : Rule α) (pending : List α) : Item α → List (List α) × List α
  | .element value =>
      if rule.ends value = true ∨ rule.capacity ≤ pending.length + 1 then
        ([pending ++ [value]], [])
      else ([], pending ++ [value])
  | .cut => ([pending], [])

def cutItems (rule : Rule α) (pending : List α) : List (Item α) → List (List α) × List α
  | [] => ([], pending)
  | item :: rest =>
      let first := cutItem rule pending item
      let later := cutItems rule first.2 rest
      (first.1 ++ later.1, later.2)

theorem content_append (first second : List (Item α)) :
    content (first ++ second) = content first ++ content second := by
  induction first with
  | nil => rfl
  | cons item rest ih =>
      cases item with
      | element value => simp [content, ih]
      | cut => simp [content, ih]

theorem content_elements (values : List α) : content (values.map Item.element) = values := by
  induction values with
  | nil => rfl
  | cons value rest ih => simp [content, ih]

theorem cutItems_append (rule : Rule α) (pending : List α) (first second : List (Item α)) :
    cutItems rule pending (first ++ second) =
      ((cutItems rule pending first).1 ++
          (cutItems rule (cutItems rule pending first).2 second).1,
        (cutItems rule (cutItems rule pending first).2 second).2) := by
  induction first generalizing pending with
  | nil => simp [cutItems]
  | cons item rest ih => simp [cutItems, ih]

/-- Cutting neither drops nor reorders an element. -/
theorem cutItems_flatten (rule : Rule α) (pending : List α) (items : List (Item α)) :
    (cutItems rule pending items).1.flatten ++ (cutItems rule pending items).2 =
      pending ++ content items := by
  induction items generalizing pending with
  | nil => simp [cutItems, content]
  | cons item rest ih =>
      simp only [cutItems, List.flatten_append, List.append_assoc, ih]
      cases item with
      | element value =>
          simp only [cutItem, content]
          split <;> simp
      | cut => simp [cutItem, content]

theorem length_flatten_filter_le (pieces : List (List α)) (kept : List α → Bool) :
    (pieces.filter kept).flatten.length ≤ pieces.flatten.length := by
  induction pieces with
  | nil => simp
  | cons piece rest ih =>
      rw [List.filter_cons]
      split
      · simpa using ih
      · rw [List.flatten_cons, List.length_append]
        omega

/-- Leaving out pieces that are not empty is always noticed. -/
theorem flatten_filter_eq_iff (pieces : List (List α)) (kept : List α → Bool)
    (empty : kept [] = true) :
    (pieces.filter kept).flatten = pieces.flatten ↔ ∀ piece ∈ pieces, kept piece = true := by
  constructor
  · intro same
    induction pieces with
    | nil => simp
    | cons piece rest ih =>
        by_cases keeps : kept piece = true
        · simp only [List.filter_cons_of_pos keeps, List.flatten_cons,
            List.append_cancel_left_eq] at same
          intro other member
          rcases List.mem_cons.mp member with equal | later
          · rw [equal]
            exact keeps
          · exact ih same other later
        · exfalso
          have shorter := length_flatten_filter_le rest kept
          have lengths := congrArg List.length same
          rw [List.filter_cons_of_neg keeps, List.flatten_cons, List.length_append] at lengths
          have nothing : piece = [] := List.length_eq_zero_iff.mp (by omega)
          rw [nothing] at keeps
          exact keeps empty
  · intro all
    rw [List.filter_eq_self.mpr all]

/-! Ranges of indices, counted from one, that follow each other without a gap. -/

def slice (values : List α) (range : Nat × Nat) : List α :=
  (values.drop (range.1 - 1)).take (range.2 + 1 - range.1)

inductive Consecutive (size : Nat) : Nat → Nat → List (Nat × Nat) → Prop
  | last (first last : Nat) (ordered : first ≤ last) (short : last < first + size) :
      Consecutive size first last [(first, last)]
  | next (first middle last : Nat) (rest : List (Nat × Nat)) (ordered : first ≤ middle)
      (short : middle < first + size) (more : Consecutive size (middle + 1) last rest) :
      Consecutive size first last ((first, middle) :: rest)

theorem Consecutive.ordered {size first last : Nat} {ranges : List (Nat × Nat)}
    (consecutive : Consecutive size first last ranges) : first ≤ last := by
  induction consecutive with
  | last first last ordered short => exact ordered
  | next first middle last rest ordered short more ih => omega

theorem slice_append (values : List α) (first middle last : Nat) (positive : 1 ≤ first)
    (ordered : first ≤ middle + 1) (more : middle ≤ last) :
    slice values (first, middle) ++ slice values (middle + 1, last) =
      slice values (first, last) := by
  have lengths : last + 1 - first = (middle + 1 - first) + (last - middle) := by omega
  have starts : middle = first - 1 + (middle + 1 - first) := by omega
  simp only [slice]
  rw [lengths, List.take_add, List.drop_drop, ← starts]
  congr 2
  omega

theorem Consecutive.flatten {size first last : Nat} {ranges : List (Nat × Nat)}
    (consecutive : Consecutive size first last ranges) (positive : 1 ≤ first)
    (values : List α) : (ranges.map (slice values)).flatten = slice values (first, last) := by
  induction consecutive with
  | last first last ordered short => simp
  | next first middle last rest ordered short more ih =>
      have behind := more.ordered
      rw [List.map_cons, List.flatten_cons, ih (by omega)]
      exact slice_append values first middle last positive (by omega) (by omega)

theorem Consecutive.length_slice {size first last : Nat} {ranges : List (Nat × Nat)}
    (consecutive : Consecutive size first last ranges) (positive : 1 ≤ first) (values : List α)
    (inside : last ≤ values.length) :
    ∀ range ∈ ranges, 1 ≤ (slice values range).length ∧ (slice values range).length ≤ size := by
  induction consecutive with
  | last first last ordered short =>
      intro range member
      rw [List.mem_singleton.mp member]
      simp only [slice, List.length_take, List.length_drop]
      omega
  | next first middle last rest ordered short more ih =>
      have behind := more.ordered
      intro range member
      rcases List.mem_cons.mp member with same | later
      · rw [same]
        simp only [slice, List.length_take, List.length_drop]
        omega
      · exact ih (by omega) inside range later

end Chunks
