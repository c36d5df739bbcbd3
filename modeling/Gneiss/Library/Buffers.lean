import Mathlib.Data.List.Basic
import Mathlib.Data.List.GetD

/-!
Fixed-size buffers that are written from the front. `overlay` is what a receive call leaves
behind in a buffer of a given capacity, `Cursor` is a buffer that is filled field by field, and
`take_set_copied` is one step of a loop that copies element by element.
-/

namespace Buffers

variable {α : Type}

/-- The buffer after `data` was received into it; what does not fit is cut off. -/
def overlay (capacity : Nat) (data stale : List α) : List α :=
  data.take capacity ++ (stale.drop data.length).take (capacity - data.length)

theorem overlay_length (capacity : Nat) (data stale : List α) (sized : stale.length = capacity) :
    (overlay capacity data stale).length = capacity := by
  simp only [overlay, List.length_append, List.length_take, List.length_drop]
  omega

theorem overlay_fits (capacity : Nat) (data stale : List α) (fits : data.length ≤ capacity) :
    overlay capacity data stale =
      data ++ (stale.drop data.length).take (capacity - data.length) := by
  rw [overlay, List.take_of_length_le fits]

theorem overlay_getElem? (capacity : Nat) (data stale : List α) (index : Nat)
    (received : index < data.length) (inside : index < capacity) :
    (overlay capacity data stale)[index]? = data[index]? := by
  have bound : index < (data.take capacity).length := by
    rw [List.length_take]
    omega
  rw [overlay, List.getElem?_append_left bound, List.getElem?_take_of_lt inside]

theorem overlay_getElem?_stale (capacity : Nat) (data stale : List α) (index : Nat)
    (beyond : data.length ≤ index) (inside : index < capacity) :
    (overlay capacity data stale)[index]? = stale[index]? := by
  have fits : data.length ≤ capacity := by omega
  rw [overlay_fits capacity data stale fits, List.getElem?_append_right beyond,
    List.getElem?_take_of_lt (by omega), List.getElem?_drop]
  congr 1
  omega

/-- A buffer together with the number of its leading elements that are already written. -/
structure Cursor (α : Type) where
  buffer : List α
  position : Nat

def Cursor.put (cursor : Cursor α) (data : List α) : Cursor α where
  buffer := cursor.buffer.take cursor.position ++ data ++
    cursor.buffer.drop (cursor.position + data.length)
  position := cursor.position + data.length

/-- Everything in front of the position is `written`, and the buffer still has `capacity`
elements. -/
structure Cursor.Holds (cursor : Cursor α) (capacity : Nat) (written : List α) : Prop where
  sized : cursor.buffer.length = capacity
  position : cursor.position = written.length
  content : cursor.buffer.take cursor.position = written

theorem Cursor.holds_start (buffer : List α) (capacity : Nat) (sized : buffer.length = capacity) :
    Cursor.Holds ⟨buffer, 0⟩ capacity [] := by
  refine ⟨sized, ?_, ?_⟩ <;> simp

theorem Cursor.Holds.put {cursor : Cursor α} {capacity : Nat} {written : List α}
    (holds : cursor.Holds capacity written) (data : List α)
    (room : written.length + data.length ≤ capacity) :
    (cursor.put data).Holds capacity (written ++ data) := by
  obtain ⟨sized, position, content⟩ := holds
  refine ⟨?_, ?_, ?_⟩
  · simp only [Cursor.put, List.length_append, List.length_take, List.length_drop]
    omega
  · simp [Cursor.put, position]
  · have front : (cursor.buffer.take cursor.position ++ data).length =
        cursor.position + data.length := by
      simp only [List.length_append, List.length_take]
      omega
    simp only [Cursor.put]
    rw [List.take_append_of_le_length (Nat.le_of_eq front.symm), content,
      List.take_of_length_le]
    simp [position]

theorem Cursor.Holds.take_buffer {cursor : Cursor α} {capacity : Nat} {written : List α}
    (holds : cursor.Holds capacity written) :
    cursor.buffer.take written.length = written := by
  rw [← holds.position]
  exact holds.content

theorem take_set_copied (source target : List α) (fallback : α) (index : Nat)
    (sourceBound : index < source.length) (targetBound : index < target.length)
    (copied : target.take index = source.take index) :
    (target.set index (source.getD index fallback)).take (index + 1) =
      source.take (index + 1) := by
  rw [List.getD_eq_getElem source fallback sourceBound, List.take_add_one, List.take_add_one,
    List.take_set_of_le (Nat.le_refl index), copied]
  simp [sourceBound, targetBound]

end Buffers
