import Mathlib.Data.List.Basic

/-!
A device of numbered blocks, and a flat memory that holds the blocks one behind the other.
`readBlocks` and `writeBlocks` are what the device is for, `load` and `store` what a program does
with the memory; `image` connects the two.
-/

namespace BlockDevice

variable {α : Type}

def readBlocks (blocks : Nat → List α) : Nat → Nat → List α
  | _, 0 => []
  | start, count + 1 => blocks start ++ readBlocks blocks (start + 1) count

def writeBlocks (size : Nat) (blocks : Nat → List α) (start count : Nat) (data : List α) :
    Nat → List α := fun number =>
  if start ≤ number ∧ number < start + count then (data.drop ((number - start) * size)).take size
  else blocks number

def load (memory : Nat → α) : Nat → Nat → List α
  | _, 0 => []
  | first, length + 1 => memory first :: load memory (first + 1) length

def store (memory : Nat → α) (first : Nat) (data : List α) : Nat → α := fun place =>
  if first ≤ place then (data[place - first]?).getD (memory place) else memory place

/-- The blocks that a memory holds. -/
def image (size : Nat) (memory : Nat → α) : Nat → List α := fun number =>
  load memory (number * size) size

@[simp] theorem load_length (memory : Nat → α) (first length : Nat) :
    (load memory first length).length = length := by
  induction length generalizing first with
  | zero => rfl
  | succ length ih => simp [load, ih]

theorem load_add (memory : Nat → α) (first before after : Nat) :
    load memory first (before + after) =
      load memory first before ++ load memory (first + before) after := by
  induction before generalizing first with
  | zero => simp [load]
  | succ before ih =>
      have later : first + (before + 1) = first + 1 + before := by omega
      rw [Nat.add_right_comm, load, ih, load, List.cons_append, later]

theorem load_congr (memory other : Nat → α) (first length : Nat)
    (same : ∀ place, first ≤ place → place < first + length → memory place = other place) :
    load memory first length = load other first length := by
  induction length generalizing first with
  | zero => rfl
  | succ length ih =>
      rw [load, load, same first (by omega) (by omega)]
      rw [ih (first + 1) fun place lower upper => same place (by omega) (by omega)]

theorem load_replicate (memory : Nat → α) (first length : Nat) (value : α)
    (filled : ∀ place, first ≤ place → place < first + length → memory place = value) :
    load memory first length = List.replicate length value := by
  induction length generalizing first with
  | zero => rfl
  | succ length ih =>
      rw [load, filled first (by omega) (by omega), List.replicate_succ]
      rw [ih (first + 1) fun place lower upper => filled place (by omega) (by omega)]

theorem load_image (size : Nat) (memory : Nat → α) (start count : Nat) :
    load memory (start * size) (count * size) = readBlocks (image size memory) start count := by
  induction count generalizing start with
  | zero => simp [load, readBlocks]
  | succ count ih =>
      have split : (count + 1) * size = size + count * size := by rw [Nat.succ_mul, Nat.add_comm]
      rw [split, load_add, readBlocks, ← ih (start + 1), Nat.succ_mul]
      rfl

theorem store_outside (memory : Nat → α) (first : Nat) (data : List α) (place : Nat)
    (outside : place < first ∨ first + data.length ≤ place) :
    store memory first data place = memory place := by
  unfold store
  split
  · rw [List.getElem?_eq_none (by omega)]
    rfl
  · rfl

theorem load_store_outside (memory : Nat → α) (first : Nat) (data : List α) (place length : Nat)
    (outside : place + length ≤ first ∨ first + data.length ≤ place) :
    load (store memory first data) place length = load memory place length := by
  apply load_congr
  intro other lower upper
  apply store_outside
  omega

theorem load_store_inside (memory : Nat → α) (first : Nat) (data : List α) (skipped length : Nat)
    (inside : skipped + length ≤ data.length) :
    load (store memory first data) (first + skipped) length =
      (data.drop skipped).take length := by
  induction length generalizing skipped with
  | zero => simp [load]
  | succ length ih =>
      have bound : skipped < data.length := by omega
      have head : store memory first data (first + skipped) = data[skipped] := by
        simp [store, bound]
      have next := ih (skipped + 1) (by omega)
      rw [load, head, List.drop_eq_getElem_cons bound, List.take_succ_cons, Nat.add_assoc, next]

theorem image_store (size : Nat) (memory : Nat → α) (start count : Nat) (data : List α)
    (sized : data.length = count * size) :
    image size (store memory (start * size) data) =
      writeBlocks size (image size memory) start count data := by
  funext number
  unfold writeBlocks image
  split
  · rename_i inside
    obtain ⟨skipped, rfl⟩ := Nat.exists_eq_add_of_le inside.1
    have fits : (skipped + 1) * size ≤ count * size := Nat.mul_le_mul_right size (by omega)
    rw [Nat.succ_mul] at fits
    rw [Nat.add_mul, Nat.add_sub_cancel_left]
    exact load_store_inside memory (start * size) data (skipped * size) size (by omega)
  · rename_i outside
    apply load_store_outside
    rcases Nat.lt_or_ge number start with before | behind
    · left
      have fits : (number + 1) * size ≤ start * size := Nat.mul_le_mul_right size before
      rwa [Nat.succ_mul] at fits
    · right
      have beyond : start + count ≤ number := by omega
      have fits : (start + count) * size ≤ number * size := Nat.mul_le_mul_right size beyond
      rw [Nat.add_mul] at fits
      omega

end BlockDevice
