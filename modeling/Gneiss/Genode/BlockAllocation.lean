import Gneiss.Platform.Views
import Gneiss.Genode.BlockClient

/-!
The memory behind a block request. `allocate_request` multiplies block size and length with 64 bits
and without a check, `Crw` multiplies them again in Ada, where the product is checked against
`Count` and against the index type of the buffer.
-/

namespace Gneiss.Genode.Block

open Checked

variable {Session : Type}

/-- The packets of the stream, by offset and size, behind `Allocate_Request`. -/
def allocatedPackets (session : ClientSession Session) (kind : RequestKind) (length : Nat)
    (memory : Option Int) (packets : List (Int × Nat)) : List (Int × Nat) :=
  if opcode kind = 0 ∨ opcode kind = 1 then
    match memory with
    | some offset => packets ++ [(offset, session.blockSize * length % 2 ^ 64)]
    | none => packets
  else packets

/-- `Gneiss.Block.Size`. -/
def sizeType : Range := ⟨0, 4294967295⟩

/-- The length of `Data` in `Crw`, `Buffer (1 .. Block_Size (C) * L)`. -/
def crwLength (index : IndexType) (blockSize length : Nat) : Option Int := do
  let size ← sizeType.check blockSize
  let product ← longInteger.check (length * size)
  let last ← index.range.check product
  if last < 1 then some 0
  else do
    let _ ← index.range.check 1
    some last

/-- What is behind a request, from the packets of the stream before and behind the call. -/
structure Backed (index : IndexType) (blockSize length : Nat) (memory : Option Int)
    (before behind : List (Int × Nat)) (after : ClientRequest Session)
    (result : AllocationResult) : Prop where
  full : result = .success →
    after.packet.bytes = length * blockSize ∧
      behind = before ++ [(after.packet.offset, length * blockSize)] ∧
      crwLength index blockSize after.packet.blockCount =
        some ((length * blockSize : Nat) : Int)
  failed : memory = none → result ≠ .success
  released : result ≠ .success → after.status = .raw ∧ behind = before

/-- The product is a value of all types it is computed in. -/
def Representable (index : IndexType) (blockSize length : Nat) : Prop :=
  let product : Int := (length * blockSize : Nat)
  (blockSize : Int) ≤ sizeType.last ∧ product ≤ longInteger.last ∧
    index.range.first ≤ product ∧ product ≤ index.range.last ∧
    (1 ≤ product → index.range.first ≤ 1)

theorem crwLength_iff (index : IndexType) (blockSize length : Nat) :
    crwLength index blockSize length = some ((length * blockSize : Nat) : Int) ↔
      Representable index blockSize length := by
  have product : (length : Int) * blockSize = (length * blockSize : Nat) := by
    rw [Int.natCast_mul]
  have nonnegative := Int.natCast_nonneg (length * blockSize)
  have sizeFirst : sizeType.first = 0 := rfl
  have longFirst : longInteger.first ≤ 0 := by decide
  unfold Representable
  constructor
  · intro found
    unfold crwLength at found
    simp only [Option.bind_eq_bind, Option.bind_eq_some_iff, Range.check_eq_some_iff] at found
    obtain ⟨size, ⟨sizeInside, rfl⟩, result, ⟨longInside, rfl⟩, last, ⟨inside, rfl⟩, rest⟩ := found
    rw [product] at longInside inside rest
    refine ⟨sizeInside.2, longInside.2, inside.1, inside.2, ?_⟩
    intro positive
    rw [if_neg (by omega)] at rest
    simp only [Option.bind_eq_some_iff, Range.check_eq_some_iff] at rest
    obtain ⟨_, ⟨one, _⟩, _⟩ := rest
    exact one.1
  · rintro ⟨small, long, lower, upper, start⟩
    unfold crwLength
    rw [sizeType.check_of_mem _ (by omega) small]
    simp only [Option.bind_eq_bind, Option.bind_some]
    rw [product, longInteger.check_of_mem _ (by omega) long]
    simp only [Option.bind_some]
    rw [index.range.check_of_mem _ lower upper]
    simp only [Option.bind_some]
    split
    · rename_i empty
      rw [Option.some.injEq]
      omega
    · rename_i positive
      rw [index.range.check_of_mem 1 (start (by omega)) (by omega)]
      rfl

theorem bytes_exact (blockSize length : Nat)
    (long : ((length * blockSize : Nat) : Int) ≤ longInteger.last) :
    blockSize * length % 2 ^ 64 = length * blockSize := by
  have bound : longInteger.last = 9223372036854775807 := rfl
  rw [Nat.mul_comm blockSize length]
  apply Nat.mod_eq_of_lt
  omega

/-- `Allocate_Request` of a data request: without memory the request is refused, with memory for a
length that is not zero it succeeds, and with memory for no block it leaves the packet behind. -/
theorem allocate_cases (session : ClientSession Session) (request : ClientRequest Session)
    (kind : RequestKind) (data : kind = .read ∨ kind = .write) (start length id : Nat)
    (memory : Option Int) (before : List (Int × Nat)) :
    let called := allocateRequest session request kind start length id memory
    let behind := allocatedPackets session kind length memory before
    (memory = none ∧ called.1.status = request.status ∧ called.2 = .outOfMemory ∧
      behind = before) ∨
    ∃ offset, memory = some offset ∧
      behind = before ++ [(offset, session.blockSize * length % 2 ^ 64)] ∧
      called.1.packet.offset = offset ∧
      called.1.packet.bytes = session.blockSize * length % 2 ^ 64 ∧
      called.1.packet.blockCount = length ∧
      called.2 = if 0 < length then .success else .unsupported := by
  intro called behind
  have dataOpcode : opcode kind = 0 ∨ opcode kind = 1 := by
    rcases data with rfl | rfl
    · exact Or.inl rfl
    · exact Or.inr rfl
  cases memory with
  | none =>
      left
      simp only [called, behind, allocateRequest, allocatedPackets, if_pos dataOpcode, and_self]
  | some offset =>
      right
      refine ⟨offset, rfl, ?_⟩
      simp only [called, behind, allocateRequest, allocatedPackets, if_pos dataOpcode, true_and]
      split
      · exact ⟨rfl, rfl, rfl, rfl⟩
      · exact ⟨rfl, rfl, rfl, rfl⟩

/-- A data request gets its full backing store, or nothing, if and only if the allocation fails or
the length is not zero and the product can be represented. -/
theorem allocateRequest_backed_iff (index : IndexType) (session : ClientSession Session)
    (request : ClientRequest Session) (unused : request.status = .raw) (kind : RequestKind)
    (data : kind = .read ∨ kind = .write) (start length id : Nat) (memory : Option Int)
    (packets : List (Int × Nat)) :
    let called := allocateRequest session request kind start length id memory
    Backed index session.blockSize length memory packets
        (allocatedPackets session kind length memory packets) called.1 called.2 ↔
      memory = none ∨ 0 < length ∧ Representable index session.blockSize length := by
  intro called
  rcases allocate_cases session request kind data start length id memory packets with
    ⟨none_, status, result, same⟩ | ⟨offset, some_, behind, place, bytes, blocks, result⟩
  · refine iff_of_true ⟨?_, ?_, ?_⟩ (Or.inl none_)
    · intro success
      rw [result] at success
      cases success
    · intro _ success
      rw [result] at success
      cases success
    · intro _
      exact ⟨status.trans unused, same⟩
  · have granted : memory ≠ none := by
      rw [some_]
      exact Option.some_ne_none offset
    by_cases positive : 0 < length
    · rw [if_pos positive] at result
      constructor
      · intro backed
        refine Or.inr ⟨positive, ?_⟩
        rw [← crwLength_iff]
        have buffer := (backed.full result).2.2
        rw [blocks] at buffer
        exact buffer
      · rintro (none_ | ⟨_, representable⟩)
        · exact (granted none_).elim
        · have exact_ := bytes_exact session.blockSize length representable.2.1
          refine ⟨?_, ?_, ?_⟩
          · intro _
            refine ⟨bytes.trans exact_, ?_, ?_⟩
            · rw [behind, place, exact_]
            · rw [blocks]
              exact (crwLength_iff index session.blockSize length).mpr representable
          · exact fun none_ => (granted none_).elim
          · exact fun refused => (refused result).elim
    · rw [if_neg positive] at result
      have refused : called.2 ≠ .success := by
        rw [result]
        intro impossible
        cases impossible
      refine iff_of_false ?_ ?_
      · intro backed
        have left_ := (backed.released refused).2
        rw [behind] at left_
        exact absurd (congrArg List.length left_) (by simp)
      · rintro (none_ | ⟨more, _⟩)
        · exact granted none_
        · exact positive more

/-! A device with blocks of 512 bytes and a buffer with index type `Positive`. -/

theorem positive_ordered : (1 : Int) < 2147483647 := by decide

theorem positive_lower : (-2147483648 : Int) ≤ 1 := by decide

def positiveIndex : IndexType where
  range := ⟨1, 2147483647⟩
  base := ⟨-2147483648, 2147483647⟩
  symmetric := natural_symmetric
  ordered := positive_ordered
  lower := positive_lower
  upper := Int.le_refl _

def sampleDevice : ClientSession Unit := ⟨true, 512, some 1, [], []⟩

def rawRequest : ClientRequest Unit := ⟨⟨0, 0, 0, 0, 0, 0⟩, .raw, none, none⟩

def sampleCall (length : Nat) : ClientRequest Unit × AllocationResult :=
  allocateRequest sampleDevice rawRequest .read 0 length 7 (some 4096)

theorem small_request_backed :
    Backed positiveIndex 512 8 (some 4096) [] (allocatedPackets sampleDevice .read 8 (some 4096) [])
      (sampleCall 8).1 (sampleCall 8).2 := by
  refine (allocateRequest_backed_iff positiveIndex sampleDevice rawRequest rfl .read (Or.inl rfl)
    0 8 7 (some 4096) []).mpr (Or.inr ⟨by decide, ?_⟩)
  unfold Representable
  decide

/-- 2^55 + 1 blocks are more than 2^64 bytes, and the packet has 512. -/
theorem wrapping_request_not_backed :
    (sampleCall 36028797018963969).2 = .success ∧
      (sampleCall 36028797018963969).1.packet.bytes = 512 ∧
      ¬Backed positiveIndex 512 36028797018963969 (some 4096) []
        (allocatedPackets sampleDevice .read 36028797018963969 (some 4096) [])
        (sampleCall 36028797018963969).1 (sampleCall 36028797018963969).2 := by
  have success : (sampleCall 36028797018963969).2 = .success := by decide +kernel
  have bytes : (sampleCall 36028797018963969).1.packet.bytes = 512 := by decide +kernel
  refine ⟨success, bytes, ?_⟩
  intro backed
  have exact_ := (backed.full success).1
  rw [bytes] at exact_
  omega

end Gneiss.Genode.Block
