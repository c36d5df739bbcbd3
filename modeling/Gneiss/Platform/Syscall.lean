import Gneiss.Library.Buffers
import Gneiss.Library.Descriptors

/-!
`syscall.c`: how descriptors travel with a message. A control buffer is the header `struct cmsghdr`
of sixteen bytes followed by 32-bit words, and only these words are kept here. The kernel installs
every descriptor that arrives under a number of its own choice, `numberOf`.
-/

namespace Gneiss.Syscall

open Buffers

def sizeofInt : Nat := 4

def sizeofHeader : Nat := 16

/-- The words of `control[CMSG_SPACE(sizeof(int) * num)]`, which is padded to eight bytes. -/
def controlWords (num : Nat) : Nat := (num + 1) / 2 * 2

abbrev ControlBuffer (num : Nat) := { words : List Int // words.length = controlWords num }

/-- `gneiss_write_message`: the descriptors handed to `sendmsg` as control data. -/
def writeMessage (fd : List Int) : Option (List Int) :=
  if 0 < fd.length then some fd else none

/-- The control buffer after `recvmsg`: `cmsgLen` if there is a control message at all, and the
words behind its header. -/
structure Received where
  cmsgLen : Option Nat
  words : List Int
  arrived : List Int

/-- `recvmsg` installs as many descriptors as the control buffer has room for. -/
def recvmsg (num : Nat) (control : Option (List Int)) (numberOf : Nat → Int)
    (stale : ControlBuffer num) : Received :=
  let count := min ((control.getD []).length) (controlWords num)
  let arrived := (List.range count).map numberOf
  if count = 0 then ⟨none, stale.val, []⟩
  else ⟨some (sizeofHeader + sizeofInt * count), overlay (controlWords num) arrived stale.val,
    arrived⟩

/-- `memcpy` of a whole number of words. -/
def memcpy (target source : List Int) (bytes : Nat) : List Int :=
  source.take (bytes / sizeofInt) ++ target.drop (bytes / sizeofInt)

/-- What `read_message` leaves in the `num` slots of `fd` after a successful `recvmsg`. -/
def readMessage (num : Nat) (received : Received) : List Int :=
  let fd := List.replicate num (-1)
  match received.cmsgLen with
  | none => fd
  | some cmsgLen => memcpy fd received.words (min (sizeofInt * num) cmsgLen)

/-! What a receiver expects in its slots, and when it gets it. -/

def exactSlots (num count : Nat) (numberOf : Nat → Int) : List Int :=
  (List.range num).map fun slot => if slot < min count num then numberOf slot else -1

/-- The copy takes as many words too many as the header has, and they were -1 already. -/
def CleanWords (count num : Nat) (words : List Int) : Prop :=
  count = 0 ∨ num ≤ count ∨
    ∀ slot, count ≤ slot → slot < min num (count + 4) → words.getD slot (-1) = -1

theorem controlWords_bounds (num : Nat) : num ≤ controlWords num ∧ controlWords num ≤ num + 1 := by
  unfold controlWords
  omega

theorem arrived_eq (num : Nat) (sent : List Int) (numberOf : Nat → Int)
    (stale : ControlBuffer num) :
    (recvmsg num (writeMessage sent) numberOf stale).arrived =
      (List.range (min sent.length (controlWords num))).map numberOf := by
  have same : ((writeMessage sent).getD []).length = sent.length := by
    cases sent <;> rfl
  simp only [recvmsg, same]
  split
  · rename_i none_
    simp [none_]
  · rfl

/-- What arrives is what a call for just that would get. -/
theorem recvmsg_again (num : Nat) (sent : List Int) (numberOf : Nat → Int)
    (stale : ControlBuffer num) :
    let arrived := (recvmsg num (writeMessage sent) numberOf stale).arrived
    recvmsg num (writeMessage arrived) (fun index => arrived.getD index (-1)) stale =
      recvmsg num (writeMessage sent) numberOf stale := by
  intro arrived
  have came : arrived = (List.range (min sent.length (controlWords num))).map numberOf :=
    arrived_eq num sent numberOf stale
  have attached : ∀ fds : List Int, ((writeMessage fds).getD []).length = fds.length := by
    intro fds
    cases fds <;> rfl
  have count : min arrived.length (controlWords num) = min sent.length (controlWords num) := by
    rw [came, List.length_map, List.length_range, Nat.min_assoc, Nat.min_self]
  have numbers : (List.range (min sent.length (controlWords num))).map
      (fun index => arrived.getD index (-1)) =
        (List.range (min sent.length (controlWords num))).map numberOf := by
    apply List.map_congr_left
    intro index member
    have inside := List.mem_range.mp member
    rw [came, List.getD_eq_getElem _ _ (by simpa using inside)]
    simp
  rw [recvmsg, recvmsg, attached, attached, count]
  simp only [numbers]

theorem readMessage_nothing (num : Nat) (numberOf : Nat → Int) (stale : ControlBuffer num) :
    readMessage num (recvmsg num (writeMessage []) numberOf stale) = List.replicate num (-1) := by
  simp [readMessage, recvmsg, writeMessage]

theorem readMessage_some (num : Nat) (sent : List Int) (numberOf : Nat → Int)
    (stale : ControlBuffer num) (slots : 0 < num) (some_ : 0 < sent.length) :
    readMessage num (recvmsg num (writeMessage sent) numberOf stale) =
      (overlay (controlWords num)
        ((List.range (min sent.length (controlWords num))).map numberOf) stale.val).take
          (min num (sent.length + 4)) ++
        List.replicate (num - min num (sent.length + 4)) (-1) := by
  have bounds := controlWords_bounds num
  have positive : min sent.length (controlWords num) ≠ 0 := by omega
  have words : min (sizeofInt * num)
      (sizeofHeader + sizeofInt * min sent.length (controlWords num)) / sizeofInt =
        min num (sent.length + 4) := by
    simp only [sizeofInt, sizeofHeader]
    omega
  simp only [readMessage, recvmsg, writeMessage, if_pos some_, Option.getD_some, if_neg positive,
    memcpy, words, List.drop_replicate]

/-- Slot by slot: the received descriptors, up to four stale words, then -1. -/
theorem readMessage_slot (num : Nat) (sent : List Int) (numberOf : Nat → Int)
    (stale : ControlBuffer num) (slot : Nat) (bound : slot < num) (some_ : 0 < sent.length) :
    (readMessage num (recvmsg num (writeMessage sent) numberOf stale))[slot]? =
      some (if slot < sent.length then numberOf slot
        else if slot < sent.length + 4 then stale.val.getD slot (-1) else -1) := by
  have bounds := controlWords_bounds num
  have size : stale.val.length = controlWords num := stale.property
  rw [readMessage_some num sent numberOf stale (by omega) some_]
  by_cases copied : slot < min num (sent.length + 4)
  · rw [List.getElem?_append_left (by
      rw [List.length_take, overlay_length _ _ _ size]
      omega), List.getElem?_take_of_lt copied]
    by_cases received : slot < sent.length
    · have inside : slot < min sent.length (controlWords num) := by omega
      rw [overlay_getElem? _ _ _ _ (by simpa using inside) (by omega), if_pos received]
      simp only [List.getElem?_map, List.getElem?_range inside, Option.map_some]
    · rw [overlay_getElem?_stale _ _ _ _ (by simp; omega) (by omega), if_neg received,
        if_pos (by omega), List.getElem?_eq_getElem (by omega),
        List.getD_eq_getElem _ _ (by omega)]
  · rw [List.getElem?_append_right (by
      rw [List.length_take, overlay_length _ _ _ size]
      omega), List.getElem?_replicate, if_pos (by
      rw [List.length_take, overlay_length _ _ _ size]
      omega), if_neg (by omega), if_neg (by omega)]

theorem readMessage_length (num : Nat) (sent : List Int) (numberOf : Nat → Int)
    (stale : ControlBuffer num) :
    (readMessage num (recvmsg num (writeMessage sent) numberOf stale)).length = num := by
  have bounds := controlWords_bounds num
  rcases Nat.eq_zero_or_pos sent.length with empty | some_
  · rw [List.length_eq_zero_iff.mp empty, readMessage_nothing, List.length_replicate]
  rcases Nat.eq_zero_or_pos num with none_ | slots
  · subst none_
    simp [readMessage, recvmsg, controlWords]
  · rw [readMessage_some num sent numberOf stale slots some_, List.length_append, List.length_take,
      overlay_length _ _ _ stale.property, List.length_replicate]
    omega

theorem readMessage_exact_iff (num : Nat) (sent : List Int) (numberOf : Nat → Int)
    (stale : ControlBuffer num) :
    readMessage num (recvmsg num (writeMessage sent) numberOf stale) =
        exactSlots num sent.length numberOf ↔
      CleanWords sent.length num stale.val := by
  rcases Nat.eq_zero_or_pos sent.length with empty | some_
  · have nothing : sent = [] := List.length_eq_zero_iff.mp empty
    subst nothing
    rw [readMessage_nothing]
    simp [exactSlots, CleanWords, List.map_const']
  · have expected : ∀ slot, slot < num → (exactSlots num sent.length numberOf)[slot]? =
        some (if slot < sent.length then numberOf slot else -1) := by
      intro slot bound
      have same : slot < min sent.length num ↔ slot < sent.length := by omega
      simp only [exactSlots, List.getElem?_map, List.getElem?_range bound, Option.map_some, same]
    constructor
    · intro exact_
      by_cases enough : num ≤ sent.length
      · exact Or.inr (Or.inl enough)
      · refine Or.inr (Or.inr fun slot beyond copied => ?_)
        have read := readMessage_slot num sent numberOf stale slot (by omega) some_
        rw [exact_, expected slot (by omega), if_neg (by omega), if_neg (by omega),
          if_pos (by omega), Option.some.injEq] at read
        exact read.symm
    · intro clean
      apply List.ext_getElem?
      intro slot
      by_cases bound : slot < num
      · rw [readMessage_slot num sent numberOf stale slot bound some_, expected slot bound]
        by_cases received : slot < sent.length
        · rw [if_pos received, if_pos received]
        · rw [if_neg received, if_neg received]
          split
          · rename_i stale_
            rcases clean with none_ | enough | clean
            · omega
            · omega
            · rw [clean slot (by omega) (by omega)]
          · rfl
      · rw [List.getElem?_eq_none (by rw [readMessage_length]; omega),
          List.getElem?_eq_none (by simp [exactSlots]; omega)]

end Gneiss.Syscall
