import Gneiss.Library.Buffers
import Gneiss.Platform.Session

/-!
`Gneiss_Internal.Packet`: how a broker message is written into a datagram and read back. The
package `Gneiss_Protocol.Session.Packet` is generated from `session.rflx` when the system is built,
so it is a parameter here: `GeneratedPacket` lists its operations and what the format makes of them.
-/

namespace Gneiss

open Buffers

/-! `Session_Label` has 255 characters of which the first `last` are in use, and `Broker_Message` is
a record with the discriminant `Valid`. -/

structure SessionLabel where
  last : Nat
  value : Text
  sized : value.length = 255
  fits : last ≤ 255
  deriving DecidableEq

def SessionLabel.empty : SessionLabel where
  last := 0
  value := List.replicate 255 0
  sized := List.length_replicate
  fits := Nat.zero_le _

def SessionLabel.text (label : SessionLabel) : Text :=
  label.value.take label.last

inductive BrokerMessage where
  | invalid
  | valid (action : ActionType) (kind : KindType) (name label : SessionLabel)
  deriving DecidableEq

/-! The operations of the generated package and the reading of `session.rflx` they implement: a
context parses the whole buffer it was given, and writes its fields one behind the other. -/

structure GeneratedPacket where
  Context : Type
  initContext : Text → Context
  takeBuffer : Context → Text
  verifyMessage : Context → Context
  structuralValidMessage : Context → Bool
  getAction : Context → ActionType
  getKind : Context → KindType
  getNameLength : Context → UInt8
  getLabelLength : Context → UInt8
  presentName : Context → Bool
  presentLabel : Context → Bool
  getName : Context → Text
  getLabel : Context → Text
  setAction : Context → ActionType → Context
  setKind : Context → KindType → Context
  setNameLength : Context → UInt8 → Context
  setName : Context → (Nat → Text) → Context
  setLabelLength : Context → UInt8 → Context
  setLabel : Context → (Nat → Text) → Context
  valid_iff : ∀ buffer, structuralValidMessage (verifyMessage (initContext buffer)) = true ↔
    ∃ packet, StartsWith buffer packet
  getAction_eq : ∀ buffer packet, StartsWith buffer packet →
    getAction (verifyMessage (initContext buffer)) = packet.action
  getKind_eq : ∀ buffer packet, StartsWith buffer packet →
    getKind (verifyMessage (initContext buffer)) = packet.kind
  getNameLength_eq : ∀ buffer packet, StartsWith buffer packet →
    (getNameLength (verifyMessage (initContext buffer))).toNat = packet.name.val.length
  getLabelLength_eq : ∀ buffer packet, StartsWith buffer packet →
    (getLabelLength (verifyMessage (initContext buffer))).toNat = packet.label.val.length
  presentName_iff : ∀ buffer packet, StartsWith buffer packet →
    (presentName (verifyMessage (initContext buffer)) = true ↔ 0 < packet.name.val.length)
  presentLabel_iff : ∀ buffer packet, StartsWith buffer packet →
    (presentLabel (verifyMessage (initContext buffer)) = true ↔ 0 < packet.label.val.length)
  getName_eq : ∀ buffer packet, StartsWith buffer packet →
    getName (verifyMessage (initContext buffer)) = packet.name.val
  getLabel_eq : ∀ buffer packet, StartsWith buffer packet →
    getLabel (verifyMessage (initContext buffer)) = packet.label.val
  cursor : Context → Cursor UInt8
  cursor_initContext : ∀ buffer, cursor (initContext buffer) = ⟨buffer, 0⟩
  takeBuffer_eq : ∀ context, takeBuffer context = (cursor context).buffer
  cursor_setAction : ∀ context action,
    cursor (setAction context action) = (cursor context).put [action.toByte]
  cursor_setKind : ∀ context kind,
    cursor (setKind context kind) = (cursor context).put [kind.toByte]
  cursor_setNameLength : ∀ context length,
    cursor (setNameLength context length) = (cursor context).put [length]
  cursor_setLabelLength : ∀ context length,
    cursor (setLabelLength context length) = (cursor context).put [length]
  cursor_setName : ∀ context length process, 0 < length.toNat →
    (process length.toNat).length = length.toNat →
    cursor (setName (setNameLength context length) process) =
      (cursor (setNameLength context length)).put (process length.toNat)
  cursor_setLabel : ∀ context length process, 0 < length.toNat →
    (process length.toNat).length = length.toNat →
    cursor (setLabel (setLabelLength context length) process) =
      (cursor (setLabelLength context length)).put (process length.toNat)

namespace Packet

/-! `Generic_Buffer.Buf` is never initialised, so `Send` and `Receive` take its content. -/

def bufferSize : Nat := 1024

abbrev Buffer := { bytes : Text // bytes.length = bufferSize }

def Buffer.zero : Buffer := ⟨List.replicate bufferSize 0, List.length_replicate⟩

/-! The loops of `Get` and `Set`, with zero-based indices into `Field` and `Data`. `get` returns the
new content of `Field` together with `Last`, `set` what is written into a `Data` of that length. -/

def getFrom (data : Text) : Nat → Nat → Nat → Text → Text × Nat
  | 0, i, _, field => (field, i)
  | fuel + 1, i, j, field =>
      let field := field.set i (data.getD j 0)
      if i + 1 = field.length ∨ j + 1 = data.length then (field, i)
      else getFrom data fuel (i + 1) (j + 1) field

def get (field data : Text) : Text × Nat :=
  let (field, i) := getFrom data data.length 0 0 field
  (field, i + 1)

def setFrom (field : Text) : Nat → Nat → Nat → Text → Text
  | 0, _, _, data => data
  | fuel + 1, i, j, data =>
      let data := data.set j (field.getD i 0)
      if i + 1 = field.length ∨ j + 1 = data.length then data
      else setFrom field fuel (i + 1) (j + 1) data

def set (field : Text) (length : Nat) : Text :=
  setFrom field length 0 0 (List.replicate length 0)

def send (generated : GeneratedPacket) (action : ActionType) (kind : KindType)
    (name label : SessionLabel) (stale : Buffer) : Text :=
  let context := generated.initContext stale.val
  let context := generated.setAction context action
  let context := generated.setKind context kind
  let context := generated.setNameLength context (UInt8.ofNat name.last)
  let context := if name.last > 0 then generated.setName context (set name.text) else context
  let context := generated.setLabelLength context (UInt8.ofNat label.last)
  let context := if label.last > 0 then generated.setLabel context (set label.text) else context
  (generated.takeBuffer context).take (4 + name.last + label.last)

theorem getFrom_length (data : Text) (fuel i j : Nat) (field : Text) :
    (getFrom data fuel i j field).1.length = field.length := by
  induction fuel generalizing i j field with
  | zero => rfl
  | succ fuel ih =>
      simp only [getFrom]
      split
      · simp
      · rw [ih]
        simp

theorem getFrom_last (data : Text) (fuel i j : Nat) (field : Text) (bound : i < field.length) :
    (getFrom data fuel i j field).2 < field.length := by
  induction fuel generalizing i j field with
  | zero => simpa [getFrom] using bound
  | succ fuel ih =>
      simp only [getFrom]
      split
      · simpa using bound
      · rename_i running
        rw [not_or, List.length_set] at running
        have next := ih (i + 1) (j + 1) (field.set i (data.getD j 0)) (by
          rw [List.length_set]
          omega)
        rwa [List.length_set] at next

def getLabel (label : SessionLabel) (data : Text) : SessionLabel where
  last := (get label.value data).2
  value := (get label.value data).1
  sized := by rw [get, getFrom_length, label.sized]
  fits := by
    have bound := getFrom_last data data.length 0 0 label.value (by simp [label.sized])
    rw [label.sized] at bound
    exact bound

/-- `Recv`: the buffer and the length reported for it. A failed `recvmsg` counts as length 0, and
with `MSG_TRUNC` the length is that of the datagram, also where it exceeds the buffer. -/
def recv (datagram : Option Text) (stale : Buffer) : Text × Nat :=
  match datagram with
  | none => (stale.val, 0)
  | some bytes => (overlay bufferSize bytes stale.val, bytes.length)

def receive (generated : GeneratedPacket) (datagram : Option Text) (stale : Buffer) :
    BrokerMessage :=
  let (buffer, length) := recv datagram stale
  if length = 0 then .invalid
  else
    let context := generated.verifyMessage (generated.initContext buffer)
    if generated.structuralValidMessage context = false then .invalid
    else
      let action := generated.getAction context
      let kind := generated.getKind context
      let name :=
        if generated.getNameLength context > 0 ∧ generated.presentName context = true then
          getLabel .empty (generated.getName context)
        else .empty
      let label :=
        if generated.getLabelLength context > 0 ∧ generated.presentLabel context = true then
          getLabel .empty (generated.getLabel context)
        else .empty
      .valid action kind name label

end Packet

/-! The operations of `GeneratedPacket` computed from the format: the second component of a
context is the length its last length field announced. -/

def referencePacket : GeneratedPacket where
  Context := Cursor UInt8 × Nat
  initContext buffer := (⟨buffer, 0⟩, 0)
  takeBuffer context := context.1.buffer
  verifyMessage context := context
  structuralValidMessage context := (Packet.decode context.1.buffer).isSome
  getAction context := ((Packet.decode context.1.buffer).map Packet.action).getD .request
  getKind context := ((Packet.decode context.1.buffer).map Packet.kind).getD .message
  getNameLength context :=
    UInt8.ofNat (((Packet.decode context.1.buffer).map fun packet => packet.name.val.length).getD 0)
  getLabelLength context :=
    UInt8.ofNat
      (((Packet.decode context.1.buffer).map fun packet => packet.label.val.length).getD 0)
  presentName context :=
    ((Packet.decode context.1.buffer).map fun packet =>
      decide (0 < packet.name.val.length)).getD false
  presentLabel context :=
    ((Packet.decode context.1.buffer).map fun packet =>
      decide (0 < packet.label.val.length)).getD false
  getName context := ((Packet.decode context.1.buffer).map fun packet => packet.name.val).getD []
  getLabel context := ((Packet.decode context.1.buffer).map fun packet => packet.label.val).getD []
  setAction context action := (context.1.put [action.toByte], 0)
  setKind context kind := (context.1.put [kind.toByte], 0)
  setNameLength context length := (context.1.put [length], length.toNat)
  setName context process := (context.1.put (process context.2), 0)
  setLabelLength context length := (context.1.put [length], length.toNat)
  setLabel context process := (context.1.put (process context.2), 0)
  valid_iff buffer := by
    simp only [Option.isSome_iff_exists, Packet.decode_eq_some_iff]
  getAction_eq buffer packet starts := by
    simp [(Packet.decode_eq_some_iff buffer packet).mpr starts]
  getKind_eq buffer packet starts := by
    simp [(Packet.decode_eq_some_iff buffer packet).mpr starts]
  getNameLength_eq buffer packet starts := by
    have bound := packet.name.property
    simp [(Packet.decode_eq_some_iff buffer packet).mpr starts, Nat.mod_eq_of_lt bound]
  getLabelLength_eq buffer packet starts := by
    have bound := packet.label.property
    simp [(Packet.decode_eq_some_iff buffer packet).mpr starts, Nat.mod_eq_of_lt bound]
  presentName_iff buffer packet starts := by
    simp [(Packet.decode_eq_some_iff buffer packet).mpr starts]
  presentLabel_iff buffer packet starts := by
    simp [(Packet.decode_eq_some_iff buffer packet).mpr starts]
  getName_eq buffer packet starts := by
    simp [(Packet.decode_eq_some_iff buffer packet).mpr starts]
  getLabel_eq buffer packet starts := by
    simp [(Packet.decode_eq_some_iff buffer packet).mpr starts]
  cursor context := context.1
  cursor_initContext _ := rfl
  takeBuffer_eq _ := rfl
  cursor_setAction _ _ := rfl
  cursor_setKind _ _ := rfl
  cursor_setNameLength _ _ := rfl
  cursor_setLabelLength _ _ := rfl
  cursor_setName _ _ _ _ _ := rfl
  cursor_setLabel _ _ _ _ _ := rfl

end Gneiss
