import Mathlib.Data.List.Basic

/-!
The packet format of `session.rflx`: one byte for the action, one for the kind, and two byte
strings, each behind its one-byte length.
-/

namespace Gneiss

/-- A `Character` of an Ada `String`, and a byte of a packet, has 256 values. -/
abbrev Text := List UInt8

def ascii (text : String) : Text :=
  text.toList.map fun char => UInt8.ofNat char.toNat

inductive ActionType where
  | request
  | confirm
  | reject
  | register
  deriving DecidableEq, Repr

inductive KindType where
  | message
  | log
  | memory
  | rom
  | timer
  deriving DecidableEq, Repr

def ActionType.toByte : ActionType → UInt8
  | .request => 0
  | .confirm => 1
  | .reject => 2
  | .register => 3

def ActionType.ofByte? : UInt8 → Option ActionType
  | 0 => some .request
  | 1 => some .confirm
  | 2 => some .reject
  | 3 => some .register
  | _ => none

def KindType.toByte : KindType → UInt8
  | .message => 0
  | .log => 1
  | .memory => 2
  | .rom => 3
  | .timer => 4

def KindType.ofByte? : UInt8 → Option KindType
  | 0 => some .message
  | 1 => some .log
  | 2 => some .memory
  | 3 => some .rom
  | 4 => some .timer
  | _ => none

@[simp] theorem ActionType.ofByte?_toByte (action : ActionType) :
    ActionType.ofByte? action.toByte = some action := by
  cases action <;> rfl

@[simp] theorem KindType.ofByte?_toByte (kind : KindType) :
    KindType.ofByte? kind.toByte = some kind := by
  cases kind <;> rfl

theorem ActionType.toByte_of_ofByte? {byte : UInt8} {action : ActionType}
    (parsed : ActionType.ofByte? byte = some action) : action.toByte = byte := by
  unfold ActionType.ofByte? at parsed
  split at parsed <;> simp_all [ActionType.toByte] <;> (subst parsed; rfl)

theorem KindType.toByte_of_ofByte? {byte : UInt8} {kind : KindType}
    (parsed : KindType.ofByte? byte = some kind) : kind.toByte = byte := by
  unfold KindType.ofByte? at parsed
  split at parsed <;> simp_all [KindType.toByte] <;> (subst parsed; rfl)

/-- A `Payload` field: its length is stored in one byte. -/
abbrev Payload := { bytes : Text // bytes.length < 256 }

def Payload.encode (payload : Payload) : Text :=
  UInt8.ofNat payload.val.length :: payload.val

def Payload.decode : Text → Option (Payload × Text)
  | [] => none
  | length :: rest =>
      if length.toNat ≤ rest.length then
        some (⟨rest.take length.toNat, by
          have := length.toNat_lt
          rw [List.length_take]
          omega⟩, rest.drop length.toNat)
      else none

structure Packet where
  action : ActionType
  kind : KindType
  name : Payload
  label : Payload
  deriving DecidableEq

def Packet.encode (packet : Packet) : Text :=
  packet.action.toByte :: packet.kind.toByte :: (packet.name.encode ++ packet.label.encode)

def Packet.decode : Text → Option Packet
  | action :: kind :: rest => do
      let action ← ActionType.ofByte? action
      let kind ← KindType.ofByte? kind
      let (name, rest) ← Payload.decode rest
      let (label, _) ← Payload.decode rest
      return ⟨action, kind, name, label⟩
  | _ => none

/-- `bytes` begins with the complete encoding of `packet`; anything may follow. -/
def StartsWith (bytes : Text) (packet : Packet) : Prop :=
  ∃ rest, bytes = packet.encode ++ rest

theorem Packet.encode_length (packet : Packet) :
    packet.encode.length = 4 + packet.name.val.length + packet.label.val.length := by
  simp only [Packet.encode, Payload.encode, List.length_cons, List.length_append]
  omega

theorem Payload.decode_encode (payload : Payload) (rest : Text) :
    Payload.decode (payload.encode ++ rest) = some (payload, rest) := by
  simp [Payload.encode, Payload.decode, Nat.mod_eq_of_lt payload.property]

theorem Payload.encode_of_decode {bytes rest : Text} {payload : Payload}
    (decoded : Payload.decode bytes = some (payload, rest)) :
    bytes = payload.encode ++ rest := by
  cases bytes with
  | nil => simp [Payload.decode] at decoded
  | cons length tail =>
      simp only [Payload.decode] at decoded
      split at decoded
      · rename_i complete
        simp only [Option.some.injEq, Prod.mk.injEq] at decoded
        obtain ⟨rfl, rfl⟩ := decoded
        simp [Payload.encode, List.length_take, Nat.min_eq_left complete]
      · simp at decoded

theorem Payload.decode_isSome (length : UInt8) (rest : Text)
    (complete : length.toNat ≤ rest.length) :
    ∃ payload, Payload.decode (length :: rest) = some (payload, rest.drop length.toNat) := by
  simp [Payload.decode, complete]

theorem Packet.decode_encode (packet : Packet) (rest : Text) :
    Packet.decode (packet.encode ++ rest) = some packet := by
  simp only [Packet.encode, List.cons_append, List.append_assoc, Packet.decode,
    ActionType.ofByte?_toByte, KindType.ofByte?_toByte, Payload.decode_encode,
    Option.bind_eq_bind, Option.bind_some, Option.pure_def]

theorem Packet.decode_eq_some_iff (bytes : Text) (packet : Packet) :
    Packet.decode bytes = some packet ↔ StartsWith bytes packet := by
  constructor
  · intro decoded
    match bytes with
    | [] => simp [Packet.decode] at decoded
    | [_] => simp [Packet.decode] at decoded
    | action :: kind :: tail =>
        simp only [Packet.decode, Option.bind_eq_bind, Option.bind_eq_some_iff,
          Option.pure_def, Option.some.injEq, Prod.exists] at decoded
        obtain ⟨actionType, actionParsed, kindType, kindParsed, name, afterName, nameParsed,
          label, afterLabel, labelParsed, rfl⟩ := decoded
        refine ⟨afterLabel, ?_⟩
        rw [Payload.encode_of_decode nameParsed, Payload.encode_of_decode labelParsed]
        simp [Packet.encode, ActionType.toByte_of_ofByte? actionParsed,
          KindType.toByte_of_ofByte? kindParsed]
  · rintro ⟨rest, rfl⟩
    exact Packet.decode_encode packet rest

theorem StartsWith.append {bytes : Text} {packet : Packet} (starts : StartsWith bytes packet)
    (more : Text) : StartsWith (bytes ++ more) packet := by
  obtain ⟨rest, rfl⟩ := starts
  exact ⟨rest ++ more, by simp⟩

theorem StartsWith.header {bytes : Text} {packet : Packet} (starts : StartsWith bytes packet) :
    bytes[0]? = some packet.action.toByte ∧ bytes[1]? = some packet.kind.toByte := by
  obtain ⟨rest, rfl⟩ := starts
  simp [Packet.encode]

/-- The action byte or the kind byte is there and names no action or kind. -/
def BadHeader (bytes : Text) : Prop :=
  (∃ action, bytes[0]? = some action ∧ ActionType.ofByte? action = none) ∨
    (∃ kind, bytes[1]? = some kind ∧ KindType.ofByte? kind = none)

theorem BadHeader.not_startsWith {bytes : Text} (bad : BadHeader bytes) (packet : Packet) :
    ¬StartsWith bytes packet := by
  intro starts
  obtain ⟨first, second⟩ := starts.header
  rcases bad with ⟨action, found, rejected⟩ | ⟨kind, found, rejected⟩
  · rw [first, Option.some.injEq] at found
    subst found
    simp at rejected
  · rw [second, Option.some.injEq] at found
    subst found
    simp at rejected

/-- The longest packet has 514 bytes, so a longer buffer with a good header always holds one. -/
theorem startsWith_of_long (bytes : Text) (long : 514 ≤ bytes.length) (good : ¬BadHeader bytes) :
    ∃ packet, StartsWith bytes packet := by
  match bytes, long with
  | action :: kind :: nameLength :: rest, long =>
      simp only [List.length_cons] at long
      have actionParsed : ∃ actionType, ActionType.ofByte? action = some actionType := by
        rw [← Option.ne_none_iff_exists']
        exact fun rejected => good (Or.inl ⟨action, rfl, rejected⟩)
      have kindParsed : ∃ kindType, KindType.ofByte? kind = some kindType := by
        rw [← Option.ne_none_iff_exists']
        exact fun rejected => good (Or.inr ⟨kind, rfl, rejected⟩)
      obtain ⟨actionType, actionEq⟩ := actionParsed
      obtain ⟨kindType, kindEq⟩ := kindParsed
      have nameBound := nameLength.toNat_lt
      obtain ⟨name, nameEq⟩ := Payload.decode_isSome nameLength rest (by omega)
      have tailLength : 255 < (rest.drop nameLength.toNat).length := by
        rw [List.length_drop]
        omega
      obtain ⟨labelLength, labelRest, tailEq⟩ : ∃ labelLength labelRest,
          rest.drop nameLength.toNat = labelLength :: labelRest := by
        cases tail : rest.drop nameLength.toNat with
        | nil => simp [tail] at tailLength
        | cons labelLength labelRest => exact ⟨labelLength, labelRest, rfl⟩
      have labelBound := labelLength.toNat_lt
      rw [tailEq, List.length_cons] at tailLength
      obtain ⟨label, labelEq⟩ := Payload.decode_isSome labelLength labelRest (by omega)
      refine ⟨⟨actionType, kindType, name, label⟩, ?_⟩
      rw [← Packet.decode_eq_some_iff]
      simp [Packet.decode, actionEq, kindEq, nameEq, tailEq, labelEq]

end Gneiss
