import Mathlib.Data.List.Nodup
import Gneiss.Component.Operations
import Gneiss.Platform.PacketChecks

/-!
`Gneiss_Internal.Client.Dispatch` and the `Dispatch_Event` of the three dispatchers, on everything
that can arrive on a dispatch descriptor. A run-time check that fails is `none`.
-/

namespace Gneiss.Component

open Buffers Descriptors

/-- One receive call: it fails, or there is a datagram with `attached` descriptors, for which the
kernel chooses new numbers. `stale` and `words` are what the buffers of the call hold before it. -/
structure Incoming (num : Nat) where
  datagram : Option Text
  stale : Packet.Buffer
  attached : List Int
  numberOf : Nat → Int
  numbered : ∀ index, valid (numberOf index) = true
  words : Syscall.ControlBuffer num

namespace Incoming

variable {num : Nat}

def arrived (incoming : Incoming num) : List Int :=
  match incoming.datagram with
  | none => []
  | some _ => (Syscall.recvmsg num (Syscall.writeMessage incoming.attached) incoming.numberOf
      incoming.words).arrived

def fds (incoming : Incoming num) : List Int :=
  match incoming.datagram with
  | none => List.replicate num (-1)
  | some _ => Syscall.readMessage num (Syscall.recvmsg num (Syscall.writeMessage incoming.attached)
      incoming.numberOf incoming.words)

def message (generated : GeneratedPacket) (incoming : Incoming num) : BrokerMessage :=
  Packet.receive generated incoming.datagram incoming.stale

/-- `Client.Dispatch`: an invalid message has no `Name` to assign. The action is not looked at. -/
def dispatch (generated : GeneratedPacket) (incoming : Incoming num) (kind : KindType) :
    Option (SessionLabel × SessionLabel × List Int) :=
  match incoming.message generated with
  | .invalid => none
  | .valid _ other name label =>
      some (name, label, if other = kind then incoming.fds else List.replicate num (-1))

end Incoming

def copyLabel (text : Text) : Option Text :=
  if text.length ≤ 255 then some text else none

/-- What a `Dispatch_Event` passes to `Dispatch`, and the name and label it rejects. -/
structure Dispatched where
  capability : Option DispatcherCapability
  rejected : Option (Text × Text)

/-- `Dispatch_Event`; `accepts` is whether the component accepts a capability it is passed. -/
def dispatchEvent (generated : GeneratedPacket) (kind : ServiceKind) (session : DispatcherSession)
    (fd : Int) (incoming : Incoming kind.slots) (accepts : DispatcherCapability → Bool) :
    Option Dispatched :=
  if session.initialized = false ∨ valid session.dispatchFd = false then some ⟨none, none⟩
  else if fd = session.dispatchFd then do
    let (name, label, fds) ← incoming.dispatch generated kind.protocol
    let cap := offeredCapability kind name label fds
    if accepts cap = true then some ⟨some cap, none⟩
    else
      let sentName ← copyLabel name.text
      let sentLabel ← copyLabel label.text
      some ⟨some cap, some (sentName, sentLabel)⟩
  else some ⟨some ⟨-1, -1, -1, fd, .empty, .empty⟩, none⟩

def IsRequest (generated : GeneratedPacket) (kind : ServiceKind)
    (incoming : Incoming kind.slots) : Prop :=
  ∃ name label, incoming.message generated = .valid .request kind.protocol name label

/-- No check fails, and only a request of the kind gives a capability for a valid request. -/
def Survives (generated : GeneratedPacket) (kind : ServiceKind) (session : DispatcherSession)
    (fd : Int) (incoming : Incoming kind.slots) (accepts : DispatcherCapability → Bool) : Prop :=
  ∃ dispatched, dispatchEvent generated kind session fd incoming accepts = some dispatched ∧
    (¬(fd = session.dispatchFd ∧ IsRequest generated kind incoming) →
      ∀ cap ∈ dispatched.capability, validSessionRequest kind cap = false)

/-- A slot for which no descriptor came holds no valid number either. -/
def Incomplete {num : Nat} (incoming : Incoming num) : Prop :=
  incoming.attached = [] ∨
    ∃ slot, incoming.attached.length ≤ slot ∧ slot < num ∧
      valid (incoming.words.val.getD slot (-1)) = false

/-- The datagram parses, and is a request, or of another kind, or lacks descriptors. -/
def Harmless (kind : ServiceKind) (incoming : Incoming kind.slots) : Prop :=
  ∃ datagram packet, incoming.datagram = some datagram ∧ datagram ≠ [] ∧
    StartsWith (overlay Packet.bufferSize datagram incoming.stale.val) packet ∧
    (packet.action = .request ∨ packet.kind ≠ kind.protocol ∨ Incomplete incoming)

theorem message_valid_iff {num : Nat} (generated : GeneratedPacket) (incoming : Incoming num)
    (action : ActionType) (kind : KindType) (name label : SessionLabel) :
    incoming.message generated = .valid action kind name label ↔
      ∃ datagram packet, incoming.datagram = some datagram ∧ datagram ≠ [] ∧
        StartsWith (overlay Packet.bufferSize datagram incoming.stale.val) packet ∧
        packet.action = action ∧ packet.kind = kind ∧ Packet.ofPayload packet.name = name ∧
        Packet.ofPayload packet.label = label := by
  unfold Incoming.message
  cases sent : incoming.datagram with
  | none => simp [Packet.receive, Packet.recv]
  | some datagram =>
      rw [Packet.receive_eq]
      by_cases empty : datagram = []
      · simp [empty]
      · rw [if_neg empty]
        cases decoded : Packet.decode (overlay Packet.bufferSize datagram incoming.stale.val) with
        | none =>
            simp only [reduceCtorEq, Option.some.injEq, false_iff, not_exists]
            rintro other packet ⟨rfl, _, starts, _⟩
            rw [(Packet.decode_eq_some_iff _ _).mpr starts] at decoded
            cases decoded
        | some packet =>
            have starts := (Packet.decode_eq_some_iff _ _).mp decoded
            simp only [BrokerMessage.valid.injEq, Option.some.injEq]
            constructor
            · rintro ⟨rfl, rfl, rfl, rfl⟩
              exact ⟨datagram, packet, rfl, empty, starts, rfl, rfl, rfl, rfl⟩
            · rintro ⟨other, second, rfl, _, also, facts⟩
              rw [(Packet.decode_eq_some_iff _ _).mpr also, Option.some.injEq] at decoded
              rw [← decoded]
              exact facts

/-- All slots are filled exactly if every descriptor came, or stale words stand in for it. -/
theorem fds_complete_iff {num : Nat} (incoming : Incoming num) (datagram : Text)
    (sent : incoming.datagram = some datagram) (positive : 0 < num) (small : num ≤ 4) :
    (∀ slot < num, valid (incoming.fds.getD slot (-1)) = true) ↔ ¬Incomplete incoming := by
  simp only [Incoming.fds, sent, Incomplete, not_or, not_exists, not_and,
    Bool.not_eq_false]
  rcases Nat.eq_zero_or_pos incoming.attached.length with nothing | some_
  · have empty := List.length_eq_zero_iff.mp nothing
    rw [empty, Syscall.readMessage_nothing]
    constructor
    · intro all
      have first := all 0 positive
      simp [positive] at first
    · intro contradiction_
      exact (contradiction_.1 rfl).elim
  · have nonempty := List.length_pos_iff.mp some_
    have entry : ∀ slot < num, (Syscall.readMessage num (Syscall.recvmsg num
        (Syscall.writeMessage incoming.attached) incoming.numberOf incoming.words)).getD slot (-1) =
        if slot < incoming.attached.length then incoming.numberOf slot
        else incoming.words.val.getD slot (-1) := by
      intro slot bound
      rw [List.getD_eq_getElem?_getD, Syscall.readMessage_slot num incoming.attached
        incoming.numberOf incoming.words slot bound some_, Option.getD_some]
      split
      · rfl
      · rw [if_pos (by omega)]
    constructor
    · intro all
      refine ⟨nonempty, ?_⟩
      intro slot beyond bound
      have filled := all slot bound
      rwa [entry slot bound, if_neg (by omega)] at filled
    · rintro ⟨_, stale⟩ slot bound
      rw [entry slot bound]
      split
      · exact incoming.numbered slot
      · exact stale slot (by omega) bound

theorem copyLabel_text (label : SessionLabel) : copyLabel label.text = some label.text := by
  have fits := label.fits
  rw [copyLabel, if_pos (by rw [Packet.text_length]; exact fits)]

theorem dispatchEvent_own (generated : GeneratedPacket) (kind : ServiceKind)
    (session : DispatcherSession) (initialized : session.initialized = true)
    (registered : valid session.dispatchFd = true) (incoming : Incoming kind.slots)
    (accepts : DispatcherCapability → Bool) :
    (dispatchEvent generated kind session session.dispatchFd incoming accepts).map
        Dispatched.capability =
      (incoming.dispatch generated kind.protocol).map fun (name, label, fds) =>
        some (offeredCapability kind name label fds) := by
  have running : ¬(session.initialized = false ∨ valid session.dispatchFd = false) := by
    simp [initialized, registered]
  simp only [dispatchEvent, if_neg running, if_true]
  cases incoming.dispatch generated kind.protocol with
  | none => rfl
  | some result =>
      obtain ⟨name, label, fds⟩ := result
      simp only [Option.bind_eq_bind, Option.bind_some, copyLabel_text]
      split <;> rfl

/-! The dispatchers of an event loop receive in the same way. -/

namespace Incoming

variable {num : Nat}

def reply (generated : GeneratedPacket) (incoming : Incoming num) : Reply :=
  ⟨incoming.message generated, incoming.arrived,
    fun slot => incoming.words.val.getD slot (-1)⟩

theorem reply_words (generated : GeneratedPacket) (incoming : Incoming num) :
    (incoming.reply generated).words num = incoming.words := by
  have size := incoming.words.property
  apply Subtype.ext
  apply List.ext_getElem
  · simp [Reply.words, size]
  · intro slot inside _
    have bound : slot < incoming.words.val.length := by
      simpa [Reply.words, size] using inside
    simp [Reply.words, reply, bound]

theorem reply_slots (generated : GeneratedPacket) (incoming : Incoming num) (datagram : Text)
    (sent : incoming.datagram = some datagram) :
    (incoming.reply generated).slots num incoming.arrived = incoming.fds := by
  have again := Syscall.recvmsg_again num incoming.attached incoming.numberOf incoming.words
  have arrived : incoming.arrived = (Syscall.recvmsg num (Syscall.writeMessage incoming.attached)
      incoming.numberOf incoming.words).arrived := by
    simp only [Incoming.arrived, sent]
  simp only [← arrived] at again
  simp only [Reply.slots, reply_words, again, fds, sent]

/-- The kernel takes new numbers for what arrives. -/
def New (incoming : Incoming num) (table : Table) : Prop :=
  Function.Injective incoming.numberOf ∧ ∀ index, incoming.numberOf index ∉ table.opened

theorem install_arrived (generated : GeneratedPacket) (incoming : Incoming num) (world : World)
    (new : incoming.New world.table) :
    (world.install num (incoming.reply generated)).2 = incoming.arrived := by
  obtain ⟨injective, absent⟩ := new
  obtain ⟨count, fits, came⟩ : ∃ count ≤ Syscall.controlWords num,
      incoming.arrived = (List.range count).map incoming.numberOf := by
    cases sent : incoming.datagram with
    | none => exact ⟨0, Nat.zero_le _, by simp [Incoming.arrived, sent]⟩
    | some datagram =>
        refine ⟨min incoming.attached.length (Syscall.controlWords num), Nat.min_le_right _ _, ?_⟩
        simp only [Incoming.arrived, sent]
        exact Syscall.arrived_eq num incoming.attached incoming.numberOf incoming.words
  have received := receive_fresh world.table incoming.arrived
    (by simp [came, fresh_iff, incoming.numbered, absent])
    (by rw [came]; exact List.Nodup.map injective List.nodup_range) 0
  rw [List.replicate_zero, List.append_nil] at received
  have room : incoming.arrived.take (Syscall.controlWords num) = incoming.arrived :=
    List.take_of_length_le (by simpa [came] using fits)
  have all : ∀ fd ∈ incoming.arrived, valid fd = true := by
    simp [came, incoming.numbered]
  simp only [World.install, reply, room, received]
  exact List.filter_eq_self.mpr all

end Incoming

/-- What `Dispatch` is passed in an event loop is what `dispatchEvent` passes it. -/
theorem receiveRequest_agrees (generated : GeneratedPacket) (world : World) (id : ServiceId)
    (serves : Serves world id) (incoming : Incoming id.kind.slots)
    (new : incoming.New world.table) (readable : incoming.message generated ≠ .invalid)
    (accepts : DispatcherCapability → Bool) :
    (dispatchEvent generated id.kind (world.dispatchers id) (world.dispatchers id).dispatchFd
        incoming accepts).map Dispatched.capability =
      some (some ((world.receiveRequest id (incoming.reply generated)).capability id)) := by
  rw [dispatchEvent_own generated id.kind _ serves.1 serves.2]
  cases message : incoming.message generated with
  | invalid => exact (readable message).elim
  | valid action kind name label =>
      obtain ⟨datagram, _, sent, _⟩ :=
        (message_valid_iff generated incoming action kind name label).mp message
      have arrived := incoming.install_arrived generated world new
      have slots := incoming.reply_slots generated datagram sent
      simp only [Incoming.reply, message] at arrived slots
      simp only [Incoming.dispatch, Incoming.reply, message, Option.map_some]
      rw [receiveRequest_valid world id action kind name label _ _ serves, arrived, slots]
      simp only [World.setCapability, Function.update_self]

theorem Harmless.message {generated : GeneratedPacket} {kind : ServiceKind}
    {incoming : Incoming kind.slots} (harmless : Harmless kind incoming) :
    ∃ action other name label, incoming.message generated = .valid action other name label ∧
      (action = .request ∨ other ≠ kind.protocol ∨ Incomplete incoming) := by
  obtain ⟨datagram, packet, sent, nonempty, starts, facts⟩ := harmless
  refine ⟨packet.action, packet.kind, Packet.ofPayload packet.name, Packet.ofPayload packet.label,
    ?_, facts⟩
  rw [message_valid_iff]
  exact ⟨datagram, packet, sent, nonempty, starts, rfl, rfl, rfl, rfl⟩

theorem harmless_of_message {generated : GeneratedPacket} {kind : ServiceKind}
    {incoming : Incoming kind.slots} {action : ActionType} {other : KindType}
    {name label : SessionLabel}
    (message : incoming.message generated = .valid action other name label)
    (facts : action = .request ∨ other ≠ kind.protocol ∨ Incomplete incoming) :
    Harmless kind incoming := by
  obtain ⟨datagram, packet, sent, nonempty, starts, rfl, rfl, _, _⟩ :=
    (message_valid_iff generated incoming action other name label).mp message
  exact ⟨datagram, packet, sent, nonempty, starts, facts⟩

theorem offered_usable_iff (kind : ServiceKind) (incoming : Incoming kind.slots) (datagram : Text)
    (sent : incoming.datagram = some datagram) (other : KindType) (name label : SessionLabel) :
    validSessionRequest kind (offeredCapability kind name label
        (if other = kind.protocol then incoming.fds else List.replicate kind.slots (-1))) = true ↔
      other = kind.protocol ∧ ¬Incomplete incoming := by
  obtain ⟨two, small⟩ := kind.slots_bounds
  have positive : 0 < kind.slots := by omega
  rw [validSessionRequest_iff]
  by_cases same : other = kind.protocol
  · rw [if_pos same, fds_complete_iff incoming datagram sent positive small]
    simp [same]
  · rw [if_neg same]
    constructor
    · intro all
      have first := all 0 positive
      simp [positive] at first
    · rintro ⟨equal, _⟩
      exact (same equal).elim

theorem survives_own_iff (generated : GeneratedPacket) (kind : ServiceKind)
    (session : DispatcherSession) (initialized : session.initialized = true)
    (registered : valid session.dispatchFd = true) (incoming : Incoming kind.slots)
    (accepts : DispatcherCapability → Bool) :
    Survives generated kind session session.dispatchFd incoming accepts ↔
      Harmless kind incoming := by
  have passes := dispatchEvent_own generated kind session initialized registered incoming accepts
  cases message : incoming.message generated with
  | invalid =>
      simp only [Incoming.dispatch, message, Option.map_none, Option.map_eq_none_iff] at passes
      constructor
      · rintro ⟨dispatched, result, _⟩
        rw [passes] at result
        cases result
      · intro harmless
        obtain ⟨action, other, name, label, valid_, _⟩ := @harmless.message generated
        rw [message] at valid_
        cases valid_
  | valid action other name label =>
      simp only [Incoming.dispatch, message, Option.map_some, Option.map_eq_some_iff] at passes
      obtain ⟨dispatched, result, capability⟩ := passes
      obtain ⟨datagram, _, sent, _⟩ :=
        (message_valid_iff generated incoming action other name label).mp message
      have asked : IsRequest generated kind incoming ↔
          action = .request ∧ other = kind.protocol := by
        simp [IsRequest, message]
      have usable := offered_usable_iff kind incoming datagram sent other name label
      constructor
      · rintro ⟨other_, also, refuses⟩
        rw [result, Option.some.injEq] at also
        subst also
        apply harmless_of_message message
        by_cases request : action = .request ∧ other = kind.protocol
        · exact Or.inl request.1
        · have refused := refuses (by simp [asked, request]) _ capability
          rw [← Bool.not_eq_true, usable] at refused
          by_cases same : other = kind.protocol
          · exact Or.inr (Or.inr (by_contra fun complete => refused ⟨same, complete⟩))
          · exact Or.inr (Or.inl same)
      · intro harmless
        refine ⟨dispatched, result, ?_⟩
        intro unasked cap member
        rw [capability, Option.mem_some_iff] at member
        subst member
        obtain ⟨action', other', name', label', same, facts⟩ := @harmless.message generated
        rw [message, BrokerMessage.valid.injEq] at same
        obtain ⟨rfl, rfl, _, _⟩ := same
        rw [asked] at unasked
        rw [← Bool.not_eq_true, usable]
        rintro ⟨same, complete⟩
        rcases facts with request | different | incomplete
        · exact unasked ⟨rfl, request, same⟩
        · exact different same
        · exact complete incomplete

/-- Dispatching survives what arrives on the dispatch descriptor exactly if it parses, and is a
request or nothing that could be taken for one. -/
theorem dispatchEvent_survives_iff (generated : GeneratedPacket) (kind : ServiceKind)
    (session : DispatcherSession) (fd : Int) (incoming : Incoming kind.slots)
    (accepts : DispatcherCapability → Bool) :
    Survives generated kind session fd incoming accepts ↔
      (session.initialized = true → valid session.dispatchFd = true → fd = session.dispatchFd →
        Harmless kind incoming) := by
  by_cases running : session.initialized = true ∧ valid session.dispatchFd = true
  · obtain ⟨initialized, registered⟩ := running
    simp only [initialized, registered, forall_const]
    by_cases own : fd = session.dispatchFd
    · subst own
      rw [survives_own_iff generated kind session initialized registered]
      exact ⟨fun harmless _ => harmless, fun harmless => harmless rfl⟩
    · -- A client hung up: there is no message, and the capability carries no descriptor.
      have result : dispatchEvent generated kind session fd incoming accepts =
          some ⟨some ⟨-1, -1, -1, fd, .empty, .empty⟩, none⟩ := by
        simp [dispatchEvent, initialized, registered, own]
      refine ⟨fun _ same => (own same).elim, fun _ => ⟨_, result, ?_⟩⟩
      intro _ cap member
      simp only [Option.mem_def, Option.some.injEq] at member
      subst member
      cases kind <;> rfl
  · have idle : session.initialized = false ∨ valid session.dispatchFd = false := by
      rw [not_and_or] at running
      simpa using running
    have result : dispatchEvent generated kind session fd incoming accepts = some ⟨none, none⟩ := by
      simp [dispatchEvent, idle]
    constructor
    · intro _ initialized registered
      exact (running ⟨initialized, registered⟩).elim
    · intro _
      exact ⟨_, result, by simp⟩

/-! What ends a server, and what it takes for a request. -/

def logDispatcher : DispatcherSession := ⟨3, false, 4, 6, some 1, .invalid⟩

theorem valid_number (index : Nat) : valid (7 + index : Int) = true := by
  rw [valid_iff]
  omega

def unusedWords : List Int := [-1, -1]

theorem unusedWords_length : unusedWords.length = 2 := rfl

def incomingLog (datagram : Option Text) (attached : List Int) :
    Incoming ServiceKind.log.slots where
  datagram := datagram
  stale := Packet.Buffer.zero
  attached := attached
  numberOf index := 7 + index
  numbered := valid_number
  words := ⟨unusedWords, unusedWords_length⟩

def bareConfirm (kind : KindType) : Packet :=
  ⟨.confirm, kind, ⟨[], Nat.succ_pos 255⟩, ⟨[], Nat.succ_pos 255⟩⟩

/-- A failed receive, an empty datagram and a bad header fail a check, and a confirmation with two
descriptors passes for a valid request. -/
theorem dispatch_fails :
    (∀ datagram ∈ [none, some [], some [255, 1, 0, 0]],
      dispatchEvent referencePacket .log logDispatcher 6 (incomingLog datagram [])
          (fun _ => false) = none ∧
        ¬Survives referencePacket .log logDispatcher 6 (incomingLog datagram [])
          (fun _ => false)) ∧
      ¬Survives referencePacket .log logDispatcher 6
        (incomingLog (some (bareConfirm .log).encode) [8, 9]) (fun _ => false) := by
  constructor
  · have failed : ∀ datagram ∈ [none, some [], some [255, 1, 0, 0]],
        (dispatchEvent referencePacket .log logDispatcher 6 (incomingLog datagram [])
          (fun _ => false)).isNone = true := by
      decide +kernel
    intro datagram member
    have result := Option.isNone_iff_eq_none.mp (failed datagram member)
    refine ⟨result, ?_⟩
    rintro ⟨dispatched, survived, _⟩
    rw [result] at survived
    cases survived
  · have message : (incomingLog (some (bareConfirm .log).encode) [8, 9]).message referencePacket =
        .valid .confirm .log .empty .empty := by
      decide +kernel
    have passes : (dispatchEvent referencePacket .log logDispatcher 6
        (incomingLog (some (bareConfirm .log).encode) [8, 9]) (fun _ => false)).any
        (fun dispatched => dispatched.capability.any (validSessionRequest .log)) = true := by
      decide +kernel
    rintro ⟨dispatched, result, refuses⟩
    rw [result, Option.any_some, Option.any_eq_true] at passes
    obtain ⟨cap, passed, valid_⟩ := passes
    have refused := refuses (by simp [IsRequest, message]) cap passed
    rw [refused] at valid_
    cases valid_

end Gneiss.Component
