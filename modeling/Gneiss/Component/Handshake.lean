import Gneiss.Broker.Admission
import Gneiss.Component.Atomicity

/-!
How a session comes about on Linux, across the three processes: the client's `Initialize` asks the
broker, the broker makes a pair of sockets and asks the server, the server's dispatcher offers the
request to the component, and the confirmation goes back the same way. A descriptor that travels
with a message gets a new number in the receiving process and still refers to the same open file.
-/

namespace Gneiss.Handshake

open Descriptors
open Component (Answers Capability ClientRecord DispatcherCapability DispatcherSession Incoming
  Process ServiceKind SessionKind)

variable {sxml : Sxml} {size : Nat}

/-- The datagram that `Packet.Send` makes of a message arrives, with its descriptors. -/
structure Delivers {num : Nat} (generated : GeneratedPacket) (message : Sent)
    (incoming : Incoming num) : Prop where
  datagram : ∃ name label sending, name.text = message.name ∧ label.text = message.label ∧
    incoming.datagram = some (Packet.send generated message.action message.kind name label sending)
  attached : incoming.attached = message.fds

/-- The open files of two processes after descriptors went from one to the other. -/
def Passes {File : Type} (sender : Int → File) (fds : List Int) (receiver : Int → File)
    (numberOf : Nat → Int) : Prop :=
  ∀ slot < fds.length, receiver (numberOf slot) = sender (fds.getD slot (-1))

theorem Delivers.message {num : Nat} {generated : GeneratedPacket} {message : Sent}
    {incoming : Incoming num} (delivers : Delivers generated message incoming) :
    ∃ name label, incoming.message generated = .valid message.action message.kind name label ∧
      name.text = message.name ∧ label.text = message.label := by
  obtain ⟨name, label, sending, sameName, sameLabel, datagram⟩ := delivers.datagram
  refine ⟨Packet.ofPayload (Packet.toPayload name), Packet.ofPayload (Packet.toPayload label), ?_,
    ?_, ?_⟩
  · rw [Incoming.message, datagram, Packet.send_eq, Packet.receive_encode]
  · rw [Packet.ofPayload_text]
    exact sameName
  · rw [Packet.ofPayload_text]
    exact sameLabel

theorem Delivers.slot {num : Nat} {generated : GeneratedPacket} {message : Sent}
    {incoming : Incoming num} (delivers : Delivers generated message incoming) (slot : Nat)
    (bound : slot < num) (sent : slot < message.fds.length) :
    incoming.fds.getD slot (-1) = incoming.numberOf slot := by
  obtain ⟨_, _, _, _, _, datagram⟩ := delivers.datagram
  have some_ : 0 < incoming.attached.length := by
    rw [delivers.attached]
    omega
  simp only [Incoming.fds, datagram]
  rw [List.getD_eq_getElem?_getD, Syscall.readMessage_slot num incoming.attached
    incoming.numberOf incoming.words slot bound some_, Option.getD_some, delivers.attached,
    if_pos sent]

/-! From the client to the broker. -/

/-- The message that the broker makes of a client's request. -/
def asked (source : Fin size) (kind : KindType) (label : Text) (fds : List Int) : Handled size :=
  ⟨source, .request, kind, [], label, fds⟩

/-- `Client.Initialize` of a component has written its request, and the broker is about to read
it. -/
def Asks (generated : GeneratedPacket) (world : World sxml size) (source : Fin size)
    (kind : KindType) (label : Text) (input : Input) : Prop :=
  SendsBack generated world source .request ⟨-1, .request, kind, [], label, []⟩ input

theorem Asks.received {generated : GeneratedPacket} {world : World sxml size}
    {source : Fin size} {kind : KindType} {label : Text} {input : Input}
    (asks : Asks generated world source kind label input) :
    Received generated world input (asked source kind label (received world input.delivery)) :=
  incoming_some asks.incoming

theorem request_forwarded {generated : GeneratedPacket} {world : World sxml size}
    (reachable : Reachable generated world) {source : Fin size} {kind : ServiceKind} {label : Text}
    {input : Input} (asks : Asks generated world source kind.protocol label input)
    (granted : Granted (admitted world
      (asked source kind.protocol label (received world input.delivery)) input.delivery)
      source kind.protocol label (received world input.delivery) input.outcome) :
    ∃ index name first second destination,
      Configured world.state source kind.protocol label index ∧
        componentName world.state source = some name ∧
        input.outcome.session = some (first, second) ∧
        (eventLoopStep generated world input).sent = world.sent ++
          [⟨destination, .request, kind.protocol, name, label,
            first :: second :: attached kind.protocol (received world input.delivery)⟩] := by
  have came := asks.received
  have paired := (reachable_ownership generated world reachable).paired
  have identified := reachable_identified generated world reachable
  have short : ¬256 ≤ label.length := by
    have bound : label.length ≤ 255 := came.shortLabel
    omega
  have handled : handling world input
      (asked source kind.protocol label (received world input.delivery)) =
      processRequest (admitted world
        (asked source kind.protocol label (received world input.delivery)) input.delivery)
        source kind.protocol label (received world input.delivery) input.outcome := by
    simp only [handling, asked, handleMessage]
    exact if_neg short
  have answer : Answer (admitted world
      (asked source kind.protocol label (received world input.delivery)) input.delivery)
      source kind.protocol label (received world input.delivery) input.outcome _ :=
    processRequest_answer paired came.live
  rw [came.sent, handled]
  generalize processRequest _ _ _ _ _ _ = after at answer
  cases answer with
  | silent _ refused => exact (refused granted).elim
  | rejected _ _ refused _ => exact (refused granted).elim
  | confirmed _ _ _ _ own _ => cases kind <;> rcases own with own | own <;> cases own
  | forwarded service index name first second rest _ _ resolved _ offered _ ready =>
      obtain ⟨configured, read⟩ := configured_of_resolve resolved
      have live : Live world.state source := came.live
      obtain ⟨other, named, _, same⟩ := identified.named live
      have sent := setupService_sent ready paired
      refine ⟨index, name, first, second, stored rest.state (.broker index kind.protocol),
        configured, ?_, offered, ?_⟩
      · have equal := same.symm.trans read
        rw [Prod.mk.injEq] at equal
        rw [named, equal.2]
      · exact congrArg (· ++ [_]) sent

/-! From the broker to the server. -/

theorem request_dispatched {generated : GeneratedPacket} {kind : ServiceKind} {request : Sent}
    (ofKind : request.kind = kind.protocol) (whole : request.fds.length = kind.slots)
    {incoming : Incoming kind.slots} (delivers : Delivers generated request incoming)
    (session : DispatcherSession) (initialized : session.initialized = true)
    (registered : valid session.dispatchFd = true) :
    ∃ cap : DispatcherCapability,
      (∀ accepts : DispatcherCapability → Bool, accepts cap = true →
        Component.dispatchEvent generated kind session session.dispatchFd incoming accepts =
          some ⟨some cap, none⟩) ∧
      Component.validSessionRequest kind cap = true ∧
      cap.name.text = request.name ∧ cap.label.text = request.label ∧
      cap.clientFd = incoming.numberOf 0 ∧ cap.serverFd = incoming.numberOf 1 ∧
      (kind = .memory → cap.memfd = incoming.numberOf 2) := by
  obtain ⟨name, label, message, sameName, sameLabel⟩ := delivers.message
  have slots (slot : Nat) (bound : slot < kind.slots) :
      incoming.fds.getD slot (-1) = incoming.numberOf slot :=
    delivers.slot slot bound (by omega)
  have two : 2 ≤ kind.slots := by cases kind <;> simp [Component.ServiceKind.slots]
  have dispatched : incoming.dispatch generated kind.protocol =
      some (name, label, incoming.fds) := by
    simp only [Incoming.dispatch, message, ofKind, if_true]
  refine ⟨Component.offeredCapability kind name label incoming.fds, ?_, ?_, sameName, sameLabel,
    slots 0 (by omega), slots 1 (by omega), ?_⟩
  · intro accepts accepted
    have running : ¬(session.initialized = false ∨ valid session.dispatchFd = false) := by
      simp [initialized, registered]
    simp only [Component.dispatchEvent, if_neg running, if_true, dispatched, Option.bind_eq_bind,
      Option.bind_some, accepted]
  · rw [Component.validSessionRequest_iff]
    intro slot bound
    rw [slots slot bound]
    exact incoming.numbered slot
  · intro memory
    subst memory
    exact slots 2 (by decide)

/-! From the server back to the client. -/

theorem confirm_returned {generated : GeneratedPacket} {world : World sxml size}
    (identified : Identified world.state) {server source : Fin size} {request : Sent}
    {kind : ServiceKind} (ofKind : request.kind = kind.protocol) {input : Input}
    (confirms : SendsBack generated world server .confirm request input)
    (named : request.name ≠ []) (first : FirstLive world.state request.name source)
    (short : request.name.length + request.label.length < 256) (fd : Int)
    (arrived : (received world input.delivery).headD (-1) = fd) (open_ : valid fd = true) :
    (eventLoopStep generated world input).sent = world.sent ++
      [⟨(world.state.components source).fd, .confirm, request.kind, [], request.label, [fd]⟩] := by
  have came := incoming_some confirms.incoming
  have found : findComponentByName world.state request.name = some source :=
    (identified.findComponentByName_iff request.name source).mpr ⟨named, first⟩
  have fits : ¬256 ≤ request.name.length + request.label.length := by omega
  rw [came.sent]
  simp only [handling, handleMessage]
  rw [if_neg fits]
  rcases processConfirm_cases (admitted world ⟨server, .confirm, request.kind, request.name,
      request.label, received world input.delivery⟩ input.delivery) request.kind request.name
      request.label (received world input.delivery) with
    ⟨unanswered, _⟩ | ⟨target, search, _, _, ⟨_, same⟩ | ⟨closed, _⟩⟩
  · exfalso
    rcases unanswered with missing | rom | timer
    · cases missing.symm.trans found
    · rw [ofKind] at rom
      cases kind <;> cases rom
    · rw [ofKind] at timer
      cases kind <;> cases timer
  · have equal : target = source := Option.some.inj (search.symm.trans found)
    rw [same, equal, arrived]
    rfl
  · rw [arrived, open_] at closed
    cases closed

theorem reply_received {generated : GeneratedPacket} {confirm : Sent} {kind : KindType}
    (ofKind : confirm.kind = kind) (single : confirm.fds.length = 1) {answer : Incoming 1}
    (delivers : Delivers generated confirm answer) (process : Process) (label : Text)
    (short : label.length ≤ 255) :
    Component.requestDescriptor generated process kind label answer =
      some (process.install [answer.numberOf 0], answer.numberOf 0) := by
  obtain ⟨name, sentLabel, message, _, _⟩ := delivers.message
  obtain ⟨_, _, _, _, _, datagram⟩ := delivers.datagram
  have slot := delivers.slot 0 (by omega) (by omega)
  have head : answer.fds.headD (-1) = answer.numberOf 0 := by
    rw [← slot, List.headD_eq_head?_getD, List.head?_eq_getElem?, List.getD_eq_getElem?_getD]
  have installed : answer.arrived = [answer.numberOf 0] := by
    simp only [Incoming.arrived, datagram, Syscall.arrived_eq, delivers.attached, single]
    rfl
  rw [Component.requestDescriptor_eq generated process kind label short answer, installed, head,
    if_pos (by simp [Incoming.isOf, message, ofKind])]

def clientKind : ServiceKind → SessionKind
  | .message bufferSize => .message bufferSize
  | .log => .log
  | .memory => .memory

/-- The descriptor over which a client session and its server talk. -/
def connection (kind : ServiceKind) (session : ClientRecord) : Int :=
  match kind with
  | .memory => session.sigfd
  | _ => session.fd

theorem initialize_connected {generated : GeneratedPacket} {kind : ServiceKind} {process : Process}
    (session : ClientRecord) (unused : session.initialized (clientKind kind) = false)
    (cap : Capability) (label : Text) (index number : Nat) (answers : Answers process)
    (requests : Component.Requests (clientKind kind) label answers) (added : answers.added = true)
    {confirm : Sent} (ofKind : confirm.kind = kind.protocol) (single : confirm.fds.length = 1)
    (delivers : Delivers generated confirm answers.reply) :
    ∃ after session', Component.initializeSession generated process session cap label index answers
        (clientKind kind) number = some (after, session') ∧
      session'.initialized (clientKind kind) = true ∧
      connection kind session' = answers.reply.numberOf 0 := by
  obtain ⟨short, prepared⟩ := requests
  have open_ := answers.reply.numbered 0
  have notInvalid : ¬valid (answers.reply.numberOf 0) = false := by simp [open_]
  have notNegative := nonneg_of_valid open_
  have received (process : Process) := reply_received ofKind single delivers process label short
  cases kind with
  | message bufferSize =>
      obtain rfl : bufferSize = 128 * 8 := prepared
      have goes : ¬(session.initialized (.message (128 * 8)) = true ∨ 255 < label.length ∨
          128 * 8 ≠ 128 * 8) := by
        have idle : session.initialized (.message (128 * 8)) = false := unused
        rw [idle]
        simp [short]
      have result : Component.initializeMessage generated process session cap label index answers
          (128 * 8) number = some (Component.concludeWatched session cap index
            ⟨.message (128 * 8), number⟩ label answers.added
            (process.install [answers.reply.numberOf 0]) (answers.reply.numberOf 0)) := by
        rw [Component.initializeMessage, if_neg goes]
        exact congrArg (Option.map _) (received process)
      simp only [Component.concludeWatched, if_neg notInvalid, added, Bool.true_eq_false,
        if_false] at result
      refine ⟨_, _, result, ?_, rfl⟩
      simp [clientKind, ClientRecord.initialized, open_, cap.efdValid, Component.EventCap.valid,
        Component.clientCap, Component.EventCap.create]
  | log =>
      have goes : ¬(session.initialized .log = true ∨ 255 < label.length) := by
        have idle : session.initialized .log = false := unused
        rw [idle]
        simp [short]
      have result : Component.initializeLog generated process session label answers =
          some (Component.concludeLog session label (process.install [answers.reply.numberOf 0])
            (answers.reply.numberOf 0)) := by
        rw [Component.initializeLog, if_neg goes]
        exact congrArg (Option.map _) (received process)
      simp only [Component.concludeLog, if_neg notNegative] at result
      exact ⟨_, _, result, open_, rfl⟩
  | memory =>
      obtain ⟨made, mapped⟩ := prepared
      obtain ⟨memfd, created⟩ := Option.isSome_iff_exists.mp made
      obtain ⟨address, map⟩ := Option.isSome_iff_exists.mp mapped
      obtain ⟨valid_, new, _⟩ := answers.memfdFresh memfd created
      have goes : ¬(session.initialized .memory = true ∨ 255 < label.length) := by
        have idle : session.initialized .memory = false := unused
        rw [idle]
        simp [short]
      have allocated :
          process.table.allocate answers.memfd = (process.table.insert memfd, memfd) := by
        rw [created]
        exact if_pos ((fresh_iff _ _).mpr ⟨valid_, new⟩)
      let prepared := { session with fd := memfd, map := answers.map }
      let mapping := Process.mmap { process with table := process.table.insert memfd } answers.map
      have result : Component.initializeMemory generated process session label index answers =
          some (Component.concludeMemory prepared index
            (mapping.install [answers.reply.numberOf 0]) (answers.reply.numberOf 0)) := by
        rw [Component.initializeMemory, if_neg goes]
        simp only [allocated, valid_, map, Bool.true_eq_false, if_false, reduceCtorEq]
        rw [← map]
        exact congrArg (Option.map _) (received mapping)
      simp only [Component.concludeMemory, if_neg notNegative] at result
      refine ⟨_, _, result, ?_, rfl⟩
      simp [clientKind, ClientRecord.initialized, valid_, prepared, map]

theorem Passes.first {File : Type} {sender receiver : Int → File} {fd : Int} {rest : List Int}
    {numberOf : Nat → Int} (passes : Passes sender (fd :: rest) receiver numberOf) :
    receiver (numberOf 0) = sender fd :=
  passes 0 (Nat.succ_pos _)

theorem slots_attached (kind : ServiceKind) (first second : Int) (fds : List Int) :
    (first :: second :: attached kind.protocol fds).length = kind.slots := by
  cases kind <;> rfl

def offeredRequest : Incoming 2 where
  datagram := some (Packet.encode ⟨.request, .message, clientName, shortLabel⟩)
  stale := Packet.Buffer.zero
  attached := [8, 9]
  numberOf index := 7 + index
  numbered := Component.valid_number
  words := ⟨Component.unusedWords, Component.unusedWords_length⟩

def sampleDispatcher : DispatcherSession := ⟨3, false, 4, 5, some 1, .invalid⟩

theorem short_granted :
    Granted (admitted sampleWorld
      (asked 0 .message shortLabel.val (received sampleWorld (messageRequest shortLabel).delivery))
      (messageRequest shortLabel).delivery) 0 .message shortLabel.val
      (received sampleWorld (messageRequest shortLabel).delivery)
      (messageRequest shortLabel).outcome := by
  have selected : (resolve sampleWorld.state 0 .message shortLabel.val).map (·.2) =
      some (.component 1, ascii "client") := by
    decide +kernel
  obtain ⟨⟨service, destination, name⟩, resolved, same⟩ := Option.map_eq_some_iff.mp selected
  cases same
  refine ⟨service, .component 1, ascii "client", resolved, 8, 9, rfl, ?_, Or.inr ⟨rfl, ?_⟩⟩
  · decide +kernel
  · intro refused
    have granted := refused 10 11 rfl
    revert granted
    decide +kernel

theorem short_later :
    eventLoop referencePacket (eventLoopStep referencePacket sampleWorld
      (messageRequest shortLabel)) [] = requestedWorld shortLabel := by
  simp only [requestedWorld, eventLoop, Runs.run]

theorem short_reachable : Reachable referencePacket (requestedWorld shortLabel) := by
  have reached := reachable_eventLoop (sample_reachable referencePacket)
    [messageRequest shortLabel]
  rw [requestedWorld]
  simpa only [eventLoop, Runs.run] using reached

theorem short_first : FirstLive (requestedWorld shortLabel).state (ascii "client") 0 := by
  rw [requestedWorld_eq]
  refine ⟨?_, ?_, fun earlier before => (Nat.not_lt_zero _ before).elim⟩
  · unfold Live
    decide +kernel
  · decide +kernel

theorem short_arrived :
    (received (requestedWorld shortLabel) (messageConfirm shortLabel).delivery).headD (-1) =
      20 := by
  rw [requestedWorld_eq]
  decide +kernel

theorem short_confirmed :
    (eventLoopStep referencePacket (requestedWorld shortLabel) (messageConfirm shortLabel)).sent =
      (requestedWorld shortLabel).sent ++
        [⟨4, .confirm, .message, [], shortLabel.val, [20]⟩] := by
  have identified : Identified (requestedWorld shortLabel).state :=
    reachable_identified referencePacket _ short_reachable
  have control : ((requestedWorld shortLabel).state.components 0).fd = 4 := by
    rw [requestedWorld_eq]
    decide +kernel
  have returned := confirm_returned identified (rfl : _ = ServiceKind.protocol (.message (128 * 8)))
    short_sendsBack (by decide) short_first (by decide) 20 short_arrived rfl
  rw [control] at returned
  exact returned

end Gneiss.Handshake
