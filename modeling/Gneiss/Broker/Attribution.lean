import Gneiss.Broker.Ownership
import Gneiss.Platform.PacketChecks

/-!
Handling a message changes services only: which component sits in which slot, and what has been
handled so far, stays. Together with `Ownership` this attributes every message to the component that
holds the other end of the socket it came through.
-/

namespace Gneiss

open Descriptors Runs

variable {sxml : Sxml} {size : Nat}

structure Frame (before after : World sxml size) : Prop where
  xml : after.state.xml = before.state.xml
  resources : after.state.resources = before.state.resources
  control : ∀ index, (after.state.components index).fd = (before.state.components index).fd
  node : ∀ index, (after.state.components index).node = (before.state.components index).node
  service : ∀ index kind, serviceThere before.state index kind = true →
    (after.state.components index).serv kind = (before.state.components index).serv kind
  handled : after.handled = before.handled

theorem Frame.of_state {before after : World sxml size} (state : after.state = before.state)
    (handled : after.handled = before.handled) : Frame before after := by
  refine ⟨?_, ?_, ?_, ?_, ?_, handled⟩
  all_goals
    rw [state]
    try intros
    try rfl

theorem serviceThere_congr {before after : BrokerState sxml size} {index : Fin size}
    {kind : KindType}
    (same : (after.components index).serv kind = (before.components index).serv kind) :
    serviceThere after index kind = serviceThere before index kind := by
  simp only [serviceThere, stored, same]

theorem Frame.trans {first second third : World sxml size} (before : Frame first second)
    (after : Frame second third) : Frame first third where
  xml := after.xml.trans before.xml
  resources := after.resources.trans before.resources
  control index := (after.control index).trans (before.control index)
  node index := (after.node index).trans (before.node index)
  service index kind there := by
    have same := before.service index kind there
    exact (after.service index kind ((serviceThere_congr same).trans there)).trans same
  handled := after.handled.trans before.handled

theorem setServ_frame (world : World sxml size) (index : Fin size) (kind : KindType)
    (entry : ServiceEntry) (missing : serviceThere world.state index kind = false) :
    Frame world (world.setServ index kind entry) := by
  refine ⟨rfl, rfl, ?_, ?_, ?_, rfl⟩
  · intro other
    by_cases same : other = index
    · subst same
      simp [World.setServ, World.setComponent]
    · simp [World.setServ, World.setComponent, same]
  · intro other
    by_cases same : other = index
    · subst same
      simp [World.setServ, World.setComponent]
    · simp [World.setServ, World.setComponent, same]
  · intro other otherKind there
    by_cases same : other = index
    · subst same
      have elsewhere : otherKind ≠ kind := by
        rintro rfl
        rw [missing] at there
        cases there
      simp [World.setServ, World.setComponent, elsewhere]
    · simp [World.setServ, World.setComponent, same]

theorem setupService_frame (world : World sxml size) (index : Fin size) (kind : KindType)
    (outcome : Outcome) (paired : Paired world.state) :
    Frame world (setupService world index kind outcome).1 := by
  rcases setupService_cases world index kind outcome paired with
    ⟨_, same⟩ | ⟨broker, disp, missing, _, _, _, same⟩ | ⟨rest, _, _, undone, same⟩
  · rw [same]
    exact Frame.of_state rfl rfl
  · rw [same]
    have inserted : Frame world { world with
        table := ((world.table.insert broker).insert disp).watch broker true } :=
      Frame.of_state rfl rfl
    exact inserted.trans (setServ_frame _ index kind _ missing)
  · rw [same]
    exact Frame.of_state undone.state undone.handled

theorem processRequest_frame (world : World sxml size) (source : Fin size) (kind : KindType)
    (label : Text) (fds : List Int) (outcome : Outcome) (paired : Paired world.state) :
    Frame world (processRequest world source kind label fds outcome) := by
  apply processRequest_invariant (Frame world) world source kind label fds outcome paired
  · exact Frame.of_state rfl rfl
  · exact fun rest message undone => Frame.of_state undone.state undone.handled
  · exact fun created files message => Frame.of_state rfl rfl
  · intro index first second rest message ready
    have set := setupService_frame { world with
      table := (world.table.insert first).insert second
      seals := sealedBy world.seals kind fds } index kind outcome paired
    rw [ready] at set
    exact ⟨set.xml, set.resources, set.control, set.node, set.service, set.handled⟩

theorem processRegister_frame (world : World sxml size) (source : Fin size) (kind : KindType)
    (outcome : Outcome) (paired : Paired world.state) :
    Frame world (processRegister world source kind outcome) := by
  have set := setupService_frame world source kind outcome paired
  unfold processRegister
  rcases result : setupService world source kind outcome with ⟨rest, ready⟩
  rw [result] at set
  cases ready <;> exact ⟨set.xml, set.resources, set.control, set.node, set.service, set.handled⟩

theorem handleMessage_frame (world : World sxml size) (source : Fin size) (action : ActionType)
    (kind : KindType) (name label : Text) (fds : List Int) (outcome : Outcome)
    (paired : Paired world.state) :
    Frame world (handleMessage world source action kind name label fds outcome) := by
  apply handleMessage_invariant (Frame world)
  · exact Frame.of_state rfl rfl
  · exact fun _ => Frame.of_state rfl rfl
  · exact processRequest_frame world source kind label fds outcome paired
  · exact processRegister_frame world source kind outcome paired

/-! Reading a message records it under the component `Get_Dest` found. -/

def received (world : World sxml size) (delivery : Delivery) : List Int :=
  (world.table.receive delivery.fds).2

def admitted (world : World sxml size) (message : Handled size) (delivery : Delivery) :
    World sxml size :=
  { world with
    table := (world.table.receive delivery.fds).1
    handled := world.handled ++ [message] }

theorem readMessage_cases (generated : GeneratedPacket) (world : World sxml size)
    (index : Fin size) (delivery : Delivery) (outcome : Outcome) :
    (Packet.receive generated delivery.datagram delivery.stale = .invalid ∧
      readMessage generated world index delivery outcome =
        World.closeAll { world with table := (world.table.receive delivery.fds).1 }
          (received world delivery)) ∨
    ∃ action kind name label,
      Packet.receive generated delivery.datagram delivery.stale = .valid action kind name label ∧
      readMessage generated world index delivery outcome =
        handleMessage
          (admitted world ⟨index, action, kind, name.text, label.text, received world delivery⟩
            delivery)
          index action kind name.text label.text (received world delivery) outcome := by
  cases decoded : Packet.receive generated delivery.datagram delivery.stale with
  | invalid =>
      refine Or.inl ⟨rfl, ?_⟩
      simp only [readMessage, decoded]
      rfl
  | valid action kind name label =>
      refine Or.inr ⟨action, kind, name, label, rfl, ?_⟩
      simp only [readMessage, decoded]
      rfl

theorem readMessage_encode (generated : GeneratedPacket) (world : World sxml size)
    (index : Fin size) (delivery : Delivery) (outcome : Outcome) (packet : Packet)
    (encoded : delivery.datagram = some packet.encode) :
    readMessage generated world index delivery outcome =
      handleMessage
        (admitted world ⟨index, packet.action, packet.kind, packet.name.val, packet.label.val,
          received world delivery⟩ delivery)
        index packet.action packet.kind packet.name.val packet.label.val
        (received world delivery) outcome := by
  have decoded := Packet.receive_encode generated packet delivery.stale
  simp only [readMessage, encoded, decoded, Packet.ofPayload_text]
  rfl

theorem readMessage_source (generated : GeneratedPacket) (world : World sxml size)
    (index : Fin size) (delivery : Delivery) (outcome : Outcome) (paired : Paired world.state)
    (message : Handled size)
    (member : message ∈ (readMessage generated world index delivery outcome).handled) :
    message ∈ world.handled ∨ message.source = index := by
  rcases readMessage_cases generated world index delivery outcome with
    ⟨_, same⟩ | ⟨action, kind, name, label, _, same⟩
  · rw [same, World.closeAll_handled] at member
    exact Or.inl member
  · have frame := handleMessage_frame
      (admitted world ⟨index, action, kind, name.text, label.text, received world delivery⟩
        delivery)
      index action kind name.text label.text (received world delivery) outcome paired
    rw [same, frame.handled] at member
    rcases List.mem_append.mp member with before | last
    · exact Or.inl before
    · rw [List.mem_singleton] at last
      rw [last]
      exact Or.inr rfl

theorem hangUp_handled (world : World sxml size) (index : Fin size) (outcome : Outcome) :
    (hangUp world index outcome).handled = world.handled := by
  simp only [hangUp, World.setComponent, World.close_handled]
  split <;> rfl

def Owns (state : BrokerState sxml size) (index : Fin size) (fd : Int) : Prop :=
  valid fd = true ∧
    (stored state (.control index) = fd ∨ ∃ kind, stored state (.broker index kind) = fd)

theorem Ownership.owner_unique {world : World sxml size} (ownership : Ownership world) {fd : Int}
    {first second : Fin size} (firstOwns : Owns world.state first fd)
    (secondOwns : Owns world.state second fd) : first = second := by
  obtain ⟨open_, firstControl | ⟨firstKind, firstService⟩⟩ := firstOwns
  · rw [← firstControl] at open_ secondOwns
    obtain ⟨_, secondControl | ⟨secondKind, secondService⟩⟩ := secondOwns
    · have same := ownership.owned.distinct _ _ open_ secondControl.symm
      rwa [Place.control.injEq] at same
    · have impossible := ownership.owned.distinct _ _ open_ secondService.symm
      cases impossible
  · rw [← firstService] at open_ secondOwns
    obtain ⟨_, secondControl | ⟨secondKind, secondService⟩⟩ := secondOwns
    · have impossible := ownership.owned.distinct _ _ open_ secondControl.symm
      cases impossible
    · have same := ownership.owned.distinct _ _ open_ secondService.symm
      rw [Place.broker.injEq] at same
      exact same.1

theorem getDest_owns (state : BrokerState sxml size) (fd : Int) (index : Fin size)
    (found : getDest state fd = some index) : Owns state index fd := by
  unfold getDest at found
  split at found
  · cases found
  · rename_i open_
    have holds := List.find?_some found
    simp only [Bool.or_eq_true, decide_eq_true_eq] at holds
    refine ⟨by simpa using open_, ?_⟩
    rcases holds with control | ⟨kind, _, service⟩
    · exact Or.inl control
    · exact Or.inr ⟨kind, service⟩

theorem getDest_of_owns (state : BrokerState sxml size) (fd : Int) (index : Fin size)
    (owns : Owns state index fd) : ∃ other, getDest state fd = some other := by
  unfold getDest
  rw [if_neg (by simp [owns.1])]
  rw [← Option.isSome_iff_exists, List.find?_isSome]
  refine ⟨index, List.mem_finRange index, ?_⟩
  simp only [Bool.or_eq_true, decide_eq_true_eq]
  rcases owns.2 with control | ⟨kind, service⟩
  · exact Or.inl control
  · exact Or.inr ⟨kind, by cases kind <;> simp, service⟩

theorem Ownership.getDest_iff {world : World sxml size} (ownership : Ownership world) (fd : Int)
    (index : Fin size) : getDest world.state fd = some index ↔ Owns world.state index fd := by
  constructor
  · exact getDest_owns world.state fd index
  · intro owns
    obtain ⟨other, found⟩ := getDest_of_owns world.state fd index owns
    rw [found, ownership.owner_unique owns (getDest_owns _ _ _ found)]

theorem Ownership.step_source {world : World sxml size} (ownership : Ownership world)
    (generated : GeneratedPacket) (input : Input) (holder : Fin size)
    (peer : (input.fd, holder) ∈ world.peers) (message : Handled size)
    (member : message ∈ (Gneiss.eventLoopStep generated world input).handled) :
    message ∈ world.handled ∨ message.source = holder := by
  rcases eventLoopStep_cases generated world input with
    same | ⟨index, middle, _, found, _, read, same⟩
  · rw [same] at member
    exact Or.inl member
  · have owner : index = holder :=
      ownership.owner_unique ((ownership.getDest_iff _ _).mp found)
        (ownership.attributed _ peer)
    have recorded : message ∈ middle.handled := by
      rcases same with same | same
      · rwa [same] at member
      · rwa [same, hangUp_handled] at member
    rcases read with rfl | rfl
    · exact Or.inl recorded
    · rw [← owner]
      exact readMessage_source generated world index input.delivery input.outcome ownership.paired
        message recorded

/-- Every reachable world keeps its descriptors apart, so a message is always handled in the name
of the component that holds the other end of the socket it was read from. -/
theorem reachable_descriptors_owned (generated : GeneratedPacket) (world : World sxml size)
    (reachable : Reachable generated world) :
    (∀ index kind,
      (valid ((world.state.components index).serv kind).broker = true ∧
        valid ((world.state.components index).serv kind).disp = true) ∨
      (world.state.components index).serv kind = ⟨-1, -1⟩) ∧
    (∀ index kind, valid ((world.state.components index).serv kind).broker = true →
      ((world.state.components index).serv kind).broker ∈ world.table.watched) ∧
    (∀ place, valid (stored world.state place) = true →
      stored world.state place ∈ world.table.opened ∧
        ∀ other, other ≠ place → stored world.state other ≠ stored world.state place) ∧
    (∀ fd index, getDest world.state fd = some index ↔ Owns world.state index fd) ∧
    (∀ fd first second, Owns world.state first fd → Owns world.state second fd →
      first = second) ∧
    (∀ fd holder, (fd, holder) ∈ world.peers → getDest world.state fd = some holder) ∧
    ∀ input holder, (input.fd, holder) ∈ world.peers →
      ∀ message ∈ (eventLoopStep generated world input).handled,
        message ∈ world.handled ∨ message.source = holder := by
  have ownership := reachable_ownership generated world reachable
  refine ⟨?_, ownership.watched, ?_, ownership.getDest_iff, ?_, ?_, ?_⟩
  · intro index kind
    rcases ownership.paired index kind with both | ⟨broker, disp⟩
    · exact Or.inl both
    · refine Or.inr (ownership.paired.absent ?_)
      simp [serviceThere, broker]
  · intro place open_
    refine ⟨ownership.owned.opened place open_, ?_⟩
    intro other different equal
    exact different (ownership.owned.distinct place other open_ equal.symm).symm
  · exact fun fd first second => ownership.owner_unique
  · intro fd holder peer
    exact (ownership.getDest_iff fd holder).mpr (ownership.attributed _ peer)
  · exact fun input holder peer => ownership.step_source generated input holder peer

/-! The server has registered its message service, for which 10 is the broker's end, and confirms a
session there. -/

def registeredWorld : World xmlTree 2 :=
  eventLoop referencePacket sampleWorld [readable 6 ⟨.register, .message, noText, noText⟩ (-1)]

def confirmation : Input := readable 10 ⟨.confirm, .message, clientName, noText⟩ 12

theorem sample_descriptors_owned :
    (10, (1 : Fin 2)) ∈ registeredWorld.peers ∧ getDest registeredWorld.state 10 = some 1 ∧
      10 ∈ registeredWorld.table.watched ∧
      (eventLoopStep referencePacket registeredWorld confirmation).handled.length = 2 ∧
      ∀ message ∈ (eventLoopStep referencePacket registeredWorld confirmation).handled,
        message ∈ registeredWorld.handled ∨ message.source = 1 := by
  have peer : (10, (1 : Fin 2)) ∈ registeredWorld.peers := by
    decide +kernel
  have broker : ((registeredWorld.state.components 1).serv .message).broker = 10 := by
    decide +kernel
  obtain ⟨_, watched, _, _, _, attributed, sources⟩ :=
    reachable_descriptors_owned referencePacket registeredWorld
      (reachable_eventLoop (sample_reachable referencePacket) _)
  refine ⟨peer, attributed 10 1 peer, ?_, by decide +kernel, sources confirmation 1 peer⟩
  rw [← broker]
  exact watched 1 .message (by rw [broker]; rfl)

end Gneiss
