import Gneiss.Broker.Routing

/-!
One iteration of the event loop as an exchange of messages: `incoming` is the message it handles,
and the lemmas below say what it sends in return. Requests are answered or routed, replies go to the
component they name.
-/

namespace Gneiss

open Descriptors Runs

variable {sxml : Sxml} {size : Nat}

def incoming (generated : GeneratedPacket) (world : World sxml size) (input : Input) :
    Option (Handled size) :=
  if input.fd ∈ world.table.watched then
    match getDest world.state input.fd with
    | none => none
    | some index =>
        if valid (world.state.components index).fd && (input.event.epollIn && valid input.fd) then
          match Packet.receive generated input.delivery.datagram input.delivery.stale with
          | .invalid => none
          | .valid action kind name label =>
              some ⟨index, action, kind, name.text, label.text, received world input.delivery⟩
        else none
  else none

def handling (world : World sxml size) (input : Input) (message : Handled size) :
    World sxml size :=
  handleMessage (admitted world message input.delivery) message.source message.action message.kind
    message.name message.label message.fds input.outcome

theorem hangUp_sent (world : World sxml size) (index : Fin size) (outcome : Outcome) :
    (hangUp world index outcome).sent = world.sent := by
  simp only [hangUp, World.setComponent, World.close_sent]
  split <;> rfl

/-! The second half of an iteration, which may drop the component. -/

def settle (world : World sxml size) (index : Fin size) (input : Input) : World sxml size :=
  if (input.event.epollHup || input.event.epollRdhup) = true then
    hangUp world index input.outcome
  else world

theorem settle_sent (world : World sxml size) (index : Fin size) (input : Input) :
    (settle world index input).sent = world.sent := by
  unfold settle
  split
  · exact hangUp_sent world index input.outcome
  · rfl

theorem settle_handled (world : World sxml size) (index : Fin size) (input : Input) :
    (settle world index input).handled = world.handled := by
  unfold settle
  split
  · exact hangUp_handled world index input.outcome
  · rfl

theorem settle_persists (world : World sxml size) (index : Fin size) (input : Input) :
    Persists world (settle world index input) := by
  unfold settle
  split
  · exact hangUp_persists world index input.outcome
  · exact Persists.refl world

theorem eventLoopStep_settles {generated : GeneratedPacket} {world : World sxml size}
    {input : Input} {index : Fin size} (watched : input.fd ∈ world.table.watched)
    (found : getDest world.state input.fd = some index)
    (live : valid (world.state.components index).fd = true) :
    eventLoopStep generated world input =
      settle (if (input.event.epollIn && valid input.fd) = true then
        readMessage generated world index input.delivery input.outcome else world) index input := by
  simp only [eventLoopStep, watched, ↓reduceIte, iteration, found, live, settle]

theorem incoming_none {generated : GeneratedPacket} {world : World sxml size} {input : Input}
    (nothing : incoming generated world input = none) :
    (eventLoopStep generated world input).sent = world.sent ∧
      (eventLoopStep generated world input).handled = world.handled := by
  rcases eventLoopStep_cases generated world input with
    same | ⟨index, _, watched, found, live, _⟩
  · rw [same]
    exact ⟨rfl, rfl⟩
  · rw [eventLoopStep_settles watched found live, settle_sent, settle_handled]
    simp only [incoming, watched, ↓reduceIte, found, live, Bool.true_and] at nothing
    split
    · rename_i reads
      rw [if_pos reads] at nothing
      rcases readMessage_cases generated world index input.delivery input.outcome with
        ⟨_, same⟩ | ⟨action, kind, name, label, decoded, _⟩
      · rw [same, World.closeAll_sent, World.closeAll_handled]
        exact ⟨rfl, rfl⟩
      · rw [decoded] at nothing
        cases nothing
    · exact ⟨rfl, rfl⟩

structure Received (generated : GeneratedPacket) (world : World sxml size) (input : Input)
    (message : Handled size) : Prop where
  found : getDest world.state input.fd = some message.source
  live : Live world.state message.source
  shortName : message.name.length ≤ 255
  shortLabel : message.label.length ≤ 255
  reads : readMessage generated world message.source input.delivery input.outcome =
    handling world input message
  settles : eventLoopStep generated world input =
    settle (handling world input message) message.source input

theorem incoming_some {generated : GeneratedPacket} {world : World sxml size} {input : Input}
    {message : Handled size} (came : incoming generated world input = some message) :
    Received generated world input message := by
  unfold incoming at came
  split at came
  · rename_i watched
    split at came
    · cases came
    · rename_i index found
      split at came
      · rename_i ready
        obtain ⟨live, reads⟩ := Bool.and_eq_true_iff.mp ready
        rcases readMessage_cases generated world index input.delivery input.outcome with
          ⟨invalid, _⟩ | ⟨action, kind, name, label, decoded, same⟩
        · rw [invalid] at came
          cases came
        · rw [decoded] at came
          simp only [Option.some.injEq] at came
          subst came
          refine ⟨found, live, ?_, ?_, same, ?_⟩
          · rw [Packet.text_length]
            exact name.fits
          · rw [Packet.text_length]
            exact label.fits
          · rw [eventLoopStep_settles watched found live, if_pos reads, same]
            rfl
      · cases came
  · cases came

theorem eventLoopStep_readable {generated : GeneratedPacket} {world : World sxml size}
    {fd attachment : Int} {packet : Packet} {index : Fin size}
    (watched : fd ∈ world.table.watched) (found : getDest world.state fd = some index)
    (live : Live world.state index) :
    eventLoopStep generated world (readable fd packet attachment) =
      handling world (readable fd packet attachment) ⟨index, packet.action, packet.kind,
        packet.name.val, packet.label.val, received world (delivering packet attachment)⟩ := by
  have open_ := (getDest_owns _ _ _ found).1
  have step : eventLoopStep generated world (readable fd packet attachment) =
      settle (if (true && valid fd) = true then
        readMessage generated world index (delivering packet attachment) sampleOutcome
        else world) index (readable fd packet attachment) :=
    eventLoopStep_settles watched found live
  rw [step, open_, Bool.and_self, if_pos rfl,
    readMessage_encode generated world index (delivering packet attachment) sampleOutcome packet
      rfl]
  rfl

theorem Received.sent {generated : GeneratedPacket} {world : World sxml size} {input : Input}
    {message : Handled size} (came : Received generated world input message) :
    (eventLoopStep generated world input).sent = (handling world input message).sent := by
  rw [came.settles, settle_sent]

theorem Received.handled {generated : GeneratedPacket} {world : World sxml size} {input : Input}
    {message : Handled size} (came : Received generated world input message)
    (paired : Paired world.state) :
    (eventLoopStep generated world input).handled = world.handled ++ [message] := by
  rw [came.settles, settle_handled]
  exact (handleMessage_frame (admitted world message input.delivery) message.source message.action
    message.kind message.name message.label message.fds input.outcome paired).handled

theorem Received.ownership {generated : GeneratedPacket} {world : World sxml size} {input : Input}
    {message : Handled size} (came : Received generated world input message)
    (ownership : Ownership world) : Ownership (handling world input message) := by
  rw [← came.reads]
  exact ownership.readMessage generated message.source input.delivery input.outcome

theorem Received.persists {generated : GeneratedPacket} {world : World sxml size} {input : Input}
    {message : Handled size} (came : Received generated world input message) :
    Persists (handling world input message) (eventLoopStep generated world input) := by
  rw [came.settles]
  exact settle_persists (handling world input message) message.source input

/-! What a request leads to, and what a reply leads to. -/

theorem Received.request {generated : GeneratedPacket} {world : World sxml size} {input : Input}
    {message : Handled size} (came : Received generated world input message)
    (paired : Paired world.state) (identified : Identified world.state)
    (isRequest : message.action = .request) :
    ∃ messages, (eventLoopStep generated world input).sent = world.sent ++ messages ∧
      messages.length ≤ 1 ∧ ∀ sent ∈ messages,
        (sent.action ≠ .request ∧
          sent.destination = (world.state.components message.source).fd) ∨
        Routed (admitted world message input.delivery) message.source message.kind message.label
          message.fds input.outcome (handling world input message) sent := by
  have short := came.shortLabel
  have admits : handling world input message =
      processRequest (admitted world message input.delivery) message.source message.kind
        message.label message.fds input.outcome := by
    simp only [handling, isRequest, handleMessage]
    rw [if_neg (by omega)]
  have answer : Answer (admitted world message input.delivery) message.source message.kind
      message.label message.fds input.outcome _ :=
    processRequest_answer paired came.live
  rw [came.sent, admits]
  exact answer.routed paired identified came.live

def replyTarget (state : BrokerState sxml size) (message : Handled size) : Option (Fin size) :=
  if 256 ≤ message.name.length + message.label.length then none
  else if message.action = .confirm ∧ (message.kind = .rom ∨ message.kind = .timer) then none
  else findComponentByName state message.name

def isReply (action : ActionType) : Prop := action = .confirm ∨ action = .reject

theorem confirm_sent (world : World sxml size) (input : Input) (message : Handled size)
    (confirms : message.action = .confirm) :
    (replyTarget world.state message = none ∧
      (handling world input message).sent = world.sent) ∨
    ∃ target sent, replyTarget world.state message = some target ∧
      (handling world input message).sent = world.sent ++ [sent] ∧
      sent.destination = (world.state.components target).fd ∧ isReply sent.action ∧
      sent.kind = message.kind ∧ sent.label = message.label := by
  simp only [handling, confirms, handleMessage, replyTarget]
  split
  · exact Or.inl ⟨rfl, rfl⟩
  · rcases processConfirm_cases (admitted world message input.delivery) message.kind message.name
      message.label message.fds with
      ⟨unanswered, same⟩ | ⟨index, found, notRom, notTimer, ⟨_, same⟩ | ⟨_, same⟩⟩
    · refine Or.inl ⟨?_, by rw [same]; rfl⟩
      rcases unanswered with missing | own
      · have nobody : findComponentByName world.state message.name = none := missing
        rw [nobody]
        split <;> rfl
      · rw [if_pos ⟨trivial, own⟩]
    · have found : findComponentByName world.state message.name = some index := found
      refine Or.inr ⟨index, _, by simp [notRom, notTimer, found], by rw [same]; rfl, rfl,
        Or.inl rfl, rfl, rfl⟩
    · have found : findComponentByName world.state message.name = some index := found
      refine Or.inr ⟨index, _, by simp [notRom, notTimer, found], by rw [same]; rfl, rfl,
        Or.inr rfl, rfl, rfl⟩

theorem reject_sent (world : World sxml size) (input : Input) (message : Handled size)
    (rejects : message.action = .reject) :
    (replyTarget world.state message = none ∧
      (handling world input message).sent = world.sent) ∨
    ∃ target sent, replyTarget world.state message = some target ∧
      (handling world input message).sent = world.sent ++ [sent] ∧
      sent.destination = (world.state.components target).fd ∧ isReply sent.action ∧
      sent.kind = message.kind ∧ sent.label = message.label := by
  simp only [handling, rejects, handleMessage, replyTarget]
  split
  · exact Or.inl ⟨rfl, rfl⟩
  · rcases processReject_cases (admitted world message input.delivery) message.kind message.name
      message.label with ⟨missing, same⟩ | ⟨index, found, same⟩
    · have nobody : findComponentByName world.state message.name = none := missing
      exact Or.inl ⟨by simp [nobody], by rw [same]; rfl⟩
    · have found : findComponentByName world.state message.name = some index := found
      exact Or.inr ⟨index, _, by simp [found], by rw [same]; rfl, rfl, Or.inr rfl, rfl, rfl⟩

theorem Received.reply {generated : GeneratedPacket} {world : World sxml size} {input : Input}
    {message : Handled size} (came : Received generated world input message)
    (replies : isReply message.action) :
    (replyTarget world.state message = none ∧
      (eventLoopStep generated world input).sent = world.sent) ∨
    ∃ target sent, replyTarget world.state message = some target ∧
      (eventLoopStep generated world input).sent = world.sent ++ [sent] ∧
      sent.destination = (world.state.components target).fd ∧ isReply sent.action ∧
      sent.kind = message.kind ∧ sent.label = message.label := by
  rw [came.sent]
  rcases replies with confirms | rejects
  · exact confirm_sent world input message confirms
  · exact reject_sent world input message rejects

theorem Received.register {generated : GeneratedPacket} {world : World sxml size} {input : Input}
    {message : Handled size} (came : Received generated world input message)
    (paired : Paired world.state) (registers : message.action = .register) :
    ∃ sent, (eventLoopStep generated world input).sent = world.sent ++ [sent] ∧
      isReply sent.action ∧ sent.destination = (world.state.components message.source).fd := by
  rw [came.sent]
  simp only [handling, registers, handleMessage, processRegister]
  have frame := setupService_frame (admitted world message input.delivery) message.source
    message.kind input.outcome paired
  rcases result : setupService (admitted world message input.delivery) message.source message.kind
    input.outcome with ⟨rest, ready⟩
  rw [result] at frame
  have unsent := setupService_sent result paired
  have kept : rest.sent = world.sent := unsent
  have own := frame.control message.source
  cases ready with
  | false => exact ⟨_, by rw [← kept]; rfl, Or.inr rfl, own⟩
  | true => exact ⟨_, by rw [← kept]; rfl, Or.inl rfl, own⟩

theorem isReply.not_request {action : ActionType} (replies : isReply action) :
    action ≠ .request := by
  rcases replies with rfl | rfl <;> simp

/-! Everything the broker sends has a cause among the messages it handles. -/

inductive Cause (world : World sxml size) (input : Input) (message : Handled size)
    (sent : Sent) : Prop
  | routed (isRequest : message.action = .request)
      (route : Routed (admitted world message input.delivery) message.source message.kind
        message.label message.fds input.outcome (handling world input message) sent)
  | answered (own : message.action = .request ∨ message.action = .register)
      (notRequest : sent.action ≠ .request)
      (destination : sent.destination = (world.state.components message.source).fd)
  | replied (target : Fin size) (replies : isReply message.action)
      (sentReplies : isReply sent.action) (found : replyTarget world.state message = some target)
      (destination : sent.destination = (world.state.components target).fd)
      (sameKind : sent.kind = message.kind) (sameLabel : sent.label = message.label)

theorem Received.causes {generated : GeneratedPacket} {world : World sxml size} {input : Input}
    {message : Handled size} (came : Received generated world input message)
    (paired : Paired world.state) (identified : Identified world.state) :
    ∃ messages, (eventLoopStep generated world input).sent = world.sent ++ messages ∧
      messages.length ≤ 1 ∧ ∀ sent ∈ messages, Cause world input message sent := by
  cases action : message.action with
  | request =>
      obtain ⟨messages, sents, few, routed⟩ := came.request paired identified action
      refine ⟨messages, sents, few, fun sent member => ?_⟩
      rcases routed sent member with ⟨notRequest, destination⟩ | route
      · exact .answered (Or.inl action) notRequest destination
      · exact .routed action route
  | register =>
      obtain ⟨other, sents, replies, destination⟩ := came.register paired action
      refine ⟨[other], sents, by simp, fun sent member => ?_⟩
      rw [List.mem_singleton] at member
      subst member
      exact .answered (Or.inr action) replies.not_request destination
  | confirm | reject =>
      have replies : isReply message.action := by
        rw [action]
        simp [isReply]
      rcases came.reply replies with
        ⟨_, sents⟩ | ⟨target, other, found, sents, destination, sentReplies, kind, label⟩
      · exact ⟨[], by rw [sents, List.append_nil], by simp, by simp⟩
      · refine ⟨[other], sents, by simp, fun sent member => ?_⟩
        rw [List.mem_singleton] at member
        subst member
        exact .replied target replies sentReplies found destination kind label

theorem eventLoopStep_sends (generated : GeneratedPacket) (world : World sxml size)
    (input : Input) (paired : Paired world.state) (identified : Identified world.state) :
    ∃ messages, (eventLoopStep generated world input).sent = world.sent ++ messages ∧
      messages.length ≤ 1 ∧ ∀ sent ∈ messages, ∃ message,
        incoming generated world input = some message ∧ Cause world input message sent := by
  cases came : incoming generated world input with
  | none => exact ⟨[], by rw [(incoming_none came).1, List.append_nil], by simp, by simp⟩
  | some message =>
      obtain ⟨messages, sents, few, causes⟩ := (incoming_some came).causes paired identified
      exact ⟨messages, sents, few, fun sent member => ⟨message, rfl, causes sent member⟩⟩

end Gneiss
