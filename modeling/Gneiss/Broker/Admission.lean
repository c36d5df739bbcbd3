import Gneiss.Broker.Exchanges

/-!
Requests and their replies pass different length tests. A forwarded request can be answered exactly
if the reply passes the second one and the requester is the first live component with its name.
-/

namespace Gneiss

open Descriptors Runs

variable {sxml : Sxml} {size : Nat}

structure SendsBack (generated : GeneratedPacket) (world : World sxml size) (server : Fin size)
    (action : ActionType) (request : Sent) (input : Input) : Prop where
  watched : input.fd ∈ world.table.watched
  found : getDest world.state input.fd = some server
  live : Live world.state server
  readable : input.event.epollIn = true
  datagram : ∃ name label sending, name.text = request.name ∧ label.text = request.label ∧
    input.delivery.datagram =
      some (Packet.send generated action request.kind name label sending)

def AnsweredOnce (before after : World sxml size) (requester : Fin size) (request : Sent) :
    Prop :=
  ∃ reply, after.sent = before.sent ++ [reply] ∧
    reply.destination = (before.state.components requester).fd ∧
    (reply.action = .confirm ∨ reply.action = .reject) ∧
    reply.kind = request.kind ∧ reply.label = request.label

theorem SendsBack.incoming {generated : GeneratedPacket} {world : World sxml size}
    {server : Fin size} {action : ActionType} {request : Sent} {input : Input}
    (back : SendsBack generated world server action request input) :
    incoming generated world input =
      some ⟨server, action, request.kind, request.name, request.label,
        received world input.delivery⟩ := by
  obtain ⟨name, label, sending, sameName, sameLabel, datagram⟩ := back.datagram
  have live : valid (world.state.components server).fd = true := back.live
  have open_ := (getDest_owns _ _ _ back.found).1
  have decoded : Packet.receive generated input.delivery.datagram input.delivery.stale =
      .valid action request.kind (Packet.ofPayload (Packet.toPayload name))
        (Packet.ofPayload (Packet.toPayload label)) := by
    rw [datagram, Packet.send_eq, Packet.receive_encode]
  simp only [Gneiss.incoming, back.watched, ↓reduceIte, back.found, live, back.readable, open_,
    Bool.and_self, decoded, Packet.ofPayload_text, Packet.toPayload, sameName, sameLabel]

/-! What is known about a request that left the broker. -/

theorem forwarded_request {generated : GeneratedPacket} {world : World sxml size} {input : Input}
    (reachable : Reachable generated world) {source : Fin size}
    (found : getDest world.state input.fd = some source) {request : Sent}
    (forwarded : (eventLoopStep generated world input).sent = world.sent ++ [request])
    (isRequest : request.action = .request) :
    Live world.state source ∧ componentName world.state source = some request.name ∧
      request.label.length ≤ 255 ∧ request.kind ≠ .rom ∧ request.kind ≠ .timer := by
  have ownership := reachable_ownership generated world reachable
  have identified := reachable_identified generated world reachable
  obtain ⟨messages, sents, _, causes⟩ :=
    eventLoopStep_sends generated world input ownership.paired identified
  rw [forwarded, List.append_cancel_left_eq] at sents
  obtain ⟨message, came, cause⟩ := causes request (by rw [← sents]; simp)
  have received := incoming_some came
  have same : message.source = source := by
    have other := received.found
    rw [found, Option.some.injEq] at other
    exact other.symm
  cases cause with
  | routed _ route =>
      rw [← same]
      refine ⟨received.live, route.ownName, ?_, ?_, ?_⟩
      · rw [route.sameLabel]
        exact received.shortLabel
      · rw [route.sameKind]
        rcases route.session with kind | kind | kind <;> simp [kind]
      · rw [route.sameKind]
        rcases route.session with kind | kind | kind <;> simp [kind]
  | answered _ notRequest _ => exact (notRequest isRequest).elim
  | replied _ _ replies _ _ _ _ => exact (replies.not_request isRequest).elim

theorem Ownership.same_control {world : World sxml size} (ownership : Ownership world)
    {first second : Fin size} (live : Live world.state first)
    (same : (world.state.components first).fd = (world.state.components second).fd) :
    first = second := by
  have place := ownership.owned.distinct (.control first) (.control second) live same
  rwa [Place.control.injEq] at place

theorem replyTarget_found {state : BrokerState sxml size} (identified : Identified state)
    {message : Handled size} {target : Fin size}
    (found : replyTarget state message = some target) : FirstLive state message.name target := by
  unfold replyTarget at found
  split at found
  · cases found
  · split at found
    · cases found
    · exact ((identified.findComponentByName_iff message.name target).mp found).2

theorem replyTarget_iff {state : BrokerState sxml size} (identified : Identified state)
    {message : Handled size} (session : message.kind ≠ .rom ∧ message.kind ≠ .timer)
    (target : Fin size) :
    replyTarget state message = some target ↔
      message.name.length + message.label.length ≤ 255 ∧ message.name ≠ [] ∧
        FirstLive state message.name target := by
  unfold replyTarget
  rw [if_neg (fun own : message.action = .confirm ∧ _ => by tauto)]
  split
  · rename_i long
    refine ⟨by simp, ?_⟩
    rintro ⟨short, _⟩
    omega
  · rw [identified.findComponentByName_iff]
    constructor
    · rintro ⟨nonempty, first⟩
      exact ⟨by omega, nonempty, first⟩
    · rintro ⟨_, nonempty, first⟩
      exact ⟨nonempty, first⟩

theorem Received.answeredOnce_iff {generated : GeneratedPacket} {world : World sxml size}
    {input : Input} {message : Handled size} {request : Sent}
    (came : Received generated world input message) (replies : isReply message.action)
    (ownership : Ownership world) (sameKind : message.kind = request.kind)
    (sameLabel : message.label = request.label) {requester : Fin size}
    (live : Live world.state requester) :
    AnsweredOnce world (eventLoopStep generated world input) requester request ↔
      replyTarget world.state message = some requester := by
  rcases came.reply replies with
    ⟨nobody, sents⟩ | ⟨target, sent, found, sents, destination, sentReplies, kind, label⟩
  · rw [nobody]
    constructor
    · rintro ⟨reply, otherSents, _⟩
      rw [sents] at otherSents
      simp at otherSents
    · intro impossible
      cases impossible
  · rw [found, Option.some.injEq]
    constructor
    · rintro ⟨reply, otherSents, otherDestination, _⟩
      rw [sents, List.append_cancel_left_eq, List.cons.injEq] at otherSents
      obtain ⟨rfl, _⟩ := otherSents
      exact (ownership.same_control live (otherDestination.symm.trans destination)).symm
    · rintro rfl
      exact ⟨sent, sents, destination, sentReplies, kind.trans sameKind, label.trans sameLabel⟩

/-- The reply to a forwarded request reaches the requester exactly if name and label together have
at most 255 characters, the name is not empty, and no earlier live component has the same name. -/
theorem reply_answered_iff (generated : GeneratedPacket) (world : World sxml size)
    (reachable : Reachable generated world) (input : Input) (source : Fin size)
    (found : getDest world.state input.fd = some source) (request : Sent)
    (forwarded : (eventLoopStep generated world input).sent = world.sent ++ [request])
    (isRequest : request.action = .request) (inputs : List Input) (later : World sxml size)
    (ran : later = eventLoop generated (eventLoopStep generated world input) inputs)
    (live : Live later.state source) (server : Fin size) (action : ActionType)
    (replies : action = .confirm ∨ action = .reject) (answer : Input)
    (back : SendsBack generated later server action request answer) :
    AnsweredOnce later (eventLoopStep generated later answer) source request ↔
      request.name.length + request.label.length ≤ 255 ∧ request.name ≠ [] ∧
        ∀ earlier < source, Live later.state earlier →
          componentName later.state earlier ≠ some request.name := by
  obtain ⟨_, named, _, notRom, notTimer⟩ :=
    forwarded_request reachable found forwarded isRequest
  have sameRun : later = eventLoop generated world (input :: inputs) := ran
  have reached : Reachable generated later := by
    rw [sameRun]
    exact reachable_eventLoop reachable (input :: inputs)
  have persists : Persists world later := by
    rw [sameRun]
    exact eventLoop_persists generated world _ (reachable_ownership generated world reachable)
  have stillNamed : componentName later.state source = some request.name := by
    rw [persists.name live, named]
  have came := incoming_some back.incoming
  rw [came.answeredOnce_iff replies (reachable_ownership generated later reached) rfl rfl live,
    replyTarget_iff (reachable_identified generated later reached) ⟨notRom, notTimer⟩]
  simp only [FirstLive, live, stillNamed, true_and]

theorem encoded_send (generated : GeneratedPacket) (packet : Packet) :
    ∃ name label sending, name.text = packet.name.val ∧ label.text = packet.label.val ∧
      some packet.encode =
        some (Packet.send generated packet.action packet.kind name label sending) := by
  refine ⟨Packet.ofPayload packet.name, Packet.ofPayload packet.label, Packet.Buffer.zero,
    Packet.ofPayload_text _, Packet.ofPayload_text _, ?_⟩
  rw [Packet.send_eq, Packet.toPayload_ofPayload, Packet.toPayload_ofPayload]

def messageRequest (label : Payload) : Input :=
  readable 4 ⟨.request, .message, noText, label⟩ (-1)

def confirmPacket (label : Payload) : Packet :=
  ⟨.confirm, .message, clientName, label⟩

def messageConfirm (label : Payload) : Input :=
  readable 10 (confirmPacket label) 20

def requestedWorld (label : Payload) : World xmlTree 2 :=
  eventLoopStep referencePacket sampleWorld (messageRequest label)

theorem requestedWorld_eq (label : Payload) :
    requestedWorld label = handling sampleWorld (messageRequest label)
      ⟨0, .request, .message, [], label.val, [-1, -1, -1, -1]⟩ := by
  have nothing : received sampleWorld (delivering
      ⟨.request, .message, noText, label⟩ (-1)) = [-1, -1, -1, -1] := rfl
  rw [requestedWorld, messageRequest, eventLoopStep_readable (by decide +kernel)
    (by decide +kernel) (sample_live 0), nothing]
  simp only [noText]

def requestedMessage (label : Payload) : Sent :=
  ⟨10, .request, .message, ascii "client", label.val, [8, 9]⟩

def shortLabel : Payload := ⟨ascii "x", by decide⟩

theorem short_sendsBack :
    SendsBack referencePacket (requestedWorld shortLabel) 1 .confirm
      (requestedMessage shortLabel) (messageConfirm shortLabel) := by
  rw [requestedWorld_eq]
  refine ⟨?_, ?_, ?_, rfl, encoded_send referencePacket (confirmPacket shortLabel)⟩
  · decide +kernel
  · decide +kernel
  · unfold Live
    decide +kernel

theorem short_forwarded :
    (requestedWorld shortLabel).sent = sampleWorld.sent ++ [requestedMessage shortLabel] := by
  rw [requestedWorld_eq]
  decide +kernel

theorem short_reply_answered :
    AnsweredOnce (requestedWorld shortLabel)
      (eventLoopStep referencePacket (requestedWorld shortLabel) (messageConfirm shortLabel)) 0
      (requestedMessage shortLabel) := by
  refine (reply_answered_iff referencePacket sampleWorld (sample_reachable referencePacket)
    (messageRequest shortLabel) 0 ?_ (requestedMessage shortLabel) ?_ rfl []
    (requestedWorld shortLabel) (by simp only [requestedWorld, eventLoop, run]) ?_ 1 .confirm
    (Or.inl rfl) (messageConfirm shortLabel) short_sendsBack).mpr ⟨?_, ?_, ?_⟩
  · decide +kernel
  · exact short_forwarded
  · rw [requestedWorld_eq]
    unfold Live
    decide +kernel
  · decide
  · decide
  · exact fun earlier before => (Nat.not_lt_zero _ before).elim

def longLabel : Payload := ⟨List.replicate 255 97, by decide +kernel⟩

theorem long_sendsBack :
    SendsBack referencePacket (requestedWorld longLabel) 1 .confirm
      (requestedMessage longLabel) (messageConfirm longLabel) := by
  rw [requestedWorld_eq]
  refine ⟨?_, ?_, ?_, rfl, encoded_send referencePacket (confirmPacket longLabel)⟩
  · decide +kernel
  · decide +kernel
  · unfold Live
    decide +kernel

theorem long_reply_dropped :
    Reachable referencePacket sampleWorld ∧
      getDest sampleWorld.state (messageRequest longLabel).fd = some 0 ∧
      (requestedWorld longLabel).sent = sampleWorld.sent ++ [requestedMessage longLabel] ∧
      Live (requestedWorld longLabel).state 0 ∧
      SendsBack referencePacket (requestedWorld longLabel) 1 .confirm
        (requestedMessage longLabel) (messageConfirm longLabel) ∧
      ¬AnsweredOnce (requestedWorld longLabel)
        (eventLoopStep referencePacket (requestedWorld longLabel) (messageConfirm longLabel)) 0
        (requestedMessage longLabel) := by
  refine ⟨sample_reachable referencePacket, ?_, ?_, ?_, long_sendsBack, ?_⟩
  · decide +kernel
  · rw [requestedWorld_eq]
    decide +kernel
  · rw [requestedWorld_eq]
    unfold Live
    decide +kernel
  · have came := incoming_some long_sendsBack.incoming
    rcases came.reply (Or.inl rfl) with ⟨_, dropped⟩ | ⟨target, _, found, _⟩
    · rintro ⟨reply, sents, _⟩
      rw [dropped] at sents
      simp at sents
    · rw [replyTarget, if_pos (by decide +kernel)] at found
      cases found

end Gneiss
