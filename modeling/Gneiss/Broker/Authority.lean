import Gneiss.Broker.Admission

/-!
Who may hand a descriptor to whom. The broker lets every `Confirm` through, so the configuration is
respected exactly as far as components only confirm what they were asked for. `Origin` traces a
forwarded request back to the client that sent it and the edge of the configuration it took.
-/

namespace Gneiss

open Descriptors Runs

variable {sxml : Sxml} {size : Nat}

def Requested (world : World sxml size) (client : Fin size) (kind : KindType) (label : Text) :
    Prop :=
  ∃ request ∈ world.handled, request.source = client ∧ request.action = .request ∧
    request.kind = kind ∧ request.label = label

def Edge (state : BrokerState sxml size) (client server : Fin size) (kind : KindType)
    (label : Text) : Prop :=
  ∃ name, sxml.attributeValue (selected state client kind label) state.xml (ascii "server") =
    some name ∧ componentName state server = some name

structure Origin (start world : World sxml size) (sent : Sent) (client server : Fin size) :
    Prop where
  live : Live start.state client
  name : componentName start.state client = some sent.name
  requested : Requested world client sent.kind sent.label
  edge : Edge start.state client server sent.kind sent.label
  there : serviceThere world.state server sent.kind = true
  destination : ((world.state.components server).serv sent.kind).broker = sent.destination

structure Traced (start world : World sxml size) : Prop where
  ownership : Ownership world
  identified : Identified world.state
  persists : Persists start world
  origins : ∀ sent ∈ world.sent, sent.action = .request →
    ∃ client server, Origin start world sent client server

theorem Origin.later {start world after : World sxml size} {sent : Sent}
    {client server : Fin size} (origin : Origin start world sent client server)
    (handled : world.handled ⊆ after.handled) (persists : Persists world after) :
    Origin start after sent client server := by
  have same := persists.service server sent.kind origin.there
  refine ⟨origin.live, origin.name, ?_, origin.edge, ?_, ?_⟩
  · obtain ⟨request, member, facts⟩ := origin.requested
    exact ⟨request, handled member, facts⟩
  · exact (serviceThere_congr same).trans origin.there
  · rw [same]
    exact origin.destination

theorem Persists.selected {before after : World sxml size} (persists : Persists before after)
    {client : Fin size} (live : Live after.state client) (kind : KindType) (label : Text) :
    Gneiss.selected after.state client kind label =
      Gneiss.selected before.state client kind label := by
  simp only [Gneiss.selected, persists.xml, persists.node client live]

theorem Persists.edge {before after : World sxml size} (persists : Persists before after)
    {client server : Fin size} (clientLive : Live after.state client)
    (serverLive : Live after.state server) (kind : KindType) (label : Text) :
    Edge after.state client server kind label ↔ Edge before.state client server kind label := by
  simp only [Edge, persists.selected clientLive, persists.xml, persists.name serverLive]

theorem Received.origin {generated : GeneratedPacket} {start world : World sxml size}
    {input : Input} {message : Handled size} {sent : Sent}
    (came : Received generated world input message) (traced : Traced start world)
    (isRequest : message.action = .request)
    (route : Routed (admitted world message input.delivery) message.source message.kind
      message.label message.fds input.outcome (handling world input message) sent) :
    ∃ server, Origin start (eventLoopStep generated world input) sent message.source server := by
  obtain ⟨name, server, declared, ⟨serverLive, serverNamed, _⟩, destination, open_⟩ :=
    route.destination
  have clientNamed : componentName world.state message.source = some sent.name := route.ownName
  have kind := route.sameKind
  have label := route.sameLabel
  have there : serviceThere (handling world input message).state server sent.kind = true := by
    rw [kind]
    rcases (came.ownership traced.ownership).paired server message.kind with ⟨broker, disp⟩ | absent
    · simp only [serviceThere, broker, disp, Bool.and_self]
    · rw [destination] at open_
      simp only [stored] at absent
      rw [absent.1] at open_
      cases open_
  have kept := came.persists.service server sent.kind there
  refine ⟨server, traced.persists.live came.live, ?_, ?_, ?_, ?_, ?_⟩
  · rw [← traced.persists.name came.live]
    exact clientNamed
  · refine ⟨message, ?_, rfl, isRequest, kind.symm, label.symm⟩
    rw [came.handled traced.ownership.paired]
    simp
  · rw [kind, label, ← traced.persists.edge came.live serverLive]
    exact ⟨name, declared, serverNamed⟩
  · exact (serviceThere_congr kept).trans there
  · rw [kept, kind]
    exact destination.symm

theorem Traced.step {start world : World sxml size} (traced : Traced start world)
    (generated : GeneratedPacket) (input : Input) :
    Traced start (eventLoopStep generated world input) := by
  have persists := eventLoopStep_persists generated world input traced.ownership.paired
  refine ⟨traced.ownership.eventLoopStep generated input, persists.identified traced.identified,
    traced.persists.trans persists, ?_⟩
  have grows : world.handled ⊆ (eventLoopStep generated world input).handled := by
    cases came : incoming generated world input with
    | none =>
        rw [(incoming_none came).2]
        exact List.Subset.refl _
    | some message =>
        rw [(incoming_some came).handled traced.ownership.paired]
        exact List.subset_append_left _ _
  obtain ⟨messages, sents, _, causes⟩ :=
    eventLoopStep_sends generated world input traced.ownership.paired traced.identified
  intro sent member isRequest
  rw [sents] at member
  rcases List.mem_append.mp member with before | last
  · obtain ⟨client, server, origin⟩ := traced.origins sent before isRequest
    exact ⟨client, server, origin.later grows persists⟩
  · obtain ⟨message, came, cause⟩ := causes sent last
    cases cause with
    | routed requests route =>
        exact ⟨message.source, (incoming_some came).origin traced requests route⟩
    | answered _ notRequest _ => exact (notRequest isRequest).elim
    | replied _ _ replies _ _ _ _ => exact (replies.not_request isRequest).elim

theorem construct_traced (boot : Boot sxml size) (start : World sxml size)
    (constructed : construct boot = some start) : Traced start start := by
  have silent : start.sent = [] := construct_silent boot start constructed
  refine ⟨construct_ownership boot start constructed, construct_identified boot start constructed,
    Persists.refl start, ?_⟩
  rw [silent]
  intro sent member
  cases member

/-! `HonestConfirm` says that a confirmation answers a request that the broker has forwarded to its
sender, and that only one component was started under the name it carries. -/

def HonestConfirm (generated : GeneratedPacket) (start world : World sxml size) (input : Input) :
    Prop :=
  ∀ message, incoming generated world input = some message → message.action = .confirm →
    (∃ request ∈ world.sent, request.action = .request ∧
      request.destination = ((world.state.components message.source).serv message.kind).broker ∧
      request.kind = message.kind ∧ request.name = message.name ∧
      request.label = message.label) ∧
    ∀ first second, Live start.state first → Live start.state second →
      componentName start.state first = some message.name →
      componentName start.state second = some message.name → first = second

def AuthorityConfined (generated : GeneratedPacket) (world : World sxml size) (input : Input) :
    Prop :=
  ∀ message, incoming generated world input = some message → message.action = .confirm →
    ∀ sent, (eventLoopStep generated world input).sent = world.sent ++ [sent] →
      sent.action = .confirm → ∀ client, Live world.state client →
        (world.state.components client).fd = sent.destination →
        Requested world client sent.kind sent.label ∧
          Edge world.state client message.source sent.kind sent.label

theorem Traced.confined {start world : World sxml size} (traced : Traced start world)
    (generated : GeneratedPacket) (input : Input)
    (honest : HonestConfirm generated start world input) :
    AuthorityConfined generated world input := by
  intro message came confirms sent sents _ client live destination
  have received := incoming_some came
  obtain ⟨⟨request, member, isRequest, socket, sameKind, sameName, sameLabel⟩, unique⟩ :=
    honest message came confirms
  obtain ⟨origin, server, traces⟩ := traced.origins request member isRequest
  rcases received.reply (Or.inl confirms) with
    ⟨_, nothing⟩ | ⟨target, other, found, otherSents, otherDestination, _, kind, label⟩
  · rw [nothing] at sents
    simp at sents
  · rw [otherSents, List.append_cancel_left_eq, List.cons.injEq] at sents
    obtain ⟨rfl, _⟩ := sents
    have isTarget : client = target :=
      traced.ownership.same_control live (destination.trans otherDestination)
    subst isTarget
    have called : componentName world.state client = some message.name :=
      (replyTarget_found traced.identified found).2.1
    have isClient : client = origin := by
      refine unique client origin (traced.persists.live live) traces.live ?_ ?_
      · rw [← traced.persists.name live, called]
      · rw [traces.name, sameName]
    have isServer : server = message.source := by
      have sameSocket := traces.destination.trans socket
      rw [sameKind] at sameSocket
      have open_ := traces.there
      rw [sameKind, serviceThere, Bool.and_eq_true] at open_
      have place := traced.ownership.owned.distinct (.broker server message.kind)
        (.broker message.source message.kind) open_.1 sameSocket
      rw [Place.broker.injEq] at place
      exact place.1
    subst isClient isServer
    rw [kind, label, ← sameKind, ← sameLabel]
    exact ⟨traces.requested, (traced.persists.edge live received.live _ _).mpr traces.edge⟩

/-- Along every run in which components only confirm what they were asked for, under names that are
not shared, no descriptor reaches a component that did not ask for it at its configured server. -/
theorem honest_run_confined (generated : GeneratedPacket) (boot : Boot sxml size)
    (start : World sxml size) (constructed : construct boot = some start) (inputs : List Input)
    (honest : EachStep (eventLoopStep generated) (HonestConfirm generated start) start inputs) :
    EachStep (eventLoopStep generated) (AuthorityConfined generated) start inputs :=
  eachStep_of_invariant (eventLoopStep generated) (Traced start) (HonestConfirm generated start)
    (AuthorityConfined generated) (fun _ input traced _ => traced.step generated input)
    (fun _ input traced => traced.confined generated input) start inputs
    (construct_traced boot start constructed) honest

theorem short_confirm_honest :
    HonestConfirm referencePacket sampleWorld (requestedWorld shortLabel)
      (messageConfirm shortLabel) := by
  intro message came _
  rw [short_sendsBack.incoming, Option.some.injEq] at came
  subst came
  have socket : (((requestedWorld shortLabel).state.components 1).serv .message).broker =
      (requestedMessage shortLabel).destination := by
    rw [requestedWorld_eq]
    decide +kernel
  have unique : ∀ first second : Fin 2,
      componentName sampleWorld.state first = some (ascii "client") →
      componentName sampleWorld.state second = some (ascii "client") → first = second := by
    decide +kernel
  refine ⟨⟨requestedMessage shortLabel, ?_, rfl, ?_, rfl, rfl, rfl⟩,
    fun first second _ _ => unique first second⟩
  · rw [short_forwarded]
    exact List.mem_append_right _ (List.mem_singleton_self _)
  · rw [← socket]
    simp only [requestedMessage]

theorem sample_exchange_confined :
    EachStep (eventLoopStep referencePacket) (AuthorityConfined referencePacket) sampleWorld
      [messageRequest shortLabel, messageConfirm shortLabel] := by
  refine honest_run_confined referencePacket sampleBoot sampleWorld sample_constructed _
    ⟨?_, short_confirm_honest, trivial⟩
  intro message came confirms
  have requests : incoming referencePacket sampleWorld (messageRequest shortLabel) =
      some ⟨0, .request, .message, [], shortLabel.val, [-1, -1, -1, -1]⟩ := by
    decide +kernel
  rw [requests, Option.some.injEq] at came
  subst came
  cases confirms

def forgedConfirm : Input :=
  readable 4 ⟨.confirm, .message, serverName, noText⟩ 20

theorem forged_confirm_delivered :
    construct sampleBoot = some sampleWorld ∧
      ¬EachStep (eventLoopStep referencePacket) (AuthorityConfined referencePacket) sampleWorld
        [forgedConfirm] := by
  refine ⟨sample_constructed, ?_⟩
  rintro ⟨confined, _⟩
  have came : incoming referencePacket sampleWorld forgedConfirm =
      some ⟨0, .confirm, .message, ascii "server", [], [20, -1, -1, -1]⟩ := by
    decide +kernel
  have sents : (eventLoopStep referencePacket sampleWorld forgedConfirm).sent =
      sampleWorld.sent ++ [⟨6, .confirm, .message, [], [], [20]⟩] := by
    decide +kernel
  have socket : (sampleWorld.state.components 1).fd = 6 := by
    decide +kernel
  obtain ⟨⟨request, member, _⟩, _⟩ :=
    confined _ came rfl _ sents rfl 1 (sample_live 1) socket
  have nothing : sampleWorld.handled = [] := by
    decide +kernel
  rw [nothing] at member
  cases member

end Gneiss
