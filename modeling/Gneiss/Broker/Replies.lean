import Gneiss.Broker.Admission

/-!
Where replies go. The broker keeps no table of outstanding requests, so one is kept here beside it:
`exchangeStep` runs the event loop and notes which component waits for which answer. If servers
answer what was asked of them and no two components share a name, a reply reaches the component that
waits for it and nobody else.
-/

namespace Gneiss

open Descriptors Runs

variable {sxml : Sxml} {size : Nat}

structure Outstanding (size : Nat) where
  requester : Fin size
  server : Fin size
  kind : KindType
  name : Text
  label : Text
  deriving DecidableEq, Repr

def Outstanding.answeredBy (entry : Outstanding size) (message : Handled size) : Bool :=
  decide (entry.server = message.source ∧ entry.kind = message.kind ∧ entry.name = message.name ∧
    entry.label = message.label)

structure Exchange (sxml : Sxml) (size : Nat) where
  world : World sxml size
  pending : List (Outstanding size)

def forwards (before after : World sxml size) (requester : Fin size) :
    List (Outstanding size) :=
  (after.sent.drop before.sent.length).filterMap fun sent =>
    if sent.action = .request then
      (getDest after.state sent.destination).map fun server =>
        ⟨requester, server, sent.kind, sent.name, sent.label⟩
    else none

def exchangeStep (generated : GeneratedPacket) (exchange : Exchange sxml size) (input : Input) :
    Exchange sxml size where
  world := eventLoopStep generated exchange.world input
  pending :=
    match incoming generated exchange.world input with
    | none => exchange.pending
    | some message =>
        match message.action with
        | .request => exchange.pending ++
            forwards exchange.world (eventLoopStep generated exchange.world input) message.source
        | .confirm | .reject => exchange.pending.eraseP (·.answeredBy message)
        | .register => exchange.pending

/-! Servers answer each request they received once, in any order, and echo name and label. -/

def HonestReply (generated : GeneratedPacket) (exchange : Exchange sxml size) (input : Input) :
    Prop :=
  ∀ message, incoming generated exchange.world input = some message → isReply message.action →
    message.name.length + message.label.length ≤ 255 ∧
      ∃ entry ∈ exchange.pending, entry.answeredBy message = true

def RepliesConfined (generated : GeneratedPacket) (exchange : Exchange sxml size)
    (input : Input) : Prop :=
  ∃ sents, (eventLoopStep generated exchange.world input).sent = exchange.world.sent ++ sents ∧
    (∀ sent ∈ sents, sent.action = .request ∨
      ∃ message, incoming generated exchange.world input = some message ∧
        (((message.action = .request ∨ message.action = .register) ∧
            sent.destination = (exchange.world.state.components message.source).fd) ∨
          (isReply message.action ∧ ∀ entry ∈ exchange.pending,
            entry.answeredBy message = true →
              Live exchange.world.state entry.requester ∧
              sent.destination = (exchange.world.state.components entry.requester).fd ∧
              sent.kind = entry.kind ∧ sent.label = entry.label))) ∧
    ∀ message, incoming generated exchange.world input = some message →
      isReply message.action → ∀ entry ∈ exchange.pending, entry.answeredBy message = true →
        Live exchange.world.state entry.requester → entry.name ≠ [] → sents.length = 1

def UniqueNames (state : BrokerState sxml size) : Prop :=
  ∀ first second, Live state first → Live state second →
    componentName state first = componentName state second → first = second

structure Waiting (start : World sxml size) (exchange : Exchange sxml size) : Prop where
  ownership : Ownership exchange.world
  identified : Identified exchange.world.state
  persists : Persists start exchange.world
  pending : ∀ entry ∈ exchange.pending, Live start.state entry.requester ∧
    componentName start.state entry.requester = some entry.name ∧
    entry.kind ≠ .rom ∧ entry.kind ≠ .timer

theorem answeredBy_iff (entry : Outstanding size) (message : Handled size) :
    entry.answeredBy message = true ↔ entry.server = message.source ∧
      entry.kind = message.kind ∧ entry.name = message.name ∧ entry.label = message.label := by
  simp [Outstanding.answeredBy]

/-! The bookkeeping is right: an entry stands for a request of the component it names. -/

theorem forwards_entry {generated : GeneratedPacket} {world : World sxml size} {input : Input}
    {message : Handled size} (came : Received generated world input message)
    (paired : Paired world.state) (identified : Identified world.state)
    (isRequest : message.action = .request) {entry : Outstanding size}
    (member : entry ∈ forwards world (eventLoopStep generated world input) message.source) :
    entry.requester = message.source ∧
      componentName world.state message.source = some entry.name ∧
      entry.kind ≠ .rom ∧ entry.kind ≠ .timer := by
  obtain ⟨messages, sents, _, routed⟩ := came.request paired identified isRequest
  unfold forwards at member
  rw [sents, List.drop_left, List.mem_filterMap] at member
  obtain ⟨sent, inside, made⟩ := member
  split at made
  · rename_i requests
    rw [Option.map_eq_some_iff] at made
    obtain ⟨server, _, rfl⟩ := made
    rcases routed sent inside with ⟨notRequest, _⟩ | route
    · exact (notRequest requests).elim
    · refine ⟨rfl, route.ownName, ?_, ?_⟩
      · simp only [route.sameKind]
        rcases route.session with kind | kind | kind <;> simp [kind]
      · simp only [route.sameKind]
        rcases route.session with kind | kind | kind <;> simp [kind]
  · cases made

theorem Waiting.step {start : World sxml size} {exchange : Exchange sxml size}
    (waiting : Waiting start exchange) (generated : GeneratedPacket) (input : Input) :
    Waiting start (exchangeStep generated exchange input) := by
  have persists := eventLoopStep_persists generated exchange.world input waiting.ownership.paired
  refine ⟨waiting.ownership.eventLoopStep generated input,
    persists.identified waiting.identified, waiting.persists.trans persists, ?_⟩
  intro entry member
  cases came : incoming generated exchange.world input with
  | none =>
      simp only [exchangeStep, came] at member
      exact waiting.pending entry member
  | some message =>
      simp only [exchangeStep, came] at member
      have received := incoming_some came
      split at member
      · rename_i isRequest
        rcases List.mem_append.mp member with before | new
        · exact waiting.pending entry before
        · obtain ⟨requester, named, session⟩ := forwards_entry received waiting.ownership.paired
            waiting.identified isRequest new
          rw [requester]
          refine ⟨waiting.persists.live received.live, ?_, session⟩
          rw [← waiting.persists.name received.live, named]
      · exact waiting.pending entry (List.mem_of_mem_eraseP member)
      · exact waiting.pending entry (List.mem_of_mem_eraseP member)
      · exact waiting.pending entry member

section

variable {start : World sxml size} {exchange : Exchange sxml size} {generated : GeneratedPacket}
  {input : Input} {message : Handled size} {entry : Outstanding size}

theorem Waiting.target (waiting : Waiting start exchange) (unique : UniqueNames start.state)
    (member : entry ∈ exchange.pending) (answers : entry.answeredBy message = true)
    {target : Fin size} (found : replyTarget exchange.world.state message = some target) :
    target = entry.requester := by
  obtain ⟨live, called, _⟩ := replyTarget_found waiting.identified found
  obtain ⟨requesterLive, requesterCalled, _⟩ := waiting.pending entry member
  obtain ⟨_, _, sameName, _⟩ := (answeredBy_iff entry message).mp answers
  refine unique target entry.requester (waiting.persists.live live) requesterLive ?_
  rw [← waiting.persists.name live, called, requesterCalled, sameName]

theorem Waiting.answered (waiting : Waiting start exchange) (unique : UniqueNames start.state)
    (member : entry ∈ exchange.pending) (answers : entry.answeredBy message = true)
    (short : message.name.length + message.label.length ≤ 255)
    (live : Live exchange.world.state entry.requester) (nonempty : entry.name ≠ []) :
    replyTarget exchange.world.state message = some entry.requester := by
  obtain ⟨_, requesterCalled, notRom, notTimer⟩ := waiting.pending entry member
  obtain ⟨_, sameKind, sameName, _⟩ := (answeredBy_iff entry message).mp answers
  rw [sameKind] at notRom notTimer
  rw [sameName] at nonempty requesterCalled
  have called : componentName exchange.world.state entry.requester = some message.name := by
    rw [waiting.persists.name live, requesterCalled]
  refine (replyTarget_iff waiting.identified ⟨notRom, notTimer⟩ entry.requester).mpr
    ⟨short, nonempty, live, called, ?_⟩
  intro earlier before earlierLive earlierCalled
  have same := unique earlier entry.requester (waiting.persists.live earlierLive)
    (waiting.persists.live live) (by
      rw [← waiting.persists.name earlierLive, earlierCalled, requesterCalled])
  exact (Fin.ne_of_lt before) same

theorem Waiting.confined (waiting : Waiting start exchange) (unique : UniqueNames start.state)
    (honest : HonestReply generated exchange input) :
    RepliesConfined generated exchange input := by
  obtain ⟨sents, sent, _, causes⟩ := eventLoopStep_sends generated exchange.world input
    waiting.ownership.paired waiting.identified
  refine ⟨sents, sent, ?_, ?_⟩
  · intro other member
    obtain ⟨message, came, cause⟩ := causes other member
    cases cause with
    | routed _ route => exact Or.inl route.isRequest
    | answered own _ destination => exact Or.inr ⟨message, came, Or.inl ⟨own, destination⟩⟩
    | replied target replies _ found destination sameKind sameLabel =>
        refine Or.inr ⟨message, came, Or.inr ⟨replies, ?_⟩⟩
        intro entry pending answers
        have isRequester := waiting.target unique pending answers found
        obtain ⟨_, kind, _, label⟩ := (answeredBy_iff entry message).mp answers
        subst isRequester
        refine ⟨(replyTarget_found waiting.identified found).1, destination, ?_, ?_⟩
        · rw [sameKind, kind]
        · rw [sameLabel, label]
  · intro message came replies entry pending answers live nonempty
    obtain ⟨short, _⟩ := honest message came replies
    have found := waiting.answered unique pending answers short live nonempty
    rcases (incoming_some came).reply replies with ⟨nobody, _⟩ | ⟨_, other, _, otherSent, _⟩
    · rw [found] at nobody
      cases nobody
    · rw [sent, List.append_cancel_left_eq] at otherSent
      rw [otherSent]
      rfl

end

theorem exchange_world (generated : GeneratedPacket) (exchange : Exchange sxml size)
    (inputs : List Input) :
    (run (exchangeStep generated) exchange inputs).world =
      eventLoop generated exchange.world inputs := by
  induction inputs generalizing exchange with
  | nil => rfl
  | cons input rest ih => exact ih (exchangeStep generated exchange input)

/-- In a system without shared names, along every run in which servers answer each request once,
replies go to the components that wait for them, in whatever order they come. -/
theorem honest_replies_confined (generated : GeneratedPacket) (boot : Boot sxml size)
    (start : World sxml size) (constructed : construct boot = some start)
    (unique : UniqueNames start.state) (inputs : List Input)
    (honest : EachStep (exchangeStep generated) (HonestReply generated) ⟨start, []⟩ inputs) :
    (run (exchangeStep generated) ⟨start, []⟩ inputs).world = eventLoop generated start inputs ∧
      EachStep (exchangeStep generated) (RepliesConfined generated) ⟨start, []⟩ inputs := by
  refine ⟨exchange_world generated ⟨start, []⟩ inputs, ?_⟩
  refine eachStep_of_invariant (exchangeStep generated) (Waiting start) (HonestReply generated)
    (RepliesConfined generated) (fun _ input waiting _ => waiting.step generated input)
    (fun _ _ waiting => waiting.confined unique) ⟨start, []⟩ inputs ?_ honest
  exact ⟨construct_ownership boot start constructed, construct_identified boot start constructed,
    Persists.refl start, by simp⟩

theorem short_reply_honest :
    EachStep (exchangeStep referencePacket) (HonestReply referencePacket) ⟨sampleWorld, []⟩
      [messageRequest shortLabel, messageConfirm shortLabel] := by
  have requests : incoming referencePacket sampleWorld (messageRequest shortLabel) =
      some ⟨0, .request, .message, [], shortLabel.val, [-1, -1, -1, -1]⟩ := by
    decide +kernel
  have waits :
      (exchangeStep referencePacket ⟨sampleWorld, []⟩ (messageRequest shortLabel)).pending =
        [⟨0, 1, .message, ascii "client", shortLabel.val⟩] := by
    decide +kernel
  refine ⟨?_, ?_, trivial⟩
  · intro message came replies
    rw [requests, Option.some.injEq] at came
    subst came
    exact (replies.not_request rfl).elim
  · intro message came _
    have world :
        (exchangeStep referencePacket ⟨sampleWorld, []⟩ (messageRequest shortLabel)).world =
          requestedWorld shortLabel := by
      simp only [exchangeStep, requestedWorld]
    rw [world, short_sendsBack.incoming, Option.some.injEq] at came
    subst came
    rw [waits]
    exact ⟨by decide, _, List.mem_singleton_self _, rfl⟩

theorem short_reply_confined :
    EachStep (exchangeStep referencePacket) (RepliesConfined referencePacket) ⟨sampleWorld, []⟩
      [messageRequest shortLabel, messageConfirm shortLabel] := by
  have unique : ∀ first second : Fin 2, componentName sampleWorld.state first =
      componentName sampleWorld.state second → first = second := by
    decide +kernel
  exact (honest_replies_confined referencePacket sampleBoot sampleWorld sample_constructed
    (fun first second _ _ => unique first second) _ short_reply_honest).2

/-! Two components that share a name: the reply to the second goes to the first. -/

def twinDocument : Xml :=
  .element (ascii "config") [] [
    componentElement (ascii "twin") [serviceElement .message (some (ascii "server"))],
    componentElement (ascii "twin") [serviceElement .message (some (ascii "server"))],
    componentElement (ascii "server") []]

def twinBoot : Boot xmlTree 3 where
  xml := twinDocument
  opened := [0, 1, 2]
  epollOffer := some 3
  launches slot :=
    if slot = 0 then ⟨some (14, 15), true, 100⟩
    else if slot = 1 then ⟨some (16, 17), true, 101⟩
    else ⟨some (18, 19), true, 102⟩

theorem twin_starts : (construct twinBoot).isSome = true := by
  decide +kernel

def twinWorld : World xmlTree 3 :=
  (construct twinBoot).get twin_starts

def twinName : Payload := ⟨ascii "twin", by decide⟩

def twinRequest : Input :=
  readable 16 ⟨.request, .message, noText, noText⟩ (-1)

def twinConfirm : Input :=
  readable 10 ⟨.confirm, .message, twinName, noText⟩ 20

def twinExchange : Exchange xmlTree 3 :=
  exchangeStep referencePacket ⟨twinWorld, []⟩ twinRequest

theorem twin_incoming :
    incoming referencePacket twinExchange.world twinConfirm =
      some ⟨2, .confirm, .message, ascii "twin", [], [20, -1, -1, -1]⟩ := by
  decide +kernel

theorem twin_pending : twinExchange.pending = [⟨1, 2, .message, ascii "twin", []⟩] := by
  decide +kernel

theorem twin_reply_misdirected :
    construct twinBoot = some twinWorld ∧
      EachStep (exchangeStep referencePacket) (HonestReply referencePacket) ⟨twinWorld, []⟩
        [twinRequest, twinConfirm] ∧
      ¬EachStep (exchangeStep referencePacket) (RepliesConfined referencePacket) ⟨twinWorld, []⟩
        [twinRequest, twinConfirm] := by
  refine ⟨(Option.some_get twin_starts).symm, ⟨?_, ?_, trivial⟩, ?_⟩
  · intro message came replies
    have requests : incoming referencePacket twinWorld twinRequest =
        some ⟨1, .request, .message, [], [], [-1, -1, -1, -1]⟩ := by
      decide +kernel
    rw [requests, Option.some.injEq] at came
    subst came
    exact (replies.not_request rfl).elim
  · intro message came _
    have confirms : incoming referencePacket twinExchange.world twinConfirm = some message := came
    rw [twin_incoming, Option.some.injEq] at confirms
    subst confirms
    change _ ∧ ∃ entry ∈ twinExchange.pending, _
    rw [twin_pending]
    exact ⟨by decide, _, List.mem_singleton_self _, rfl⟩
  · rintro ⟨_, confined, _⟩
    have confines : RepliesConfined referencePacket twinExchange twinConfirm := confined
    obtain ⟨sents, sent, delivered, _⟩ := confines
    have misdirected : (eventLoopStep referencePacket twinExchange.world twinConfirm).sent =
        twinExchange.world.sent ++ [⟨14, .confirm, .message, [], [], [20]⟩] := by
      decide +kernel
    rw [misdirected, List.append_cancel_left_eq] at sent
    subst sent
    rcases delivered _ (List.mem_singleton_self _) with impossible | ⟨message, came, goes⟩
    · cases impossible
    · rw [twin_incoming, Option.some.injEq] at came
      subst came
      rcases goes with ⟨requests | registers, _⟩ | ⟨_, goes⟩
      · cases requests
      · cases registers
      · have socket : ∀ entry ∈ twinExchange.pending,
            (twinExchange.world.state.components entry.requester).fd = 16 := by
          decide +kernel
        have waits : ⟨1, 2, .message, ascii "twin", []⟩ ∈ twinExchange.pending := by
          rw [twin_pending]
          exact List.mem_singleton_self _
        obtain ⟨_, destination, _⟩ := goes _ waits rfl
        rw [socket _ waits] at destination
        cases destination

end Gneiss
