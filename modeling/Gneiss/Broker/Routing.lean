import Gneiss.Broker.Identity

/-!
Where a request goes. A request leaves the broker only towards the first live component that the
configuration names as the server, and every request is answered or passed on once, with one
exception.
-/

namespace Gneiss

open Descriptors

variable {sxml : Sxml} {size : Nat}

def selected (state : BrokerState sxml size) (source : Fin size) (kind : KindType)
    (label : Text) : sxml.State :=
  matchService state.xml (state.components source).node (image kind) label

def FirstLive (state : BrokerState sxml size) (name : Text) (index : Fin size) : Prop :=
  Live state index ∧ componentName state index = some name ∧
    ∀ earlier < index, Live state earlier → componentName state earlier ≠ some name

def Configured (state : BrokerState sxml size) (source : Fin size) (kind : KindType)
    (label : Text) (index : Fin size) : Prop :=
  selected state source kind label ≠ sxml.invalidState ∧
    sxml.isOpen (selected state source kind label) state.xml = true ∧
    lookupRequest state (selected state source kind label) = some (.component index)

theorem configured_of_resolve {state : BrokerState sxml size} {source index : Fin size}
    {kind : KindType} {label sourceName : Text} {service : sxml.State}
    (resolved : resolve state source kind label = some (service, .component index, sourceName)) :
    Configured state source kind label index ∧
      sxml.getAttribute (state.components source).node state.xml (ascii "name") 255 =
        (.ok, sourceName) := by
  unfold resolve at resolved
  simp only at resolved
  split at resolved
  · cases resolved
  · rename_i opened
    obtain ⟨notInvalid, isOpen⟩ := not_or.mp opened
    rw [Bool.not_eq_false] at isOpen
    split at resolved
    · cases resolved
    · rename_i destination looked
      split at resolved
      · rename_i name read
        simp only [Option.some.injEq, Prod.mk.injEq] at resolved
        obtain ⟨_, rfl, rfl⟩ := resolved
        exact ⟨⟨notInvalid, isOpen, looked⟩, read⟩
      · cases resolved

theorem resolve_of_configured {state : BrokerState sxml size} {source index : Fin size}
    {kind : KindType} {label : Text} (identified : Identified state) (live : Live state source)
    (configured : Configured state source kind label index) :
    ∃ service sourceName,
      resolve state source kind label = some (service, .component index, sourceName) := by
  obtain ⟨notInvalid, isOpen, looked⟩ := configured
  obtain ⟨name, _, _, read⟩ := identified.named live
  refine ⟨selected state source kind label, name, ?_⟩
  simp only [selected] at notInvalid isOpen looked ⊢
  simp only [resolve, notInvalid, isOpen, Bool.true_eq_false, or_self, ↓reduceIte, looked, read]

theorem Configured.server {state : BrokerState sxml size} (identified : Identified state)
    {source index : Fin size} {kind : KindType} {label : Text}
    (configured : Configured state source kind label index) :
    ∃ server, sxml.attributeValue (selected state source kind label) state.xml (ascii "server") =
      some server ∧ FirstLive state server index := by
  obtain ⟨_, isOpen, looked⟩ := configured
  unfold lookupRequest at looked
  split at looked
  · rename_i server read
    rw [Option.map_eq_some_iff] at looked
    obtain ⟨found, search, same⟩ := looked
    rw [Destination.component.injEq] at same
    subst same
    obtain ⟨value, _⟩ := (sxml.getAttribute_ok_iff _ _ _ _ _ isOpen).mp read
    exact ⟨server, value, ((identified.findComponentByName_iff server found).mp search).2⟩
  · cases looked

/-! What a forwarded request looks like. -/

structure Routed (world : World sxml size) (source : Fin size) (kind : KindType) (label : Text)
    (fds : List Int) (outcome : Outcome) (after : World sxml size) (message : Sent) : Prop where
  isRequest : message.action = .request
  session : kind = .message ∨ kind = .log ∨ kind = .memory
  sameKind : message.kind = kind
  sameLabel : message.label = label
  ownName : componentName world.state source = some message.name
  destination : ∃ server index,
    sxml.attributeValue (selected world.state source kind label) world.state.xml
      (ascii "server") = some server ∧ FirstLive world.state server index ∧
    message.destination = ((after.state.components index).serv kind).broker ∧
    valid message.destination = true
  freshPair : ∃ first second, outcome.session = some (first, second) ∧
    world.table.grantsPair first second = true ∧
    message.fds = first :: second :: if kind = .memory then [fds.headD (-1)] else []
  allSealed : kind = .memory → valid (fds.headD (-1)) = true ∧ sealsSucceed outcome = true ∧
    after.seals = world.seals ++
      [(fds.headD (-1), .shrink), (fds.headD (-1), .grow), (fds.headD (-1), .seal)]

theorem setupService_seals {world rest : World sxml size} {index : Fin size} {kind : KindType}
    {outcome : Outcome} (ready : setupService world index kind outcome = (rest, true))
    (paired : Paired world.state) :
    rest.seals = world.seals := by
  rcases setupService_cases world index kind outcome paired with
    ⟨_, same⟩ | ⟨_, _, _, _, _, _, same⟩ | ⟨_, _, _, _, same⟩
  all_goals
    rw [ready, Prod.mk.injEq] at same
    obtain ⟨rfl, done⟩ := same
  · rfl
  · rfl
  · cases done

theorem forwarded_routed {world rest : World sxml size} {source index : Fin size}
    {kind : KindType} {label sourceName : Text} {fds : List Int} {outcome : Outcome}
    {service : sxml.State} {first second : Int} (paired : Paired world.state)
    (identified : Identified world.state) (live : Live world.state source)
    (granted : Granted world source kind label fds outcome)
    (session : kind = .message ∨ kind = .log ∨ kind = .memory)
    (resolved : resolve world.state source kind label =
      some (service, .component index, sourceName))
    (offered : outcome.session = some (first, second))
    (pair : world.table.grantsPair first second = true)
    (ready : setupService
      { world with
        table := (world.table.insert first).insert second
        seals := sealedBy world.seals kind fds } index kind outcome = (rest, true)) :
    Routed world source kind label fds outcome
      (rest.sendRequest (stored rest.state (.broker index kind)) kind sourceName label
        (first :: second :: attached kind fds))
      ⟨stored rest.state (.broker index kind), .request, kind, sourceName, label,
        first :: second :: attached kind fds⟩ := by
  obtain ⟨configured, read⟩ := configured_of_resolve resolved
  obtain ⟨server, named, firstLive⟩ := configured.server identified
  have there := setupService_ready ready paired
  simp only [serviceThere, Bool.and_eq_true] at there
  have called : componentName world.state source = some sourceName :=
    ((sxml.getAttribute_ok_iff _ _ _ _ _ (identified source live).1).mp read).1
  refine ⟨rfl, session, rfl, rfl, called, ⟨server, index, named, firstLive, rfl, there.1⟩,
    ⟨first, second, offered, pair, rfl⟩, ?_⟩
  rintro rfl
  have creatable := (granted_iff resolved).mp granted
  refine ⟨creatable.1, creatable.2.1, ?_⟩
  have kept := setupService_seals ready paired
  exact kept

theorem Answer.routed {world after : World sxml size} {source : Fin size} {kind : KindType}
    {label : Text} {fds : List Int} {outcome : Outcome}
    (answer : Answer world source kind label fds outcome after) (paired : Paired world.state)
    (identified : Identified world.state) (live : Live world.state source) :
    ∃ messages, after.sent = world.sent ++ messages ∧ messages.length ≤ 1 ∧
      ∀ message ∈ messages,
        (message.action ≠ .request ∧
          message.destination = (world.state.components source).fd) ∨
        Routed world source kind label fds outcome after message := by
  cases answer with
  | silent _ _ => exact ⟨[], by simp, by simp, by simp⟩
  | rejected rest _ _ undone =>
      refine ⟨_, by rw [World.sendReject, World.send, undone.sent], by simp, ?_⟩
      intro message member
      rw [List.mem_singleton] at member
      subst member
      exact Or.inl ⟨by simp, rfl⟩
  | confirmed created files _ _ _ _ =>
      refine ⟨_, rfl, by simp, ?_⟩
      intro message member
      rw [List.mem_singleton] at member
      subst member
      exact Or.inl ⟨by simp, rfl⟩
  | forwarded service index name first second rest granted session resolved _ offered pair ready =>
      have sent := setupService_sent ready paired
      refine ⟨_, by rw [World.sendRequest, World.send, sent], by simp, ?_⟩
      intro message member
      rw [List.mem_singleton] at member
      subst member
      exact Or.inr (forwarded_routed paired identified live granted session resolved offered pair
        ready)

/-- A request goes to the configured server or it goes nowhere. -/
theorem processRequest_routed (generated : GeneratedPacket) (world : World sxml size)
    (reachable : ReachableState generated world.state) (source : Fin size)
    (live : Live world.state source) (kind : KindType) (label : Text) (fds : List Int)
    (outcome : Outcome) :
    ∃ messages, (processRequest world source kind label fds outcome).sent =
        world.sent ++ messages ∧
      ∀ message ∈ messages,
        (message.action ≠ .request ∧
          message.destination = (world.state.components source).fd) ∨
        Routed world source kind label fds outcome
          (processRequest world source kind label fds outcome) message := by
  have answer : Answer world source kind label fds outcome _ :=
    processRequest_answer reachable.paired live
  obtain ⟨messages, sent, _, routed⟩ :=
    answer.routed reachable.paired reachable.identified live
  exact ⟨messages, sent, routed⟩

theorem sample_request_routed :
    Routed sampleWorld 0 .message (ascii "x") [] sampleOutcome
      (processRequest sampleWorld 0 .message (ascii "x") [] sampleOutcome)
      ⟨10, .request, .message, ascii "client", ascii "x", [8, 9]⟩ := by
  obtain ⟨messages, sent, routed⟩ := processRequest_routed referencePacket sampleWorld
    sample_reachableState 0 (sample_live 0) .message (ascii "x") [] sampleOutcome
  have one : (processRequest sampleWorld 0 .message (ascii "x") [] sampleOutcome).sent =
      [⟨10, .request, .message, ascii "client", ascii "x", [8, 9]⟩] := by
    decide +kernel
  have nothing : sampleWorld.sent = [] := by
    decide +kernel
  rw [one, nothing, List.nil_append] at sent
  rcases routed _ (by rw [← sent]; exact List.mem_singleton.mpr rfl) with ⟨notRequest, _⟩ | routed
  · exact (notRequest rfl).elim
  · exact routed

/-- And it does go there if it resolves and every system call made for it succeeds. -/
theorem processRequest_forwards (world : World sxml size) (paired : Paired world.state)
    (identified : Identified world.state) (source : Fin size) (live : Live world.state source)
    (kind : KindType) (session : kind = .message ∨ kind = .log ∨ kind = .memory) (label : Text)
    (fds : List Int) (outcome : Outcome)
    (granted : Granted world source kind label fds outcome) :
    ∃ message, (processRequest world source kind label fds outcome).sent =
        world.sent ++ [message] ∧
      Routed world source kind label fds outcome
        (processRequest world source kind label fds outcome) message := by
  have answer : Answer world source kind label fds outcome
      (processRequest world source kind label fds outcome) := processRequest_answer paired live
  generalize processRequest world source kind label fds outcome = after at answer ⊢
  cases answer with
  | silent _ refused => exact (refused granted).elim
  | rejected _ _ refused _ => exact (refused granted).elim
  | confirmed _ _ _ _ own _ =>
      rcases own with rfl | rfl <;> simp at session
  | forwarded service index name first second rest _ _ resolved _ offered pair ready =>
      have sent := setupService_sent ready paired
      exact ⟨_, by rw [World.sendRequest, World.send, sent],
        forwarded_routed paired identified live granted session resolved offered pair ready⟩

/-! Every request has one outcome if `sendmsg` succeeds, but a ROM request to a component has
none. -/

def Settles (world : World sxml size) (source : Fin size) (kind : KindType) (label : Text)
    (after : World sxml size) (message : Sent) : Prop :=
  message.kind = kind ∧ message.label = label ∧
    ((message.destination = (world.state.components source).fd ∧
        (message.action = .confirm ∨ message.action = .reject)) ∨
      (message.action = .request ∧ ∃ index, Configured world.state source kind label index ∧
        message.destination = ((after.state.components index).serv kind).broker))

def OneOutcome (world : World sxml size) (source : Fin size) (kind : KindType) (label : Text)
    (outcome : Outcome) (after : World sxml size) : Prop :=
  ∃ message, world.emitted after outcome = [message] ∧
    Settles world source kind label after message

theorem ignored_iff {state : BrokerState sxml size} (identified : Identified state)
    {source : Fin size} (live : Live state source) (kind : KindType) (label : Text) :
    Ignored state source kind label ↔
      kind = .rom ∧ ∃ index, Configured state source .rom label index := by
  constructor
  · rintro ⟨rfl, service, index, name, resolved⟩
    exact ⟨rfl, index, (configured_of_resolve resolved).1⟩
  · rintro ⟨rfl, index, configured⟩
    obtain ⟨service, name, resolved⟩ := resolve_of_configured identified live configured
    exact ⟨rfl, service, index, name, resolved⟩

/-- A request that is not ignored ends in one call of `sendmsg`. -/
theorem Answer.calls_once {world after : World sxml size} {source : Fin size} {kind : KindType}
    {label : Text} {fds : List Int} {outcome : Outcome} (paired : Paired world.state)
    (answer : Answer world source kind label fds outcome after)
    (heard : ¬Ignored world.state source kind label) :
    ∃ message, after.sent = world.sent ++ [message] ∧
      Settles world source kind label after message := by
  cases answer with
  | silent ignored _ => exact (heard ignored).elim
  | rejected rest _ _ undone =>
      refine ⟨⟨(world.state.components source).fd, .reject, kind, [], label, []⟩, ?_, rfl, rfl,
        Or.inl ⟨rfl, Or.inr rfl⟩⟩
      rw [World.sendReject, World.send, undone.sent]
  | confirmed created files _ _ _ _ => exact ⟨_, rfl, rfl, rfl, Or.inl ⟨rfl, Or.inl rfl⟩⟩
  | forwarded service index name first second rest _ session resolved _ _ _ ready =>
      refine ⟨⟨stored rest.state (.broker index kind), .request, kind, name, label,
        first :: second :: attached kind fds⟩, ?_, rfl, rfl,
        Or.inr ⟨rfl, index, (configured_of_resolve resolved).1, rfl⟩⟩
      rw [World.sendRequest, World.send, setupService_sent ready paired]

/-- An ignored one ends in none. -/
theorem Answer.ignored_sent {world after : World sxml size} {source : Fin size}
    {kind : KindType} {label : Text} {fds : List Int} {outcome : Outcome}
    (answer : Answer world source kind label fds outcome after)
    (ignored : Ignored world.state source kind label) : after.sent = world.sent := by
  cases answer with
  | silent _ _ => rfl
  | rejected _ notIgnored _ _ => exact (notIgnored ignored).elim
  | confirmed _ _ notIgnored _ _ _ => exact (notIgnored ignored).elim
  | forwarded _ _ _ _ _ _ _ session _ _ _ _ _ =>
      obtain ⟨rfl, _⟩ := ignored
      simp at session

theorem answer_oneOutcome {world after : World sxml size} {source : Fin size} {kind : KindType}
    {label : Text} {fds : List Int} {outcome : Outcome} (paired : Paired world.state)
    (answer : Answer world source kind label fds outcome after) :
    OneOutcome world source kind label outcome after ↔
      outcome.sendmsg = true ∧ ¬Ignored world.state source kind label := by
  constructor
  · rintro ⟨message, one, _⟩
    constructor
    · by_contra failed
      rw [World.emitted, if_neg failed] at one
      cases one
    · intro ignored
      have nothing : after.sent = world.sent ++ [] := by
        rw [answer.ignored_sent ignored, List.append_nil]
      rw [World.emitted_of_sent nothing, ite_self] at one
      cases one
  · rintro ⟨succeeds, heard⟩
    obtain ⟨message, sent, rest⟩ := answer.calls_once paired heard
    exact ⟨message, by rw [World.emitted_of_sent sent, if_pos succeeds], rest⟩

/-- A request gets exactly one outcome unless `sendmsg` fails or it asks for a ROM that the
configuration assigns to a live component. -/
theorem request_oneOutcome_iff (generated : GeneratedPacket) (world : World sxml size)
    (reachable : ReachableState generated world.state) (source : Fin size)
    (live : Live world.state source) (kind : KindType) (name label : Text)
    (short : label.length ≤ 255) (fds : List Int) (outcome : Outcome) :
    OneOutcome world source kind label outcome
        (handleMessage world source .request kind name label fds outcome) ↔
      outcome.sendmsg = true ∧
        ¬(kind = .rom ∧ ∃ index, Configured world.state source .rom label index) := by
  have admitted : handleMessage world source .request kind name label fds outcome =
      processRequest world source kind label fds outcome := by
    simp only [handleMessage]
    rw [if_neg (by omega)]
  rw [admitted, answer_oneOutcome reachable.paired (processRequest_answer reachable.paired live),
    ignored_iff reachable.identified live]

theorem sample_timer_oneOutcome :
    OneOutcome sampleWorld 0 .timer [] sampleOutcome
      (handleMessage sampleWorld 0 .request .timer [] [] [] sampleOutcome) := by
  exact (request_oneOutcome_iff referencePacket sampleWorld sample_reachableState 0 (sample_live 0)
    .timer [] [] (by decide) [] sampleOutcome).mpr ⟨rfl, by simp⟩

/-- The ROM request is not answered, and a timer request is not if its `sendmsg` fails. -/
theorem sample_rom_unanswered :
    ReachableState referencePacket sampleWorld.state ∧ Live sampleWorld.state 0 ∧
      ¬OneOutcome sampleWorld 0 .rom [] sampleOutcome
        (handleMessage sampleWorld 0 .request .rom [] [] [] sampleOutcome) ∧
      ¬OneOutcome sampleWorld 0 .timer [] { sampleOutcome with sendmsg := false }
        (handleMessage sampleWorld 0 .request .timer [] [] []
          { sampleOutcome with sendmsg := false }) := by
  refine ⟨sample_reachableState, sample_live 0, ?_, ?_⟩
  · rintro ⟨message, one, _⟩
    have silent : (handleMessage sampleWorld 0 .request .rom [] [] [] sampleOutcome).sent =
        sampleWorld.sent ++ [] := by
      decide +kernel
    rw [World.emitted_of_sent silent, ite_self] at one
    cases one
  · rintro ⟨message, one, _⟩
    cases one

end Gneiss
