import Gneiss.Genode.BlockProxyTurns

/-!
Whole runs of the block proxy. Between turns the device answers packets and connections come and go.
-/

namespace Gneiss.Genode.BlockProxy

open Runs Block

/-! The device answers a packet, and sessions come and go. -/

/-- A packet leaves the queue of the device, and its answer joins the answers not yet read. -/
structure Answered (world after : ProxyWorld) (item : Submitted Unit) (success : Bool) :
    Prop where
  requests : after.client.requests = world.client.requests
  cache : after.client.cache = world.client.cache
  enqueued : after.client.enqueued = world.client.enqueued
  submitted : world.session.submitted.Perm (item :: after.session.submitted)
  acked : after.session.acked =
    world.session.acked ++ [⟨item.packet.tag, success, item.ticket⟩]
  answers : after.answers = world.answers ++ [⟨item.ticket.serial, item.packet, success⟩]
  sent : after.sent = world.sent

theorem Underway.answer {world after : ProxyWorld} (underway : Underway world)
    {item : Submitted Unit} {success : Bool} (answered : Answered world after item success) :
    Underway after := by
  obtain ⟨requests, cache, counted, submitted, acked, answers, sent⟩ := answered
  obtain ⟨owned, distinct, known, given, once, numbered, enqueued⟩ := underway
  have member : item ∈ world.session.submitted := submitted.mem_iff.mpr List.mem_cons_self
  have flying : world.flying.Perm after.flying := by
    have moved := (submitted.map fun item => (item.packet.tag, item.ticket.serial)).append_right
      ((entries world.client.cache ++ world.session.acked).map fun ack =>
        (ack.tag, ack.ticket.serial))
    refine moved.trans ?_
    rw [List.map_cons, List.cons_append]
    refine (List.perm_append_singleton _ _).symm.trans (List.Perm.of_eq ?_)
    unfold ProxyWorld.flying
    simp only [cache, acked, List.map_append, List.append_assoc, List.map_cons, List.map_nil]
  have moved : (world.session.submitted.map (·.ticket.serial) ++
      world.answers.map Answer.serial).Perm
      (after.session.submitted.map (·.ticket.serial) ++ after.answers.map Answer.serial) := by
    refine ((submitted.map _).append_right _).trans ?_
    rw [answers, List.map_append, List.map_cons, List.cons_append, List.map_singleton,
      ← List.append_assoc]
    exact (List.perm_append_singleton _ _).symm
  have kept : ∀ other ∈ after.session.submitted, other ∈ world.session.submitted :=
    fun other inside => submitted.mem_iff.mpr (List.mem_cons_of_mem _ inside)
  obtain ⟨entry, found, same⟩ := known item member
  constructor
  · rw [requests]
    exact fun other inside => owned other (flying.mem_iff.mpr inside)
  · exact (flying.map Prod.fst).nodup_iff.mp distinct
  · rw [sent]
    exact fun other inside => known other (kept other inside)
  · rw [cache, acked, sent, answers, ← List.append_assoc]
    intro ack inside
    rcases List.mem_append.mp inside with before | new
    · obtain ⟨old, there, answer⟩ := given ack before
      exact ⟨old, there, List.mem_append_left _ answer⟩
    · rw [List.mem_singleton.mp new]
      refine ⟨entry, found, List.mem_append_right _ ?_⟩
      rw [same]
      exact List.mem_singleton_self _
  · exact moved.nodup_iff.mp once
  · rw [answers, sent]
    intro answer inside
    rcases List.mem_append.mp inside with before | new
    · exact numbered answer before
    · rw [List.mem_singleton.mp new]
      exact (List.getElem?_eq_some_iff.mp found).1
  · rw [counted, sent]
    exact enqueued

theorem answer_cases (world : ProxyWorld) (index : Nat) (success : Bool) :
    world.answer index success = world ∨
      ∃ item, Answered world (world.answer index success) item success := by
  cases found : world.session.submitted[index]? with
  | none =>
      left
      have unchanged : world.client.acknowledge () index success = world.client := by
        have none_ : (world.client.sessions ()).submitted[index]? = none := found
        simp only [ClientWorld.acknowledge, none_]
      simp only [ProxyWorld.answer, found, unchanged, Option.map_none, Option.toList_none,
        List.append_nil]
  | some item =>
      right
      have there : (world.client.sessions ()).submitted[index]? = some item := found
      obtain ⟨bound, same⟩ := List.getElem?_eq_some_iff.mp found
      refine ⟨item, ?_⟩
      constructor
      · simp only [ProxyWorld.answer, ClientWorld.acknowledge, there, ClientWorld.setSession]
      · simp only [ProxyWorld.answer, ClientWorld.acknowledge, there, ClientWorld.setSession]
      · simp only [ProxyWorld.answer, ClientWorld.acknowledge, there, ClientWorld.setSession]
      · have erased : (world.answer index success).session.submitted =
            world.session.submitted.eraseIdx index := by
          simp only [ProxyWorld.answer, ProxyWorld.session, ClientWorld.acknowledge, there,
            ClientWorld.setSession, Function.update_self]
        rw [erased, ← same]
        exact (List.getElem_cons_eraseIdx_perm bound).symm
      · simp only [ProxyWorld.answer, ProxyWorld.session, ClientWorld.acknowledge, there,
          ClientWorld.setSession, Function.update_self]
      · simp only [ProxyWorld.answer, found, Option.map_some, Option.toList_some]
      · rfl

theorem Faithful.answered {world after : ProxyWorld} (faithful : Faithful world)
    {item : Submitted Unit} {success : Bool} (answered : Answered world after item success)
    (server : after.server = world.server) (taken : after.taken = world.taken)
    (relayed : after.relayed = world.relayed) (returned : after.returned = world.returned) :
    Faithful after := by
  have grown : ∃ more, after.sent = world.sent ++ more :=
    ⟨[], by rw [answered.sent, List.append_nil]⟩
  have more : world.answers ⊆ after.answers := by
    rw [answered.answers]
    exact List.subset_append_left _ _
  have pair : after.pair = world.pair := by
    unfold ProxyWorld.pair
    rw [server, answered.requests]
  constructor
  · exact faithful.underway.answer answered
  · intro other
    exact (faithful.state other).mono (by rw [server]) (by rw [answered.requests]) grown more
  · rw [answered.sent]
    exact faithful.carries
  · rw [relayed]
    exact fun entry member => (faithful.truthful entry member).mono grown more (by simp [returned])
  · rw [taken, relayed, ProxyWorld.held, pair]
    exact faithful.taken
  · rw [answered.sent, relayed, ProxyWorld.heldSent, pair]
    exact faithful.sent
  · rw [answered.sent]
    exact faithful.written
  · rw [returned]
    exact faithful.returned
  · rw [server]
    exact faithful.tag
  · rw [server]
    exact faithful.tags

theorem Faithful.answer {world : ProxyWorld} (faithful : Faithful world) (index : Nat)
    (success : Bool) : Faithful (world.answer index success) := by
  rcases answer_cases world index success with same | ⟨item, answered⟩
  · rw [same]
    exact faithful
  · exact faithful.answered answered rfl rfl rfl rfl

/-- The stream of the client side is kept or given up; the entries of `Cache` stay. -/
structure Reconnected (world after : ProxyWorld) : Prop where
  requests : after.client.requests = world.client.requests
  cache : after.client.cache = world.client.cache
  enqueued : after.client.enqueued = world.client.enqueued
  submitted : after.session.submitted.Sublist world.session.submitted
  acked : after.session.acked.Sublist world.session.acked
  server : after.server.requests = world.server.requests
  taken : after.taken = world.taken
  sent : after.sent = world.sent
  answers : after.answers = world.answers
  relayed : after.relayed = world.relayed
  returned : after.returned = world.returned

theorem Underway.reconnected {world after : ProxyWorld} (underway : Underway world)
    (reconnected : Reconnected world after) : Underway after := by
  obtain ⟨requests, cache, counted, submitted, acked, _, _, sent, answers, _⟩ := reconnected
  obtain ⟨owned, distinct, known, given, once, numbered, enqueued⟩ := underway
  have fewer : after.flying.Sublist world.flying := by
    unfold ProxyWorld.flying
    rw [cache]
    exact (submitted.map _).append (((List.Sublist.refl _).append acked).map _)
  constructor
  · rw [requests]
    exact fun item member => owned item (fewer.subset member)
  · exact distinct.sublist (fewer.map _)
  · rw [sent]
    exact fun item member => known item (submitted.subset member)
  · rw [cache, sent, answers]
    intro ack member
    exact given ack (((List.Sublist.refl _).append acked).subset member)
  · rw [answers]
    exact once.sublist ((submitted.map _).append (List.Sublist.refl _))
  · rw [answers, sent]
    exact numbered
  · rw [counted, sent]
    exact enqueued

theorem Faithful.reconnected {world after : ProxyWorld} (faithful : Faithful world)
    (reconnected : Reconnected world after)
    (tag : after.server.server.initialized = true → after.server.server.tag = some 42) :
    Faithful after := by
  have grown : ∃ more, after.sent = world.sent ++ more :=
    ⟨[], by rw [reconnected.sent, List.append_nil]⟩
  have answered : world.answers ⊆ after.answers := by
    rw [reconnected.answers]
    exact List.Subset.refl _
  have pair : after.pair = world.pair := by
    unfold ProxyWorld.pair
    rw [reconnected.server, reconnected.requests]
  constructor
  · exact faithful.underway.reconnected reconnected
  · intro other
    exact (faithful.state other).mono (by rw [reconnected.server])
      (by rw [reconnected.requests]) grown answered
  · rw [reconnected.sent]
    exact faithful.carries
  · rw [reconnected.relayed]
    exact fun entry member =>
      (faithful.truthful entry member).mono grown answered (by simp [reconnected.returned])
  · rw [reconnected.taken, reconnected.relayed, ProxyWorld.held, pair]
    exact faithful.taken
  · rw [reconnected.sent, reconnected.relayed, ProxyWorld.heldSent, pair]
    exact faithful.sent
  · rw [reconnected.sent]
    exact faithful.written
  · rw [reconnected.returned]
    exact faithful.returned
  · exact tag
  · rw [reconnected.server]
    exact faithful.tags

/-- `Initialize` and `Finalize` of the client side. -/
structure Restarted (client after : ClientWorld Unit RequestIndex) : Prop where
  requests : after.requests = client.requests
  cache : after.cache = client.cache
  enqueued : after.enqueued = client.enqueued
  submitted : (after.sessions ()).submitted.Sublist (client.sessions ()).submitted
  acked : (after.sessions ()).acked.Sublist (client.sessions ()).acked

theorem Restarted.refl (client : ClientWorld Unit RequestIndex) : Restarted client client :=
  ⟨rfl, rfl, rfl, List.Sublist.refl _, List.Sublist.refl _⟩

theorem Restarted.trans {first second third : ClientWorld Unit RequestIndex}
    (before : Restarted first second) (later : Restarted second third) : Restarted first third :=
  ⟨later.requests.trans before.requests, later.cache.trans before.cache,
    later.enqueued.trans before.enqueued, later.submitted.trans before.submitted,
    later.acked.trans before.acked⟩

theorem initializeSession_restarted (client : ClientWorld Unit RequestIndex) (tag : Nat)
    (device : Option Nat) : Restarted client (client.initializeSession () tag device) := by
  cases device <;> constructor <;>
    simp [ClientWorld.initializeSession, ClientWorld.setSession]

theorem finalizeSession_restarted (client : ClientWorld Unit RequestIndex) :
    Restarted client (client.step (.finalizeSession ())) := by
  simp only [ClientWorld.step]
  split
  · constructor <;> simp [ClientWorld.finalizeSession, ClientWorld.setSession]
  · exact .refl client

theorem reconnected_of_restarted (world after : ProxyWorld)
    (restarted : Restarted world.client after.client)
    (server : after.server.requests = world.server.requests)
    (taken : after.taken = world.taken) (sent : after.sent = world.sent)
    (answers : after.answers = world.answers) (relayed : after.relayed = world.relayed)
    (returned : after.returned = world.returned) : Reconnected world after :=
  ⟨restarted.requests, restarted.cache, restarted.enqueued, restarted.submitted, restarted.acked,
    server, taken, sent, answers, relayed, returned⟩

theorem Reconnected.trans {first second third : ProxyWorld} (before : Reconnected first second)
    (later : Reconnected second third) : Reconnected first third where
  requests := later.requests.trans before.requests
  cache := later.cache.trans before.cache
  enqueued := later.enqueued.trans before.enqueued
  submitted := later.submitted.trans before.submitted
  acked := later.acked.trans before.acked
  server := later.server.trans before.server
  taken := later.taken.trans before.taken
  sent := later.sent.trans before.sent
  answers := later.answers.trans before.answers
  relayed := later.relayed.trans before.relayed
  returned := later.returned.trans before.returned

/-- The session of the server side, if there is one, has the only tag there is. -/
def Tagged (world : ProxyWorld) : Prop :=
  world.server.server.initialized = true → world.server.server.tag = some 42

theorem sessionInitialize_reconnected (world : ProxyWorld) (device : Option (Nat × Nat))
    (created : Bool) (tagged : Tagged world) :
    Reconnected world (world.sessionInitialize device created) ∧
      Tagged (world.sessionInitialize device created) := by
  let opened : ProxyWorld := if world.session.initialized then world
    else { world with
      client := world.client.initializeSession () 42 (device.map (·.1))
      blockCount := (device.map (·.2)).getD 0 }
  have first : Reconnected world opened ∧ opened.server = world.server := by
    simp only [opened]
    split
    · exact ⟨reconnected_of_restarted _ _ (.refl _) rfl rfl rfl rfl rfl rfl, rfl⟩
    · exact ⟨reconnected_of_restarted _ _ (initializeSession_restarted _ _ _) rfl rfl rfl rfl rfl
        rfl, rfl⟩
  obtain ⟨reconnected, server⟩ := first
  have open_ : (if world.session.initialized = true then world else _) = opened := rfl
  cases found : opened.ready with
  | none =>
      have halts : world.sessionInitialize device created = { opened with halted := true } := by
        unfold ProxyWorld.sessionInitialize
        simp only
        rw [open_, found]
      rw [halts]
      refine ⟨reconnected.trans
        (reconnected_of_restarted _ _ (.refl _) rfl rfl rfl rfl rfl rfl), ?_⟩
      unfold Tagged
      rw [server]
      exact tagged
  | some ready =>
      let served := opened.server.sessionInitialize 42 ready created
      have serves : world.sessionInitialize device created =
          if served.server.initialized = true then { opened with server := served }
          else
            { opened with
              server := served
              client := opened.client.step (.finalizeSession ()) } := by
        unfold ProxyWorld.sessionInitialize
        simp only
        rw [open_, found]
      have requests := opened.server.sessionInitialize_requests 42 ready created
      have tag := opened.server.sessionInitialize_tag 42 ready created
      rw [serves]
      split
      · exact ⟨reconnected.trans (reconnected_of_restarted _ _ (.refl _) requests rfl rfl rfl rfl
          rfl), fun _ => tag⟩
      · exact ⟨reconnected.trans (reconnected_of_restarted _ _ (finalizeSession_restarted _)
          requests rfl rfl rfl rfl rfl), fun _ => tag⟩

theorem dispatch_reconnected (world : ProxyWorld) (dispatched : Dispatched)
    (tagged : Tagged world) :
    Reconnected world (world.dispatch dispatched) ∧ Tagged (world.dispatch dispatched) := by
  have same : Reconnected world world :=
    reconnected_of_restarted _ _ (.refl _) rfl rfl rfl rfl rfl rfl
  cases dispatched with
  | session device created =>
      simp only [ProxyWorld.dispatch]
      split
      · exact sessionInitialize_reconnected world device created tagged
      · exact ⟨same, tagged⟩
  | close own =>
      simp only [ProxyWorld.dispatch]
      split
      · rename_i closed
        have gone : world.server.sessionCleanup own =
            { world.server with
              server := { world.server.server with session := none, callbacks := false } } :=
          if_pos closed
        rw [gone]
        exact ⟨reconnected_of_restarted _ _ (finalizeSession_restarted _) rfl rfl rfl rfl rfl rfl,
          fun impossible => absurd impossible Bool.false_ne_true⟩
      · exact ⟨same, tagged⟩

theorem Faithful.dispatch {world : ProxyWorld} (faithful : Faithful world)
    (dispatched : Dispatched) : Faithful (world.dispatch dispatched) := by
  obtain ⟨reconnected, tagged⟩ := dispatch_reconnected world dispatched faithful.tag
  exact faithful.reconnected reconnected tagged

theorem Faithful.step {world : ProxyWorld} (faithful : Faithful world) (input : ProxyInput) :
    Faithful (world.step input) := by
  cases input with
  | turn index input =>
      simp only [ProxyWorld.step]
      split
      · rename_i allowed
        exact faithful.turn allowed.2 index input
      · exact faithful
  | device index success => exact faithful.answer index success
  | dispatch dispatched =>
      simp only [ProxyWorld.step]
      split
      · exact faithful
      · exact faithful.dispatch dispatched

theorem faithful_initial : Faithful ProxyWorld.initial := by
  have nothing {Item : Type} (item : ServerRequest × ClientRequest Unit → Option Item)
      (none_ : ∀ index, item (ProxyWorld.initial.pair index) = none) :
      Slots.held (List.finRange 64) item ProxyWorld.initial.pair = [] := by
    unfold Slots.held
    rw [List.filterMap_eq_nil_iff]
    exact fun index _ => none_ index
  have flying : ProxyWorld.initial.flying = [] := by decide +kernel
  constructor
  · constructor
    · rw [flying]
      exact fun item member => absurd member List.not_mem_nil
    · rw [flying]
      exact List.nodup_nil
    · exact fun item member => absurd member List.not_mem_nil
    · have empty : entries ProxyWorld.initial.client.cache ++ ProxyWorld.initial.session.acked =
          [] := by decide +kernel
      rw [empty]
      exact fun ack member => absurd member List.not_mem_nil
    · exact List.nodup_nil
    · exact fun answer member => absurd member List.not_mem_nil
    · rfl
  · exact fun index => .free rfl (Or.inl rfl)
  · exact fun entry member => absurd member List.not_mem_nil
  · exact fun entry member => absurd member List.not_mem_nil
  · rw [ProxyWorld.held, nothing takenItem fun index => rfl]
    exact List.Perm.nil
  · rw [ProxyWorld.heldSent, nothing sentItem fun index => rfl]
    exact List.Perm.nil
  · exact fun entry member => absurd member List.not_mem_nil
  · exact fun entry member => absurd member List.not_mem_nil
  · exact fun impossible => absurd impossible Bool.false_ne_true
  · intro index impossible
    cases impossible

def writeRequest : StreamRequest := ⟨2, 5, 1, false, 0, 9⟩

def syncRequest : StreamRequest := ⟨3, 0, 0, false, 0, 10⟩

def writingClient : List ProxyInput :=
  [.dispatch (.session (some (512, 1000)) true),
    .turn 0 ⟨some writeRequest, none, [], some 0, true⟩,
    .turn 1 ⟨some syncRequest, none, [], none, true⟩, .device 0 true,
    .turn 0 ⟨none, none, [], none, true⟩]

example : (run ProxyWorld.step ProxyWorld.initial writingClient).relayed =
    [⟨{ writeRequest with success := true }, some 0⟩] := by
  decide +kernel

/-! `Allocate_Request` refuses what is not a read or a write of at least one block. The result
`Unsupported` is noted and never looked at, so nobody acknowledges such a request. -/

def Refused (request : StreamRequest) : Prop :=
  ¬((request.kind = 1 ∨ request.kind = 2) ∧ 0 < request.blockCount)

/-- An entry that holds a refused request, which was not sent on. -/
structure Stuck (world : ProxyWorld) (index : RequestIndex) : Prop where
  pending : (world.server.requests index).status = .pending
  refused : Refused (world.server.requests index).request
  unsent : (world.client.requests index).status = .raw

theorem Faithful.stuck {world : ProxyWorld} (faithful : Faithful world) (index : RequestIndex)
    (pending : (world.server.requests index).status = .pending)
    (refused : Refused (world.server.requests index).request) : Stuck world index := by
  refine ⟨pending, refused, ?_⟩
  cases faithful.state index with
  | free unused _ =>
      rw [unused] at pending
      cases pending
  | waiting _ unsent => exact unsent
  | sent _ _ serial entry follows =>
      have asked := faithful.asked follows
      exact (refused ⟨asked.data, asked.some_⟩).elim

/-- A turn changes one entry. -/
def Elsewhere (world after : ProxyWorld) (index : RequestIndex) : Prop :=
  ∀ other, other ≠ index → after.pair other = world.pair other

theorem Elsewhere.refl (world : ProxyWorld) (index : RequestIndex) :
    Elsewhere world world index :=
  fun _ _ => rfl

theorem Elsewhere.trans {first second third : ProxyWorld} {index : RequestIndex}
    (before : Elsewhere first second index) (later : Elsewhere second third index) :
    Elsewhere first third index :=
  fun other different => (later other different).trans (before other different)

theorem release_elsewhere (world : ProxyWorld) (index : RequestIndex) :
    Elsewhere world (world.release index) index := by
  intro other different
  simp only [ProxyWorld.release]
  split
  · simp [ProxyWorld.pair, ClientWorld.setRequest, different]
  · rfl

theorem take_elsewhere (world : ProxyWorld) (index : RequestIndex)
    (arrived : Option StreamRequest) : Elsewhere world (world.take index arrived) index := by
  intro other different
  simp only [ProxyWorld.take]
  split
  · cases arrived <;> simp [ProxyWorld.pair, ServerWorld.process, different]
  · rfl

theorem acknowledge_elsewhere (world : ProxyWorld) (index : RequestIndex) (res : RequestStatus)
    (submitted : Bool) : Elsewhere world (world.acknowledge index res submitted) index := by
  intro other different
  simp [ProxyWorld.pair, ProxyWorld.acknowledge, ServerWorld.acknowledge, different]

theorem update_elsewhere (world : ProxyWorld) (index : RequestIndex) :
    Elsewhere world (world.update index) index := by
  intro other different
  simp only [ProxyWorld.update]
  split
  · simp [ProxyWorld.pair, ClientWorld.updateRequest, ClientWorld.setRequest,
      ClientWorld.setSession, different]
  · rfl

theorem enqueue_elsewhere (world : ProxyWorld) (index : RequestIndex) (c : ClientRequest Unit)
    (window : Option Text) (content : Text) :
    Elsewhere world (world.enqueue index c window content) index := by
  intro other different
  simp [ProxyWorld.pair, ProxyWorld.enqueue, ClientWorld.enqueue, ClientWorld.setRequest,
    ClientWorld.setSession, different]

theorem complete_elsewhere (world : ProxyWorld) (index : RequestIndex) (input : TurnInput) :
    Elsewhere world (world.complete index input) index := by
  have read : Elsewhere world (world.readPacket index input) index := by
    obtain ⟨client, server, _⟩ := readPacket_keeps world index input
    intro other _
    unfold ProxyWorld.pair
    rw [client, server]
  simp only [ProxyWorld.complete]
  split
  · split
    · split
      · exact read
      · split
        · exact read.trans (acknowledge_elsewhere _ _ _ _)
        · exact read
    · split
      · exact .refl _ _
      · split
        · exact acknowledge_elsewhere _ _ _ _
        · exact .refl _ _
  · exact .refl _ _

theorem writePacket_elsewhere (world : ProxyWorld) (index : RequestIndex)
    (c : ClientRequest Unit) (input : TurnInput) :
    Elsewhere world (world.writePacket index c input) index := by
  have applied : Elsewhere world { world with server := world.server.apply index } index :=
    fun _ _ => rfl
  simp only [ProxyWorld.writePacket]
  split
  · exact fun _ _ => rfl
  · split
    · split
      · exact applied.trans (enqueue_elsewhere _ _ _ _ _)
      · exact applied.trans (enqueue_elsewhere _ _ _ _ _)
    · exact enqueue_elsewhere _ _ _ _ _

theorem forward_elsewhere (world : ProxyWorld) (index : RequestIndex) (input : TurnInput) :
    Elsewhere world (world.forward index input) index := by
  simp only [ProxyWorld.forward]
  split
  · split
    · exact fun _ _ => rfl
    · split
      · split
        · exact writePacket_elsewhere _ _ _ _
        · exact enqueue_elsewhere _ _ _ _ _
      · intro other different
        simp [ProxyWorld.pair, ClientWorld.setRequest, different]
  · exact .refl _ _

theorem turn_elsewhere (world : ProxyWorld) (index : RequestIndex) (input : TurnInput) :
    Elsewhere world (world.turn index input) index := by
  have fails (world : ProxyWorld) : Elsewhere world (world.fail index input.submitted) index := by
    unfold ProxyWorld.fail
    split
    · exact acknowledge_elsewhere _ _ _ _
    · exact .refl _ _
  have resumes (world : ProxyWorld) : Elsewhere world (world.resume index input) index := by
    simp only [ProxyWorld.resume]
    split
    · exact enqueue_elsewhere _ _ _ _ _
    · exact .refl _ _
  have before : Elsewhere world
      (((world.release index).take index input.arrived).fail index input.submitted) index :=
    ((release_elsewhere world index).trans (take_elsewhere _ _ _)).trans (fails _)
  simp only [ProxyWorld.turn, ProxyWorld.serve]
  split
  · have completed := (before.trans (update_elsewhere _ index)).trans
      (complete_elsewhere _ index input)
    split
    · exact completed
    · have forwarded := completed.trans (forward_elsewhere _ index input)
      split
      · exact forwarded
      · exact forwarded.trans (resumes _)
  · exact before

/-- A refused request is offered to the other side again and again, and nothing comes of it. -/
structure Unmoved (world after : ProxyWorld) (index : RequestIndex) : Prop where
  server : after.server = world.server
  unsent : (after.client.requests index).status = .raw
  taken : after.taken = world.taken
  relayed : after.relayed = world.relayed

theorem Stuck.forward {world : ProxyWorld} {index : RequestIndex} (stuck : Stuck world index)
    (input : TurnInput) : Unmoved world (world.forward index input) index := by
  have same : Unmoved world { world with halted := true } index := ⟨rfl, stuck.unsent, rfl, rfl⟩
  have outcome := allocateRequest_cases world.session (world.client.requests index)
    (serverKind (world.server.requests index).request.kind)
    (world.server.requests index).request.blockNumber
    (world.server.requests index).request.blockCount index input.memory stuck.unsent
  simp only [ProxyWorld.forward, if_pos stuck.unsent]
  split
  · exact same
  · generalize allocateRequest _ _ _ _ _ _ _ = answer at outcome
    obtain ⟨c, result⟩ := answer
    rcases outcome with ⟨_, data, some_, _⟩ | ⟨refused, unused⟩
    · exact (stuck.refused ⟨serverKind_data _ data, some_⟩).elim
    · simp only
      refine ⟨rfl, ?_, rfl, rfl⟩
      simp only [ClientWorld.setRequest, Function.update_self]
      exact unused

theorem Stuck.turn {world : ProxyWorld} {index : RequestIndex} (stuck : Stuck world index)
    (input : TurnInput) : Unmoved world (world.turn index input) index := by
  have pending := stuck.pending
  have unsent := stuck.unsent
  have released : world.release index = world := by
    simp [ProxyWorld.release, pending]
  have took : world.take index input.arrived = world := by
    simp [ProxyWorld.take, pending]
  have failed : world.fail index input.submitted = world := by
    simp [ProxyWorld.fail, pending]
  have updated : world.update index = world := by
    simp [ProxyWorld.update, unsent]
  have forwarded := stuck.forward input
  have resumed : (world.forward index input).resume index input = world.forward index input := by
    simp [ProxyWorld.resume, forwarded.unsent]
  simp only [ProxyWorld.turn, released, took, failed, if_pos pending, ProxyWorld.serve, updated,
    complete_raw world index input unsent, resumed, ite_self]
  split
  · exact ⟨rfl, unsent, rfl, rfl⟩
  · exact forwarded

theorem Unmoved.stuck {world after : ProxyWorld} {index : RequestIndex}
    (unmoved : Unmoved world after index) (stuck : Stuck world index) : Stuck after index := by
  refine ⟨?_, ?_, unmoved.unsent⟩
  · rw [unmoved.server]
    exact stuck.pending
  · rw [unmoved.server]
    exact stuck.refused

/-- The entry keeps its request. -/
def Keeps (world after : ProxyWorld) (index : RequestIndex) : Prop :=
  Stuck after index ∧ after.server.requests index = world.server.requests index

theorem Stuck.step {world : ProxyWorld} (tagged : Tagged world) {index : RequestIndex}
    (stuck : Stuck world index) (input : ProxyInput) : Keeps world (world.step input) index := by
  have unchanged : Keeps world world index := ⟨stuck, rfl⟩
  have of_pair (after : ProxyWorld) (same : after.pair index = world.pair index) :
      Keeps world after index := by
    obtain ⟨server, client⟩ := Prod.mk.inj same
    exact ⟨⟨by rw [server]; exact stuck.pending, by rw [server]; exact stuck.refused,
      by rw [client]; exact stuck.unsent⟩, server⟩
  cases input with
  | turn turned input =>
      simp only [ProxyWorld.step]
      split
      · by_cases here : index = turned
        · have unmoved := stuck.turn input
          rw [here] at unmoved stuck
          rw [here]
          exact ⟨unmoved.stuck stuck, by rw [unmoved.server]⟩
        · exact of_pair _ (turn_elsewhere world turned input index here)
      · exact unchanged
  | device packet success =>
      apply of_pair
      rcases answer_cases world packet success with same | ⟨item, answered⟩
      · rw [ProxyWorld.step, same]
      · unfold ProxyWorld.pair
        rw [ProxyWorld.step, answered.requests]
        rfl
  | dispatch dispatched =>
      simp only [ProxyWorld.step]
      split
      · exact unchanged
      · obtain ⟨reconnected, _⟩ := dispatch_reconnected world dispatched tagged
        apply of_pair
        unfold ProxyWorld.pair
        rw [reconnected.server, reconnected.requests]

/-- With every entry stuck no request is taken and none is acknowledged. -/
theorem step_all_stuck {world : ProxyWorld} (tagged : Tagged world)
    (stuck : ∀ index, Stuck world index) (input : ProxyInput) :
    (world.step input).taken = world.taken ∧ (world.step input).relayed = world.relayed := by
  cases input with
  | turn index input =>
      simp only [ProxyWorld.step]
      split
      · have unmoved := (stuck index).turn input
        exact ⟨unmoved.taken, unmoved.relayed⟩
      · exact ⟨rfl, rfl⟩
  | device packet success => exact ⟨rfl, rfl⟩
  | dispatch dispatched =>
      simp only [ProxyWorld.step]
      split
      · exact ⟨rfl, rfl⟩
      · obtain ⟨reconnected, _⟩ := dispatch_reconnected world dispatched tagged
        exact ⟨reconnected.taken, reconnected.relayed⟩

/-- A request other than to read or write at least one block keeps its entry for ever and is never
acknowledged, whatever happens later. Once such requests hold all entries, the proxy takes nothing
any more. -/
theorem refused_requests_stay (before later : List ProxyInput) :
    let world := run ProxyWorld.step ProxyWorld.initial before
    let after := run ProxyWorld.step world later
    (∀ index, (world.server.requests index).status = .pending →
        Refused (world.server.requests index).request →
        after.server.requests index = world.server.requests index ∧
          (after.client.requests index).status = .raw) ∧
      ((∀ index, (world.server.requests index).status = .pending ∧
          Refused (world.server.requests index).request) →
        after.taken = world.taken ∧ after.relayed = world.relayed) := by
  intro world after
  have faithful : Faithful world := run_invariant ProxyWorld.step Faithful
    (fun _ input holds => holds.step input) _ before faithful_initial
  constructor
  · intro index pending refused
    obtain ⟨_, stuck, same⟩ := run_invariant ProxyWorld.step
      (fun current => Faithful current ∧ Keeps world current index)
      (fun current input holds => by
        obtain ⟨still, stuck, same⟩ := holds
        obtain ⟨next, kept⟩ := stuck.step still.tag input
        exact ⟨still.step input, next, kept.trans same⟩)
      world later ⟨faithful, faithful.stuck index pending refused, rfl⟩
    exact ⟨same, stuck.unsent⟩
  · intro all
    obtain ⟨_, _, taken, relayed⟩ := run_invariant ProxyWorld.step
      (fun current => Faithful current ∧ (∀ index, Stuck current index) ∧
        current.taken = world.taken ∧ current.relayed = world.relayed)
      (fun current input holds => by
        obtain ⟨still, stuck, taken, relayed⟩ := holds
        obtain ⟨sameTaken, sameRelayed⟩ := step_all_stuck still.tag stuck input
        exact ⟨still.step input, fun index => ((stuck index).step still.tag input).1,
          sameTaken.trans taken, sameRelayed.trans relayed⟩)
      world later
      ⟨faithful, fun index => faithful.stuck index (all index).1 (all index).2, rfl, rfl⟩
    exact ⟨taken, relayed⟩

theorem sync_request_stays :
    (run ProxyWorld.step (run ProxyWorld.step ProxyWorld.initial writingClient)
      (.dispatch (.close true) :: writingClient)).server.requests 1 =
        ⟨syncRequest, .pending, some 42, 1⟩ := by
  have taken : (run ProxyWorld.step ProxyWorld.initial writingClient).server.requests 1 =
      ⟨syncRequest, .pending, some 42, 1⟩ := by
    decide +kernel
  have stays := (refused_requests_stay writingClient (.dispatch (.close true) :: writingClient)).1 1
    (by rw [taken]) (by rw [taken]; simp [Refused, syncRequest])
  exact stays.1.trans taken

end Gneiss.Genode.BlockProxy
