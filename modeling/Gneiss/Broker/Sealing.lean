import Gneiss.Broker.Exchanges

/-!
Memory that the broker passes on cannot change its size any more. `seals` and `sent` are two lists,
so that sealing comes first is said for every state of a run: the seals of all memory that was ever
passed on are there, in the order in which it was passed on.
-/

namespace Gneiss

open Descriptors

variable {sxml : Sxml} {size : Nat}

def passesMemory (message : Sent) : Bool :=
  decide (message.action = .request) && decide (message.kind = .memory)

/-- The memory that was passed on to servers. -/
def passedMemory (sent : List Sent) : List Int :=
  (sent.filter passesMemory).map fun message => message.fds.getD 2 (-1)

structure Sealed (world : World sxml size) : Prop where
  complete : ∀ message ∈ world.sent, passesMemory message = true → message.fds.length = 3
  before : ((passedMemory world.sent).flatMap allSeals).Sublist world.seals

theorem closeAll_seals (world : World sxml size) (fds : List Int) :
    (world.closeAll fds).seals = world.seals := by
  induction fds generalizing world with
  | nil => rfl
  | cons fd rest ih => rw [World.closeAll_cons, ih, World.close_seals]

theorem setupService_keeps_seals (world : World sxml size) (index : Fin size) (kind : KindType)
    (outcome : Outcome) : (setupService world index kind outcome).1.seals = world.seals := by
  unfold setupService
  simp only
  split
  · rfl
  · split
    · simp only [World.setServ, World.setComponent, World.close_seals]
    · split
      · rfl
      · simp only [World.setServ, World.setComponent, World.close_seals]

theorem forwardRequest_seals (world : World sxml size) (source index : Fin size) (kind : KindType)
    (sourceName label : Text) (fdsOut : List Int) (count : Nat) (outcome : Outcome) :
    (forwardRequest world source index kind sourceName label fdsOut count outcome).seals =
      world.seals := by
  have kept := setupService_keeps_seals world index kind outcome
  unfold forwardRequest
  simp only
  split
  · rw [World.sendReject, World.send, closeAll_seals, kept]
  · exact kept

theorem processMemoryRequest_seals (world : World sxml size) (fds : List Int) (outcome : Outcome) :
    world.seals <+: (processMemoryRequest world fds outcome).1.seals := by
  have sealing : world.seals <+: (world.memfdSeal (fds.headD (-1)) outcome).1.seals := by
    unfold World.memfdSeal
    split
    · split
      · split <;> simp
      · simp
    · simp
  unfold processMemoryRequest
  simp only
  split
  · exact List.prefix_refl _
  · split
    · rw [World.close_seals]
      exact sealing
    · split
      · exact sealing
      · simp only [World.close_seals]
        exact sealing

/-- Whatever comes of a request, seals are only added. -/
theorem processRequest_seals (world : World sxml size) (source : Fin size) (kind : KindType)
    (label : Text) (fds : List Int) (outcome : Outcome) :
    world.seals <+: (processRequest world source kind label fds outcome).seals := by
  have same := List.prefix_refl world.seals
  have channel (kind : KindType) (sourceName : Text) (destination : Destination size) :
      (requestChannel world source kind sourceName label destination outcome).seals =
        world.seals := by
    unfold requestChannel processMessageRequest
    cases destination with
    | broker => rfl
    | component index =>
        simp only
        split
        · split
          · rfl
          · rw [forwardRequest_seals]
        · simp only [World.sendReject, World.send, Bool.not_false, if_true, World.close_seals]
  unfold processRequest
  simp only
  split
  · exact same
  · split
    · exact same
    · split
      · exact same
      · rename_i destination looked
        split
        · rename_i sourceName named
          cases kind with
          | message => exact (channel .message sourceName destination).symm ▸ same
          | log => exact (channel .log sourceName destination).symm ▸ same
          | rom =>
              unfold requestRom processRomRequest
              cases destination with
              | component index => exact same
              | broker =>
                  simp only
                  split
                  · split <;> exact same
                  · exact same
          | timer =>
              unfold requestTimer processTimerRequest
              simp only
              cases valid (world.table.allocate outcome.timer).2 <;> exact same
          | memory =>
              have grown := processMemoryRequest_seals world fds outcome
              unfold requestMemory
              cases destination with
              | broker => exact same
              | component index =>
                  simp only
                  split
                  · exact same
                  · split
                    · exact grown
                    · rw [forwardRequest_seals]
                      exact grown
        · exact same

theorem passedMemory_append (first second : List Sent) :
    passedMemory (first ++ second) = passedMemory first ++ passedMemory second := by
  simp [passedMemory]

theorem Sealed.grow {world after : World sxml size} (sealed_ : Sealed world)
    (messages : List Sent) (sent : after.sent = world.sent ++ messages)
    (others : ∀ message ∈ messages, passesMemory message = false)
    (grown : world.seals <+: after.seals) : Sealed after := by
  have nothing : passedMemory messages = [] := by
    have none_ : messages.filter passesMemory = [] := by
      rw [List.filter_eq_nil_iff]
      intro message member
      rw [others message member]
      exact Bool.false_ne_true
    rw [passedMemory, none_, List.map_nil]
  constructor
  · intro message member passes
    rw [sent] at member
    rcases List.mem_append.mp member with earlier | new
    · exact sealed_.complete message earlier passes
    · rw [others message new] at passes
      cases passes
  · rw [sent, passedMemory_append, nothing, List.append_nil]
    exact sealed_.before.trans grown.sublist

theorem Sealed.unchanged {world after : World sxml size} (sealed_ : Sealed world)
    (sent : after.sent = world.sent) (seals : after.seals = world.seals) : Sealed after := by
  refine sealed_.grow [] ?_ (fun _ member => absurd member List.not_mem_nil) ?_
  · rw [sent, List.append_nil]
  · exact seals.symm ▸ List.prefix_refl world.seals

theorem Sealed.pass {world after : World sxml size} (sealed_ : Sealed world) (message : Sent)
    (sent : after.sent = world.sent ++ [message]) (whole : message.fds.length = 3)
    (passes : passesMemory message = true)
    (seals : after.seals = world.seals ++ allSeals (message.fds.getD 2 (-1))) : Sealed after := by
  constructor
  · intro other member isMemory
    rw [sent] at member
    rcases List.mem_append.mp member with earlier | new
    · exact sealed_.complete other earlier isMemory
    · rw [List.mem_singleton.mp new]
      exact whole
  · have last : passedMemory [message] = [message.fds.getD 2 (-1)] := by
      rw [passedMemory, List.filter_singleton, passes]
      rfl
    rw [sent, seals, passedMemory_append, List.flatMap_append, last, List.flatMap_singleton]
    exact sealed_.before.append (List.Sublist.refl _)

theorem Sealed.processRequest {world : World sxml size} (sealed_ : Sealed world)
    (paired : Paired world.state) (source : Fin size) (kind : KindType) (label : Text)
    (fds : List Int) (outcome : Outcome) :
    Sealed (Gneiss.processRequest world source kind label fds outcome) := by
  have grown := processRequest_seals world source kind label fds outcome
  cases live : valid (world.state.components source).fd with
  | false =>
      rw [processRequest_dead world source kind label fds outcome live]
      exact sealed_
  | true =>
      have answer : Answer world source kind label fds outcome _ :=
        processRequest_answer paired live
      generalize Gneiss.processRequest world source kind label fds outcome = after at answer grown
      cases answer with
      | silent _ _ => exact sealed_
      | rejected rest _ _ undone =>
          refine sealed_.grow [_] (congrArg (· ++ [_]) undone.sent) ?_ grown
          intro message member
          rw [List.mem_singleton.mp member]
          rfl
      | confirmed created files _ _ _ _ =>
          refine sealed_.grow [_] rfl ?_ grown
          intro message member
          rw [List.mem_singleton.mp member]
          rfl
      | forwarded service index sourceName first second rest _ _ _ _ _ _ ready =>
          have sent := setupService_sent ready paired
          have seals := setupService_seals ready paired
          by_cases memory : kind = .memory
          · subst memory
            exact sealed_.pass _ (congrArg (· ++ [_]) sent) rfl rfl seals
          · refine sealed_.grow [_] (congrArg (· ++ [_]) sent) ?_ grown
            intro message member
            rw [List.mem_singleton.mp member, passesMemory, decide_eq_false memory, Bool.and_false]

theorem Sealed.reply {world : World sxml size} (sealed_ : Sealed world) (message : Sent)
    (reply : message.action ≠ .request) : Sealed (world.send message) := by
  refine sealed_.grow [message] rfl ?_ (List.prefix_refl _)
  intro other member
  rw [List.mem_singleton.mp member, passesMemory, decide_eq_false reply, Bool.false_and]

theorem Sealed.handleMessage {world : World sxml size} (sealed_ : Sealed world)
    (paired : Paired world.state) (source : Fin size) (action : ActionType) (kind : KindType)
    (name label : Text) (fds : List Int) (outcome : Outcome) :
    Sealed (Gneiss.handleMessage world source action kind name label fds outcome) := by
  unfold Gneiss.handleMessage
  cases action with
  | request =>
      simp only
      split
      · exact sealed_
      · exact sealed_.processRequest paired source kind label fds outcome
  | confirm =>
      simp only
      split
      · exact sealed_
      · rcases processConfirm_cases world kind name label fds with
          ⟨_, same⟩ | ⟨_, _, _, _, ⟨_, same⟩ | ⟨_, same⟩⟩
        · rw [same]
          exact sealed_
        · rw [same]
          exact sealed_.reply _ (by simp)
        · rw [same]
          exact sealed_.reply _ (by simp)
  | reject =>
      simp only
      split
      · exact sealed_
      · rcases processReject_cases world kind name label with ⟨_, same⟩ | ⟨_, _, same⟩
        · rw [same]
          exact sealed_
        · rw [same]
          exact sealed_.reply _ (by simp)
  | register =>
      obtain ⟨rest, ready, result⟩ :
          ∃ rest ready, setupService world source kind outcome = (rest, ready) := ⟨_, _, rfl⟩
      have seals := setupService_keeps_seals world source kind outcome
      rw [result] at seals
      have kept : Sealed rest := sealed_.unchanged (setupService_sent result paired) seals
      simp only [processRegister, result]
      split
      · have noted : Sealed { rest with peers := rest.peers ++
            [(((rest.state.components source).serv kind).broker, source)] } :=
          kept.unchanged rfl rfl
        exact noted.reply _ (by simp)
      · exact kept.reply _ (by simp)

theorem Sealed.eventLoopStep {world : World sxml size} (sealed_ : Sealed world)
    (paired : Paired world.state) (generated : GeneratedPacket) (input : Input) :
    Sealed (Gneiss.eventLoopStep generated world input) := by
  apply eventLoopStep_invariant Sealed generated world input sealed_
  · intro index
    rcases readMessage_cases generated world index input.delivery input.outcome with
      ⟨_, same⟩ | ⟨action, kind, name, label, _, same⟩
    · rw [same]
      exact sealed_.unchanged (World.closeAll_sent _ _) (closeAll_seals _ _)
    · rw [same]
      apply Sealed.handleMessage
      · exact sealed_.unchanged rfl rfl
      · exact paired
  · intro middle index kept
    refine kept.unchanged (hangUp_sent middle index input.outcome) ?_
    simp only [hangUp, World.setComponent, World.close_seals]
    split <;> rfl

/-- In every state of the broker, whatever memory it has passed on to a server was sealed before,
with all three seals and each time anew. -/
theorem passed_memory_sealed (generated : GeneratedPacket) (world : World sxml size)
    (reachable : Reachable generated world) :
    (∀ message ∈ world.sent, passesMemory message = true → message.fds.length = 3) ∧
      ((passedMemory world.sent).flatMap allSeals).Sublist world.seals := by
  have holds : Ownership world ∧ Sealed world := by
    apply reachable_invariant generated (fun world => Ownership world ∧ Sealed world) _ _ world
      reachable
    · intro boot world constructed
      refine ⟨construct_ownership boot world constructed, ?_⟩
      have silent := construct_silent boot world constructed
      constructor
      · intro message member
        rw [silent] at member
        cases member
      · rw [silent]
        exact List.nil_sublist _
    · intro world input holds
      exact ⟨holds.1.eventLoopStep generated input,
        holds.2.eventLoopStep holds.1.paired generated input⟩
  exact ⟨holds.2.complete, holds.2.before⟩

/-! A client that asks the server for a memory session. -/

def memoryBoot : Boot xmlTree 2 where
  xml := .element (ascii "config") [] [
    componentElement (ascii "client") [serviceElement .memory (some (ascii "server"))],
    componentElement (ascii "server") []]
  opened := [0, 1, 2]
  epollOffer := some 3
  launches slot :=
    if slot.val = 0 then ⟨some (4, 5), true, 100⟩ else ⟨some (6, 7), true, 101⟩

theorem memory_starts : (construct memoryBoot).isSome = true := by
  decide +kernel

def memoryWorld : World xmlTree 2 :=
  eventLoop referencePacket ((construct memoryBoot).get memory_starts)
    [readable 4 ⟨.request, .memory, noText, noText⟩ 14]

theorem memory_reachable : Reachable referencePacket memoryWorld :=
  ⟨memoryBoot, _, _, (Option.some_get memory_starts).symm, rfl⟩

theorem sample_memory_sealed :
    passedMemory memoryWorld.sent = [14] ∧ (allSeals 14).Sublist memoryWorld.seals := by
  have passed : passedMemory memoryWorld.sent = [14] := by decide +kernel
  have before := (passed_memory_sealed referencePacket memoryWorld memory_reachable).2
  rw [passed] at before
  exact ⟨passed, before⟩

end Gneiss
