import Mathlib.Data.List.Nodup
import Gneiss.Component.EventLoop
import Gneiss.Component.Dispatch

/-!
The `Dispatch` callback of the servers in the repository. It offers a request to one server session
after the other until one of them is ready. `Session_Initialize` closes the descriptors of the
request if the server is not ready, and the capability, which the next session gets, still has their
numbers.
-/

namespace Gneiss.Component

open Descriptors

/-- A server session in the loop: whether it is tried at all, and what its server and `mmap` answer
if it is. -/
structure Slot where
  server : Nat
  tried : Bool
  index : Nat
  map : Option Nat
  ready : Bool
  deriving DecidableEq, Repr

/-- `Session_Initialize` fails, and closes what it was given. -/
def Slot.closes (kind : ServiceKind) (slot : Slot) : Bool :=
  kind.supported && !(slot.ready && (decide (kind ≠ .memory) || slot.map.isSome))

/-- The descriptors a session takes over from the capability. -/
def DispatcherCapability.taken (kind : ServiceKind) (cap : DispatcherCapability) : List Int :=
  match kind with
  | .memory => [cap.memfd, cap.serverFd]
  | _ => [cap.serverFd]

def ServerSession.held (kind : ServiceKind) (session : ServerSession) : List Int :=
  match kind with
  | .memory => [session.fd, session.sigfd]
  | _ => [session.fd]

/-- The world behind the loop, the descriptors that were closed in it, and the session that was
accepted. -/
structure Tried where
  world : World
  closed : List Int
  accepted : Option Nat

section

variable (kind : ServiceKind) (dispatcher capability : Nat) (granted : Bool)

def tryServers (world : World) : List Slot → Tried
  | [] => ⟨world, [], none⟩
  | slot :: rest =>
      if slot.tried = false then tryServers world rest
      else
        let cap := world.capability ⟨kind, capability⟩
        let world := world.sessionInitialize kind dispatcher capability slot.server slot.index
          slot.map slot.ready
        if slot.ready && (world.servers ⟨kind, slot.server⟩).initialized kind then
          ⟨world.sessionAccept kind dispatcher capability slot.server granted, [],
            some slot.server⟩
        else
          let later := tryServers world rest
          { later with closed := (if slot.closes kind then cap.taken kind else []) ++ later.closed }

/-- No descriptor is closed twice, and an accepted session holds open descriptors that came with the
request, `arrived`. -/
structure UsesOnce (arrived : List Int) (tried : Tried) : Prop where
  once : tried.closed.Nodup
  live : ∀ server, tried.accepted = some server →
    (tried.world.servers ⟨kind, server⟩).initialized kind = true ∧
      ∀ fd ∈ (tried.world.servers ⟨kind, server⟩).held kind,
        fd ∈ arrived ∧ fd ∉ tried.closed ∧ fd ∈ tried.world.table.opened

/-- A capability whose descriptors were closed is not valid any more. -/
def Revokes (tried : Tried) : Prop :=
  tried.closed ≠ [] →
    validSessionRequest kind (tried.world.capability ⟨kind, capability⟩) = false

end

/-- Every slot of a request has a descriptor that came with it. -/
def Supplied (slots : Nat) (arrived : List Int) (stale : Nat → Int) : Prop :=
  ∀ slot < slots, slot < arrived.length ∨ stale slot ∈ arrived

/-- A received request, as the loop finds it. -/
structure Pending (world : World) (kind : ServiceKind) (capability : Nat) (arrived : List Int) :
    Prop where
  request : validSessionRequest kind (world.capability ⟨kind, capability⟩) = true
  opened : ∀ fd ∈ arrived, fd ∈ world.table.opened

def tried (slots : List Slot) : List Slot := slots.filter Slot.tried

section

variable {kind : ServiceKind} {dispatcher capability : Nat} {granted : Bool} {world : World}

theorem tryServers_filter (slots : List Slot) :
    tryServers kind dispatcher capability granted world (tried slots) =
      tryServers kind dispatcher capability granted world slots := by
  induction slots generalizing world with
  | nil => rfl
  | cons slot rest ih =>
      cases free : slot.tried with
      | false =>
          have skipped : tried (slot :: rest) = tried rest :=
            List.filter_cons_of_neg (by simp [free])
          rw [skipped, ih, tryServers, if_pos free]
      | true =>
          have kept : tried (slot :: rest) = slot :: tried rest := List.filter_cons_of_pos free
          rw [kept, tryServers, tryServers]
          simp only [free, Bool.true_eq_false, if_false, ih]

/-! One `Session_Initialize`, by what it does with the request. -/

theorem close_table (world : World) (fd : Int) : (world.close fd).table = world.table.close fd := by
  unfold World.close
  split <;> rfl

theorem sessionInitialize_capability (server index : Nat) (map : Option Nat) (ready : Bool) :
    (world.sessionInitialize kind dispatcher capability server index map ready).capability =
      world.capability :=
  (sessionInitialize_frame world kind dispatcher capability server index map ready
    ⟨kind, server + 1⟩ (by simp)).2

theorem taken_channel (channel : kind ≠ .memory) (cap : DispatcherCapability) :
    cap.taken kind = [cap.serverFd] := by
  cases kind with
  | memory => exact (channel rfl).elim
  | _ => rfl

theorem held_channel (channel : kind ≠ .memory) (session : ServerSession) :
    session.held kind = [session.fd] := by
  cases kind with
  | memory => exact (channel rfl).elim
  | _ => rfl

theorem serverFd_valid {cap : DispatcherCapability}
    (request : validSessionRequest kind cap = true) : valid cap.serverFd = true := by
  cases kind <;> simp_all [validSessionRequest]

theorem initialized_started (channel : kind ≠ .memory) (supported : kind.supported = true)
    (session : ServerSession) (id other : ServiceId) (index : Nat) {fd : Int}
    (open_ : valid fd = true) :
    ({ session with fd := fd, index := some index, eCap := serverCap id other fd } :
      ServerSession).initialized kind = true := by
  have created : (serverCap id other fd).valid = true := rfl
  cases kind with
  | memory => exact (channel rfl).elim
  | _ => simp [ServerSession.initialized, open_, created, supported]

theorem sessionInitialize_takes (slot : Slot) (supported : kind.supported = true)
    (keeps : slot.closes kind = false)
    (request : validSessionRequest kind (world.capability ⟨kind, capability⟩) = true) :
    let after := world.sessionInitialize kind dispatcher capability slot.server slot.index slot.map
      slot.ready
    slot.ready = true ∧ (after.servers ⟨kind, slot.server⟩).initialized kind = true ∧
      (after.servers ⟨kind, slot.server⟩).held kind =
        (world.capability ⟨kind, capability⟩).taken kind ∧
      after.table = world.table := by
  intro after
  simp only [Slot.closes, supported, Bool.true_and, Bool.not_eq_false', Bool.and_eq_true,
    Bool.or_eq_true, decide_eq_true_eq] at keeps
  obtain ⟨ready, mapped⟩ := keeps
  refine ⟨ready, ?_⟩
  by_cases channel : kind = .memory
  · subst channel
    simp only [validSessionRequest, Bool.and_eq_true] at request
    simp only [ne_eq, not_true_eq_false, false_or] at mapped
    simp [after, World.sessionInitialize, ready, mapped, World.setServer, World.setCapability,
      World.mmap, ServerSession.initialized, ServerSession.held, DispatcherCapability.taken,
      serverCap, EventCap.create, EventCap.valid, request]
  · have started := initialized_started channel supported (world.servers ⟨kind, slot.server⟩)
      ⟨kind, slot.server⟩ ⟨kind, dispatcher⟩ slot.index (serverFd_valid request)
    simp only [after, sessionInitialize_channel world channel, supported, Bool.true_eq_false,
      if_false, ready, if_true, World.setServer, World.setCapability, Function.update_self,
      held_channel channel, taken_channel channel, and_self, and_true]
    exact started

theorem sessionInitialize_closes (slot : Slot) (closes : slot.closes kind = true) :
    let after := world.sessionInitialize kind dispatcher capability slot.server slot.index slot.map
      slot.ready
    (after.servers ⟨kind, slot.server⟩).initialized kind = false ∧
      after.table = world.table.closeAll ((world.capability ⟨kind, capability⟩).taken kind) := by
  intro after
  simp only [Slot.closes, Bool.and_eq_true, Bool.not_eq_true'] at closes
  obtain ⟨supported, fails⟩ := closes
  by_cases channel : kind = .memory
  · subst channel
    have failing : ¬(slot.ready && slot.map.isSome) = true := by simpa using fails
    simp only [after, World.sessionInitialize, if_neg failing]
    exact ⟨by simp [World.setServer, ServerSession.initialized], by
      simp [World.setServer, World.setCapability, World.mmap, close_table, Table.closeAll,
        DispatcherCapability.taken]⟩
  · have failing : ¬slot.ready = true := by simpa [channel] using fails
    simp only [after, sessionInitialize_channel world channel, supported, Bool.true_eq_false,
      if_false, if_neg failing, taken_channel channel]
    exact ⟨by simp [World.setServer, initialized_closed channel], by
      simp [World.setServer, World.setCapability, close_table, Table.closeAll]⟩

/-- A message package with another buffer size does nothing. -/
theorem sessionInitialize_unsupported (slot : Slot) (unsupported : kind.supported = false) :
    let after := world.sessionInitialize kind dispatcher capability slot.server slot.index slot.map
      slot.ready
    (after.servers ⟨kind, slot.server⟩).initialized kind = false ∧ after.table = world.table := by
  intro after
  cases kind with
  | message bufferSize =>
      simp only [after, World.sessionInitialize, unsupported, if_true]
      exact ⟨by simp [ServerSession.initialized, unsupported], rfl⟩
  | log => cases unsupported
  | memory => cases unsupported

/-! The loop, by its first session. -/

theorem tryServers_takes (slot : Slot) (rest : List Slot) (free : slot.tried = true)
    (supported : kind.supported = true) (keeps : slot.closes kind = false)
    (request : validSessionRequest kind (world.capability ⟨kind, capability⟩) = true) :
    tryServers kind dispatcher capability granted world (slot :: rest) =
      ⟨(world.sessionInitialize kind dispatcher capability slot.server slot.index slot.map
        slot.ready).sessionAccept kind dispatcher capability slot.server granted, [],
        some slot.server⟩ := by
  obtain ⟨ready, initialized, _⟩ := @sessionInitialize_takes kind dispatcher capability world slot
    supported keeps request
  have goes : (slot.ready && ((world.sessionInitialize kind dispatcher capability slot.server
      slot.index slot.map slot.ready).servers ⟨kind, slot.server⟩).initialized kind) = true := by
    rw [initialized, ready, Bool.and_self]
  simp only [tryServers, free, Bool.true_eq_false, if_false]
  rw [if_pos goes]

theorem tryServers_passes (slot : Slot) (rest : List Slot) (free : slot.tried = true)
    (passes : slot.closes kind = true ∨ kind.supported = false) :
    let after := world.sessionInitialize kind dispatcher capability slot.server slot.index slot.map
      slot.ready
    let later := tryServers kind dispatcher capability granted after rest
    tryServers kind dispatcher capability granted world (slot :: rest) =
      { later with closed := (if slot.closes kind then
        (world.capability ⟨kind, capability⟩).taken kind else []) ++ later.closed } := by
  intro after later
  have unready : (after.servers ⟨kind, slot.server⟩).initialized kind = false := by
    rcases passes with closes | unsupported
    · exact (sessionInitialize_closes slot closes).1
    · exact (sessionInitialize_unsupported slot unsupported).1
  have same : ¬(slot.ready && (after.servers ⟨kind, slot.server⟩).initialized kind) = true := by
    simp [unready]
  simp only [tryServers, free, Bool.true_eq_false, if_false]
  rw [if_neg same]

theorem tryServers_unsupported (slots : List Slot) (unsupported : kind.supported = false) :
    (tryServers kind dispatcher capability granted world slots).closed = [] ∧
      (tryServers kind dispatcher capability granted world slots).accepted = none := by
  induction slots generalizing world with
  | nil => exact ⟨rfl, rfl⟩
  | cons slot rest ih =>
      cases free : slot.tried with
      | false =>
          rw [tryServers, if_pos free]
          exact ih
      | true =>
          rw [tryServers_passes slot rest free (Or.inr unsupported)]
          have open_ : slot.closes kind = false := by simp [Slot.closes, unsupported]
          simp only [open_, Bool.false_eq_true, if_false, List.nil_append]
          exact ih

theorem tryServers_capability (slots : List Slot) :
    (tryServers kind dispatcher capability granted world slots).world.capability =
      world.capability := by
  induction slots generalizing world with
  | nil => rfl
  | cons slot rest ih =>
      simp only [tryServers]
      split
      · exact ih
      · split
        · rw [(sessionAccept_frame _ kind dispatcher capability slot.server granted).2,
            sessionInitialize_capability]
        · rw [ih, sessionInitialize_capability]

theorem sessionAccept_table (server : Nat) :
    (world.sessionAccept kind dispatcher capability server granted).table = world.table := by
  simp only [World.sessionAccept, World.setDispatcher, World.send, World.add]
  split <;> rfl

end

/-! What `Dispatch_Event` passes to `Dispatch`. -/

/-- What a session takes over arrived if the request had a descriptor for each slot. The first slot
is the client's, which no session takes. -/
theorem taken_arrived_iff {id : ServiceId} {name label : SessionLabel} (reply : Reply)
    {arrived : List Int} (request : validSessionRequest id.kind
      (offeredCapability id.kind name label (reply.slots id.kind.slots arrived)) = true) :
    (∀ fd ∈ (offeredCapability id.kind name label
        (reply.slots id.kind.slots arrived)).taken id.kind, fd ∈ arrived) ↔
      Supplied id.kind.slots arrived reply.stale := by
  obtain ⟨two, small⟩ := id.kind.slots_bounds
  have filled := (validSessionRequest_iff _ _ _ _).mp request
  have some_ : arrived ≠ [] := by
    rintro rfl
    have first := filled 0 (by omega)
    rw [Reply.slots_getD _ _ _ _ (by omega) small, if_pos rfl] at first
    cases first
  have came : ∀ slot < id.kind.slots,
      ((reply.slots id.kind.slots arrived).getD slot (-1) ∈ arrived ↔
        slot < arrived.length ∨ reply.stale slot ∈ arrived) := by
    intro slot bound
    rw [Reply.slots_getD _ _ _ _ bound small, if_neg some_]
    split
    · rename_i inside
      rw [List.getD_eq_getElem _ _ inside]
      simp [inside, List.getElem_mem]
    · rename_i missing
      simp [missing]
  have first : 0 < arrived.length := List.length_pos_iff.mpr some_
  by_cases memory : id.kind = .memory
  · have three : id.kind.slots = 3 := by rw [memory]; rfl
    have taken : (offeredCapability id.kind name label
        (reply.slots id.kind.slots arrived)).taken id.kind =
          [(reply.slots id.kind.slots arrived).getD 2 (-1),
            (reply.slots id.kind.slots arrived).getD 1 (-1)] := by
      rw [memory]
      rfl
    rw [taken, List.forall_mem_cons, List.forall_mem_singleton, came 2 (by omega), came 1 two]
    constructor
    · rintro ⟨third, second⟩ slot bound
      rcases (by omega : slot = 0 ∨ slot = 1 ∨ slot = 2) with rfl | rfl | rfl
      · exact Or.inl first
      · exact second
      · exact third
    · exact fun supplied => ⟨supplied 2 (by omega), supplied 1 two⟩
  · have both : id.kind.slots = 2 := by
      cases kind : id.kind with
      | memory => exact (memory kind).elim
      | _ => rfl
    have serverEnd : (offeredCapability id.kind name label
        (reply.slots id.kind.slots arrived)).serverFd =
          (reply.slots id.kind.slots arrived).getD 1 (-1) := rfl
    rw [taken_channel memory, List.forall_mem_singleton, serverEnd, came 1 two]
    constructor
    · intro second slot bound
      rcases (by omega : slot = 0 ∨ slot = 1) with rfl | rfl
      · exact Or.inl first
      · exact second
    · exact fun supplied => supplied 1 two

/-! The loop for a request that was just received. -/

section

variable {kind : ServiceKind} {dispatcher capability : Nat} {granted : Bool} {world : World}

theorem serverFd_taken (kind : ServiceKind) (cap : DispatcherCapability) :
    cap.serverFd ∈ cap.taken kind := by
  cases kind <;> simp [DispatcherCapability.taken]

theorem UsesOnce.untouched {after : Tried} (closed : after.closed = [])
    {arrived : List Int} (accepted : after.accepted = none) : UsesOnce kind arrived after := by
  refine ⟨?_, ?_⟩
  · rw [closed]
    exact List.nodup_nil
  · intro server same
    rw [accepted] at same
    cases same

theorem usesOnce_takes {arrived : List Int} (pending : Pending world kind capability arrived)
    (slot : Slot) (rest : List Slot) (free : slot.tried = true)
    (supported : kind.supported = true) (keeps : slot.closes kind = false) :
    let after := tryServers kind dispatcher capability granted world (slot :: rest)
    after.closed = [] ∧ (UsesOnce kind arrived after ↔
      ∀ fd ∈ (world.capability ⟨kind, capability⟩).taken kind, fd ∈ arrived) := by
  intro after
  obtain ⟨_, initialized, held, table⟩ := @sessionInitialize_takes kind dispatcher capability world
    slot supported keeps pending.request
  have taken : after = _ := tryServers_takes slot rest free supported keeps pending.request
  rw [taken]
  refine ⟨rfl, ?_, ?_⟩
  · rintro ⟨_, live⟩ fd member
    obtain ⟨_, holds⟩ := live slot.server rfl
    rw [(sessionAccept_frame _ kind dispatcher capability slot.server granted).1, held] at holds
    exact (holds fd member).1
  · intro came
    refine ⟨List.nodup_nil, ?_⟩
    intro server accepted
    cases accepted
    rw [(sessionAccept_frame _ kind dispatcher capability slot.server granted).1,
      sessionAccept_table, held, table]
    exact ⟨initialized, fun fd member =>
      ⟨came fd member, List.not_mem_nil, pending.opened fd (came fd member)⟩⟩

theorem usesOnce_closes {arrived : List Int} (pending : Pending world kind capability arrived)
    (slot : Slot) (rest : List Slot) (free : ∀ other ∈ slot :: rest, other.tried = true)
    (closes : slot.closes kind = true) :
    let after := tryServers kind dispatcher capability granted world (slot :: rest)
    after.closed ≠ [] ∧ (UsesOnce kind arrived after ↔
      rest = [] ∧ ((world.capability ⟨kind, capability⟩).taken kind).Nodup) := by
  intro after
  have passed : after = _ := tryServers_passes slot rest (free slot List.mem_cons_self)
    (Or.inl closes)
  have supported : kind.supported = true := by
    simp only [Slot.closes, Bool.and_eq_true] at closes
    exact closes.1
  rw [passed]
  simp only [closes, if_true]
  have member := serverFd_taken kind (world.capability ⟨kind, capability⟩)
  refine ⟨fun empty => by simp [List.append_eq_nil_iff.mp empty] at member, ?_⟩
  have same : (world.sessionInitialize kind dispatcher capability slot.server slot.index slot.map
      slot.ready).capability = world.capability := sessionInitialize_capability ..
  cases rest with
  | nil =>
      constructor
      · intro uses
        simpa [tryServers] using uses.once
      · rintro ⟨_, distinct⟩
        refine ⟨?_, ?_⟩
        · simpa [tryServers] using distinct
        · simp [tryServers]
  | cons next rest =>
      refine iff_of_false ?_ (by simp)
      have nextFree := free next (by simp)
      have request : validSessionRequest kind ((world.sessionInitialize kind dispatcher capability
          slot.server slot.index slot.map slot.ready).capability ⟨kind, capability⟩) = true := by
        rw [same]
        exact pending.request
      rintro ⟨once, live⟩
      cases again : next.closes kind with
      | true =>
          rw [tryServers_passes next rest nextFree (Or.inl again), same] at once
          simp only [again, if_true, List.nodup_append] at once
          exact once.2.2 _ member _ (List.mem_append_left _ member) rfl
      | false =>
          obtain ⟨_, _, held, _⟩ := @sessionInitialize_takes kind dispatcher capability
            (world.sessionInitialize kind dispatcher capability slot.server slot.index slot.map
              slot.ready) next supported again request
          rw [tryServers_takes next rest nextFree supported again request] at live
          obtain ⟨_, fresh⟩ := live next.server rfl
          rw [(sessionAccept_frame _ kind dispatcher capability next.server granted).1, held,
            same] at fresh
          exact (fresh _ member).2.1 (List.mem_append_left _ member)

/-- The capability is used once if the first session that is tried takes it with what arrived, or
closes it and is the only one, and it is revoked only if it is not closed at all. -/
theorem tryServers_once_iff {arrived : List Int} (pending : Pending world kind capability arrived)
    (slots : List Slot) :
    let cap := world.capability ⟨kind, capability⟩
    let after := tryServers kind dispatcher capability granted world slots
    (UsesOnce kind arrived after ↔ ∀ slot rest, tried slots = slot :: rest →
      (slot.closes kind = true → rest = [] ∧ (cap.taken kind).Nodup) ∧
      (slot.closes kind = false → kind.supported = true → ∀ fd ∈ cap.taken kind, fd ∈ arrived)) ∧
    (Revokes kind capability after ↔
      ∀ slot rest, tried slots = slot :: rest → slot.closes kind = false) := by
  intro cap after
  have valid_ : validSessionRequest kind (after.world.capability ⟨kind, capability⟩) = true := by
    rw [tryServers_capability]
    exact pending.request
  have revokes : Revokes kind capability after ↔ after.closed = [] := by
    simp only [Revokes, valid_, Bool.true_eq_false, imp_false, ne_eq, not_not]
  rw [revokes]
  have filtered : after = tryServers kind dispatcher capability granted world (tried slots) :=
    (tryServers_filter slots).symm
  have free : ∀ slot ∈ tried slots, slot.tried = true := fun slot member =>
    (List.mem_filter.mp member).2
  rw [filtered]
  generalize tried slots = slots at free
  cases slots with
  | nil =>
      have untouched : UsesOnce kind arrived ⟨world, [], none⟩ := .untouched rfl rfl
      simp [tryServers, untouched]
  | cons slot rest =>
      have first : ∀ {property : Slot → List Slot → Prop},
          (∀ other others, slot :: rest = other :: others → property other others) ↔
            property slot rest := by
        intro property
        simp
      rw [first, first]
      cases closes : slot.closes kind with
      | true =>
          obtain ⟨closed, once⟩ := @usesOnce_closes kind dispatcher capability granted world arrived
            pending slot rest free closes
          exact ⟨by rw [once]; simp [cap], by simp [closed]⟩
      | false =>
          cases supported : kind.supported with
          | true =>
              obtain ⟨closed, once⟩ := @usesOnce_takes kind dispatcher capability granted world
                arrived pending slot rest (free slot List.mem_cons_self) supported closes
              exact ⟨by rw [once]; simp [cap], by simp [closed]⟩
          | false =>
              obtain ⟨closed, accepted⟩ := @tryServers_unsupported kind dispatcher capability
                granted world (slot :: rest) supported
              exact ⟨by simp [UsesOnce.untouched closed accepted], by simp [closed]⟩

end

/-- Every request a dispatcher receives, whatever its sessions answer. -/
theorem request_once_iff (before : World) (kind : ServiceKind) (dispatcher : Nat)
    (action : ActionType) (sent : KindType) (name label : SessionLabel) (offered : List Int)
    (stale : Nat → Int) (slots : List Slot) (granted : Bool)
    (serves : Serves before ⟨kind, dispatcher⟩) :
    let reply : Reply := ⟨.valid action sent name label, offered, stale⟩
    let world := before.receiveRequest ⟨kind, dispatcher⟩ reply
    let arrived := (before.install kind.slots reply).2
    let cap := world.capability ⟨kind, dispatcher⟩
    let after := tryServers kind dispatcher dispatcher granted world slots
    validSessionRequest kind cap = true →
    (UsesOnce kind arrived after ↔ ∀ slot rest, tried slots = slot :: rest →
      (slot.closes kind = true → rest = [] ∧ (cap.taken kind).Nodup) ∧
      (slot.closes kind = false → kind.supported = true → Supplied kind.slots arrived stale)) ∧
    (Revokes kind dispatcher after ↔
      ∀ slot rest, tried slots = slot :: rest → slot.closes kind = false) := by
  intro reply world arrived cap after request
  have received := receiveRequest_valid before ⟨kind, dispatcher⟩ action sent name label offered
    stale serves
  have opened : ∀ fd ∈ arrived, fd ∈ world.table.opened := by
    intro fd member
    have installed := (mem_installed before kind.slots reply fd member).2.2
    exact (congrArg (fun after => fd ∈ after.table.opened) received).mpr installed
  have pending : Pending world kind dispatcher arrived := ⟨request, opened⟩
  have carried : cap = offeredCapability kind name label
      (if sent = kind.protocol then reply.slots kind.slots arrived
        else List.replicate kind.slots (-1)) :=
    (congrArg (fun after => after.capability ⟨kind, dispatcher⟩) received).trans
      (Function.update_self ..)
  have same : sent = kind.protocol := by
    by_contra other
    rw [carried, if_neg other, offered_nothing] at request
    cases request
  rw [if_pos same] at carried
  have supplied : (∀ fd ∈ cap.taken kind, fd ∈ arrived) ↔ Supplied kind.slots arrived stale := by
    rw [carried] at request ⊢
    exact @taken_arrived_iff ⟨kind, dispatcher⟩ name label reply arrived request
  rw [← supplied]
  exact tryServers_once_iff pending slots

/-- A session whose server has no room, and one whose server has. -/
def fullSlot : Slot := ⟨0, true, 1, none, false⟩

def freeSlot : Slot := ⟨1, true, 2, none, true⟩

theorem freeSlot_used_once :
    let world := sampleWaiting.receiveRequest sampleDispatcher connectRequest
    let after := tryServers (.message (128 * 8)) 0 0 true world [freeSlot, fullSlot]
    after.accepted = some 1 ∧ UsesOnce (.message (128 * 8)) [7, 8] after ∧
      Revokes (.message (128 * 8)) 0 after := by
  intro world after
  obtain ⟨once, revokes⟩ := request_once_iff sampleWaiting (.message (128 * 8)) 0 .request .message
    .empty .empty [7, 8] unused [freeSlot, fullSlot] true (by decide +kernel) (by decide +kernel)
  have arrived : (sampleWaiting.install (ServiceKind.message (128 * 8)).slots connectRequest).2 =
      [7, 8] := by
    decide +kernel
  have first : ∀ slot rest, tried [freeSlot, fullSlot] = slot :: rest →
      slot.closes (.message (128 * 8)) = false := by
    intro slot rest same
    cases same
    rfl
  rw [connectRequest] at arrived
  rw [arrived] at once
  refine ⟨by decide +kernel, once.mpr ?_, revokes.mpr first⟩
  intro slot rest same
  refine ⟨fun closes => ?_, fun _ _ slot bound => Or.inl bound⟩
  rw [first slot rest same] at closes
  cases closes

/-- Behind a session without room the descriptor that was closed there is accepted, or closed once
more. And a stale word is accepted in the place of a descriptor that did not come. -/
theorem closed_descriptor_accepted :
    let world := sampleWaiting.receiveRequest sampleDispatcher connectRequest
    let after := tryServers (.message (128 * 8)) 0 0 true world [fullSlot, freeSlot]
    let single := sampleWaiting.receiveRequest sampleDispatcher
      ⟨.valid .request .message .empty .empty, [7], fun _ => 4⟩
    after.closed = [8] ∧ after.accepted = some 1 ∧
      (after.world.servers ⟨.message (128 * 8), 1⟩).fd = 8 ∧ 8 ∉ after.world.table.opened ∧
      ¬ UsesOnce (.message (128 * 8)) [7, 8] after ∧ ¬ Revokes (.message (128 * 8)) 0 after ∧
      (tryServers (.message (128 * 8)) 0 0 true world [fullSlot, fullSlot]).closed = [8, 8] ∧
      ¬ UsesOnce (.message (128 * 8)) [7]
        (tryServers (.message (128 * 8)) 0 0 true single [freeSlot]) := by
  intro world after single
  have pending : Pending world (.message (128 * 8)) 0 [7, 8] :=
    ⟨by decide +kernel, by decide +kernel⟩
  obtain ⟨once, revokes⟩ := @tryServers_once_iff (.message (128 * 8)) 0 0 true world [7, 8] pending
    [fullSlot, freeSlot]
  refine ⟨by decide +kernel, by decide +kernel, by decide +kernel, by decide +kernel, ?_, ?_,
    by decide +kernel, ?_⟩
  · rw [once]
    intro only
    cases ((only fullSlot [freeSlot] rfl).1 rfl).1
  · rw [revokes]
    intro open_
    cases open_ fullSlot [freeSlot] rfl
  · rintro ⟨_, live⟩
    obtain ⟨_, held⟩ := live 1 (by decide +kernel)
    have member := (held 4 (by decide +kernel)).1
    cases member with
    | tail _ none_ => cases none_

end Gneiss.Component
