import Gneiss.Component.Registrations

/-!
What becomes of the descriptors that arrive with a session request. Within `Dispatch` a component
can do whatever the packages allow with the one capability it was given, and still the client's end
stays open: no operation closes it. `Apart` follows a descriptor that no session and no usable
capability has.
-/

namespace Gneiss.Component

open Descriptors Runs

namespace World

/-- `Dispatch_Event`; `callback` is what the component's `Dispatch` does. Behind an invalid message
the world is the one in which the process ends. -/
def dispatchEvent (world : World) (id : ServiceId) (fd : Int) (reply : Reply)
    (callback : List Operation) : World :=
  let session := world.dispatchers id
  if session.initialized = false || valid session.dispatchFd = false then world
  else if fd = session.dispatchFd then
    match reply.message with
    | .invalid => world.receiveRequest id reply
    | .valid _ _ name label =>
        (run step (world.receiveRequest id reply) callback).reject id name label
  else run step (world.receiveDisconnect id fd) callback

end World

/-- What `Dispatch` of dispatcher `id` can call; the handlers of events are not among it. -/
def Operation.callable (id : ServiceId) : Operation → Bool
  | .initializeClient .. => true
  | .finalizeClient _ => true
  | .initializeDispatcher .. => true
  | .register .. => true
  | .sessionInitialize kind _ capability _ _ _ _ => decide (id = ⟨kind, capability⟩)
  | .sessionAccept kind _ capability _ _ => decide (id = ⟨kind, capability⟩)
  | .sessionCleanup kind _ capability _ => decide (id = ⟨kind, capability⟩)
  | _ => false

/-- A callback of dispatcher `id` that starts in `world`. It may use its capability repeatedly. -/
def Callback (id : ServiceId) (world : World) (callback : List Operation) : Prop :=
  EachStep World.step
    (fun world operation => operation.callable id = true ∧ Precondition world operation)
    world callback

/-- An initialized server session stores the descriptor. -/
def InSession (world : World) (fd : Int) : Prop :=
  ∃ id, (world.servers id).initialized id.kind = true ∧
    ((world.servers id).fd = fd ∨ id.kind = .memory ∧ (world.servers id).sigfd = fd)

/-- Of the descriptors `received`, those are open that a live session stores. -/
def OnlyLiveOpen (received : List Int) (world : World) : Prop :=
  ∀ fd ∈ received, valid fd = true → (fd ∈ world.table.opened ↔ InSession world fd)

/-- A client or server session stores the descriptor. -/
def Stored (world : World) (fd : Int) : Prop :=
  (∃ id, (world.clients id).fd = fd) ∨
    ∃ id, (world.servers id).eventFd id.kind = fd ∨ (world.servers id).dataFd id.kind = fd

/-- What the sessions store is open. -/
def Tidy (world : World) : Prop :=
  ∀ fd, valid fd = true → Stored world fd → fd ∈ world.table.opened

theorem Sound.tidy {world : World} (sound : Sound world) : Tidy world := by
  rintro fd open_ (⟨id, rfl⟩ | ⟨id, rfl | rfl⟩)
  · exact sound.owned.opened (.client id) open_
  · exact sound.owned.opened (.event id) open_
  · exact sound.owned.opened (.data id) open_

theorem reachable_tidy (world : World) (reachable : Reachable world) (entry : Int × Ref)
    (registered : entry ∈ world.registrations) : Tidy world :=
  (reachable.sound registered).tidy

theorem Arrives.kept {table later : Table} {other fd : Int} (arrives : Arrives table later other)
    (open_ : valid fd = true) (opened : fd ∈ table.opened) :
    fd ∈ later.opened ∧ other ≠ fd := by
  have negative := (ne_of_valid open_).symm
  obtain ⟨offered, rfl, rfl | rfl⟩ := arrives
  · exact ⟨(mem_receive table offered fd open_).mpr (Or.inl opened), negative⟩
  · refine ⟨(mem_receive table offered fd open_).mpr (Or.inl opened), ?_⟩
    cases received : (table.receive offered).2 with
    | nil => exact negative
    | cons first rest =>
        rintro rfl
        exact received_fresh table offered first open_ (by simp [received]) opened

/-- The capabilities a callback of dispatcher `id` can use, be they spent or not. -/
def OfDispatcher (id : ServiceId) (other : ServiceId) (_ : Bool) : Prop := other = id

structure Apart (usable : ServiceId → Bool → Prop) (fd : Int) (world : World) : Prop where
  open_ : valid fd = true
  opened : fd ∈ world.table.opened
  unstored : ¬ Stored world fd
  request : ∀ id, usable id (world.spent id) →
    validSessionRequest id.kind (world.capability id) = true →
    (world.capability id).serverFd ≠ fd ∧
      (id.kind = .memory → (world.capability id).memfd ≠ fd)

namespace Apart

variable {usable : ServiceId → Bool → Prop} {fd : Int} {world : World}

theorem not_inSession (apart : Apart usable fd world) : ¬ InSession world fd := by
  rintro ⟨server, _, same⟩
  apply apart.unstored
  refine Or.inr ⟨server, ?_⟩
  obtain ⟨kind, number⟩ := server
  cases kind with
  | memory =>
      rcases same with data | ⟨_, event⟩
      · exact Or.inr data
      · exact Or.inl event
  | _ =>
      rcases same with event | ⟨memory, _⟩
      · exact Or.inl event
      · cases memory

theorem client_ne (apart : Apart usable fd world) (client : ClientId) :
    (world.clients client).fd ≠ fd :=
  fun same => apart.unstored (Or.inl ⟨client, same⟩)

theorem event_ne (apart : Apart usable fd world) (server : ServiceId) :
    (world.servers server).eventFd server.kind ≠ fd :=
  fun same => apart.unstored (Or.inr ⟨server, Or.inl same⟩)

theorem data_ne (apart : Apart usable fd world) (server : ServiceId) :
    (world.servers server).dataFd server.kind ≠ fd :=
  fun same => apart.unstored (Or.inr ⟨server, Or.inr same⟩)

theorem ne_negative (apart : Apart usable fd world) : (-1 : Int) ≠ fd :=
  (ne_of_valid apart.open_).symm

/-- Only the table, the sessions and the capabilities count. -/
theorem congr {other : World} (apart : Apart usable fd world)
    (table : fd ∈ world.table.opened → fd ∈ other.table.opened)
    (clients : other.clients = world.clients) (servers : other.servers = world.servers)
    (capability : other.capability = world.capability) (spent : other.spent = world.spent) :
    Apart usable fd other where
  open_ := apart.open_
  opened := table apart.opened
  unstored := by
    intro stored
    apply apart.unstored
    rw [Stored, ← clients, ← servers]
    exact stored
  request := by
    rw [capability, spent]
    exact apart.request

theorem setClient (apart : Apart usable fd world) (client : ClientId) (session : ClientSession)
    (different : session.fd ≠ fd) : Apart usable fd (world.setClient client session) where
  open_ := apart.open_
  opened := apart.opened
  unstored := by
    rintro (⟨other, same⟩ | stored)
    · by_cases equal : other = client
      · subst equal
        simp only [World.setClient, Function.update_self] at same
        exact different same
      · simp only [World.setClient, Function.update_of_ne equal] at same
        exact apart.client_ne other same
    · exact apart.unstored (Or.inr stored)
  request := apart.request

theorem setServer (apart : Apart usable fd world) (server : ServiceId) (session : ServerSession)
    (event : session.eventFd server.kind ≠ fd) (data : session.dataFd server.kind ≠ fd) :
    Apart usable fd (world.setServer server session) where
  open_ := apart.open_
  opened := apart.opened
  unstored := by
    rintro (stored | ⟨other, same⟩)
    · exact apart.unstored (Or.inl stored)
    · by_cases equal : other = server
      · subst equal
        simp only [World.setServer, Function.update_self] at same
        rcases same with same | same
        · exact event same
        · exact data same
      · simp only [World.setServer, Function.update_of_ne equal] at same
        exact apart.unstored (Or.inr ⟨other, same⟩)
  request := apart.request

theorem close (apart : Apart usable fd world) (other : Int) (different : other ≠ fd) :
    Apart usable fd (world.close other) := by
  have kept : fd ∈ (world.table.close other).opened := by
    rw [mem_close world.table other fd apart.open_]
    exact ⟨apart.opened, different.symm⟩
  unfold World.close
  split
  · exact apart.congr (fun _ => kept) rfl rfl rfl rfl
  · exact apart.congr (fun _ => kept) rfl rfl rfl rfl

theorem add (apart : Apart usable fd world) (efd other : Int) (ref : Ref) (granted : Bool) :
    Apart usable fd (world.add efd other ref granted).1 := by
  unfold World.add
  split
  · exact apart.congr (fun opened => opened) rfl rfl rfl rfl
  · exact apart

theorem remove (apart : Apart usable fd world) (efd other : Int) :
    Apart usable fd (world.remove efd other) := by
  unfold World.remove
  split
  · exact apart.congr (fun opened => opened) rfl rfl rfl rfl
  · exact apart

/-! A callback keeps such a descriptor open. -/

theorem initializeClient (apart : Apart usable fd world) (client : ClientId) (label : Text)
    (index : Nat) (reply : Reply) (granted : Bool) :
    Apart usable fd (world.initializeClient client label index reply granted) := by
  obtain ⟨table, sent, other, result, arrives⟩ :=
    requestSession_arrives world client.kind.protocol label reply
  obtain ⟨opened, different⟩ := arrives.kept apart.open_ apart.opened
  have received : Apart usable fd { world with table, sent } :=
    apart.congr (fun _ => opened) rfl rfl rfl rfl
  simp only [World.initializeClient, result]
  split
  · exact apart
  · split
    · exact received
    · have assigned := received.setClient client
        { world.clients client with eCap := clientCap client other } (apart.client_ne client)
      split
      · exact ((assigned.add _ _ _ _).close other different).setClient client _
          (apart.client_ne client)
      · exact (assigned.add _ _ _ _).setClient client _ different

theorem finalizeClient (apart : Apart usable fd world) (client : ClientId) :
    Apart usable fd (world.finalizeClient client) := by
  simp only [World.finalizeClient]
  split
  · exact apart
  · exact ((apart.remove _ _).close _ (apart.client_ne client)).setClient client _
      apart.ne_negative

theorem initializeDispatcher (apart : Apart usable fd world) (dispatcher : ServiceId)
    (index : Nat) :
    Apart usable fd (world.initializeDispatcher dispatcher index) := by
  simp only [World.initializeDispatcher]
  split
  · exact apart
  · exact apart.congr (fun opened => opened) rfl rfl rfl rfl

theorem register (apart : Apart usable fd world) (dispatcher : ServiceId) (reply : Reply)
    (granted : Bool) : Apart usable fd (world.register dispatcher reply granted) := by
  obtain ⟨table, sent, other, result, arrives⟩ := registerService_arrives world
    (world.dispatchers dispatcher).brokerFd dispatcher.kind.protocol reply
  obtain ⟨opened, _⟩ := arrives.kept apart.open_ apart.opened
  simp only [World.register, result]
  split
  · exact apart
  · split
    · apply Apart.add
      exact apart.congr (fun _ => opened) rfl rfl rfl rfl
    · exact apart.congr (fun _ => opened) rfl rfl rfl rfl

theorem setCapability (apart : Apart usable fd world) (id : ServiceId)
    (cap : DispatcherCapability) (spent : Bool)
    (different : usable id spent → validSessionRequest id.kind cap = true →
      cap.serverFd ≠ fd ∧ (id.kind = .memory → cap.memfd ≠ fd)) :
    Apart usable fd (world.setCapability id cap spent) where
  open_ := apart.open_
  opened := apart.opened
  unstored := apart.unstored
  request := by
    intro other usable_
    by_cases same : other = id
    · subst same
      simp only [World.setCapability, Function.update_self] at usable_ ⊢
      exact different usable_
    · simp only [World.setCapability, Function.update_of_ne same] at usable_ ⊢
      exact apart.request other usable_

theorem sessionInitialize (apart : Apart usable fd world) (kind : ServiceKind)
    (dispatcher capability server : Nat) (index : Nat) (map : Option Nat) (ready : Bool)
    (usable_ : usable ⟨kind, capability⟩ (world.spent ⟨kind, capability⟩))
    (request : validSessionRequest kind (world.capability ⟨kind, capability⟩) = true) :
    Apart usable fd
      (world.sessionInitialize kind dispatcher capability server index map ready) := by
  obtain ⟨serverEnd, memoryEnd⟩ := apart.request ⟨kind, capability⟩ usable_ request
  have spent : Apart usable fd (world.setCapability ⟨kind, capability⟩
      (world.capability ⟨kind, capability⟩) true) :=
    apart.setCapability _ _ _ fun _ _ => ⟨serverEnd, memoryEnd⟩
  by_cases memory : kind = .memory
  · subst memory
    have mapped : Apart usable fd
        ((world.setCapability ⟨.memory, capability⟩ (world.capability ⟨.memory, capability⟩)
          true).mmap map) :=
      spent.congr (fun opened => opened) rfl rfl rfl rfl
    simp only [World.sessionInitialize]
    split
    · exact mapped.setServer ⟨.memory, server⟩ _ serverEnd (memoryEnd rfl)
    · exact ((mapped.close _ (memoryEnd rfl)).close _ serverEnd).setServer ⟨.memory, server⟩ _
        apart.ne_negative apart.ne_negative
  · rw [sessionInitialize_channel world memory]
    split
    · exact spent
    · split
      · apply spent.setServer
        · rw [eventFd_channel memory]
          exact serverEnd
        · rw [dataFd_channel memory]
          exact apart.ne_negative
      · apply (spent.close _ serverEnd).setServer
        · rw [eventFd_channel memory]
          exact apart.ne_negative
        · rw [dataFd_channel memory]
          exact apart.ne_negative

theorem sessionAccept (apart : Apart usable fd world) (kind : ServiceKind)
    (dispatcher capability server : Nat) (granted : Bool) :
    Apart usable fd (world.sessionAccept kind dispatcher capability server granted) := by
  have added := apart.add (world.dispatchers ⟨kind, dispatcher⟩).efd
    ((world.servers ⟨kind, server⟩).eventFd kind) (.server ⟨kind, server⟩) granted
  exact added.congr (fun opened => opened) rfl rfl rfl rfl

theorem sessionCleanup (apart : Apart usable fd world) (kind : ServiceKind)
    (dispatcher capability server : Nat) :
    Apart usable fd (world.sessionCleanup kind dispatcher capability server) := by
  have event := apart.event_ne ⟨kind, server⟩
  have data := apart.data_ne ⟨kind, server⟩
  simp only [World.sessionCleanup]
  split
  · split
    · exact (((apart.remove _ _).close _ event).close _ data).setServer ⟨.memory, server⟩ _
        apart.ne_negative apart.ne_negative
    · rename_i channel
      rw [eventFd_channel channel] at event
      apply ((apart.remove _ _).close _ event).setServer
      · rw [eventFd_channel channel]
        exact apart.ne_negative
      · rw [dataFd_channel channel]
        exact apart.ne_negative
  · exact apart

/-- An operation of a callback with a usable capability. -/
theorem step (apart : Apart usable fd world) (operation : Operation) {id : ServiceId}
    (callable : operation.callable id = true) (precondition : Precondition world operation)
    (usable_ : ∀ kind dispatcher capability server index map ready,
      operation = .sessionInitialize kind dispatcher capability server index map ready →
        usable ⟨kind, capability⟩ (world.spent ⟨kind, capability⟩)) :
    Apart usable fd (world.step operation) := by
  cases operation with
  | initializeClient client label index reply granted =>
      exact apart.initializeClient client label index reply granted
  | finalizeClient client => exact apart.finalizeClient client
  | initializeDispatcher dispatcher index => exact apart.initializeDispatcher dispatcher index
  | register dispatcher reply granted => exact apart.register dispatcher reply granted
  | sessionInitialize kind dispatcher capability server index map ready =>
      exact apart.sessionInitialize kind dispatcher capability server index map ready
        (usable_ _ _ _ _ _ _ _ rfl) precondition.2.1
  | sessionAccept kind dispatcher capability server granted =>
      exact apart.sessionAccept kind dispatcher capability server granted
  | sessionCleanup kind dispatcher capability server =>
      exact apart.sessionCleanup kind dispatcher capability server
  | receiveRequest _ _ => cases callable
  | receiveDisconnect _ _ => cases callable
  | reject _ _ _ => cases callable
  | dispatchError _ _ => cases callable

theorem callback {id : ServiceId} (apart : Apart (OfDispatcher id) fd world)
    (operations : List Operation) (calls : Callback id world operations) :
    Apart (OfDispatcher id) fd (run World.step world operations) := by
  refine run_invariant_of_eachStep World.step (Apart (OfDispatcher id) fd) _ ?_ world operations
    apart calls
  intro world operation kept allowed
  refine kept.step operation allowed.1 allowed.2 ?_
  rintro kind dispatcher capability server index map ready rfl
  have callable := allowed.1
  simp only [Operation.callable, decide_eq_true_eq] at callable
  exact callable.symm

theorem reject (apart : Apart usable fd world) (dispatcher : ServiceId)
    (name label : SessionLabel) : Apart usable fd (world.reject dispatcher name label) := by
  simp only [World.reject]
  split
  · exact apart
  · exact apart.congr (fun opened => opened) rfl rfl rfl rfl

end Apart

/-! What the request itself leaves behind. -/

theorem mem_installed (world : World) (num : Nat) (reply : Reply) (fd : Int)
    (arrived : fd ∈ (world.install num reply).2) :
    valid fd = true ∧ fd ∉ world.table.opened ∧
      fd ∈ (world.install num reply).1.table.opened := by
  obtain ⟨received, open_⟩ := List.mem_filter.mp arrived
  refine ⟨open_, received_fresh world.table _ fd open_ received, ?_⟩
  exact (mem_receive world.table _ fd open_).mpr (Or.inr received)

/-- No stale word is the number of the first descriptor that arrived. -/
def Unrepeated (slots : Nat) (arrived : List Int) (stale : Nat → Int) : Prop :=
  ∀ slot < slots, arrived.length ≤ slot → stale slot ≠ arrived.headD (-1)

theorem slots_ne_first (reply : Reply) (num : Nat) (small : num ≤ 4) (fd : Int) (rest : List Int)
    (distinct : (fd :: rest).Nodup) (unrepeated : Unrepeated num (fd :: rest) reply.stale)
    (slot : Nat) (later : 0 < slot) (bound : slot < num) :
    (reply.slots num (fd :: rest)).getD slot (-1) ≠ fd := by
  rw [Reply.slots_getD _ _ _ _ bound small, if_neg (List.cons_ne_nil fd rest)]
  split
  · rename_i arrived
    obtain ⟨place, rfl⟩ := Nat.exists_eq_add_of_lt later
    rw [Nat.zero_add] at arrived ⊢
    rw [List.getD_cons_succ, List.getD_eq_getElem _ _ (by simpa using arrived)]
    intro same
    exact (List.nodup_cons.mp distinct).1 (same ▸ List.getElem_mem _)
  · rename_i missing
    exact unrepeated slot bound (by omega)

/-- The first descriptor that arrived is not even in reach of the callback. -/
theorem receiveRequest_apart (world : World) (id : ServiceId) (action : ActionType)
    (kind : KindType) (name label : SessionLabel) (offered : List Int) (stale : Nat → Int)
    (tidy : Tidy world) (serves : Serves world id) (fd : Int) (rest : List Int)
    (came : (world.install id.kind.slots ⟨.valid action kind name label, offered, stale⟩).2 =
      fd :: rest)
    (unrepeated : Unrepeated id.kind.slots (fd :: rest) stale) :
    Apart (OfDispatcher id) fd
      (world.receiveRequest id ⟨.valid action kind name label, offered, stale⟩) := by
  have distinct : (fd :: rest).Nodup := by
    rw [← came]
    exact received_nodup world.table _
  obtain ⟨two, small⟩ := id.kind.slots_bounds
  obtain ⟨open_, fresh, opened⟩ := mem_installed world id.kind.slots
    ⟨.valid action kind name label, offered, stale⟩ fd (by rw [came]; exact List.mem_cons_self)
  rw [receiveRequest_valid world id action kind name label offered stale serves, came]
  refine ⟨open_, opened, fun stored => fresh (tidy fd open_ stored), ?_⟩
  rintro other rfl request
  simp only [World.setCapability, Function.update_self] at request ⊢
  by_cases same : kind = other.kind.protocol
  · have different := slots_ne_first ⟨.valid action kind name label, offered, stale⟩
      other.kind.slots small fd rest distinct unrepeated
    rw [if_pos same]
    refine ⟨different 1 (by omega) two, ?_⟩
    intro memory
    exact (if_pos memory).trans_ne (different 2 (by omega) (by rw [memory]; decide))
  · rw [if_neg same, offered_nothing] at request
    cases request

/-- Whatever the callback does, that descriptor is still open. -/
theorem dispatchEvent_leaks (world : World) (id : ServiceId) (action : ActionType)
    (kind : KindType) (name label : SessionLabel) (offered : List Int) (stale : Nat → Int)
    (callback : List Operation) (tidy : Tidy world) (serves : Serves world id)
    (calls : Callback id
      (world.receiveRequest id ⟨.valid action kind name label, offered, stale⟩) callback)
    {arrived : List Int}
    (came : (world.install id.kind.slots ⟨.valid action kind name label, offered, stale⟩).2 =
      arrived)
    (some_ : arrived ≠ []) (unrepeated : Unrepeated id.kind.slots arrived stale) :
    ¬ OnlyLiveOpen arrived (world.dispatchEvent id (world.dispatchers id).dispatchFd
      ⟨.valid action kind name label, offered, stale⟩ callback) := by
  obtain ⟨fd, rest, rfl⟩ := List.exists_cons_of_ne_nil some_
  have apart := receiveRequest_apart world id action kind name label offered stale tidy serves fd
    rest came unrepeated
  have left := (apart.callback callback calls).reject id name label
  intro onlyLive
  simp only [World.dispatchEvent, serves.unguarded, Bool.false_eq_true, if_false, if_true]
    at onlyLive
  exact left.not_inSession ((onlyLive fd List.mem_cons_self left.open_).mp left.opened)

/-- A callback that does nothing leaves the first descriptor behind whatever the stale words are. -/
theorem dispatchEvent_ignored (world : World) (id : ServiceId) (action : ActionType)
    (kind : KindType) (name label : SessionLabel) (offered : List Int) (stale : Nat → Int)
    (tidy : Tidy world) (serves : Serves world id) {arrived : List Int}
    (came : (world.install id.kind.slots ⟨.valid action kind name label, offered, stale⟩).2 =
      arrived)
    (some_ : arrived ≠ []) :
    ¬ OnlyLiveOpen arrived (world.dispatchEvent id (world.dispatchers id).dispatchFd
      ⟨.valid action kind name label, offered, stale⟩ []) := by
  obtain ⟨fd, rest, rfl⟩ := List.exists_cons_of_ne_nil some_
  obtain ⟨open_, fresh, opened⟩ := mem_installed world id.kind.slots
    ⟨.valid action kind name label, offered, stale⟩ fd (by rw [came]; exact List.mem_cons_self)
  have apart : Apart (fun _ _ => False) fd
      (world.receiveRequest id ⟨.valid action kind name label, offered, stale⟩) := by
    rw [receiveRequest_valid world id action kind name label offered stale serves]
    exact ⟨open_, opened, fun stored => fresh (tidy fd open_ stored), fun _ never => never.elim⟩
  have left := apart.reject id name label
  intro onlyLive
  simp only [World.dispatchEvent, serves.unguarded, Bool.false_eq_true, if_false, if_true]
    at onlyLive
  exact left.not_inSession ((onlyLive fd List.mem_cons_self open_).mp left.opened)

/-- `Dispatch_Event` keeps only descriptors of live sessions, for every callback, if and only if
none arrived; and so for each callback if no stale word is the number of the first that did. -/
theorem request_descriptors_iff (world : World) (id : ServiceId) (action : ActionType)
    (kind : KindType) (name label : SessionLabel) (offered : List Int) (stale : Nat → Int)
    (tidy : Tidy world) (serves : Serves world id) :
    let reply : Reply := ⟨.valid action kind name label, offered, stale⟩
    let arrived := (world.install id.kind.slots reply).2
    let after := world.dispatchEvent id (world.dispatchers id).dispatchFd reply
    ((∀ callback, Callback id (world.receiveRequest id reply) callback →
        OnlyLiveOpen arrived (after callback)) ↔ arrived = []) ∧
      (Unrepeated id.kind.slots arrived stale →
        ∀ callback, Callback id (world.receiveRequest id reply) callback →
          (OnlyLiveOpen arrived (after callback) ↔ arrived = [])) := by
  intro reply arrived after
  have nothing : ∀ callback, arrived = [] → OnlyLiveOpen arrived (after callback) := by
    intro callback none_ fd member
    rw [none_] at member
    cases member
  constructor
  · refine ⟨?_, fun none_ callback _ => nothing callback none_⟩
    intro always
    by_contra some_
    exact dispatchEvent_ignored world id action kind name label offered stale tidy serves rfl some_
      (always [] trivial)
  · refine fun unrepeated callback calls => ⟨?_, nothing callback⟩
    intro onlyLive
    by_contra some_
    exact dispatchEvent_leaks world id action kind name label offered stale callback tidy serves
      calls rfl some_ unrepeated onlyLive

def sampleDispatcher : ServiceId := ⟨.message (128 * 8), 0⟩

/-- A message server that waits for its first request. -/
def sampleWaiting : World := run World.step (World.start [3, 4] 3 4) [
  .initializeDispatcher sampleDispatcher 1,
  .register sampleDispatcher ⟨.valid .confirm .message .empty .empty, [6], unused⟩ true]

def connectRequest : Reply := ⟨.valid .request .message .empty .empty, [7, 8], unused⟩

def acceptingCallback : List Operation := [
  .sessionInitialize (.message (128 * 8)) 0 0 0 1 none true,
  .sessionAccept (.message (128 * 8)) 0 0 0 true]

theorem sampleWaiting_tidy : Tidy sampleWaiting := by
  refine reachable_tidy sampleWaiting ?_ (6, .dispatcher sampleDispatcher) (by decide +kernel)
  refine ⟨[3, 4], 3, 4, _, by decide, by decide, by decide, ?_, rfl⟩
  decide +kernel

theorem acceptingCallback_calls : Callback sampleDispatcher
    (sampleWaiting.receiveRequest sampleDispatcher connectRequest) acceptingCallback := by
  unfold Callback
  decide +kernel

theorem connectRequest_unrepeated : Unrepeated sampleDispatcher.kind.slots [7, 8] unused := by
  intro slot _ _
  show (-1 : Int) ≠ 7
  decide

theorem sampleWaiting_request :
    ¬ OnlyLiveOpen (sampleWaiting.install sampleDispatcher.kind.slots connectRequest).2
        (sampleWaiting.dispatchEvent sampleDispatcher
          (sampleWaiting.dispatchers sampleDispatcher).dispatchFd connectRequest
          acceptingCallback) := by
  have arrived : (sampleWaiting.install sampleDispatcher.kind.slots connectRequest).2 = [7, 8] := by
    decide +kernel
  obtain ⟨_, each⟩ := request_descriptors_iff sampleWaiting sampleDispatcher .request .message
    .empty .empty [7, 8] unused sampleWaiting_tidy (by decide +kernel)
  have unrepeated := connectRequest_unrepeated
  rw [← arrived] at unrepeated
  rw [connectRequest, each unrepeated acceptingCallback acceptingCallback_calls]
  intro none_
  cases arrived.symm.trans none_

/-- The client's end stays open when the request is accepted, and when it is rejected. -/
theorem client_end_kept :
    ¬ OnlyLiveOpen [7, 8]
        (sampleWaiting.dispatchEvent sampleDispatcher 6 connectRequest acceptingCallback) ∧
      ¬ OnlyLiveOpen [7, 8]
        (sampleWaiting.dispatchEvent sampleDispatcher 6 connectRequest []) := by
  have leaks : ∀ callback, Callback sampleDispatcher
      (sampleWaiting.receiveRequest sampleDispatcher connectRequest) callback →
      ¬ OnlyLiveOpen [7, 8]
        (sampleWaiting.dispatchEvent sampleDispatcher 6 connectRequest callback) := by
    intro callback calls
    exact dispatchEvent_leaks sampleWaiting sampleDispatcher .request .message .empty .empty [7, 8]
      unused callback sampleWaiting_tidy (by decide +kernel) calls (by decide +kernel) (by decide)
      connectRequest_unrepeated
  exact ⟨leaks acceptingCallback acceptingCallback_calls, leaks [] trivial⟩

end Gneiss.Component
