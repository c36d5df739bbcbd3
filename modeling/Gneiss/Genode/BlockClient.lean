import Mathlib.Algebra.Group.Nat.Defs
import Gneiss.Genode.BlockServer

/-!
The block client on Genode: any number of client sessions and request objects that share the handle
cache of one instance of `Gneiss.Block.Client`. A packet is recognised by its tag alone. Every call
of `Enqueue` gets a `Ticket` that the program does not know; the packet, its acknowledgement and the
request carry it along, and `acknowledged` lists what the servers answered.
-/

namespace Gneiss.Genode.Block

open Runs

inductive RequestKind where
  | none
  | read
  | write
  | sync
  | trim
  deriving DecidableEq, Repr

inductive AllocationResult where
  | success
  | outOfMemory
  | unsupported
  deriving DecidableEq, Repr

structure PacketDescriptor where
  offset : Int
  bytes : Nat
  opcode : Int
  tag : Nat
  blockNumber : Nat
  blockCount : Nat
  deriving DecidableEq, Repr

structure Ticket (Session : Type) where
  serial : Nat
  home : Session
  deriving DecidableEq, Repr

structure Submitted (Session : Type) where
  packet : PacketDescriptor
  ticket : Ticket Session
  deriving DecidableEq, Repr

structure Acknowledged (Session : Type) where
  tag : Nat
  success : Bool
  ticket : Ticket Session
  deriving DecidableEq, Repr

structure ClientRequest (Session : Type) where
  packet : PacketDescriptor
  status : RequestStatus
  session : Option Nat
  ticket : Option (Ticket Session)
  deriving DecidableEq, Repr

/-- `Client_Session` with the packet stream of its device. -/
structure ClientSession (Session : Type) where
  device : Bool
  blockSize : Nat
  tag : Option Nat
  submitted : List (Submitted Session)
  acked : List (Acknowledged Session)
  deriving DecidableEq, Repr

/-- An entry of `H_Cache`; `none` is one that is not valid. -/
abbrev RequestHandle (Session : Type) := Option (Acknowledged Session)

structure ClientWorld (Session Key : Type) where
  sessions : Session → ClientSession Session
  cache : List (RequestHandle Session)
  requests : Key → ClientRequest Session
  enqueued : Nat
  acknowledged : List (Session × Acknowledged Session)

variable {Session Key : Type}

def ClientSession.initialized (session : ClientSession Session) : Bool :=
  session.device && session.tag.isSome

def ClientSession.assigned (session : ClientSession Session) (request : ClientRequest Session) :
    Bool :=
  session.tag = request.session

def opcode : RequestKind → Int
  | .read => 0
  | .write => 1
  | .sync => 2
  | .trim => 3
  | .none => -1

/-- `Allocate_Request`; `memory` is the offset that `alloc_packet` returns unless it throws. -/
def allocateRequest (session : ClientSession Session) (request : ClientRequest Session)
    (kind : RequestKind) (start length id : Nat) (memory : Option Int) :
    ClientRequest Session × AllocationResult :=
  let cleared := { request with
    packet := { request.packet with blockCount := 0 }
    session := session.tag }
  if opcode kind = 0 ∨ opcode kind = 1 then
    match memory with
    | some offset =>
        let packet : PacketDescriptor :=
          ⟨offset, session.blockSize * length % 2 ^ 64, opcode kind, id, start, length⟩
        let allocated := { cleared with packet := packet }
        if 0 < length then ({ allocated with status := .allocated }, .success)
        else (allocated, .unsupported)
    | none => (cleared, .outOfMemory)
  else (cleared, .unsupported)

def updateResponseQueue (handle : RequestHandle Session) (acked : List (Acknowledged Session)) :
    RequestHandle Session × List (Acknowledged Session) :=
  match handle, acked with
  | some ack, acked => (some ack, acked)
  | none, [] => (none, [])
  | none, ack :: rest => (some ack, rest)

/-- The handle and the request after the test of one cache entry against the tag of the request. -/
def matchHandle (handle : RequestHandle Session) (request : ClientRequest Session) :
    RequestHandle Session × ClientRequest Session :=
  match handle with
  | none => (none, request)
  | some ack =>
      if ack.tag = request.packet.tag then
        (none, { request with status := if ack.success then .ok else .error })
      else (some ack, request)

/-- The loop of `Update_Request` over the cache. -/
def updateFrom : List (RequestHandle Session) → List (Acknowledged Session) →
    ClientRequest Session →
    List (RequestHandle Session) × List (Acknowledged Session) × ClientRequest Session
  | [], acked, request => ([], acked, request)
  | handle :: rest, acked, request =>
      let (handle, acked) := updateResponseQueue handle acked
      let (handle, request) := matchHandle handle request
      let (rest, acked, request) := updateFrom rest acked request
      (handle :: rest, acked, request)

/-- `device` is the block size of the device that was opened, `index` a packet in flight. -/
inductive ClientInput (Session Key : Type) where
  | initializeSession (c : Session) (tag : Nat) (device : Option Nat)
  | finalizeSession (c : Session)
  | allocateRequest (c : Session) (r : Key) (kind : RequestKind) (start length id : Nat)
      (memory : Option Int)
  | enqueue (c : Session) (r : Key)
  | updateRequest (c : Session) (r : Key)
  | release (c : Session) (r : Key)
  | acknowledge (c : Session) (index : Nat) (success : Bool)
  deriving DecidableEq, Repr

namespace ClientWorld

def initial : ClientWorld Session Key where
  sessions := fun _ => ⟨false, 0, none, [], []⟩
  cache := List.replicate 128 none
  requests := fun _ => ⟨⟨0, 0, 0, 0, 0, 0⟩, .raw, none, none⟩
  enqueued := 0
  acknowledged := []

variable [DecidableEq Session] [DecidableEq Key]

def setSession (world : ClientWorld Session Key) (c : Session) (session : ClientSession Session) :
    ClientWorld Session Key :=
  { world with sessions := Function.update world.sessions c session }

def setRequest (world : ClientWorld Session Key) (r : Key) (request : ClientRequest Session) :
    ClientWorld Session Key :=
  { world with requests := Function.update world.requests r request }

def initializeSession (world : ClientWorld Session Key) (c : Session) (tag : Nat)
    (device : Option Nat) : ClientWorld Session Key :=
  match device with
  | some blockSize => world.setSession c ⟨true, blockSize, some tag, [], []⟩
  | none =>
      world.setSession c { world.sessions c with device := false, submitted := [], acked := [] }

/-- The stream goes with the device, the tag of the session stays. -/
def finalizeSession (world : ClientWorld Session Key) (c : Session) : ClientWorld Session Key :=
  world.setSession c ⟨false, 0, (world.sessions c).tag, [], []⟩

def enqueue (world : ClientWorld Session Key) (c : Session) (r : Key) : ClientWorld Session Key :=
  let request := world.requests r
  let ticket : Ticket Session := ⟨world.enqueued, c⟩
  let session := { world.sessions c with
    submitted := (world.sessions c).submitted ++ [⟨request.packet, ticket⟩] }
  let pending := { request with status := .pending, ticket := some ticket }
  { (world.setSession c session).setRequest r pending with enqueued := world.enqueued + 1 }

def updateRequest (world : ClientWorld Session Key) (c : Session) (r : Key) :
    ClientWorld Session Key :=
  let (cache, acked, request) := updateFrom world.cache (world.sessions c).acked (world.requests r)
  { (world.setSession c { world.sessions c with acked := acked }).setRequest r request with
    cache := cache }

def acknowledge (world : ClientWorld Session Key) (c : Session) (index : Nat) (success : Bool) :
    ClientWorld Session Key :=
  match (world.sessions c).submitted[index]? with
  | none => world
  | some item =>
      let ack : Acknowledged Session := ⟨item.packet.tag, success, item.ticket⟩
      let session := { world.sessions c with
        submitted := (world.sessions c).submitted.eraseIdx index
        acked := (world.sessions c).acked ++ [ack] }
      { world.setSession c session with acknowledged := world.acknowledged ++ [(c, ack)] }

/-- The calls that `Enqueue`, `Update_Request` and `Release` accept. -/
def accepts (world : ClientWorld Session Key) (c : Session) (r : Key) : Bool :=
  (world.sessions c).initialized && (world.sessions c).assigned (world.requests r)

def step (world : ClientWorld Session Key) : ClientInput Session Key → ClientWorld Session Key
  | .initializeSession c tag device =>
      if (world.sessions c).initialized then world else world.initializeSession c tag device
  | .finalizeSession c =>
      if (world.sessions c).initialized then world.finalizeSession c else world
  | .allocateRequest c r kind start length id memory =>
      if (world.sessions c).initialized = true ∧ (world.requests r).status = .raw then
        world.setRequest r
          (Block.allocateRequest (world.sessions c) (world.requests r) kind start length id
            memory).1
      else world
  | .enqueue c r =>
      if world.accepts c r = true ∧ (world.requests r).status = .allocated then world.enqueue c r
      else world
  | .updateRequest c r =>
      if world.accepts c r = true ∧ (world.requests r).status = .pending then
        world.updateRequest c r
      else world
  | .release c r =>
      if world.accepts c r = true ∧ (world.requests r).status ≠ .raw then
        world.setRequest r { world.requests r with status := .raw }
      else world
  | .acknowledge c index success => world.acknowledge c index success

end ClientWorld

theorem allocateRequest_status (session : ClientSession Session) (request : ClientRequest Session)
    (kind : RequestKind) (start length id : Nat) (memory : Option Int)
    (unused : request.status = .raw) :
    (allocateRequest session request kind start length id memory).1.status ≠ .pending := by
  unfold allocateRequest
  simp only
  split
  · cases memory with
    | none => simp [unused]
    | some offset =>
        simp only
        split <;> simp [unused]
  · simp [unused]

def entries (cache : List (RequestHandle Session)) : List (Acknowledged Session) :=
  cache.filterMap id

/-! What `Update_Request` can match: a handle in the cache or an acknowledgement it fetches. -/

def Held (cache : List (RequestHandle Session)) (acked : List (Acknowledged Session))
    (ack : Acknowledged Session) : Prop :=
  some ack ∈ cache ∨ ack ∈ acked

theorem updateResponseQueue_held (handle : RequestHandle Session)
    (acked : List (Acknowledged Session)) :
    (∀ ack, (updateResponseQueue handle acked).1 = some ack →
      handle = some ack ∨ ack ∈ acked) ∧
      (updateResponseQueue handle acked).2 ⊆ acked := by
  cases handle with
  | some held => exact ⟨fun ack same => Or.inl same, List.Subset.refl _⟩
  | none =>
      cases acked with
      | nil => exact ⟨fun ack same => (nomatch same), List.Subset.refl _⟩
      | cons first rest =>
          refine ⟨fun ack same => Or.inr ?_, List.subset_cons_self first rest⟩
          rw [show (updateResponseQueue none (first :: rest)).1 = some first from rfl,
            Option.some.injEq] at same
          rw [← same]
          exact List.mem_cons_self

theorem matchHandle_cases (handle : RequestHandle Session) (request : ClientRequest Session) :
    matchHandle handle request = (handle, request) ∨
      ∃ ack, handle = some ack ∧ ack.tag = request.packet.tag ∧
        matchHandle handle request =
          (none, { request with status := if ack.success then .ok else .error }) := by
  cases handle with
  | none => exact Or.inl rfl
  | some ack =>
      by_cases same : ack.tag = request.packet.tag
      · exact Or.inr ⟨ack, rfl, same, if_pos same⟩
      · exact Or.inl (if_neg same)

/-- The loop invents nothing, and a request that it completes is completed by something that was
held under its tag. -/
theorem updateFrom_held (cache : List (RequestHandle Session))
    (acked : List (Acknowledged Session)) (request : ClientRequest Session) :
    (∀ ack, some ack ∈ (updateFrom cache acked request).1 → Held cache acked ack) ∧
      (updateFrom cache acked request).2.1 ⊆ acked ∧
      ((updateFrom cache acked request).2.2 = request ∨
        ∃ ack, Held cache acked ack ∧ ack.tag = request.packet.tag ∧
          (updateFrom cache acked request).2.2 =
            { request with status := if ack.success then .ok else .error }) := by
  induction cache generalizing acked request with
  | nil => exact ⟨fun ack member => (nomatch member), List.Subset.refl _, Or.inl rfl⟩
  | cons handle rest ih =>
      obtain ⟨fetched, shorter⟩ := updateResponseQueue_held handle acked
      rw [updateFrom]
      generalize queue : updateResponseQueue handle acked = answer at fetched shorter
      obtain ⟨current, remaining⟩ := answer
      have held : ∀ ack, current = some ack → Held (handle :: rest) acked ack := by
        intro ack same
        rcases fetched ack same with before | taken
        · exact Or.inl (by rw [before]; exact List.mem_cons_self)
        · exact Or.inr taken
      have lift : ∀ ack, Held rest remaining ack → Held (handle :: rest) acked ack := by
        intro ack before
        rcases before with cached | queued
        · exact Or.inl (List.mem_cons_of_mem handle cached)
        · exact Or.inr (shorter queued)
      rcases matchHandle_cases current request with kept | ⟨ack, same, tag, cleared⟩
      · obtain ⟨inside, suffix_, outcome⟩ := ih remaining request
        simp only [kept]
        refine ⟨fun ack member => ?_, fun ack member => shorter (suffix_ member), ?_⟩
        · rcases List.mem_cons.mp member with first | later
          · exact held ack first.symm
          · exact lift ack (inside ack later)
        · rcases outcome with unchanged | ⟨ack, before, tag, completed⟩
          · exact Or.inl unchanged
          · exact Or.inr ⟨ack, lift ack before, tag, completed⟩
      · obtain ⟨inside, suffix_, outcome⟩ := ih remaining
          { request with status := if ack.success then .ok else .error }
        simp only [cleared]
        refine ⟨fun other member => ?_, fun other member => shorter (suffix_ member), Or.inr ?_⟩
        · rcases List.mem_cons.mp member with first | later
          · cases first
          · exact lift other (inside other later)
        · rcases outcome with unchanged | ⟨later, before, laterTag, completed⟩
          · exact ⟨ack, held ack same, tag, unchanged⟩
          · exact ⟨later, lift later before, laterTag, completed⟩

/-- A packet in flight, its unread acknowledgement, or the handle made of it. -/
inductive Outstanding (world : ClientWorld Session Key) (tag : Nat) (ticket : Ticket Session) : Prop
  | submitted (c : Session) (item : Submitted Session)
      (member : item ∈ (world.sessions c).submitted) (tagged : item.packet.tag = tag)
      (own : item.ticket = ticket)
  | acked (c : Session) (ack : Acknowledged Session) (member : ack ∈ (world.sessions c).acked)
      (tagged : ack.tag = tag) (own : ack.ticket = ticket)
  | cached (ack : Acknowledged Session) (member : some ack ∈ world.cache)
      (tagged : ack.tag = tag) (own : ack.ticket = ticket)

theorem not_outstanding {world : ClientWorld Session Key} {tag : Nat} (ticket : Ticket Session)
    (submitted : ∀ c, ∀ item ∈ (world.sessions c).submitted, item.packet.tag ≠ tag)
    (acked : ∀ c, (world.sessions c).acked = []) (cache : entries world.cache = []) :
    ¬Outstanding world tag ticket := by
  intro found
  cases found with
  | submitted c item member tagged => exact submitted c item member tagged
  | acked c ack member =>
      rw [acked c] at member
      cases member
  | cached ack member =>
      have held : ack ∈ entries world.cache := List.mem_filterMap.mpr ⟨some ack, member, rfl⟩
      rw [cache] at held
      cases held

/-- What is outstanding under the tag of a pending request is its own, every acknowledgement that
can still be matched was given, and each was given where its packet was sent. -/
structure Tracked (world : ClientWorld Session Key) : Prop where
  own : ∀ r, (world.requests r).status = .pending → ∃ ticket,
    (world.requests r).ticket = some ticket ∧
      ∀ other, Outstanding world (world.requests r).packet.tag other → other = ticket
  acked : ∀ c, ∀ ack ∈ (world.sessions c).acked, (c, ack) ∈ world.acknowledged
  cached : ∀ ack, some ack ∈ world.cache → ∃ c, (c, ack) ∈ world.acknowledged
  sent : ∀ c, ∀ item ∈ (world.sessions c).submitted, item.ticket.home = c
  home : ∀ entry ∈ world.acknowledged, entry.2.ticket.home = entry.1

/-- Neither anything outstanding nor another pending request has the tag of the request that is
enqueued. -/
def Unambiguous (world : ClientWorld Session Key) : ClientInput Session Key → Prop
  | .enqueue c r =>
      world.accepts c r = true → (world.requests r).status = .allocated →
        (∀ ticket, ¬Outstanding world (world.requests r).packet.tag ticket) ∧
          ∀ other, other ≠ r → (world.requests other).status = .pending →
            (world.requests other).packet.tag ≠ (world.requests r).packet.tag
  | _ => True

/-- Pending requests stay as they are, and nothing is new but what moved from a queue into the
cache. -/
theorem Tracked.of_fewer {world after : ClientWorld Session Key} (tracked : Tracked world)
    (requests : ∀ r, (after.requests r).status = .pending → after.requests r = world.requests r)
    (submitted : ∀ c, ∀ item ∈ (after.sessions c).submitted, item ∈ (world.sessions c).submitted)
    (acked : ∀ c, ∀ ack ∈ (after.sessions c).acked, ack ∈ (world.sessions c).acked)
    (cached : ∀ ack, some ack ∈ after.cache →
      some ack ∈ world.cache ∨ ∃ c, ack ∈ (world.sessions c).acked)
    (given : after.acknowledged = world.acknowledged) : Tracked after := by
  constructor
  · intro r pending
    have same := requests r pending
    rw [same] at pending ⊢
    obtain ⟨ticket, own, all⟩ := tracked.own r pending
    refine ⟨ticket, own, fun outstanding found => all outstanding ?_⟩
    cases found with
    | submitted d item member tagged own =>
        exact .submitted d item (submitted d item member) tagged own
    | acked d ack member tagged own => exact .acked d ack (acked d ack member) tagged own
    | cached ack member tagged own =>
        rcases cached ack member with before | ⟨c, queued⟩
        · exact .cached ack before tagged own
        · exact .acked c ack queued tagged own
  · intro d ack member
    rw [given]
    exact tracked.acked d ack (acked d ack member)
  · intro ack member
    rw [given]
    rcases cached ack member with before | ⟨c, queued⟩
    · exact tracked.cached ack before
    · exact ⟨c, tracked.acked c ack queued⟩
  · exact fun d item member => tracked.sent d item (submitted d item member)
  · rw [given]
    exact tracked.home

theorem Tracked.setRequest [DecidableEq Key] {world : ClientWorld Session Key}
    (tracked : Tracked world) (r : Key) (request : ClientRequest Session)
    (idle : request.status ≠ .pending) :
    Tracked (world.setRequest r request) := by
  refine tracked.of_fewer ?_ (fun _ _ member => member) (fun _ _ member => member)
    (fun _ member => Or.inl member) rfl
  intro other pending
  have different : other ≠ r := by
    rintro rfl
    simp only [ClientWorld.setRequest, Function.update_self] at pending
    exact idle pending
  exact Function.update_of_ne different _ _

/-- A session whose stream is gone or new. -/
theorem Tracked.reset [DecidableEq Session] {world : ClientWorld Session Key}
    (tracked : Tracked world) (c : Session) (session : ClientSession Session)
    (unsent : session.submitted = []) (unread : session.acked = []) :
    Tracked (world.setSession c session) := by
  refine tracked.of_fewer (fun _ _ => rfl) ?_ ?_ (fun _ member => Or.inl member) rfl
  · intro d item member
    by_cases same : d = c
    · simp [ClientWorld.setSession, same, unsent] at member
    · simpa [ClientWorld.setSession, same] using member
  · intro d ack member
    by_cases same : d = c
    · simp [ClientWorld.setSession, same, unread] at member
    · simpa [ClientWorld.setSession, same] using member

theorem Tracked.acknowledge [DecidableEq Session] {world : ClientWorld Session Key}
    (tracked : Tracked world) (c : Session) (index : Nat) (success : Bool) :
    Tracked (world.acknowledge c index success) := by
  unfold ClientWorld.acknowledge
  split
  · exact tracked
  · rename_i item found
    have inFlight : item ∈ (world.sessions c).submitted := List.mem_of_getElem? found
    have submitted : ∀ d, ∀ other ∈ (Function.update world.sessions c
        { world.sessions c with
          submitted := (world.sessions c).submitted.eraseIdx index
          acked := (world.sessions c).acked ++
            [⟨item.packet.tag, success, item.ticket⟩] } d).submitted,
        other ∈ (world.sessions d).submitted := by
      intro d other member
      by_cases same : d = c
      · rw [same, Function.update_self] at member
        rw [same]
        exact List.mem_of_mem_eraseIdx member
      · rwa [Function.update_of_ne same] at member
    have acked : ∀ d, ∀ ack ∈ (Function.update world.sessions c
        { world.sessions c with
          submitted := (world.sessions c).submitted.eraseIdx index
          acked := (world.sessions c).acked ++ [⟨item.packet.tag, success, item.ticket⟩] } d).acked,
        ack ∈ (world.sessions d).acked ∨ d = c ∧ ack = ⟨item.packet.tag, success, item.ticket⟩ := by
      intro d ack member
      by_cases same : d = c
      · rw [same, Function.update_self] at member
        rw [same]
        rcases List.mem_append.mp member with before | last
        · exact Or.inl before
        · exact Or.inr ⟨rfl, List.mem_singleton.mp last⟩
      · rw [Function.update_of_ne same] at member
        exact Or.inl member
    constructor
    · intro r pending
      obtain ⟨ticket, own, all⟩ := tracked.own r pending
      refine ⟨ticket, own, fun other outstanding => all other ?_⟩
      cases outstanding with
      | submitted d other member tagged own =>
          exact .submitted d other (submitted d other member) tagged own
      | acked d ack member tagged own =>
          rcases acked d ack member with before | ⟨_, last⟩
          · exact .acked d ack before tagged own
          · rw [last] at tagged own
            exact .submitted c item inFlight tagged own
      | cached ack member tagged own => exact .cached ack member tagged own
    · intro d ack member
      rcases acked d ack member with before | ⟨same, last⟩
      · exact List.mem_append_left _ (tracked.acked d ack before)
      · rw [same, last]
        exact List.mem_append_right _ List.mem_cons_self
    · intro ack member
      obtain ⟨d, given⟩ := tracked.cached ack member
      exact ⟨d, List.mem_append_left _ given⟩
    · exact fun d other member => tracked.sent d other (submitted d other member)
    · intro entry member
      rcases List.mem_append.mp member with before | last
      · exact tracked.home entry before
      · rw [List.mem_singleton.mp last]
        exact tracked.sent c item inFlight

variable [DecidableEq Session] [DecidableEq Key]

/-- `Update_Request` ends a pending request only with the acknowledgement of the packet that its own
`Enqueue` sent, given on the session it was sent on. -/
def CompletesOwn (world : ClientWorld Session Key) (input : ClientInput Session Key) : Prop :=
  match input with
  | .updateRequest _ r =>
      (world.requests r).status = .pending →
      ((world.step input).requests r).status ≠ .pending →
        ∃ ack, (world.requests r).ticket = some ack.ticket ∧
          (ack.ticket.home, ack) ∈ world.acknowledged ∧
          ((world.step input).requests r).status = if ack.success then .ok else .error
  | _ => True

theorem Tracked.enqueue {world : ClientWorld Session Key} (tracked : Tracked world) (c : Session)
    (r : Key) (unused : ∀ ticket, ¬Outstanding world (world.requests r).packet.tag ticket)
    (alone : ∀ other, other ≠ r → (world.requests other).status = .pending →
      (world.requests other).packet.tag ≠ (world.requests r).packet.tag) :
    Tracked (world.enqueue c r) := by
  have submitted : ∀ d, ∀ item ∈ ((world.enqueue c r).sessions d).submitted,
      item ∈ (world.sessions d).submitted ∨
        d = c ∧ item = ⟨(world.requests r).packet, ⟨world.enqueued, c⟩⟩ := by
    intro d item member
    by_cases same : d = c
    · simp only [ClientWorld.enqueue, ClientWorld.setRequest, ClientWorld.setSession, same,
        Function.update_self, List.mem_append, List.mem_singleton] at member
      rw [same]
      rcases member with before | last
      · exact Or.inl before
      · exact Or.inr ⟨rfl, last⟩
    · simp only [ClientWorld.enqueue, ClientWorld.setRequest, ClientWorld.setSession,
        Function.update_of_ne same] at member
      exact Or.inl member
  have acked : ∀ d, ((world.enqueue c r).sessions d).acked = (world.sessions d).acked := by
    intro d
    by_cases same : d = c
    · simp [ClientWorld.enqueue, ClientWorld.setRequest, ClientWorld.setSession, same]
    · simp [ClientWorld.enqueue, ClientWorld.setRequest, ClientWorld.setSession, same]
  have outstanding : ∀ tag ticket, Outstanding (world.enqueue c r) tag ticket →
      Outstanding world tag ticket ∨
        tag = (world.requests r).packet.tag ∧ ticket = ⟨world.enqueued, c⟩ := by
    intro tag ticket found
    cases found with
    | submitted d item member tagged own =>
        rcases submitted d item member with before | ⟨_, last⟩
        · exact Or.inl (.submitted d item before tagged own)
        · rw [last] at tagged own
          exact Or.inr ⟨tagged.symm, own.symm⟩
    | acked d ack member tagged own =>
        rw [acked d] at member
        exact Or.inl (.acked d ack member tagged own)
    | cached ack member tagged own => exact Or.inl (.cached ack member tagged own)
  constructor
  · intro other pending
    by_cases same : other = r
    · rw [same]
      simp only [ClientWorld.enqueue, ClientWorld.setRequest, Function.update_self]
      refine ⟨⟨world.enqueued, c⟩, rfl, fun ticket found => ?_⟩
      rcases outstanding _ _ found with before | ⟨_, own⟩
      · exact (unused ticket before).elim
      · exact own
    · simp only [ClientWorld.enqueue, ClientWorld.setRequest, Function.update_of_ne same]
        at pending ⊢
      obtain ⟨ticket, own, all⟩ := tracked.own other pending
      refine ⟨ticket, own, fun later found => ?_⟩
      rcases outstanding _ _ found with before | ⟨tagged, _⟩
      · exact all later before
      · exact (alone other same pending tagged).elim
  · intro d ack member
    rw [acked d] at member
    exact tracked.acked d ack member
  · exact tracked.cached
  · intro d item member
    rcases submitted d item member with before | ⟨same, last⟩
    · exact tracked.sent d item before
    · rw [last, same]
  · exact tracked.home

theorem Tracked.updateRequest {world : ClientWorld Session Key} (tracked : Tracked world)
    (c : Session) (r : Key) : Tracked (world.updateRequest c r) := by
  obtain ⟨inside, shorter, outcome⟩ :=
    updateFrom_held world.cache (world.sessions c).acked (world.requests r)
  unfold ClientWorld.updateRequest
  generalize updateFrom world.cache (world.sessions c).acked (world.requests r) = result
    at inside shorter outcome
  obtain ⟨cache, acked, request⟩ := result
  refine tracked.of_fewer ?_ ?_ ?_ ?_ rfl
  · intro other pending
    simp only [ClientWorld.setRequest, ClientWorld.setSession] at pending ⊢
    by_cases same : other = r
    · rw [same, Function.update_self] at pending ⊢
      rcases outcome with kept | ⟨ack, _, _, completed⟩
      · exact kept
      · exfalso
        simp only at completed
        rw [completed] at pending
        cases success : ack.success <;> simp [success] at pending
    · exact Function.update_of_ne same _ _
  · intro d item member
    simp only [ClientWorld.setRequest, ClientWorld.setSession] at member
    by_cases same : d = c
    · rw [same, Function.update_self] at member
      rw [same]
      exact member
    · rwa [Function.update_of_ne same] at member
  · intro d ack member
    simp only [ClientWorld.setRequest, ClientWorld.setSession] at member
    by_cases same : d = c
    · rw [same, Function.update_self] at member
      rw [same]
      exact shorter member
    · rwa [Function.update_of_ne same] at member
  · intro ack member
    rcases inside ack member with before | queued
    · exact Or.inl before
    · exact Or.inr ⟨c, queued⟩

theorem Tracked.step {world : ClientWorld Session Key} (tracked : Tracked world)
    (input : ClientInput Session Key) (unambiguous : Unambiguous world input) :
    Tracked (world.step input) := by
  cases input with
  | initializeSession c tag device =>
      simp only [ClientWorld.step]
      split
      · exact tracked
      · cases device with
        | none => exact tracked.reset c _ rfl rfl
        | some blockSize => exact tracked.reset c _ rfl rfl
  | finalizeSession c =>
      simp only [ClientWorld.step]
      split
      · exact tracked.reset c _ rfl rfl
      · exact tracked
  | allocateRequest c r kind start length id memory =>
      simp only [ClientWorld.step]
      split
      · rename_i allowed
        exact tracked.setRequest r _
          (allocateRequest_status _ _ kind start length id memory allowed.2)
      · exact tracked
  | enqueue c r =>
      simp only [ClientWorld.step]
      split
      · rename_i allowed
        obtain ⟨unused, alone⟩ := unambiguous allowed.1 allowed.2
        exact tracked.enqueue c r unused alone
      · exact tracked
  | updateRequest c r =>
      simp only [ClientWorld.step]
      split
      · exact tracked.updateRequest c r
      · exact tracked
  | release c r =>
      simp only [ClientWorld.step]
      split
      · exact tracked.setRequest r _ (by simp)
      · exact tracked
  | acknowledge c index success => exact tracked.acknowledge c index success

theorem Tracked.completesOwn {world : ClientWorld Session Key} (tracked : Tracked world)
    (input : ClientInput Session Key) : CompletesOwn world input := by
  cases input with
  | updateRequest c r =>
      intro pending changed
      simp only [ClientWorld.step] at changed ⊢
      split at changed
      · rename_i allowed
        simp only [if_pos allowed]
        obtain ⟨_, _, outcome⟩ :=
          updateFrom_held world.cache (world.sessions c).acked (world.requests r)
        have after : (world.updateRequest c r).requests r =
            (updateFrom world.cache (world.sessions c).acked (world.requests r)).2.2 := by
          simp [ClientWorld.updateRequest, ClientWorld.setRequest]
        rw [after] at changed ⊢
        rcases outcome with kept | ⟨ack, held, tag, completed⟩
        · rw [kept] at changed
          exact (changed pending).elim
        · obtain ⟨ticket, own, all⟩ := tracked.own r pending
          have outstanding : Outstanding world (world.requests r).packet.tag ack.ticket := by
            rcases held with cached | queued
            · exact .cached ack cached tag rfl
            · exact .acked c ack queued tag rfl
          have given : ∃ d, (d, ack) ∈ world.acknowledged := by
            rcases held with cached | queued
            · exact tracked.cached ack cached
            · exact ⟨c, tracked.acked c ack queued⟩
          obtain ⟨d, given⟩ := given
          refine ⟨ack, ?_, ?_, ?_⟩
          · rw [own, all ack.ticket outstanding]
          · rw [tracked.home (d, ack) given]
            exact given
          · rw [completed]
      · exact (changed pending).elim
  | _ => trivial

/-- If tags are unique among all that is outstanding, every request is completed by its own
acknowledgement. -/
theorem requests_complete_own (inputs : List (ClientInput Session Key))
    (unambiguous : EachStep ClientWorld.step Unambiguous ClientWorld.initial inputs) :
    EachStep ClientWorld.step CompletesOwn ClientWorld.initial inputs := by
  refine eachStep_of_invariant ClientWorld.step Tracked Unambiguous CompletesOwn
    (fun _ input tracked clear => tracked.step input clear)
    (fun _ input tracked _ => tracked.completesOwn input) ClientWorld.initial inputs ?_ unambiguous
  refine ⟨fun r pending => ?_, fun c ack member => ?_, fun ack member => ?_,
    fun c item member => ?_, fun entry member => ?_⟩
  · cases pending
  · cases member
  · simp [ClientWorld.initial] at member
  · cases member
  · cases member

/-! Three requests on two sessions under different identifiers. The acknowledgement of request 0 is
left in the cache by the update of request 1, and the update of request 2 passes it there. -/

def ownTags : List (ClientInput Bool (Fin 5)) :=
  [.initializeSession false 1 (some 512), .initializeSession true 2 (some 512),
    .allocateRequest false 0 .read 0 8 7 (some 0), .allocateRequest false 1 .read 8 8 8 (some 4096),
    .allocateRequest true 2 .read 0 8 9 (some 0), .enqueue false 0, .enqueue false 1,
    .enqueue true 2, .acknowledge false 0 true, .updateRequest false 1, .updateRequest true 2,
    .updateRequest false 0, .acknowledge true 0 false, .updateRequest true 2]

theorem own_tags_unambiguous :
    EachStep ClientWorld.step Unambiguous ClientWorld.initial ownTags := by
  refine ⟨trivial, trivial, trivial, trivial, trivial,
    fun _ _ => ⟨fun ticket => not_outstanding ticket ?_ ?_ ?_, ?_⟩,
    fun _ _ => ⟨fun ticket => not_outstanding ticket ?_ ?_ ?_, ?_⟩,
    fun _ _ => ⟨fun ticket => not_outstanding ticket ?_ ?_ ?_, ?_⟩,
    trivial, trivial, trivial, trivial, trivial, trivial, trivial⟩ <;> decide +kernel

theorem own_tags_complete :
    EachStep ClientWorld.step CompletesOwn ClientWorld.initial ownTags ∧
      ((run ClientWorld.step ClientWorld.initial ownTags).requests 0).status = .ok ∧
      ((run ClientWorld.step ClientWorld.initial ownTags).requests 1).status = .pending ∧
      ((run ClientWorld.step ClientWorld.initial ownTags).requests 2).status = .error :=
  ⟨requests_complete_own ownTags own_tags_unambiguous, by decide +kernel, by decide +kernel,
    by decide +kernel⟩

/-! Two sessions use the same identifier. Session `false` stores the acknowledgement of request 0 in
the cache while request 1 is updated, and the update of request 2 on session `true` takes it. -/

def sharedTag : List (ClientInput Bool Nat) :=
  [.initializeSession false 1 (some 512), .initializeSession true 2 (some 512),
    .allocateRequest false 0 .read 0 8 7 (some 0), .allocateRequest false 1 .read 8 8 8 (some 4096),
    .allocateRequest true 2 .read 0 8 7 (some 0), .enqueue false 0, .enqueue false 1,
    .enqueue true 2, .acknowledge false 0 true, .updateRequest false 1]

theorem shared_tag_completes_other :
    ((run ClientWorld.step ClientWorld.initial (sharedTag ++ [.updateRequest true 2])).requests
        2).status = .ok ∧
      ¬EachStep ClientWorld.step CompletesOwn ClientWorld.initial
        (sharedTag ++ [.updateRequest true 2]) := by
  refine ⟨by decide +kernel, fun each => ?_⟩
  have last : CompletesOwn (run ClientWorld.step ClientWorld.initial sharedTag)
      (.updateRequest true 2) := each.2.2.2.2.2.2.2.2.2.2.1
  have pending : ((run ClientWorld.step ClientWorld.initial sharedTag).requests 2).status =
      .pending := by decide +kernel
  have ended : (((run ClientWorld.step ClientWorld.initial sharedTag).step
      (.updateRequest true 2)).requests 2).status ≠ .pending := by decide +kernel
  have ticket : ((run ClientWorld.step ClientWorld.initial sharedTag).requests 2).ticket =
      some ⟨2, true⟩ := by decide +kernel
  have log : (run ClientWorld.step ClientWorld.initial sharedTag).acknowledged =
      [(false, ⟨7, true, ⟨0, false⟩⟩)] := by decide +kernel
  obtain ⟨ack, own, given, _⟩ := last pending ended
  rw [ticket, Option.some.injEq] at own
  rw [log, List.mem_singleton, Prod.mk.injEq, ← own] at given
  cases given.1

end Gneiss.Genode.Block
