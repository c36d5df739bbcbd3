import Gneiss.Component.Disconnect

/-!
Error events at the dispatchers of a component. `Gneiss.Main` keeps waiting on the epoll descriptor
that all sessions got with the capability of the component. `Dispatch_Error` removes the dispatcher
from the set, and `Dispatch_Event` cleans up behind a client that hung up. The log dispatcher also
closes the descriptor of the set.
-/

namespace Gneiss.Component

open Descriptors Runs

/-- An event at dispatcher `id`; `servers` are the sessions that `Dispatch` cleans up. -/
inductive ErrorEvent where
  | dispatchError (id : ServiceId) (fd : Int)
  | dispatchEvent (id : ServiceId) (fd : Int) (reply : Reply) (servers : List Nat)

namespace ErrorEvent

def fd : ErrorEvent → Int
  | .dispatchError _ fd => fd
  | .dispatchEvent _ fd _ _ => fd

end ErrorEvent

/-- `Dispatch` of the servers in the repository if there is no session to initialize. -/
def cleanups (id : ServiceId) (servers : List Nat) : List Operation :=
  servers.map fun server => .sessionCleanup id.kind id.number id.number server

def World.fail (world : World) : ErrorEvent → World
  | .dispatchError id fd => world.dispatchError id fd
  | .dispatchEvent id fd reply servers => world.dispatchEvent id fd reply (cleanups id servers)

/-- The epoll set is open, and all registrations are unchanged but those of `fds`. -/
structure Leaves (fds : List Int) (world after : World) : Prop where
  set : after.epollFd = world.epollFd
  exists_ : after.epollOpen = true
  opened : after.epollFd ∈ after.table.opened
  kept : ∀ entry : Int × Ref, entry.1 ∉ fds →
    (entry ∈ after.registrations ↔ entry ∈ world.registrations)

/-- The sessions of a component that share its epoll descriptor. -/
structure Shares (world : World) : Prop where
  exists_ : world.epollOpen = true
  epoll : valid world.epollFd = true
  opened : world.epollFd ∈ world.table.opened
  dispatchers : ∀ id, valid (world.dispatchers id).efd = true →
    (world.dispatchers id).efd = world.epollFd
  servers : ∀ id, (world.servers id).eventFd id.kind ≠ world.epollFd ∧
    (world.servers id).dataFd id.kind ≠ world.epollFd

def Tolerated (world : World) : ErrorEvent → Prop
  | .dispatchError id fd =>
      ¬ (id.kind = .log ∧ (world.dispatchers id).initialized = true ∧
        fd = (world.dispatchers id).dispatchFd ∧ valid fd = true)
  | .dispatchEvent .. => True

theorem tolerated_of_kind (world : World) (id : ServiceId) (fd : Int) (other : id.kind ≠ .log) :
    Tolerated world (.dispatchError id fd) :=
  fun fails => other fails.1

theorem Sound.shares {world : World} (sound : Sound world) : Shares world where
  exists_ := sound.exists_
  epoll := sound.epoll
  opened := sound.owned.opened .epoll sound.epoll
  dispatchers := sound.dispatcherEfd
  servers := fun id =>
    ⟨sound.ne_epoll (.event id) (by simp), sound.ne_epoll (.data id) (by simp)⟩

theorem Reachable.shares {world : World} (reachable : Reachable world)
    (exists_ : world.epollOpen = true) : Shares world := by
  rcases reachable_sound world reachable with sound | closed
  · exact sound.shares
  · rw [closed.1] at exists_
    cases exists_

namespace Leaves

variable {fds more : List Int} {world between after : World}

theorem refl (shares : Shares world) : Leaves fds world world :=
  ⟨rfl, shares.exists_, shares.opened, fun _ _ => Iff.rfl⟩

theorem trans (first : Leaves fds world between) (second : Leaves fds between after) :
    Leaves fds world after where
  set := second.set.trans first.set
  exists_ := second.exists_
  opened := second.opened
  kept := fun entry other => (second.kept entry other).trans (first.kept entry other)

theorem mono (leaves : Leaves fds world after) (wider : fds ⊆ more) : Leaves more world after :=
  { leaves with kept := fun entry other => leaves.kept entry fun failed => other (wider failed) }

end Leaves

variable {world : World}

/-- A step that sets no epoll descriptor and closes none. -/
theorem Shares.keeps {fds : List Int} {after : World} (shares : Shares world)
    (set : after.epollFd = world.epollFd) (exists_ : after.epollOpen = world.epollOpen)
    (opened : world.epollFd ∈ after.table.opened)
    (dispatchers : ∀ id, (after.dispatchers id).efd = (world.dispatchers id).efd)
    (servers : after.servers = world.servers)
    (kept : ∀ entry : Int × Ref, entry.1 ∉ fds →
      (entry ∈ after.registrations ↔ entry ∈ world.registrations)) :
    Shares after ∧ Leaves fds world after := by
  rw [← set] at opened
  refine ⟨⟨exists_.trans shares.exists_, ?_, opened, ?_, ?_⟩,
    ⟨set, exists_.trans shares.exists_, opened, kept⟩⟩
  · rw [set]
    exact shares.epoll
  · intro id
    rw [set, dispatchers id]
    exact shares.dispatchers id
  · rw [set, servers]
    exact shares.servers

theorem remove_kept (world : World) (efd fd : Int) :
    ∃ registrations, world.remove efd fd = { world with registrations } ∧
      ∀ entry : Int × Ref, entry.1 ≠ fd →
        (entry ∈ registrations ↔ entry ∈ world.registrations) := by
  unfold World.remove
  split
  · refine ⟨_, rfl, ?_⟩
    intro entry other
    simp [other]
  · exact ⟨world.registrations, rfl, fun _ _ => Iff.rfl⟩

/-! One session that is cleaned up. -/

theorem sessionCleanup_eq (shares : Shares world) (kind : ServiceKind)
    (dispatcher capability server : Nat) :
    world.sessionCleanup kind dispatcher capability server = world ∨
      ∃ registrations table session, world.sessionCleanup kind dispatcher capability server =
          { world with registrations, table }.setServer ⟨kind, server⟩ session ∧
        session.eventFd kind = -1 ∧ session.dataFd kind = -1 ∧ world.epollFd ∈ table.opened ∧
        valid (world.capability ⟨kind, capability⟩).cleanFd = true ∧
        ∀ entry : Int × Ref, entry.1 ≠ (world.capability ⟨kind, capability⟩).cleanFd →
          (entry ∈ registrations ↔ entry ∈ world.registrations) := by
  by_cases cleans : (kind = .log ∨
      valid (world.capability ⟨kind, capability⟩).cleanFd = true) ∧
        (world.capability ⟨kind, capability⟩).cleanFd =
          (world.servers ⟨kind, server⟩).eventFd kind ∧
        (world.servers ⟨kind, server⟩).initialized kind = true
  · right
    obtain ⟨event, data⟩ := shares.servers ⟨kind, server⟩
    obtain ⟨registrations, removed, kept⟩ := remove_kept world
      (world.dispatchers ⟨kind, dispatcher⟩).efd ((world.servers ⟨kind, server⟩).eventFd kind)
    have open_ := eventFd_valid cleans.2.2
    rw [← cleans.2.1] at kept open_
    simp only [World.sessionCleanup, if_pos cleans, removed]
    split
    · rw [Sound.close_both]
      case firstEnd => exact event
      case secondEnd => exact data
      refine ⟨registrations, _, _, rfl, rfl, rfl, ?_, open_, kept⟩
      rw [mem_close _ _ _ shares.epoll, mem_close _ _ _ shares.epoll]
      exact ⟨⟨shares.opened, event.symm⟩, data.symm⟩
    · rename_i channel
      have fd := eventFd_channel channel (world.servers ⟨kind, server⟩)
      rw [Sound.close_ne]
      case different => exact fd ▸ event
      refine ⟨registrations, _, _, rfl, eventFd_channel channel _, dataFd_channel channel _, ?_,
        open_, kept⟩
      rw [mem_close _ _ _ shares.epoll]
      exact ⟨shares.opened, (fd ▸ event).symm⟩
  · left
    simp only [World.sessionCleanup, if_neg cleans]

/-- A session is cleaned up only behind the descriptor that failed. -/
structure Cleans (id : ServiceId) (fd : Int) (world : World) : Prop extends Shares world where
  failed : valid (world.capability id).cleanFd = true → (world.capability id).cleanFd = fd

theorem Cleans.sessionCleanup {id : ServiceId} {fd : Int} (cleans : Cleans id fd world)
    (server : Nat) :
    Cleans id fd (world.sessionCleanup id.kind id.number id.number server) ∧
      Leaves [fd] world (world.sessionCleanup id.kind id.number id.number server) := by
  rcases sessionCleanup_eq cleans.toShares id.kind id.number id.number server with
    same | ⟨registrations, table, session, result, event, data, opened, open_, kept⟩
  · rw [same]
    exact ⟨cleans, .refl cleans.toShares⟩
  · rw [result]
    rw [cleans.failed open_] at kept
    have others : ∀ other : ServiceId,
        ((world.setServer ⟨id.kind, server⟩ session).servers other).eventFd other.kind ≠
            world.epollFd ∧
          ((world.setServer ⟨id.kind, server⟩ session).servers other).dataFd other.kind ≠
            world.epollFd := by
      intro other
      by_cases same : other = ⟨id.kind, server⟩
      · subst same
        have positive := (valid_iff world.epollFd).mp cleans.epoll
        simp only [World.setServer, Function.update_self, event, data]
        omega
      · simp only [World.setServer, Function.update_of_ne same]
        exact cleans.servers other
    exact ⟨⟨⟨cleans.exists_, cleans.epoll, opened, cleans.dispatchers, others⟩, cleans.failed⟩,
      ⟨rfl, cleans.exists_, opened, fun entry other => kept entry (by simpa using other)⟩⟩

theorem Cleans.cleanups {id : ServiceId} {fd : Int} (cleans : Cleans id fd world)
    (servers : List Nat) :
    Shares (run World.step world (cleanups id servers)) ∧
      Leaves [fd] world (run World.step world (cleanups id servers)) := by
  induction servers generalizing world with
  | nil => exact ⟨cleans.toShares, .refl cleans.toShares⟩
  | cons server rest ih =>
      obtain ⟨next, left⟩ := cleans.sessionCleanup server
      obtain ⟨shares, later⟩ := ih next
      exact ⟨shares, left.trans later⟩

/-! The two handlers. -/

theorem receiveRequest_leaves (shares : Shares world) (id : ServiceId) (fd : Int) (reply : Reply)
    (serves : Serves world id) :
    Shares (world.receiveRequest id reply) ∧
      Leaves [fd] world (world.receiveRequest id reply) := by
  have opened : world.epollFd ∈ (world.install id.kind.slots reply).1.table.opened :=
    (mem_receive _ _ _ shares.epoll).mpr (Or.inl shares.opened)
  have efd : ∀ other, ((world.setDispatcher id
      { world.dispatchers id with accepted := false }).dispatchers other).efd =
        (world.dispatchers other).efd := by
    intro other
    by_cases same : other = id
    · subst same
      simp only [World.setDispatcher, Function.update_self]
    · simp only [World.setDispatcher, Function.update_of_ne same]
  simp only [World.receiveRequest, serves.unguarded, Bool.false_eq_true, if_false]
  cases reply.message with
  | invalid => exact shares.keeps rfl rfl opened efd rfl fun _ _ => Iff.rfl
  | valid action kind name label => exact shares.keeps rfl rfl opened efd rfl fun _ _ => Iff.rfl

theorem reject_leaves (shares : Shares world) (id : ServiceId) (fd : Int)
    (name label : SessionLabel) :
    Shares (world.reject id name label) ∧ Leaves [fd] world (world.reject id name label) := by
  cases accepted : (world.dispatchers id).accepted with
  | true =>
      simp only [World.reject, accepted, if_true]
      exact ⟨shares, .refl shares⟩
  | false =>
      simp only [World.reject, accepted, Bool.false_eq_true, if_false]
      exact shares.keeps rfl rfl shares.opened (fun _ => rfl) rfl fun _ _ => Iff.rfl

theorem dispatchEvent_leaves (shares : Shares world) (id : ServiceId) (fd : Int) (reply : Reply)
    (servers : List Nat) :
    Shares (world.dispatchEvent id fd reply (cleanups id servers)) ∧
      Leaves [fd] world (world.dispatchEvent id fd reply (cleanups id servers)) := by
  by_cases serves : Serves world id
  · simp only [World.dispatchEvent, serves.unguarded, Bool.false_eq_true, if_false]
    by_cases request : fd = (world.dispatchers id).dispatchFd
    · obtain ⟨message, offered, stale⟩ := reply
      obtain ⟨received, before⟩ :=
        receiveRequest_leaves shares id fd ⟨message, offered, stale⟩ serves
      rw [if_pos request]
      cases message with
      | invalid => exact ⟨received, before⟩
      | valid action kind name label =>
          have negative := receiveRequest_cleanFd world id action kind name label offered stale
            serves
          have cleans : Cleans id fd
              (world.receiveRequest id ⟨.valid action kind name label, offered, stale⟩) :=
            ⟨received, by simp [negative]⟩
          obtain ⟨cleaned, cleaning⟩ := cleans.cleanups servers
          obtain ⟨rejected, last⟩ := reject_leaves cleaned id fd name label
          exact ⟨rejected, (before.trans cleaning).trans last⟩
    · rw [if_neg request]
      have received : world.receiveDisconnect id fd =
          world.setCapability id ⟨-1, -1, -1, fd, .empty, .empty⟩ false := by
        simp only [World.receiveDisconnect, serves.unguarded, Bool.false_eq_true, if_false]
      obtain ⟨shared, before⟩ : Shares (world.receiveDisconnect id fd) ∧
          Leaves [fd] world (world.receiveDisconnect id fd) := by
        rw [received]
        exact shares.keeps rfl rfl shares.opened (fun _ => rfl) rfl fun _ _ => Iff.rfl
      have cleans : Cleans id fd (world.receiveDisconnect id fd) :=
        ⟨shared, fun _ => by simp [received, World.setCapability]⟩
      obtain ⟨cleaned, cleaning⟩ := cleans.cleanups servers
      exact ⟨cleaned, before.trans cleaning⟩
  · have guard : ((world.dispatchers id).initialized = false ||
        valid (world.dispatchers id).dispatchFd = false) = true := by
      simp only [Serves, DispatcherSession.registered, not_and_or, Bool.not_eq_true] at serves
      simpa using serves
    simp only [World.dispatchEvent, guard, if_true]
    exact ⟨shares, .refl shares⟩

theorem dispatchError_leaves (shares : Shares world) (id : ServiceId) (fd : Int)
    (tolerated : Tolerated world (.dispatchError id fd)) :
    Shares (world.dispatchError id fd) ∧ Leaves [fd] world (world.dispatchError id fd) := by
  by_cases fails : (world.dispatchers id).initialized = true ∧
      fd = (world.dispatchers id).dispatchFd ∧ valid (world.dispatchers id).dispatchFd = true
  · obtain ⟨initialized, same, open_⟩ := fails
    have other : id.kind ≠ .log := fun log =>
      tolerated ⟨log, initialized, same, same ▸ open_⟩
    obtain ⟨registrations, removed, kept⟩ := remove_kept world (world.dispatchers id).efd
      (world.dispatchers id).dispatchFd
    have result : world.dispatchError id fd = { world with registrations } := by
      simp only [World.dispatchError, initialized, Bool.true_eq_false, if_false, same, open_,
        and_self, if_true, removed]
    rw [result]
    refine shares.keeps rfl rfl shares.opened (fun _ => rfl) rfl ?_
    intro entry outside
    exact kept entry (by simpa [same] using outside)
  · have result : world.dispatchError id fd = world := by
      simp only [World.dispatchError]
      split
      · rfl
      · rename_i initialized
        exact if_neg fun both => fails ⟨by simpa using initialized, both⟩
    rw [result]
    exact ⟨shares, .refl shares⟩

theorem dispatchError_ends (shares : Shares world) (id : ServiceId) (fd : Int)
    (fails : ¬ Tolerated world (.dispatchError id fd)) :
    (world.dispatchError id fd).epollOpen = false := by
  simp only [Tolerated, not_not] at fails
  obtain ⟨log, initialized, same, open_⟩ := fails
  obtain ⟨registrations, removed, _⟩ := remove_kept world (world.dispatchers id).efd
    (world.dispatchers id).dispatchFd
  have set : (world.dispatchers id).efd = world.epollFd := by
    apply shares.dispatchers
    simp only [DispatcherSession.initialized, Bool.and_eq_true] at initialized
    exact initialized.1.2
  rw [same] at open_
  simp only [World.dispatchError, initialized, Bool.true_eq_false, if_false, same, open_,
    and_self, if_true, removed, log]
  simp [World.close, World.setDispatcher, set, shares.exists_]

/-! Runs of error events. -/

theorem fail_leaves (shares : Shares world) (event : ErrorEvent)
    (tolerated : Tolerated world event) :
    Shares (world.fail event) ∧ Leaves [event.fd] world (world.fail event) := by
  cases event with
  | dispatchError id fd => exact dispatchError_leaves shares id fd tolerated
  | dispatchEvent id fd reply servers => exact dispatchEvent_leaves shares id fd reply servers

theorem fail_tolerated (shares : Shares world) (event : ErrorEvent)
    (exists_ : (world.fail event).epollOpen = true) : Tolerated world event := by
  cases event with
  | dispatchError id fd =>
      by_contra fails
      have ends : (world.fail (.dispatchError id fd)).epollOpen = false :=
        dispatchError_ends shares id fd fails
      rw [ends] at exists_
      cases exists_
  | dispatchEvent id fd reply servers => trivial

theorem errors_leave (events : List ErrorEvent) (shares : Shares world)
    (tolerated : EachStep World.fail Tolerated world events) :
    Leaves (events.map ErrorEvent.fd) world (run World.fail world events) := by
  induction events generalizing world with
  | nil => exact .refl shares
  | cons event rest ih =>
      obtain ⟨next, left⟩ := fail_leaves shares event tolerated.1
      have later := ih next tolerated.2
      exact (left.mono (by simp)).trans (later.mono (by simp))

/-- The epoll set of a component survives error events, and keeps the registrations of all other
descriptors, as long as no log dispatcher fails. -/
theorem errors_leave_iff (world : World) (events : List ErrorEvent) (shares : Shares world) :
    (∀ past future, events = past ++ future →
      Leaves (past.map ErrorEvent.fd) world (run World.fail world past)) ↔
      EachStep World.fail Tolerated world events := by
  constructor
  · intro leaves
    have exists_ : ∀ past future, events = past ++ future →
        (run World.fail world past).epollOpen = true := fun past future split =>
      (leaves past future split).exists_
    clear leaves
    -- Only that the set stays open is carried on: it names every step that is not tolerated.
    induction events generalizing world with
    | nil => trivial
    | cons event rest ih =>
        have tolerated := fail_tolerated shares event (exists_ [event] rest rfl)
        refine ⟨tolerated, ih (world.fail event) (fail_leaves shares event tolerated).1 ?_⟩
        intro past future split
        exact exists_ (event :: past) future (by rw [split, List.cons_append])
  · intro tolerated past future split
    subst split
    exact errors_leave past shares (eachStep_left World.fail Tolerated world past future tolerated)

def memoryFailures : List ErrorEvent := [
  .dispatchEvent ⟨.memory, 0⟩ 8 ⟨.invalid, [], unused⟩ [0],
  .dispatchError ⟨.memory, 0⟩ 6]

theorem memory_failures_left :
    Leaves [8] sampleServer (run World.fail sampleServer (memoryFailures.take 1)) ∧
      Leaves [8, 6] sampleServer (run World.fail sampleServer memoryFailures) := by
  have leaves := (errors_leave_iff sampleServer memoryFailures
    (sampleServer_reachable.shares (by decide +kernel))).mpr
    ⟨trivial, tolerated_of_kind _ _ _ (by decide), trivial⟩
  exact ⟨leaves (memoryFailures.take 1) (memoryFailures.drop 1) rfl, leaves memoryFailures [] rfl⟩

/-- The broker of a log server hangs up, and the component loses the session of its client. -/
theorem log_failure_ends :
    let after := run World.fail logServer [.dispatchError ⟨.log, 0⟩ 6]
    logServer.registrations = [(8, .server ⟨.log, 0⟩), (6, .dispatcher ⟨.log, 0⟩)] ∧
      after.registrations = [] ∧ after.epollOpen = false ∧ 3 ∉ after.table.opened ∧
      ¬ Leaves [6] logServer after := by
  intro after
  have ended : after.epollOpen = false := by decide +kernel
  refine ⟨by decide +kernel, by decide +kernel, ended, by decide +kernel, ?_⟩
  intro leaves
  rw [leaves.exists_] at ended
  cases ended

end Gneiss.Component
