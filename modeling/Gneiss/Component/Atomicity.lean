import Gneiss.Component.Registrations
import Gneiss.Component.Clients

/-!
When `Initialize` of a client is atomic. The five procedures differ in what they prepare and in what
they do with the descriptor they get; the reply of the broker is handled by all of them alike.
-/

namespace Gneiss.Component

open Descriptors

/-! What `Initialize` promises: it succeeds and owns what it records, or it leaves no trace. -/

def recorded (kind : SessionKind) (session : ClientRecord) : List Int :=
  match kind with
  | .memory => [session.fd, session.sigfd]
  | _ => [session.fd]

structure Owns (before after : Process) (kind : SessionKind) (session : ClientRecord) : Prop where
  opened : ∀ fd, fd ∈ after.table.opened ↔ fd ∈ before.table.opened ∨ fd ∈ recorded kind session
  new : ∀ fd ∈ recorded kind session, fd ∉ before.table.opened
  mapped : ∀ address, address ∈ after.mappings ↔
    address ∈ before.mappings ∨ session.map = some address
  newMap : ∀ address, session.map = some address → address ∉ before.mappings

structure Untouched (before after : Process) (session session' : ClientRecord) : Prop where
  session : session' = session
  opened : ∀ fd, fd ∈ after.table.opened ↔ fd ∈ before.table.opened
  mapped : ∀ address, address ∈ after.mappings ↔ address ∈ before.mappings

def Atomic (kind : SessionKind) (process : Process) (session : ClientRecord) (label : Text)
    (result : Option (Process × ClientRecord)) : Prop :=
  ∃ after session', result = some (after, session') ∧
    (session'.initialized kind = true ∧ Owns process after kind session' ∨
      Untouched process after session session') ∧
    (255 < label.length → Untouched process after session session')

def Incoming.isOf (generated : GeneratedPacket) (reply : Incoming 1) (kind : KindType) : Bool :=
  match reply.message generated with
  | .invalid => false
  | .valid _ other _ _ => decide (other = kind)

/-- The reply brings no descriptor, or exactly one in a valid message of the kind. -/
def CleanReply (generated : GeneratedPacket) (kind : KindType) (reply : Incoming 1) : Prop :=
  reply.arrived = [] ∨ reply.arrived.length = 1 ∧ reply.isOf generated kind = true

/-- `Initialize` gets as far as to ask the broker. -/
def Requests (kind : SessionKind) (label : Text) {process : Process} (answers : Answers process) :
    Prop :=
  label.length ≤ 255 ∧
    match kind with
    | .message bufferSize => bufferSize = 128 * 8
    | .memory => answers.memfd.isSome = true ∧ answers.map.isSome = true
    | _ => True

theorem Untouched.refl (process : Process) (session : ClientRecord) :
    Untouched process process session session :=
  ⟨rfl, fun _ => Iff.rfl, fun _ => Iff.rfl⟩

theorem not_atomic_of_leak {kind : SessionKind} {process after : Process}
    {session session' : ClientRecord} {label : Text} {result : Option (Process × ClientRecord)}
    (returned : result = some (after, session')) {leaked : Int}
    (open_ : leaked ∈ after.table.opened) (new : leaked ∉ process.table.opened)
    (loose : leaked ∉ recorded kind session') : ¬Atomic kind process session label result := by
  rintro ⟨after', session'', returned', outcome, _⟩
  rw [returned, Option.some.injEq, Prod.mk.injEq] at returned'
  obtain ⟨rfl, rfl⟩ := returned'
  rcases outcome with ⟨_, owns⟩ | untouched
  · rcases (owns.opened leaked).mp open_ with before | own
    · exact new before
    · exact loose own
  · exact new ((untouched.opened leaked).mp open_)

/-! The reply. The control buffer of a receive call for one descriptor has room for two. -/

theorem Incoming.arrived_cases (reply : Incoming 1) :
    reply.arrived = [] ∧ reply.fds.headD (-1) = -1 ∨
      reply.arrived = [reply.numberOf 0] ∧ reply.fds.headD (-1) = reply.numberOf 0 ∨
      reply.arrived = [reply.numberOf 0, reply.numberOf 1] ∧
        reply.fds.headD (-1) = reply.numberOf 0 := by
  cases sent : reply.datagram with
  | none => exact Or.inl (by simp [arrived, fds, sent])
  | some datagram =>
      have words : Syscall.controlWords 1 = 2 := rfl
      simp only [arrived, fds, sent, Syscall.arrived_eq, words]
      rcases Nat.eq_zero_or_pos reply.attached.length with nothing | some_
      · have empty := List.length_eq_zero_iff.mp nothing
        rw [empty, Syscall.readMessage_nothing]
        exact Or.inl ⟨rfl, rfl⟩
      · have first := Syscall.readMessage_slot 1 reply.attached reply.numberOf reply.words 0
          (by omega) some_
        rw [if_pos some_] at first
        have head : (Syscall.readMessage 1 (Syscall.recvmsg 1 (Syscall.writeMessage reply.attached)
            reply.numberOf reply.words)).headD (-1) = reply.numberOf 0 := by
          rw [List.headD_eq_head?_getD, List.head?_eq_getElem?, first, Option.getD_some]
        rcases (by omega : min reply.attached.length 2 = 1 ∨ min reply.attached.length 2 = 2) with
          one | two
        · rw [one]
          exact Or.inr (Or.inl ⟨rfl, head⟩)
        · rw [two]
          exact Or.inr (Or.inr ⟨rfl, head⟩)

theorem Process.mem_install (process : Process) (fds : List Int) (fd : Int) :
    fd ∈ (process.install fds).table.opened ↔ fd ∈ fds ∨ fd ∈ process.table.opened :=
  mem_insertAll process.table fds fd

theorem Process.mem_close (process : Process) (fd other : Int) (open_ : valid fd = true) :
    other ∈ (process.close fd).table.opened ↔ other ∈ process.table.opened ∧ other ≠ fd := by
  have positive := nonneg_of_valid open_
  simp [Process.close, Table.close, positive]

theorem Process.mem_install_close (process : Process) (fd other : Int) (open_ : valid fd = true)
    (new : fd ∉ process.table.opened) :
    other ∈ ((process.install [fd]).close fd).table.opened ↔ other ∈ process.table.opened := by
  rw [Process.mem_close _ _ _ open_, Process.mem_install, List.mem_singleton]
  constructor
  · rintro ⟨same | before, different⟩
    · exact (different same).elim
    · exact before
  · intro before
    refine ⟨Or.inr before, ?_⟩
    rintro rfl
    exact new before

theorem requestDescriptor_eq (generated : GeneratedPacket) (process : Process) (kind : KindType)
    (label : Text) (short : label.length ≤ 255) (reply : Incoming 1) :
    requestDescriptor generated process kind label reply =
      some (process.install reply.arrived,
        if reply.isOf generated kind = true then reply.fds.headD (-1) else -1) := by
  have admitted : ¬255 < label.length := by omega
  cases message : reply.message generated with
  | invalid => simp [requestDescriptor, admitted, Incoming.isOf, message]
  | valid action other name label => simp [requestDescriptor, admitted, Incoming.isOf, message]

/-- A request that is sent brings nothing, or the descriptor it returns, or it leaves a descriptor
behind that nobody knows. -/
theorem requestDescriptor_spec (generated : GeneratedPacket) (process : Process) (kind : KindType)
    (label : Text) (short : label.length ≤ 255) (reply : Incoming 1)
    (distinct : Function.Injective reply.numberOf) :
    ∃ granted, requestDescriptor generated process kind label reply =
        some (process.install reply.arrived, granted) ∧
      (reply.arrived = [] ∧ granted = -1 ∨
        reply.arrived = [granted] ∧ valid granted = true ∧ granted = reply.numberOf 0 ∧
          reply.isOf generated kind = true ∨
        ¬CleanReply generated kind reply ∧
          ∃ index, reply.numberOf index ∈ reply.arrived ∧ reply.numberOf index ≠ granted) := by
  have different : reply.numberOf 1 ≠ reply.numberOf 0 := by
    intro same
    cases distinct same
  have positive : ∀ index, reply.numberOf index ≠ -1 := fun index =>
    ne_of_valid (reply.numbered index)
  refine ⟨_, requestDescriptor_eq generated process kind label short reply, ?_⟩
  rcases reply.arrived_cases with ⟨nothing, head⟩ | ⟨one, head⟩ | ⟨two, head⟩
  · rw [head, ite_self]
    exact Or.inl ⟨nothing, rfl⟩
  · rw [head]
    by_cases same : reply.isOf generated kind = true
    · rw [if_pos same]
      exact Or.inr (Or.inl ⟨one, reply.numbered 0, rfl, same⟩)
    · rw [if_neg same]
      refine Or.inr (Or.inr ⟨?_, 0, by simp [one], positive 0⟩)
      rintro (nothing | ⟨_, also⟩)
      · rw [one] at nothing
        cases nothing
      · exact same also
  · refine Or.inr (Or.inr ⟨?_, 1, by simp [two], ?_⟩)
    · rintro (nothing | ⟨single, _⟩)
      · rw [two] at nothing
        cases nothing
      · rw [two] at single
        cases single
    · rw [head]
      split
      · exact different
      · exact positive 1

/-! Sessions that are not initialized. Whatever was done with a session before, it is then as if it
had just been declared, up to its label and its epoll descriptor. -/

structure Idle (session : ClientRecord) : Prop where
  fd : session.fd = -1
  sigfd : session.sigfd = -1
  map : session.map = none
  index : session.index = none
  eCap : session.eCap = .invalid

theorem Idle.uninitialized {session : ClientRecord} (idle : Idle session) (kind : SessionKind) :
    session.initialized kind = false := by
  cases kind <;> simp [ClientRecord.initialized, idle.fd]

/-! Each procedure prepares the request, asks for a descriptor, and finishes with the one it gets.
What it owes to the reply is the same for all. -/

def Settles (kind : SessionKind) (process : Process) (session : ClientRecord)
    (result : Process × ClientRecord) : Prop :=
  result.2.initialized kind = true ∧ Owns process result.1 kind result.2 ∨
    Untouched process result.1 session result.2

/-- `finish` closes at most the descriptor it gets and those in `own`, and records no other. -/
def Confined (kind : SessionKind) (own : List Int)
    (finish : Process → Int → Process × ClientRecord) : Prop :=
  ∀ process granted leaked, leaked ∈ process.table.opened → valid leaked = true →
    leaked ≠ granted → leaked ∉ own →
    leaked ∈ (finish process granted).1.table.opened ∧
      leaked ∉ recorded kind (finish process granted).2

theorem atomic_iff_clean (generated : GeneratedPacket) (kind : SessionKind)
    (process prepared : Process) (session : ClientRecord) (label : Text)
    (short : label.length ≤ 255) (answers : Answers process) (own : List Int)
    (finish : Process → Int → Process × ClientRecord)
    (prepares : ∀ fd, fd ∈ prepared.table.opened ↔ fd ∈ own ∨ fd ∈ process.table.opened)
    (apart : ∀ index, answers.reply.numberOf index ∉ own)
    (nothing : Settles kind process session (finish prepared (-1)))
    (one : ∀ fd, valid fd = true → fd ∉ prepared.table.opened →
      Settles kind process session (finish (prepared.install [fd]) fd))
    (confined : Confined kind own finish) :
    Atomic kind process session label
        ((requestDescriptor generated prepared kind.protocol label answers.reply).map
          fun (process, fd) => finish process fd) ↔
      CleanReply generated kind.protocol answers.reply := by
  obtain ⟨granted, asked, outcome⟩ := requestDescriptor_spec generated prepared kind.protocol label
    short answers.reply answers.distinct
  have fresh : ∀ index, answers.reply.numberOf index ∉ prepared.table.opened := by
    intro index
    rw [prepares, not_or]
    exact ⟨apart index, answers.fresh index⟩
  have settled : ∀ result, Settles kind process session result →
      Atomic kind process session label (some result) := by
    intro result settles
    exact ⟨result.1, result.2, rfl, settles, by omega⟩
  rw [asked, Option.map_some]
  rcases outcome with ⟨empty, rfl⟩ | ⟨single, open_, own_, isOf⟩ | ⟨dirty, other, came, loose⟩
  · refine iff_of_true (settled _ ?_) (Or.inl empty)
    rw [empty]
    exact nothing
  · refine iff_of_true (settled _ ?_) (Or.inr ⟨by rw [single]; rfl, isOf⟩)
    rw [single]
    exact one granted open_ (by rw [own_]; exact fresh 0)
  · refine iff_of_false ?_ dirty
    obtain ⟨still, unrecorded⟩ := confined (prepared.install answers.reply.arrived) granted
      (answers.reply.numberOf other) ((prepared.mem_install _ _).mpr (Or.inl came))
      (answers.reply.numbered other) loose (apart other)
    exact not_atomic_of_leak rfl still (answers.fresh other) unrecorded

theorem atomic_of_refused (kind : SessionKind) (process : Process) (session : ClientRecord)
    (label : Text) : Atomic kind process session label (some (process, session)) :=
  ⟨process, session, rfl, Or.inr (.refl _ _), fun _ => .refl _ _⟩

section

variable {process : Process} {session : ClientRecord} (idle : Idle session)

include idle

theorem concludeLog_settles (label : Text) (fd : Int) (open_ : valid fd = true)
    (new : fd ∉ process.table.opened) :
    Settles .log process session (concludeLog session label (process.install [fd]) fd) := by
  have positive := nonneg_of_valid open_
  simp only [concludeLog, if_neg positive]
  refine Or.inl ⟨by simp [ClientRecord.initialized, open_], ?_, ?_, ?_, ?_⟩
  · intro other
    rw [Process.mem_install, or_comm]
    simp [recorded]
  · simpa [recorded] using new
  · simp [Process.install, idle.map]
  · simp [idle.map]

theorem concludeLog_confined (label : Text) : Confined .log [] (concludeLog session label) := by
  intro process granted leaked member open_ other _
  have different := ne_of_valid open_
  simp only [concludeLog]
  split
  · exact ⟨member, by simp [recorded, idle.fd, different]⟩
  · exact ⟨member, by simp [recorded, other]⟩

theorem concludeWatched_settles (kind : SessionKind) (cap : Capability) (index : Nat)
    (id : ClientId) (label : Text) (added : Bool)
    (watched : kind = .message (128 * 8) ∨ kind = .timer) (fd : Int) (open_ : valid fd = true)
    (new : fd ∉ process.table.opened) :
    Settles kind process session
      (concludeWatched session cap index id label added (process.install [fd]) fd) := by
  have running : ¬valid fd = false := by simp [open_]
  cases added with
  | false =>
      simp only [concludeWatched, if_neg running, if_true]
      refine Or.inr ⟨by rw [← idle.eCap], ?_, fun _ => Iff.rfl⟩
      intro other
      exact process.mem_install_close fd other open_ new
  | true =>
      simp only [concludeWatched, if_neg running, Bool.true_eq_false, if_false]
      refine Or.inl ⟨?_, ?_, ?_, ?_, ?_⟩
      · rcases watched with rfl | rfl
        · simp [ClientRecord.initialized, open_, cap.efdValid, EventCap.valid, clientCap,
            EventCap.create]
        · simp [ClientRecord.initialized, open_, cap.efdValid, EventCap.valid, clientCap,
            EventCap.create]
      · intro other
        rw [watch_opened, Process.mem_install, or_comm]
        rcases watched with rfl | rfl <;> simp [recorded]
      · rcases watched with rfl | rfl <;> simpa [recorded] using new
      · simp [Process.install, idle.map]
      · simp [idle.map]

theorem concludeWatched_confined (kind : SessionKind) (cap : Capability) (index : Nat)
    (id : ClientId) (label : Text) (added : Bool)
    (watched : kind = .message (128 * 8) ∨ kind = .timer) :
    Confined kind [] (concludeWatched session cap index id label added) := by
  intro process granted leaked member open_ other _
  have different := ne_of_valid open_
  have single : ∀ session, recorded kind session = [session.fd] := by
    intro session
    rcases watched with rfl | rfl <;> rfl
  simp only [concludeWatched, single]
  split
  · exact ⟨member, by simp [idle.fd, different]⟩
  · rename_i running
    have granted_ : valid granted = true := by simpa using running
    split
    · exact ⟨(process.mem_close _ _ granted_).mpr ⟨member, other⟩, by simp [idle.fd, different]⟩
    · exact ⟨by rw [watch_opened]; exact member, by simp [other]⟩

theorem concludeRom_settles (index : Nat) (label : Text) (map : Option Nat)
    (newMap : ∀ address ∈ map, address ∉ process.mappings) (fd : Int) (open_ : valid fd = true)
    (new : fd ∉ process.table.opened) :
    Settles .rom process session
      (concludeRom session index label map (process.install [fd]) fd) := by
  have running : ¬valid fd = false := by simp [open_]
  cases map with
  | none =>
      simp only [concludeRom, if_neg running, if_true]
      refine Or.inr ⟨by rw [← idle.fd, ← idle.map], ?_, fun _ => Iff.rfl⟩
      intro other
      exact process.mem_install_close fd other open_ new
  | some address =>
      simp only [concludeRom, if_neg running, reduceCtorEq, if_false]
      refine Or.inl ⟨by simp [ClientRecord.initialized, open_], ?_, ?_, ?_, ?_⟩
      · intro other
        rw [Process.mmap, Process.mem_install, or_comm]
        simp [recorded]
      · simpa [recorded] using new
      · intro other
        simp [Process.mmap, Process.install, or_comm, eq_comm]
      · intro other same
        exact newMap other same

theorem concludeRom_confined (index : Nat) (label : Text) (map : Option Nat) :
    Confined .rom [] (concludeRom session index label map) := by
  intro process granted leaked member open_ other _
  have different := ne_of_valid open_
  simp only [concludeRom]
  split
  · exact ⟨member, by simp [recorded, idle.fd, different]⟩
  · rename_i running
    have granted_ : valid granted = true := by simpa using running
    split
    · refine ⟨(Process.mem_close _ _ _ granted_).mpr ⟨member, other⟩, ?_⟩
      simp [recorded, different]
    · exact ⟨member, by simp [recorded, other]⟩

theorem concludeMemory_settles (index address : Nat) (memfd : Int) (memfdValid : valid memfd = true)
    (memfdNew : memfd ∉ process.table.opened) (newMap : address ∉ process.mappings) :
    let asking : ClientRecord := { session with fd := memfd, map := some address }
    let prepared := (process.install [memfd]).mmap (some address)
    Settles .memory process session (concludeMemory asking index prepared (-1)) ∧
      ∀ fd, valid fd = true → fd ∉ prepared.table.opened →
        Settles .memory process session
          (concludeMemory asking index (prepared.install [fd]) fd) := by
  intro asking prepared
  constructor
  · have negative : (-1 : Int) < 0 := by decide
    simp only [concludeMemory, if_pos negative]
    refine Or.inr ⟨?_, ?_, ?_⟩
    · simp only [asking]
      rw [← idle.fd, ← idle.map]
    · intro other
      exact process.mem_install_close memfd other memfdValid memfdNew
    · intro other
      simp only [Process.close, Process.munmap, prepared, asking, Process.mmap, Process.install,
        List.mem_filter, Option.toList_some, List.cons_append, List.nil_append, List.mem_cons]
      constructor
      · rintro ⟨same | before, different⟩
        · subst same
          simp at different
        · exact before
      · intro before
        refine ⟨Or.inr before, ?_⟩
        simp only [decide_eq_true_eq, ne_eq, Option.some.injEq]
        rintro rfl
        exact newMap before
  · intro fd open_ new
    have positive := nonneg_of_valid open_
    simp only [concludeMemory, if_neg positive]
    refine Or.inl ⟨by simp [ClientRecord.initialized, asking, memfdValid], ?_, ?_, ?_, ?_⟩
    · intro other
      simp only [prepared, recorded, asking]
      rw [Process.mem_install, Process.mmap, Process.mem_install]
      simp only [List.mem_cons, List.not_mem_nil, or_false]
      tauto
    · intro other member
      simp only [recorded, asking, List.mem_cons, List.not_mem_nil, or_false] at member
      rcases member with rfl | rfl
      · exact memfdNew
      · intro before
        apply new
        simp only [prepared, Process.mmap]
        rw [Process.mem_install]
        exact Or.inr before
    · intro other
      simp [Process.install, prepared, asking, Process.mmap, or_comm, eq_comm]
    · intro other same
      simp only [asking, Option.some.injEq] at same
      rw [← same]
      exact newMap

theorem concludeMemory_confined (index : Nat) (memfd : Int) (memfdValid : valid memfd = true)
    (map : Option Nat) :
    Confined .memory [memfd]
      (concludeMemory { session with fd := memfd, map := map } index) := by
  intro process granted leaked member open_ other apart
  rw [List.mem_singleton] at apart
  have different := ne_of_valid open_
  simp only [concludeMemory]
  split
  · refine ⟨(Process.mem_close _ _ _ memfdValid).mpr ⟨member, apart⟩, ?_⟩
    simp [recorded, idle.sigfd, different]
  · exact ⟨member, by simp [recorded, other, apart]⟩

end

/-! The five procedures on an idle session and a label that fits. -/

section

variable (generated : GeneratedPacket) (process : Process) {session : ClientRecord}
  (idle : Idle session) (cap : Capability) {label : Text} (short : label.length ≤ 255)
  (index : Nat) (answers : Answers process)

include idle short

theorem initializeMessage_iff (number : Nat) :
    Atomic (.message (128 * 8)) process session label
        (initializeMessage generated process session cap label index answers (128 * 8) number) ↔
      CleanReply generated .message answers.reply := by
  have goes : ¬(session.initialized (.message (128 * 8)) = true ∨ 255 < label.length ∨
      128 * 8 ≠ 128 * 8) := by
    simp [idle.uninitialized, short]
  rw [initializeMessage, if_neg goes]
  exact atomic_iff_clean generated (.message (128 * 8)) process process session label short answers
    [] _ (by simp) (by simp) (Or.inr (.refl _ _))
    (concludeWatched_settles idle _ cap index _ label answers.added (Or.inl rfl))
    (concludeWatched_confined idle _ cap index _ label answers.added (Or.inl rfl))

theorem initializeTimer_iff (number : Nat) :
    Atomic .timer process session label
        (initializeTimer generated process session cap label index answers number) ↔
      CleanReply generated .timer answers.reply := by
  have goes : ¬session.initialized .timer = true := by simp [idle.uninitialized]
  rw [initializeTimer, if_neg goes]
  exact atomic_iff_clean generated .timer process process session label short answers
    [] _ (by simp) (by simp) (Or.inr (.refl _ _))
    (concludeWatched_settles idle _ cap index _ session.label answers.added (Or.inr rfl))
    (concludeWatched_confined idle _ cap index _ session.label answers.added (Or.inr rfl))

theorem initializeLog_iff :
    Atomic .log process session label (initializeLog generated process session label answers) ↔
      CleanReply generated .log answers.reply := by
  have goes : ¬(session.initialized .log = true ∨ 255 < label.length) := by
    simp [idle.uninitialized, short]
  rw [initializeLog, if_neg goes]
  exact atomic_iff_clean generated .log process process session label short answers [] _ (by simp)
    (by simp) (Or.inr (.refl _ _)) (concludeLog_settles idle label)
    (concludeLog_confined idle label)

theorem initializeRom_iff :
    Atomic .rom process session label
        (initializeRom generated process session label index answers) ↔
      CleanReply generated .rom answers.reply := by
  have goes : ¬(session.initialized .rom = true ∨ 255 < label.length) := by
    simp [idle.uninitialized, short]
  rw [initializeRom, if_neg goes]
  exact atomic_iff_clean generated .rom process process session label short answers [] _ (by simp)
    (by simp) (Or.inr (.refl _ _))
    (concludeRom_settles idle index label answers.map answers.mapFresh)
    (concludeRom_confined idle index label answers.map)

theorem initializeMemory_iff :
    Atomic .memory process session label
        (initializeMemory generated process session label index answers) ↔
      (answers.memfd.isSome = true ∧ answers.map.isSome = true →
        CleanReply generated .memory answers.reply) := by
  have goes : ¬(session.initialized .memory = true ∨ 255 < label.length) := by
    simp [idle.uninitialized, short]
  simp only [initializeMemory, if_neg goes]
  cases created : answers.memfd with
  | none =>
      simp only [Table.allocate, not_valid_negative, if_true, Option.isSome_none,
        Bool.false_eq_true, false_and, false_implies, iff_true]
      refine ⟨process, session, ?_, Or.inr (.refl _ _), fun _ => .refl _ _⟩
      rw [← idle.fd]
  | some memfd =>
      obtain ⟨memfdValid, memfdNew, apart⟩ := answers.memfdFresh memfd created
      have fresh : process.table.fresh memfd = true :=
        (fresh_iff _ _).mpr ⟨memfdValid, memfdNew⟩
      have usable : ¬valid memfd = false := by simp [memfdValid]
      simp only [Table.allocate, if_pos fresh, if_neg usable, Option.isSome_some, true_and]
      cases mapped : answers.map with
      | none =>
          simp only [if_true, Option.isSome_none, Bool.false_eq_true, false_implies, iff_true]
          have gone : Untouched process
              (((process.install [memfd]).mmap none).close memfd) session session :=
            ⟨rfl, fun other => process.mem_install_close memfd other memfdValid memfdNew,
              fun _ => Iff.rfl⟩
          refine ⟨_, session, ?_, Or.inr gone, fun _ => gone⟩
          rw [← idle.fd, ← idle.map]
          rfl
      | some address =>
          obtain ⟨nothing, one⟩ := concludeMemory_settles idle index address memfd memfdValid
            memfdNew (answers.mapFresh address mapped)
          simp only [reduceCtorEq, if_false, Option.isSome_some, forall_const]
          refine atomic_iff_clean generated .memory process _ session label short answers [memfd] _
            ?_ (by simpa using apart) nothing one
            (concludeMemory_confined idle index memfd memfdValid (some address))
          intro fd
          exact process.mem_install [memfd] fd

end

theorem initializeSession_idle_iff (generated : GeneratedPacket) (process : Process)
    (session : ClientRecord) (idle : Idle session) (cap : Capability) (label : Text) (index : Nat)
    (answers : Answers process) (kind : SessionKind) (number : Nat) :
    Atomic kind process session label
        (initializeSession generated process session cap label index answers kind number) ↔
      (kind = .timer → label.length ≤ 255) ∧
        (Requests kind label answers → CleanReply generated kind.protocol answers.reply) := by
  by_cases short : label.length ≤ 255
  · simp only [short, implies_true, true_and]
    cases kind with
    | message bufferSize =>
        by_cases sized : bufferSize = 128 * 8
        · subst sized
          refine (initializeMessage_iff generated process idle cap short index answers number).trans
            ?_
          exact ⟨fun clean _ => clean, fun clean => clean ⟨short, rfl⟩⟩
        · have refused : initializeSession generated process session cap label index answers
              (.message bufferSize) number = some (process, session) := by
            simp [initializeSession, initializeMessage, sized]
          rw [refused]
          exact iff_of_true (atomic_of_refused _ _ _ _) fun requests => (sized requests.2).elim
    | log =>
        refine (initializeLog_iff generated process idle short answers).trans ?_
        exact ⟨fun clean _ => clean, fun clean => clean ⟨short, trivial⟩⟩
    | memory =>
        refine (initializeMemory_iff generated process idle short index answers).trans ?_
        exact ⟨fun clean requests => clean requests.2, fun clean made => clean ⟨short, made⟩⟩
    | rom =>
        refine (initializeRom_iff generated process idle short index answers).trans ?_
        exact ⟨fun clean _ => clean, fun clean => clean ⟨short, trivial⟩⟩
    | timer =>
        refine (initializeTimer_iff generated process idle cap short index answers number).trans ?_
        exact ⟨fun clean _ => clean, fun clean => clean ⟨short, trivial⟩⟩
  · have long : 255 < label.length := by omega
    have silent : ¬Requests kind label answers := fun requests => short requests.1
    by_cases timer : kind = .timer
    · subst timer
      have failed : initializeSession generated process session cap label index answers .timer
          number = none := by
        simp [initializeSession, initializeTimer, idle.uninitialized, requestDescriptor, long]
      rw [failed]
      refine iff_of_false ?_ fun holds => short (holds.1 rfl)
      rintro ⟨after, session', returned, _⟩
      cases returned
    · have refused : initializeSession generated process session cap label index answers kind
          number = some (process, session) := by
        cases kind <;> simp_all [initializeSession, initializeMessage, initializeLog,
          initializeMemory, initializeRom]
      rw [refused]
      refine iff_of_true (atomic_of_refused _ _ _ _) ⟨fun same => (timer same).elim, ?_⟩
      exact fun requests => (silent requests).elim

/-! Every session a program can have is idle, or initialized and idle again after `Finalize`. -/

def Kept (kind : SessionKind) (session : ClientRecord) : Prop :=
  Idle session ∨
    session.initialized kind = true ∧ ∀ process, Idle (finalizeSession kind process session).2

theorem Kept.idle {kind : SessionKind} {session : ClientRecord} (kept : Kept kind session)
    (unready : session.initialized kind = false) : Idle session := by
  rcases kept with idle | ⟨ready, _⟩
  · exact idle
  · rw [unready] at ready
    cases ready

theorem Kept.finalize {kind : SessionKind} {session : ClientRecord} (kept : Kept kind session)
    (process : Process) : Kept kind (finalizeSession kind process session).2 := by
  rcases kept with idle | ⟨_, ends⟩
  · have same : ∀ kind, Kept kind session := fun _ => Or.inl idle
    cases kind with
    | log => exact Or.inl ⟨rfl, idle.sigfd, idle.map, idle.index, idle.eCap⟩
    | _ => simpa [finalizeSession, idle.uninitialized] using same _
  · exact Or.inl (ends process)

theorem concludeWatched_kept {session : ClientRecord} (idle : Idle session) (kind : SessionKind)
    (cap : Capability) (index : Nat) (id : ClientId) (label : Text) (added : Bool)
    (watched : kind = .message (128 * 8) ∨ kind = .timer) (process : Process) (fd : Int) :
    Kept kind (concludeWatched session cap index id label added process fd).2 := by
  simp only [concludeWatched]
  split
  · exact Or.inl idle
  · rename_i running
    have open_ : valid fd = true := by simpa using running
    split
    · exact Or.inl ⟨idle.fd, idle.sigfd, idle.map, idle.index, rfl⟩
    · have ready : ClientRecord.initialized kind { session with
          eCap := clientCap id fd, fd := fd, efd := cap.efd, index := some index,
          label := label } = true := by
        rcases watched with rfl | rfl <;>
          simp [ClientRecord.initialized, open_, cap.efdValid, EventCap.valid, clientCap,
            EventCap.create]
      refine Or.inr ⟨ready, ?_⟩
      intro process
      rcases watched with rfl | rfl <;>
        simp only [finalizeSession, ready, Bool.true_eq_false, if_false] <;>
        exact ⟨rfl, idle.sigfd, idle.map, rfl, rfl⟩

theorem concludeLog_kept {session : ClientRecord} (idle : Idle session) (label : Text)
    (process : Process) (fd : Int) : Kept .log (concludeLog session label process fd).2 := by
  simp only [concludeLog]
  split
  · exact Or.inl idle
  · rename_i positive
    have open_ : valid fd = true := (valid_iff fd).mpr (by omega)
    refine Or.inr ⟨by simp [ClientRecord.initialized, open_], ?_⟩
    intro _
    exact ⟨rfl, idle.sigfd, idle.map, idle.index, idle.eCap⟩

theorem concludeRom_kept {session : ClientRecord} (idle : Idle session) (index : Nat)
    (label : Text) (map : Option Nat) (process : Process) (fd : Int) :
    Kept .rom (concludeRom session index label map process fd).2 := by
  simp only [concludeRom]
  split
  · exact Or.inl idle
  · rename_i running
    have open_ : valid fd = true := by simpa using running
    cases map with
    | none => exact Or.inl ⟨rfl, idle.sigfd, rfl, idle.index, idle.eCap⟩
    | some address =>
        have ready : ClientRecord.initialized .rom { session with
            fd := fd, map := some address, index := some index, label := label } = true := by
          simp [ClientRecord.initialized, open_]
        refine Or.inr ⟨ready, ?_⟩
        intro _
        simp only [finalizeSession, reduceCtorEq, if_false, ready, Bool.true_eq_false]
        exact ⟨rfl, idle.sigfd, rfl, rfl, idle.eCap⟩

theorem concludeMemory_kept {session : ClientRecord} (idle : Idle session) (index address : Nat)
    (memfd : Int) (memfdValid : valid memfd = true) (process : Process) (fd : Int) :
    Kept .memory (concludeMemory { session with fd := memfd, map := some address } index process
      fd).2 := by
  simp only [concludeMemory]
  split
  · exact Or.inl ⟨rfl, idle.sigfd, rfl, idle.index, idle.eCap⟩
  · have ready : ClientRecord.initialized .memory { session with
        fd := memfd, map := some address, sigfd := fd, index := some index } = true := by
      simp [ClientRecord.initialized, memfdValid]
    refine Or.inr ⟨ready, ?_⟩
    intro _
    simp only [finalizeSession, ready, Bool.true_eq_false, if_false]
    exact ⟨rfl, rfl, rfl, rfl, idle.eCap⟩

theorem kept_of_map {kind : SessionKind} {request : Option (Process × Int)}
    {finish : Process → Int → Process × ClientRecord} {after : Process} {session' : ClientRecord}
    (finishes : ∀ process fd, Kept kind (finish process fd).2)
    (returned : (request.map fun (process, fd) => finish process fd) = some (after, session')) :
    Kept kind session' := by
  obtain ⟨⟨process, fd⟩, _, same⟩ := Option.map_eq_some_iff.mp returned
  have finished := finishes process fd
  simp only at same
  rwa [same] at finished

theorem initializeMemory_kept {generated : GeneratedPacket} {process after : Process}
    {session session' : ClientRecord} {label : Text} {index : Nat} {answers : Answers process}
    (kept : Kept .memory session)
    (goes : ¬(session.initialized .memory = true ∨ 255 < label.length))
    (returned : initializeMemory generated process session label index answers =
      some (after, session')) : Kept .memory session' := by
  simp only [initializeMemory, if_neg goes] at returned
  simp only [not_or, Bool.not_eq_true] at goes
  have idle := kept.idle goes.1
  rcases allocate_cases process.table answers.memfd with failed | ⟨memfd, _, fresh, granted⟩
  · simp only [failed, not_valid_negative, if_true, Option.some.injEq, Prod.mk.injEq] at returned
    rw [← returned.2]
    exact Or.inl ⟨rfl, idle.sigfd, idle.map, idle.index, idle.eCap⟩
  · have memfdValid := ((fresh_iff _ _).mp fresh).1
    simp only [granted, memfdValid, Bool.true_eq_false, if_false] at returned
    cases mapped : answers.map with
    | none =>
        simp only [mapped, if_true, Option.some.injEq, Prod.mk.injEq] at returned
        rw [← returned.2]
        exact Or.inl ⟨rfl, idle.sigfd, rfl, idle.index, idle.eCap⟩
    | some address =>
        simp only [mapped, reduceCtorEq, if_false] at returned
        exact kept_of_map (concludeMemory_kept idle index address memfd memfdValid) returned

theorem initializeSession_kept {generated : GeneratedPacket} {process after : Process}
    {session session' : ClientRecord} {cap : Capability} {label : Text} {index : Nat}
    {answers : Answers process} {kind : SessionKind} {number : Nat} (kept : Kept kind session)
    (returned : initializeSession generated process session cap label index answers kind number =
      some (after, session')) : Kept kind session' := by
  have unchanged : some (process, session) = some (after, session') → Kept kind session' := by
    intro same
    cases same
    exact kept
  cases kind with
  | message bufferSize =>
      simp only [initializeSession, initializeMessage] at returned
      split at returned
      · exact unchanged returned
      · rename_i goes
        simp only [not_or, Bool.not_eq_true, ne_eq, Decidable.not_not] at goes
        obtain ⟨unready, _, rfl⟩ := goes
        exact kept_of_map (concludeWatched_kept (kept.idle unready) _ cap index _ label
          answers.added (Or.inl rfl)) returned
  | timer =>
      simp only [initializeSession, initializeTimer] at returned
      split at returned
      · exact unchanged returned
      · rename_i unready
        exact kept_of_map (concludeWatched_kept (kept.idle (by simpa using unready)) _ cap index _
          session.label answers.added (Or.inr rfl)) returned
  | log =>
      simp only [initializeSession, initializeLog] at returned
      split at returned
      · exact unchanged returned
      · rename_i goes
        simp only [not_or, Bool.not_eq_true] at goes
        exact kept_of_map (concludeLog_kept (kept.idle goes.1) label) returned
  | rom =>
      simp only [initializeSession, initializeRom] at returned
      split at returned
      · exact unchanged returned
      · rename_i goes
        simp only [not_or, Bool.not_eq_true] at goes
        exact kept_of_map (concludeRom_kept (kept.idle goes.1) index label answers.map) returned
  | memory =>
      simp only [initializeSession] at returned
      by_cases goes : session.initialized .memory = true ∨ 255 < label.length
      · rw [initializeMemory, if_pos goes] at returned
        exact unchanged returned
      · exact initializeMemory_kept kept goes returned

theorem Lives.kept {generated : GeneratedPacket} {kind : SessionKind} {session : ClientRecord}
    (lives : Lives generated kind session) : Kept kind session := by
  induction lives with
  | declared => exact Or.inl ⟨rfl, rfl, rfl, rfl, rfl⟩
  | afterInitialize _ _ _ _ _ _ _ _ returned ih => exact initializeSession_kept ih returned
  | afterFinalize _ process ih => exact ih.finalize process

/-- `Initialize` of a session that is not initialized is atomic exactly if a timer label is short
enough and a reply, if one is asked for, brings no descriptor or one in a valid message of the
kind. -/
theorem initializeSession_atomic_iff (generated : GeneratedPacket) (kind : SessionKind)
    (session : ClientRecord) (lives : Lives generated kind session)
    (unready : session.initialized kind = false) (process : Process) (cap : Capability)
    (label : Text) (index : Nat) (answers : Answers process) (number : Nat) :
    Atomic kind process session label
        (initializeSession generated process session cap label index answers kind number) ↔
      (kind = .timer → label.length ≤ 255) ∧
        (Requests kind label answers → CleanReply generated kind.protocol answers.reply) :=
  initializeSession_idle_iff generated process session (lives.kept.idle unready) cap label index
    answers kind number

def smallProcess : Process := ⟨⟨[0, 1, 2, 3, 4], []⟩, []⟩

def systemCap : Capability := ⟨3, 4, rfl, rfl⟩

theorem smallProcess_fresh (index : Nat) :
    (7 + index : Int) ∉ smallProcess.table.opened := by
  simp only [smallProcess, List.mem_cons, List.not_mem_nil, or_false, not_or]
  omega

theorem numbers_distinct : Function.Injective fun index : Nat => (7 + index : Int) := by
  intro first second same
  simp only at same
  omega

def answering (packet : Packet) (attached : List Int) : Answers smallProcess where
  reply := {
    datagram := some packet.encode
    stale := Packet.Buffer.zero
    attached := attached
    numberOf := fun index => 7 + index
    numbered := valid_number
    words := ⟨unusedWords, unusedWords_length⟩ }
  memfd := none
  map := none
  added := true
  fresh := smallProcess_fresh
  distinct := numbers_distinct
  memfdFresh _ member := by cases member
  mapFresh _ member := by cases member

theorem confirmed_log_atomic :
    Atomic .log smallProcess .default (ascii "log")
      (initializeSession referencePacket smallProcess .default systemCap (ascii "log") 1
        (answering (bareConfirm .log) [9]) .log 0) := by
  refine (initializeSession_atomic_iff referencePacket .log .default .declared rfl smallProcess
    systemCap (ascii "log") 1 (answering (bareConfirm .log) [9])
    0).mpr ⟨?_, ?_⟩
  · intro impossible
    cases impossible
  · intro _
    exact Or.inr ⟨rfl, by decide +kernel⟩

/-- A timer label of 256 characters fails a check, and a descriptor that comes with a message of
another kind stays open. -/
theorem initialize_not_atomic :
    initializeSession referencePacket smallProcess .default systemCap (List.replicate 256 97) 1
        (answering (bareConfirm .timer) [9]) .timer 0 = none ∧
      ¬Atomic .timer smallProcess .default (List.replicate 256 97)
        (initializeSession referencePacket smallProcess .default systemCap (List.replicate 256 97) 1
          (answering (bareConfirm .timer) [9]) .timer 0) ∧
      (initializeSession referencePacket smallProcess .default systemCap (ascii "log") 1
          (answering (bareConfirm .rom) [9]) .log 0).map
        (fun result => (result.1.table.opened, result.2)) =
          some ([7, 0, 1, 2, 3, 4], .default) ∧
      ¬Atomic .log smallProcess .default (ascii "log")
        (initializeSession referencePacket smallProcess .default systemCap (ascii "log") 1
          (answering (bareConfirm .rom) [9]) .log 0) := by
  have idle : Idle .default := ⟨rfl, rfl, rfl, rfl, rfl⟩
  refine ⟨by decide +kernel, ?_, by decide +kernel, ?_⟩
  · rw [initializeSession_idle_iff _ _ _ idle]
    rintro ⟨short, _⟩
    have fits := short rfl
    rw [List.length_replicate] at fits
    omega
  · rw [initializeSession_idle_iff _ _ _ idle]
    rintro ⟨_, clean⟩
    rcases clean ⟨by decide, trivial⟩ with nothing | ⟨_, isOf⟩
    · revert nothing
      decide +kernel
    · revert isOf
      decide +kernel

/-! The event loop of a component has message and timer clients of its own. -/

def ClientKind.session : ClientKind → SessionKind
  | .message bufferSize => .message bufferSize
  | .timer => .timer

def ClientRecord.shared (session : ClientRecord) : ClientSession :=
  ⟨session.fd, session.efd, session.index, session.eCap⟩

theorem shared_initialized (kind : ClientKind) (session : ClientRecord) :
    session.shared.initialized kind = session.initialized kind.session := by
  cases kind with
  | message bufferSize => rfl
  | timer =>
      simp only [ClientSession.initialized, ClientRecord.shared, ClientKind.session,
        ClientRecord.initialized, ClientKind.supported, Bool.and_true]
      cases valid session.fd <;> cases session.index.isSome <;> cases valid session.efd <;>
        cases session.eCap.valid <;> rfl

theorem arrived_received {process : Process} (answers : Answers process) :
    process.table.receive answers.reply.arrived =
      ((process.install answers.reply.arrived).table, answers.reply.arrived) ∧
    answers.reply.arrived.headD (-1) = answers.reply.fds.headD (-1) := by
  have different : answers.reply.numberOf 0 ≠ answers.reply.numberOf 1 := by
    intro same
    cases answers.distinct same
  have fresh : ∀ index, process.table.fresh (answers.reply.numberOf index) = true := fun index =>
    (fresh_iff _ _).mpr ⟨answers.reply.numbered index, answers.fresh index⟩
  have received : ∀ fds : List Int, (∀ fd ∈ fds, process.table.fresh fd = true) → fds.Nodup →
      process.table.receive fds = ((process.install fds).table, fds) := by
    intro fds all distinct
    simpa [Process.install] using receive_fresh process.table fds all distinct 0
  rcases answers.reply.arrived_cases with ⟨came, head⟩ | ⟨came, head⟩ | ⟨came, head⟩
  · rw [came, head]
    exact ⟨rfl, rfl⟩
  · rw [came, head]
    exact ⟨received _ (by simp [fresh]) (by simp), rfl⟩
  · rw [came, head]
    exact ⟨received _ (by simp [fresh]) (by simp [different]), rfl⟩

theorem install_received (generated : GeneratedPacket) (world : World) {process : Process}
    (table : world.table = process.table) (answers : Answers process) :
    world.install 1 (answers.reply.reply generated) =
      ({ world with table := (process.install answers.reply.arrived).table },
        answers.reply.arrived) := by
  have few : answers.reply.arrived.length ≤ Syscall.controlWords 1 := by
    rcases answers.reply.arrived_cases with ⟨came, _⟩ | ⟨came, _⟩ | ⟨came, _⟩ <;>
      simp [came, Syscall.controlWords]
  have taken : (answers.reply.reply generated).offered.take (Syscall.controlWords 1) =
      answers.reply.arrived := List.take_of_length_le few
  have came := answers.reply.install_arrived generated world
    ⟨answers.distinct, fun index => table ▸ answers.fresh index⟩
  simp only [World.install, taken, table, (arrived_received answers).1] at came ⊢
  rw [came]

theorem requestSession_agrees (generated : GeneratedPacket) (world : World) (process : Process)
    (table : world.table = process.table) (kind : KindType) (label : Text)
    (short : label.length ≤ 255) (answers : Answers process) :
    ∃ sent granted,
      requestDescriptor generated process kind label answers.reply =
        some (process.install answers.reply.arrived, granted) ∧
      world.requestSession kind label
          (answers.reply.reply generated) =
        ({ world with sent, table := (process.install answers.reply.arrived).table }, granted) ∧
      (valid granted = true → granted ∈ (process.install answers.reply.arrived).table.opened) := by
  have admitted : ¬255 < label.length := by omega
  have head := (arrived_received answers).2
  let request : Answer := ⟨world.brokerFd, .request, kind, [], label, []⟩
  have installed := install_received generated (world.send request) table answers
  have same : (answers.reply.reply generated).isOf kind =
      answers.reply.isOf generated kind := by
    simp only [Reply.isOf, Incoming.isOf, Incoming.reply]
    cases answers.reply.message generated <;> rfl
  refine ⟨world.sent ++ [⟨world.brokerFd, .request, kind, [], label, []⟩], _,
    requestDescriptor_eq generated process kind label short answers.reply, ?_, ?_⟩
  · simp only [World.requestSession, if_neg admitted]
    rw [installed]
    simp only [Reply.slots_one, same, head, World.send]
    split <;> rfl
  · intro open_
    rw [Process.mem_install]
    left
    rw [← head] at open_ ⊢
    split at open_
    · rename_i isOf
      rw [if_pos isOf]
      cases came : answers.reply.arrived with
      | nil =>
          rw [came] at open_
          cases open_
      | cons first rest => exact List.mem_cons_self
    · cases open_

theorem initializeClient_goes (world : World) (id : ClientId) (label : Text) (index : Nat)
    (reply : Reply) (granted : Bool)
    (goes : (world.clients id).initialized id.kind = false ∧
      (id.kind.protocol = .message → label.length ≤ 255) ∧ id.kind.supported = true)
    {asked : World} {fd : Int}
    (answered : world.requestSession id.kind.protocol label reply = (asked, fd))
    (clients : asked.clients = world.clients) (set : asked.epollFd = world.epollFd)
    (exists_ : asked.epollOpen = true) (opened : valid fd = true → fd ∈ asked.table.opened)
    (session : ClientRecord) (cap : Capability) (label' : Text) (process : Process)
    (table : asked.table = process.table) (efd : cap.efd = world.epollFd)
    (client : world.clients id = session.shared) :
    let after := world.initializeClient id label index reply granted
    let concluded := concludeWatched session cap index id label' granted process fd
    after.clients id = concluded.2.shared ∧
      after.table.opened = concluded.1.table.opened := by
  intro after concluded
  obtain ⟨unready, short, supported⟩ := goes
  have guard : ((world.clients id).initialized id.kind || id.kind.protocol = .message &&
      decide (255 < label.length) || !id.kind.supported) = false := by
    simpa [unready, supported] using short
  have closed : ∀ (world : World) (fd : Int), (world.close fd).table = world.table.close fd := by
    intro world fd
    unfold World.close
    split <;> rfl
  simp only [after, concluded, World.initializeClient, guard, Bool.false_eq_true, if_false,
    answered, concludeWatched]
  by_cases open_ : valid fd = true
  · have running : ¬valid fd = false := by simp [open_]
    simp only [if_neg running]
    cases granted with
    | false =>
        simp only [World.add_refused, if_true, World.setClient, Function.update_self, closed, table,
          Process.close, client, ClientRecord.shared, and_self]
    | true =>
        rw [World.add_granted]
        case exists_ => exact exists_
        case opened => exact opened open_
        simp only [Bool.true_eq_false, if_false, World.setClient, Function.update_self,
          watch_opened, table, ClientRecord.shared, efd, set, and_self]
  · have refused : valid fd = false := by simpa using open_
    simp only [refused, if_true, clients, client, table, and_self]

theorem initializeSession_watched (generated : GeneratedPacket) (process : Process)
    (session : ClientRecord) (cap : Capability) (label : Text) (index : Nat)
    (answers : Answers process) (id : ClientId) :
    ∃ stored, initializeSession generated process session cap label index answers id.kind.session
        id.number =
      if session.initialized id.kind.session = true ∨
          (id.kind.protocol = .message ∧ 255 < label.length) ∨ id.kind.supported = false then
        some (process, session)
      else (requestDescriptor generated process id.kind.protocol label answers.reply).map
        fun (process, fd) =>
          concludeWatched session cap index id stored answers.added process fd := by
  obtain ⟨kind, number⟩ := id
  cases kind with
  | message bufferSize =>
      refine ⟨label, ?_⟩
      simp [initializeSession, initializeMessage, ClientKind.session, ClientKind.protocol,
        ClientKind.supported]
  | timer =>
      refine ⟨session.label, ?_⟩
      simp [initializeSession, initializeTimer, ClientKind.session, ClientKind.protocol,
        ClientKind.supported]

/-- The clients of the event loop are those of this module: `Initialize` has the same effect on the
session and on the descriptors. -/
theorem initializeClient_agrees (generated : GeneratedPacket) (world : World) (process : Process)
    (id : ClientId) (session : ClientRecord) (cap : Capability) (label : Text) (index : Nat)
    (answers : Answers process) (table : world.table = process.table)
    (client : world.clients id = session.shared) (efd : cap.efd = world.epollFd)
    (exists_ : world.epollOpen = true) (short : id.kind = .timer → label.length ≤ 255) :
    let after := world.initializeClient id label index
      (answers.reply.reply generated) answers.added
    ∃ process' session', initializeSession generated process session cap label index answers
        id.kind.session id.number = some (process', session') ∧
      after.clients id = session'.shared ∧ after.table.opened = process'.table.opened := by
  intro after
  obtain ⟨stored, result⟩ := initializeSession_watched generated process session cap label index
    answers id
  have ready : (world.clients id).initialized id.kind = session.initialized id.kind.session := by
    rw [client, shared_initialized]
  by_cases refused : session.initialized id.kind.session = true ∨
      (id.kind.protocol = .message ∧ 255 < label.length) ∨ id.kind.supported = false
  · have guard : ((world.clients id).initialized id.kind || id.kind.protocol = .message &&
        decide (255 < label.length) || !id.kind.supported) = true := by
      rw [ready]
      simpa [or_assoc] using refused
    rw [if_pos refused] at result
    have unchanged : after = world := by
      simp only [after, World.initializeClient, guard, if_true]
    refine ⟨process, session, result, ?_⟩
    rw [unchanged, table]
    exact ⟨client, rfl⟩
  · rw [if_neg refused] at result
    simp only [not_or, not_and, Nat.not_lt, Bool.not_eq_true, Bool.not_eq_false] at refused
    obtain ⟨unready, fits, supported⟩ := refused
    have bounded : label.length ≤ 255 := by
      cases kind : id.kind with
      | message bufferSize => exact fits (by rw [kind]; rfl)
      | timer => exact short kind
    obtain ⟨sent, granted, asked, answered, opened⟩ := requestSession_agrees generated world process
      table id.kind.protocol label bounded answers
    rw [asked, Option.map_some] at result
    refine ⟨_, _, result, ?_⟩
    exact initializeClient_goes world id label index _ answers.added
      ⟨ready.trans unready, fits, supported⟩ answered rfl rfl exists_ opened session cap stored _
      rfl efd client

end Gneiss.Component
