import Gneiss.Component.Dispatch

/-!
`Initialize` and `Finalize` of the five clients on Linux, with the descriptors and mappings of the
process. `Gneiss_Internal.Client.Initialize` is what they share. A run-time check that fails is
`none`.
-/

namespace Gneiss.Component

open Descriptors

inductive SessionKind where
  | message (bufferSize : Nat)
  | log
  | memory
  | rom
  | timer
  deriving DecidableEq, Repr

def SessionKind.protocol : SessionKind → KindType
  | .message _ => .message
  | .log => .log
  | .memory => .memory
  | .rom => .rom
  | .timer => .timer

/-- The fields of the five `Client_Session` records, as far as `Initialize` and `Finalize` use them;
a field that a package does not have keeps its default, and `label` is the part up to `Last`. -/
structure ClientRecord where
  fd : Int
  sigfd : Int
  efd : Int
  map : Option Nat
  index : Option Nat
  label : Text
  eCap : EventCap
  deriving DecidableEq, Repr

def ClientRecord.default : ClientRecord := ⟨-1, -1, -1, none, none, [], .invalid⟩

def ClientRecord.initialized (kind : SessionKind) (session : ClientRecord) : Bool :=
  match kind with
  | .message bufferSize => valid session.fd && session.index.isSome && valid session.efd &&
      session.eCap.valid && decide (bufferSize = 128 * 8)
  | .log => valid session.fd
  | .memory => session.index.isSome && valid session.fd && session.map.isSome
  | .rom => session.index.isSome && valid session.fd && session.map.isSome
  | .timer => valid session.fd && session.index.isSome && session.eCap.valid && valid session.efd

/-- `Gneiss_Internal.Capability` with its predicate. -/
structure Capability where
  brokerFd : Int
  efd : Int
  brokerValid : valid brokerFd = true
  efdValid : valid efd = true

structure Process where
  table : Table
  mappings : List Nat
  deriving DecidableEq, Repr

namespace Process

def install (process : Process) (fds : List Int) : Process :=
  { process with table := fds.foldl Table.insert process.table }

def close (process : Process) (fd : Int) : Process :=
  { process with table := process.table.close fd }

def mmap (process : Process) (map : Option Nat) : Process :=
  { process with mappings := map.toList ++ process.mappings }

def munmap (process : Process) (map : Option Nat) : Process :=
  { process with mappings := process.mappings.filter fun other => some other ≠ map }

end Process

/-- What the environment answers during one `Initialize`: the broker's reply, `memfd_create`, `mmap`
and `epoll_ctl`. New descriptors and mappings get numbers that are not in use. -/
structure Answers (process : Process) where
  reply : Incoming 1
  memfd : Option Int
  map : Option Nat
  added : Bool
  fresh : ∀ index, reply.numberOf index ∉ process.table.opened
  distinct : Function.Injective reply.numberOf
  memfdFresh : ∀ fd ∈ memfd, valid fd = true ∧ fd ∉ process.table.opened ∧
    ∀ index, reply.numberOf index ≠ fd
  mapFresh : ∀ address ∈ map, address ∉ process.mappings

/-- `Gneiss_Internal.Client.Initialize`: the process and `Fds (Fds'First)` behind it. A longer label
does not fit into `Lbl.Value`. -/
def requestDescriptor (generated : GeneratedPacket) (process : Process) (kind : KindType)
    (label : Text) (reply : Incoming 1) : Option (Process × Int) :=
  if 255 < label.length then none
  else
    let process := process.install reply.arrived
    match reply.message generated with
    | .invalid => some (process, -1)
    | .valid _ other _ _ => some (process, if other = kind then reply.fds.headD (-1) else -1)

/-! What each `Initialize` does with the descriptor it gets. -/

/-- Message and timer sessions are registered with the epoll set. -/
def concludeWatched (session : ClientRecord) (cap : Capability) (index : Nat) (id : ClientId)
    (label : Text) (added : Bool) (process : Process) (fd : Int) : Process × ClientRecord :=
  if valid fd = false then (process, session)
  else
    let session := { session with eCap := clientCap id fd }
    if added = false then (process.close fd, { session with eCap := .invalid })
    else ({ process with table := process.table.watch fd true },
      { session with fd := fd, efd := cap.efd, index := some index, label := label })

def concludeLog (session : ClientRecord) (label : Text) (process : Process) (fd : Int) :
    Process × ClientRecord :=
  if fd < 0 then (process, session) else (process, { session with label := label, fd := fd })

def concludeMemory (session : ClientRecord) (index : Nat) (process : Process) (fd : Int) :
    Process × ClientRecord :=
  if fd < 0 then
    ((process.munmap session.map).close session.fd, { session with map := none, fd := -1 })
  else (process, { session with sigfd := fd, index := some index })

def concludeRom (session : ClientRecord) (index : Nat) (label : Text) (map : Option Nat)
    (process : Process) (fd : Int) : Process × ClientRecord :=
  if valid fd = false then (process, session)
  else
    let process := process.mmap map
    let session := { session with fd := fd, map := map }
    if map = none then (process.close fd, { session with fd := -1 })
    else (process, { session with index := some index, label := label })

section

variable (generated : GeneratedPacket) (process : Process) (session : ClientRecord)
  (cap : Capability) (label : Text) (index : Nat) (answers : Answers process)

def initializeMessage (bufferSize number : Nat) : Option (Process × ClientRecord) :=
  if session.initialized (.message bufferSize) = true ∨ 255 < label.length ∨
      bufferSize ≠ 128 * 8 then some (process, session)
  else (requestDescriptor generated process .message label answers.reply).map fun (process, fd) =>
    concludeWatched session cap index ⟨.message bufferSize, number⟩ label answers.added process fd

def initializeLog : Option (Process × ClientRecord) :=
  if session.initialized .log = true ∨ 255 < label.length then some (process, session)
  else (requestDescriptor generated process .log label answers.reply).map fun (process, fd) =>
    concludeLog session label process fd

/-- The memory is created first and goes to the broker with the request. -/
def initializeMemory : Option (Process × ClientRecord) :=
  if session.initialized .memory = true ∨ 255 < label.length then some (process, session)
  else
    let (table, memfd) := process.table.allocate answers.memfd
    let process := { process with table := table }
    let session := { session with fd := memfd }
    if valid memfd = false then some (process, session)
    else
      let process := process.mmap answers.map
      let session := { session with map := answers.map }
      if answers.map = none then some (process.close memfd, { session with fd := -1 })
      else (requestDescriptor generated process .memory label answers.reply).map
        fun (process, fd) => concludeMemory session index process fd

def initializeRom : Option (Process × ClientRecord) :=
  if session.initialized .rom = true ∨ 255 < label.length then some (process, session)
  else (requestDescriptor generated process .rom label answers.reply).map fun (process, fd) =>
    concludeRom session index label answers.map process fd

/-- The only one without a check of the label; timer sessions do not store it either. -/
def initializeTimer (number : Nat) : Option (Process × ClientRecord) :=
  if session.initialized .timer = true then some (process, session)
  else (requestDescriptor generated process .timer label answers.reply).map fun (process, fd) =>
    concludeWatched session cap index ⟨.timer, number⟩ session.label answers.added process fd

def initializeSession (kind : SessionKind) (number : Nat) : Option (Process × ClientRecord) :=
  match kind with
  | .message bufferSize =>
      initializeMessage generated process session cap label index answers bufferSize number
  | .log => initializeLog generated process session label answers
  | .memory => initializeMemory generated process session label index answers
  | .rom => initializeRom generated process session label index answers
  | .timer => initializeTimer generated process session cap label index answers number

end

/-- `Finalize` of the client of a kind. Log sessions do not ask whether they are initialized. -/
def finalizeSession (kind : SessionKind) (process : Process) (session : ClientRecord) :
    Process × ClientRecord :=
  match kind with
  | .log => (process.close session.fd, { session with fd := -1, label := [] })
  | .message _ =>
      if session.initialized kind = false then (process, session)
      else ({ process with table := process.table.unwatch session.fd true }.close session.fd,
        { session with fd := -1, eCap := .invalid, label := [], index := none })
  | .memory =>
      if session.initialized kind = false then (process, session)
      else (((process.munmap session.map).close session.sigfd).close session.fd,
        { session with map := none, sigfd := -1, fd := -1, index := none })
  | .rom =>
      if session.initialized kind = false then (process, session)
      else ((process.munmap session.map).close session.fd,
        { session with map := none, fd := -1, index := none })
  | .timer =>
      if session.initialized kind = false then (process, session)
      else ({ process with table := process.table.unwatch session.fd true }.close session.fd,
        { session with efd := -1, fd := -1, index := none, eCap := .invalid })

/-- The sessions of a kind that a program can have. -/
inductive Lives (generated : GeneratedPacket) (kind : SessionKind) : ClientRecord → Prop
  | declared : Lives generated kind .default
  | afterInitialize {session session' : ClientRecord} (before : Lives generated kind session)
      (process after : Process) (cap : Capability) (label : Text) (index : Nat)
      (answers : Answers process) (number : Nat)
      (returned : initializeSession generated process session cap label index answers kind number =
        some (after, session')) : Lives generated kind session'
  | afterFinalize {session : ClientRecord} (before : Lives generated kind session)
      (process : Process) : Lives generated kind (finalizeSession kind process session).2

end Gneiss.Component
