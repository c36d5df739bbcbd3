import Mathlib.Data.List.TakeWhile
import Gneiss.Log.Server
import Gneiss.Message.Channel
import Gneiss.Component.ClientEnds

/-!
A log or message session from the first datagram to the disconnect. The client writes datagrams and
closes its end; the server component takes turns of its event loop, for this session and for its
other registrations. For this session `Wait` reports data while datagrams are queued, and a hangup
when nobody holds the client's end any more. The component itself holds it since `Session_Accept`,
and so does the broker.
-/

namespace Gneiss.Component

open Descriptors Runs

inductive Service where
  | log
  | message
  deriving DecidableEq, Repr

namespace Service

def kind : Service → ServiceKind
  | .log => .log
  | .message => .message Message.messageBufferSize

/-- A log client sends its buffer, a message client `Content'Size * 8` bytes. -/
def datagramSize : Service → Nat
  | .log => Log.bufferLast
  | .message => Message.callSize

/-- What `Write` or `Receive` of the server is given of a datagram. -/
def content : Service → Text → Text
  | .log, datagram => datagram.takeWhile fun c => decide (c ≠ Log.nul)
  | .message, datagram => datagram.take Message.bufferBytes

/-- A log server passes on no text of fewer than two characters, and `Session_Event` of a message
server has a buffer for 128 bytes. -/
def Readable : Service → Text → Prop
  | .log, datagram => 2 ≤ (content .log datagram).length
  | .message, datagram => (datagram.take Message.callSize).length ≤ Message.bufferBytes

end Service

abbrev Datagram (service : Service) := { bytes : Text // bytes.length = service.datagramSize }

/-- `clientEnd` is the descriptor that the component passed on in `Confirm`, and `broker` says
whether the broker still has copies of it. `written` lists what the client gave to its calls. A
component that `ended` does not go on. -/
structure Connection (service : Service) where
  number : Nat
  world : World
  clientEnd : Int
  broker : Bool
  queue : List (Datagram service)
  written : List (Datagram service)
  handed : List Text
  closed : Bool
  ended : Bool
  buffer : Text
  cursor : Nat

variable {service : Service}

namespace Connection

def id (connection : Connection service) : ServiceId := ⟨service.kind, connection.number⟩

def session (connection : Connection service) : ServerSession :=
  connection.world.servers connection.id

/-- The client, the broker and the component have closed the client's end. -/
def hungUp (connection : Connection service) : Bool :=
  connection.closed && !connection.broker &&
    decide (connection.clientEnd ∉ connection.world.table.opened)

def event (connection : Connection service) : Event where
  epollIn := decide (connection.queue ≠ []) || connection.hungUp
  epollErr := false
  epollHup := connection.hungUp
  epollRdhup := connection.hungUp

def logEvent (connection : Connection service) : Connection service :=
  let session : Log.ServerSession := {
    fd := connection.session.fd
    indexValid := connection.session.index.isSome
    capValid := connection.session.eCap.valid
    buffer := connection.buffer
    cursor := connection.cursor }
  if session.initialized = false then connection
  else
    let (session, text) := session.sessionEvent (connection.queue.head?.map Subtype.val)
    { connection with
      queue := connection.queue.tail
      handed := connection.handed ++ text.toList
      buffer := session.buffer
      cursor := session.cursor }

/-- A datagram that is longer than `Buffer` is received over the end of it. -/
def messageEvent (connection : Connection service) : Connection service :=
  if connection.session.initialized service.kind = false then connection
  else
    match connection.queue with
    | [] => connection
    | datagram :: rest =>
        let received := datagram.val.take Message.callSize
        if datagram.val.length < Message.callSize then connection
        else if Message.bufferBytes < received.length then
          { connection with queue := rest, ended := true }
        else
          { connection with
            queue := rest
            handed := connection.handed ++ [received.take Message.bufferBytes] }

def sessionEvent (connection : Connection service) : Connection service :=
  match service with
  | .log => connection.logEvent
  | .message => connection.messageEvent

/-- The flags `Wait` reports with `ref`; those of other descriptors are arbitrary. -/
def reported (connection : Connection service) (ref : Ref) (event : Event) : Event :=
  if ref = .server connection.id then connection.event else event

def called (connection : Connection service) (ref : Ref) (event : Event) : Called :=
  connection.world.eventHandler (some ref) (connection.reported ref event)

/-- `Session_Event`, if it is called for this session. -/
def read (connection : Connection service) (called : Called) : Connection service :=
  match called with
  | .handler .sessionEvent (.server id) _ =>
      if id = connection.id then connection.sessionEvent else connection
  | _ => connection

/-- A turn of the event loop, in which `Wait` reports `ref`; this session is reported if there is
data or a hangup. `callback` is what the component does in this turn. -/
def turn (connection : Connection service) (ref : Ref) (event : Event) (reply : Reply)
    (callback : List Operation) : Connection service :=
  let called := connection.called ref event
  if connection.ended = false ∧
      (∃ entry ∈ connection.world.registrations, entry.2 = ref) ∧
      (ref = .server connection.id → connection.event.epollIn = true) ∧
      Allowed connection.world called reply callback then
    let connection := connection.read called
    if connection.ended || connection.world.raises called reply then
      { connection with ended := true }
    else { connection with world := connection.world.handle called reply callback }
  else connection

end Connection

/-- `taken` says whether the kernel has room for a datagram; `Write` does not wait for it. -/
inductive ConnectionInput (service : Service) where
  | write (datagram : Datagram service) (taken : Bool)
  | finalize
  | brokerEnds
  | turn (ref : Ref) (event : Event) (reply : Reply) (callback : List Operation)

def Connection.step (connection : Connection service) :
    ConnectionInput service → Connection service
  | .write datagram taken =>
      if connection.closed then connection
      else { connection with
        queue := if taken then connection.queue ++ [datagram] else connection.queue
        written := connection.written ++ [datagram] }
  | .finalize => { connection with closed := true }
  | .brokerEnds => { connection with broker := false }
  | .turn ref event reply callback => connection.turn ref event reply callback

/-- A session that was accepted and not used yet. -/
def Connection.start (service : Service) (number : Nat) (world : World) (clientEnd : Int)
    (buffer : Text) (cursor : Nat) : Connection service where
  number := number
  world := world
  clientEnd := clientEnd
  broker := true
  queue := []
  written := []
  handed := []
  closed := false
  ended := false
  buffer := buffer
  cursor := cursor

def Connection.contents (datagrams : List (Datagram service)) : List Text :=
  datagrams.map fun datagram => service.content datagram.val

/-- Everything written was handed to the server or waits for it, and was handed to it before the
session was finalized. -/
structure Lossless (connection : Connection service) : Prop where
  waits : Connection.contents connection.written =
    connection.handed ++ Connection.contents connection.queue
  finalized : connection.session.initialized service.kind = false →
    connection.handed = Connection.contents connection.written

/-- The kernel takes every datagram, the server can read it, and no request is taken for a valid one
with stale words for descriptors. -/
def Careful (connection : Connection service) : ConnectionInput service → Prop
  | .write datagram taken => taken = true ∧ service.Readable datagram.val
  | .turn ref event reply _ => UnmixedTurn connection.world (connection.called ref event) reply
  | _ => True

/-! `Session_Event` takes one datagram and hands its content on. -/

theorem takeWhile_stops (datagram : Text)
    (short : (Service.content .log datagram).length < datagram.length) :
    datagram[(Service.content .log datagram).length]? = some Log.nul := by
  induction datagram with
  | nil => cases short
  | cons c rest ih =>
      by_cases stop : c = Log.nul
      · simp [Service.content, stop]
      · have kept : Service.content .log (c :: rest) = c :: Service.content .log rest := by
          simp [Service.content, stop]
        rw [kept, List.length_cons, List.length_cons] at short
        rw [kept, List.length_cons, List.getElem?_cons_succ]
        exact ih (by omega)

theorem carries_content (datagram : Datagram .log) :
    Log.Carries datagram.val (Service.content .log datagram.val) := by
  have size : datagram.val.length = Log.bufferLast := datagram.property
  have front : Service.content .log datagram.val <+: datagram.val := List.takeWhile_prefix _
  refine ⟨size, ?_, ?_, ?_⟩
  · rw [← size]
    exact front.length_le
  · exact (List.prefix_iff_eq_take.mp front).symm
  · intro short
    exact takeWhile_stops datagram.val (by omega)

theorem logEvent_takes (connection : Connection .log)
    (initialized : connection.session.initialized .log = true) (datagram : Datagram .log)
    (rest : List (Datagram .log)) (queued : connection.queue = datagram :: rest)
    (readable : Service.Readable .log datagram.val) :
    connection.logEvent.queue = rest ∧
      connection.logEvent.handed =
        connection.handed ++ [Service.content .log datagram.val] ∧
      connection.logEvent.ended = connection.ended := by
  have nulFree : ∀ c ∈ Service.content .log datagram.val, c ≠ Log.nul := by
    intro c member
    simpa using List.mem_takeWhile_imp member
  have long : 1 < (Service.content .log datagram.val).length := readable
  have running : (⟨connection.session.fd, connection.session.index.isSome,
      connection.session.eCap.valid, connection.buffer, connection.cursor⟩ :
        Log.ServerSession).initialized = true := initialized
  obtain ⟨wrote, _⟩ := Log.sessionEvent_carried _ datagram.val _ running
    (carries_content datagram) nulFree
  rw [if_pos long] at wrote
  simp only [Connection.logEvent, running, Bool.true_eq_false, if_false, queued, List.head?_cons,
    Option.map_some, List.tail_cons, wrote, Option.toList_some, and_self]

theorem messageEvent_takes (connection : Connection .message)
    (initialized : connection.session.initialized Service.message.kind = true)
    (datagram : Datagram .message) (rest : List (Datagram .message))
    (queued : connection.queue = datagram :: rest)
    (readable : Service.Readable .message datagram.val) :
    connection.messageEvent.queue = rest ∧
      connection.messageEvent.handed =
        connection.handed ++ [Service.content .message datagram.val] ∧
      connection.messageEvent.ended = connection.ended := by
  have size : datagram.val.length = Message.callSize := datagram.property
  have whole : datagram.val.take Message.callSize = datagram.val :=
    List.take_of_length_le (Nat.le_of_eq size)
  have fits : ¬Message.bufferBytes < Message.callSize := by
    rw [Service.Readable, whole, size] at readable
    exact Nat.not_lt.mpr readable
  simp only [Connection.messageEvent, initialized, Bool.true_eq_false, if_false, queued, size,
    Nat.lt_irrefl, if_neg fits, whole, Service.content, and_self]

/-- What the client of a message session sends is never readable. -/
theorem messageEvent_overruns (connection : Connection .message)
    (initialized : connection.session.initialized Service.message.kind = true)
    (datagram : Datagram .message) (rest : List (Datagram .message))
    (queued : connection.queue = datagram :: rest) :
    connection.messageEvent = { connection with queue := rest, ended := true } := by
  have size : datagram.val.length = Message.callSize := datagram.property
  have whole : datagram.val.take Message.callSize = datagram.val :=
    List.take_of_length_le (Nat.le_of_eq size)
  have past : Message.bufferBytes < Message.callSize := by decide
  simp only [Connection.messageEvent, initialized, Bool.true_eq_false, if_false, queued, whole,
    size, Nat.lt_irrefl, if_pos past]

theorem sessionEvent_takes (connection : Connection service)
    (initialized : connection.session.initialized service.kind = true)
    (datagram : Datagram service) (rest : List (Datagram service))
    (queued : connection.queue = datagram :: rest) (readable : service.Readable datagram.val) :
    connection.sessionEvent.queue = rest ∧
      connection.sessionEvent.handed =
        connection.handed ++ [service.content datagram.val] ∧
      connection.sessionEvent.ended = connection.ended := by
  cases service with
  | log => exact logEvent_takes connection initialized datagram rest queued readable
  | message => exact messageEvent_takes connection initialized datagram rest queued readable

theorem sessionEvent_keeps (connection : Connection service) :
    connection.sessionEvent.world = connection.world ∧
      connection.sessionEvent.number = connection.number ∧
      connection.sessionEvent.clientEnd = connection.clientEnd ∧
      connection.sessionEvent.written = connection.written := by
  cases service with
  | log =>
      simp only [Connection.sessionEvent, Connection.logEvent]
      split <;> simp
  | message =>
      simp only [Connection.sessionEvent, Connection.messageEvent]
      split
      · simp
      · split
        · simp
        · split
          · simp
          · split <;> simp

/-! What a turn can do to the connection. -/

inductive Turned (connection : Connection service) : Connection service → Prop where
  | idle : Turned connection connection
  | ends : Turned connection { connection with ended := true }
  | reads (world : World) (reachable : Reachable world)
      (lasting : Lasting connection.clientEnd world) (waiting : connection.queue ≠ [])
      (running : connection.sessionEvent.ended = false)
      (same : world.servers = connection.world.servers) :
      Turned connection { connection.sessionEvent with world }
  | overruns (waiting : connection.queue ≠ []) (past : connection.sessionEvent.ended = true) :
      Turned connection { connection.sessionEvent with ended := true }
  | aside (world : World) (reachable : Reachable world)
      (lasting : Lasting connection.clientEnd world)
      (spared : connection.session.initialized service.kind = true →
        world.servers connection.id = connection.session) :
      Turned connection { connection with world }

theorem read_own (connection : Connection service) (fd : Int) :
    connection.read (.handler .sessionEvent (.server connection.id) fd) =
      connection.sessionEvent :=
  if_pos rfl

/-- `Session_Event` reads only the session it is called for. -/
theorem read_other (connection : Connection service) {ref : Ref} {cap : EventCap} {fd : Int}
    (issued : Issued cap fd ref) (other : ref ≠ .server connection.id) (type : EventType) :
    connection.read (cap.call type) = connection := by
  unfold Connection.read
  split
  · rename_i called
    apply if_neg
    rintro rfl
    exact other (issued.context called)
  · rfl

/-- No hangup is reported for the session, and what is called for it is `Session_Event`. -/
theorem called_own (connection : Connection service) (reachable : Reachable connection.world)
    (lasting : Lasting connection.clientEnd connection.world) (event : Event) {fd : Int}
    (registered : (fd, .server connection.id) ∈ connection.world.registrations) :
    connection.hungUp = false ∧ connection.called (.server connection.id) event =
      .handler .sessionEvent (.server connection.id) fd := by
  have sound := reachable.sound registered
  have opened := lasting.opened registered
  have quiet : connection.hungUp = false := by
    simp [Connection.hungUp, opened]
  obtain ⟨dispatcher, cap⟩ := sound.issued _ fd (sound.backed _ registered)
  refine ⟨quiet, ?_⟩
  rw [Connection.called, Connection.reported, if_pos rfl]
  simp only [World.eventHandler, getType, Connection.event, quiet, cap]
  rfl

/-- A turn for the session in which the component does nothing of its own. -/
theorem turn_own (connection : Connection service) (going : connection.ended = false) {fd : Int}
    (registered : (fd, .server connection.id) ∈ connection.world.registrations) (event : Event)
    (called : connection.called (.server connection.id) event =
      .handler .sessionEvent (.server connection.id) fd)
    (waiting : connection.queue ≠ []) (reply : Reply) :
    connection.turn (.server connection.id) event reply [] = connection.sessionEvent := by
  have reported : connection.event.epollIn = true := by
    simp [Connection.event, waiting]
  simp only [Connection.turn, called, read_own]
  rw [if_pos ⟨going, ⟨_, registered, rfl⟩, fun _ => reported, trivial⟩]
  by_cases past : connection.sessionEvent.ended = true
  · rw [if_pos (by simp [past]), ← past]
  · rw [if_neg (by simp [past, World.raises])]
    rfl

theorem turn_turned (connection : Connection service) (reachable : Reachable connection.world)
    (lasting : Lasting connection.clientEnd connection.world) (ref : Ref) (event : Event)
    (reply : Reply) (callback : List Operation)
    (unmixed : UnmixedTurn connection.world (connection.called ref event) reply) :
    Turned connection (connection.turn ref event reply callback) := by
  simp only [Connection.turn]
  split
  · rename_i holds
    obtain ⟨_, ⟨⟨fd, found⟩, registered, same⟩, reported, allowed⟩ := holds
    have reached : found = ref := same
    subst reached
    have after := reachable.handle _ reply callback allowed unmixed
    have still := lasting.handle _ reply callback allowed unmixed
    by_cases own : found = .server connection.id
    · subst own
      obtain ⟨quiet, called⟩ := called_own connection reachable lasting event registered
      have waiting : connection.queue ≠ [] := by
        simpa [Connection.event, quiet] using reported rfl
      obtain ⟨sameWorld, _⟩ := sessionEvent_keeps connection
      rw [called] at allowed after still ⊢
      rw [read_own]
      by_cases past : connection.sessionEvent.ended = true
      · simp only [past, Bool.true_or, if_true]
        exact .overruns waiting past
      · have running : connection.sessionEvent.ended = false := by simpa using past
        rw [if_neg (by simp [running, World.raises]), sameWorld]
        exact .reads _ after still waiting running (plain_run_servers _ callback allowed)
    · have apart : connection.read (connection.called found event) = connection := by
        have issued := (reachable.sound registered).issued found fd
          ((reachable.sound registered).backed _ registered)
        exact read_other connection issued own _
      rw [apart]
      split
      · exact .ends
      · refine .aside _ after still ?_
        intro initialized
        rw [Connection.called] at allowed ⊢
        exact turn_spares (reachable.sound registered) connection.id initialized registered own _
          reply callback allowed
  · exact .idle

/-! Whole runs. -/

/-- Everything written was handed on or is still queued, the server session `session` is not
changed, and the client's end is not closed in the component. -/
structure Conserved (number : Nat) (session : ServerSession) (connection : Connection service) :
    Prop where
  same : connection.number = number
  reachable : Reachable connection.world
  lasting : Lasting connection.clientEnd connection.world
  untouched : connection.session = session
  readable : ∀ datagram ∈ connection.queue, service.Readable datagram.val
  total : Connection.contents connection.written =
    connection.handed ++ Connection.contents connection.queue

theorem contents_append (first second : List (Datagram service)) :
    Connection.contents (first ++ second) =
      Connection.contents first ++ Connection.contents second :=
  List.map_append

namespace Conserved

variable {number : Nat} {session : ServerSession} {connection : Connection service}

theorem withWorld (conserved : Conserved number session connection) (world : World)
    (reachable : Reachable world) (lasting : Lasting connection.clientEnd world)
    (same : world.servers connection.id = connection.session) :
    Conserved number session { connection with world } where
  same := conserved.same
  reachable := reachable
  lasting := lasting
  untouched := same.trans conserved.untouched
  readable := conserved.readable
  total := conserved.total

theorem ends (conserved : Conserved number session connection) :
    Conserved number session { connection with ended := true } where
  same := conserved.same
  reachable := conserved.reachable
  lasting := conserved.lasting
  untouched := conserved.untouched
  readable := conserved.readable
  total := conserved.total

section

variable (conserved : Conserved number session connection)
  (initialized : session.initialized service.kind = true)

include conserved initialized

theorem running : connection.session.initialized service.kind = true := by
  rw [conserved.untouched]
  exact initialized

theorem takes (datagram : Datagram service) (rest : List (Datagram service))
    (queued : connection.queue = datagram :: rest) :
    connection.sessionEvent.queue = rest ∧
      connection.sessionEvent.handed =
        connection.handed ++ [service.content datagram.val] ∧
      connection.sessionEvent.ended = connection.ended :=
  sessionEvent_takes connection (conserved.running initialized) datagram rest queued
    (conserved.readable datagram (by simp [queued]))

theorem sessionEvent (waiting : connection.queue ≠ []) :
    Conserved number session connection.sessionEvent := by
  obtain ⟨sameWorld, sameNumber, sameEnd, sameWritten⟩ := sessionEvent_keeps connection
  obtain ⟨datagram, rest, queued⟩ := List.exists_cons_of_ne_nil waiting
  obtain ⟨left, handed, _⟩ := conserved.takes initialized datagram rest queued
  refine ⟨sameNumber.trans conserved.same, ?_, ?_, ?_, ?_, ?_⟩
  · rw [sameWorld]
    exact conserved.reachable
  · rw [sameWorld, sameEnd]
    exact conserved.lasting
  · rw [Connection.session, Connection.id, sameWorld, sameNumber]
    exact conserved.untouched
  · rw [left]
    intro other member
    exact conserved.readable other (by simp [queued, member])
  · rw [sameWritten, left, handed, conserved.total, queued]
    simp [Connection.contents]

theorem turned {after : Connection service} (turned : Turned connection after) :
    Conserved number session after := by
  cases turned with
  | idle => exact conserved
  | ends => exact conserved.ends
  | reads world reachable lasting waiting _ same =>
      obtain ⟨sameWorld, sameNumber, sameEnd, _⟩ := sessionEvent_keeps connection
      refine (conserved.sessionEvent initialized waiting).withWorld world reachable ?_ ?_
      · rw [sameEnd]
        exact lasting
      · rw [same, Connection.session, sameWorld]
  | overruns waiting _ => exact (conserved.sessionEvent initialized waiting).ends
  | aside world reachable lasting spared =>
      exact conserved.withWorld world reachable lasting
        (spared (conserved.running initialized))

theorem step (input : ConnectionInput service) (careful : Careful connection input) :
    Conserved number session (connection.step input) := by
  cases input with
  | write datagram taken =>
      obtain ⟨taken, readable⟩ := careful
      simp only [Connection.step, taken, if_true]
      split
      · exact conserved
      · refine ⟨conserved.same, conserved.reachable, conserved.lasting, conserved.untouched,
          ?_, ?_⟩
        · intro other member
          rcases List.mem_append.mp member with before | new
          · exact conserved.readable other before
          · rw [List.mem_singleton.mp new]
            exact readable
        · simp only [contents_append, conserved.total, List.append_assoc]
  | finalize =>
      exact ⟨conserved.same, conserved.reachable, conserved.lasting, conserved.untouched,
        conserved.readable, conserved.total⟩
  | brokerEnds =>
      exact ⟨conserved.same, conserved.reachable, conserved.lasting, conserved.untouched,
        conserved.readable, conserved.total⟩
  | turn ref event reply callback =>
      exact conserved.turned initialized (turn_turned connection conserved.reachable
        conserved.lasting ref event reply callback careful)

theorem lossless : Lossless connection where
  waits := conserved.total
  finalized := by
    intro idle
    rw [conserved.running initialized] at idle
    cases idle

end

/-- As many turns as datagrams wait read them all. -/
theorem turns_hand (initialized : session.initialized service.kind = true) (event : Event)
    (reply : Reply) {fd : Int} (id : ServiceId) (waiting : List (Datagram service)) :
    ∀ connection : Connection service, Conserved number session connection →
      connection.id = id → (fd, .server id) ∈ connection.world.registrations →
      connection.ended = false → connection.queue = waiting →
      (run Connection.step connection
        (List.replicate waiting.length (.turn (.server id) event reply []))).handed =
          Connection.contents connection.written := by
  induction waiting with
  | nil =>
      intro connection conserved _ _ _ queued
      rw [conserved.total, queued]
      simp [Connection.contents, run]
  | cons datagram rest ih =>
      intro connection conserved same registered going queued
      subst same
      obtain ⟨sameWorld, sameNumber, _, sameWritten⟩ := sessionEvent_keeps connection
      obtain ⟨left, _, still⟩ := conserved.takes initialized datagram rest queued
      obtain ⟨_, called⟩ :=
        called_own connection conserved.reachable conserved.lasting event registered
      have read := turn_own connection going registered event called (by simp [queued]) reply
      rw [List.length_cons, List.replicate_succ, run, Connection.step, read, ← sameWritten]
      apply ih connection.sessionEvent
        (conserved.sessionEvent initialized (by simp [queued]))
      · rw [Connection.id, Connection.id, sameNumber]
      · rw [sameWorld]
        exact registered
      · rw [still, going]
      · exact left

end Conserved

theorem initialized_of_registered (service : Service) (number : Nat) (world : World)
    (reachable : Reachable world) (fd : Int)
    (registered : (fd, .server ⟨service.kind, number⟩) ∈ world.registrations) :
    (world.servers ⟨service.kind, number⟩).initialized service.kind = true := by
  have active := (reachable.sound registered).backed _ registered
  by_contra idle
  simp [World.active, ServerSession.active, idle] at active

theorem Conserved.start (service : Service) (number : Nat) (world : World)
    (reachable : Reachable world) (clientEnd : Int) (lasting : Lasting clientEnd world)
    (buffer : Text) (cursor : Nat) :
    Conserved number (world.servers ⟨service.kind, number⟩)
      (Connection.start service number world clientEnd buffer cursor) := by
  refine ⟨rfl, reachable, lasting, rfl, ?_, rfl⟩
  intro _ member
  cases member

/-- The session stays as it is, however the client ends, and its turns hand on what is written. -/
theorem disconnect_lossless (service : Service) (number : Nat) (world : World)
    (reachable : Reachable world) (fd : Int)
    (registered : (fd, .server ⟨service.kind, number⟩) ∈ world.registrations) (answer : Answer)
    (sent : answer ∈ world.sent) (confirms : answer.action = .confirm) (clientEnd : Int)
    (passed : clientEnd ∈ answer.fds) (buffer : Text) (cursor : Nat)
    (inputs : List (ConnectionInput service))
    (careful : EachStep Connection.step Careful
      (Connection.start service number world clientEnd buffer cursor) inputs) :
    let connection :=
      run Connection.step (Connection.start service number world clientEnd buffer cursor) inputs
    Lossless connection ∧
      ∀ fd event reply, (fd, .server connection.id) ∈ connection.world.registrations →
        connection.ended = false →
        (run Connection.step connection (List.replicate connection.queue.length
          (.turn (.server connection.id) event reply []))).handed =
            Connection.contents connection.written := by
  intro connection
  have initialized := initialized_of_registered service number world reachable fd registered
  have lasting := reachable.confirmed_lasting answer sent confirms clientEnd passed
  have conserved : Conserved number (world.servers ⟨service.kind, number⟩) connection :=
    run_invariant_of_eachStep Connection.step (Conserved number _) Careful
      (fun _ input kept meets => kept.step initialized input meets) _ inputs
      (Conserved.start service number world reachable clientEnd lasting buffer cursor) careful
  refine ⟨conserved.lossless initialized, ?_⟩
  intro fd event reply left going
  exact Conserved.turns_hand initialized event reply connection.id connection.queue connection
    conserved rfl left going rfl

def logOperations : List Operation := [
  .initializeDispatcher ⟨.log, 0⟩ 1,
  .register ⟨.log, 0⟩ ⟨.valid .confirm .log .empty .empty, [6], unused⟩ true,
  .receiveRequest ⟨.log, 0⟩ ⟨.valid .request .log .empty .empty, [7, 8], unused⟩,
  .sessionInitialize .log 0 0 0 1 none true,
  .sessionAccept .log 0 0 0 true]

def logServer : World := run World.step (World.start [3, 4] 3 4) logOperations

theorem logServer_reachable : Reachable logServer := by
  refine ⟨[3, 4], 3, 4, logOperations, by decide, by decide, by decide, ?_, rfl⟩
  decide +kernel

def logConfirm : Answer := ⟨6, .confirm, .log, [], [], [7]⟩

def logConnection : Connection .log := .start .log 0 logServer 7 [] 1

/-- A text, filled up to the size of a log datagram. -/
def padded (text : Text) : Text := text ++ List.replicate (Log.bufferLast - text.length) Log.nul

theorem padded_length (text : Text) (short : text.length ≤ Log.bufferLast) :
    (padded text).length = Service.log.datagramSize := by
  simp only [padded, List.length_append, List.length_replicate, Service.datagramSize]
  omega

def greeting : Datagram .log := ⟨padded (ascii "hi"), padded_length _ (by decide)⟩

def sessionTurn : ConnectionInput .log :=
  .turn (.server ⟨.log, 0⟩) ⟨true, false, false, false⟩ ⟨.invalid, [], unused⟩ []

theorem greeting_handed :
    let connection := run Connection.step logConnection [.write greeting true, .finalize]
    connection.queue = [greeting] ∧
      (run Connection.step connection [sessionTurn]).handed = Connection.contents [greeting] := by
  have waits : (run Connection.step logConnection
      [.write greeting true, .finalize]).queue = [greeting] := rfl
  have readable : 2 ≤ (Service.content .log greeting.val).length := by decide +kernel
  refine ⟨waits, ?_⟩
  have kept := disconnect_lossless .log 0 logServer logServer_reachable 8 (by decide +kernel)
    logConfirm (by decide +kernel) rfl 7 (by decide) [] 1 [.write greeting true, .finalize]
    ⟨⟨rfl, readable⟩, trivial, trivial⟩
  exact kept.2 8 ⟨true, false, false, false⟩ ⟨.invalid, [], unused⟩ (by decide +kernel) rfl

/-! A text of one character is read and not handed on, a write that the kernel refuses is lost, and
the first message overruns the buffer of the server. -/

def letter : Datagram .log := ⟨padded (ascii "a"), padded_length _ (by decide)⟩

def messageOperations : List Operation := [
  .initializeDispatcher ⟨Service.message.kind, 0⟩ 1,
  .register ⟨Service.message.kind, 0⟩
    ⟨.valid .confirm Service.message.kind.protocol .empty .empty, [6], unused⟩ true,
  .receiveRequest ⟨Service.message.kind, 0⟩
    ⟨.valid .request Service.message.kind.protocol .empty .empty, [7, 8], unused⟩,
  .sessionInitialize Service.message.kind 0 0 0 1 none true,
  .sessionAccept Service.message.kind 0 0 0 true]

def messageConnection : Connection .message :=
  .start .message 0 (run World.step (World.start [3, 4] 3 4) messageOperations) 7 [] 1

def messageTurn : ConnectionInput .message :=
  .turn (.server ⟨Service.message.kind, 0⟩) ⟨true, false, false, false⟩ ⟨.invalid, [], unused⟩ []

theorem not_lossless {connection : Connection service} (datagram : Datagram service)
    (written : connection.written = [datagram]) (queue : connection.queue = [])
    (handed : connection.handed = []) : ¬Lossless connection := by
  intro lossless
  have waits := lossless.waits
  rw [written, queue, handed] at waits
  cases waits

theorem message_lost (datagram : Datagram .message) :
    ¬Lossless (run Connection.step messageConnection
      [.write datagram true, .finalize, messageTurn]) := by
  let waiting := run Connection.step messageConnection [.write datagram true, .finalize]
  have initialized : waiting.session.initialized Service.message.kind = true := by
    show ServerSession.initialized _ messageConnection.session = true
    decide +kernel
  have registered : (8, Ref.server waiting.id) ∈ waiting.world.registrations := by
    show (8, Ref.server messageConnection.id) ∈ messageConnection.world.registrations
    decide +kernel
  have read := turn_own waiting rfl registered ⟨true, false, false, false⟩ rfl
    (List.cons_ne_nil datagram []) ⟨.invalid, [], unused⟩
  have overrun : waiting.sessionEvent = _ :=
    messageEvent_overruns waiting initialized datagram [] rfl
  have run_eq :
      run Connection.step messageConnection [.write datagram true, .finalize, messageTurn] =
        { waiting with queue := [], ended := true } :=
    read.trans overrun
  rw [run_eq]
  exact not_lossless datagram rfl rfl rfl

theorem lost_datagrams :
    ¬Lossless (run Connection.step logConnection [.write letter true, .finalize, sessionTurn]) ∧
    ¬Lossless (run Connection.step logConnection [.write greeting false, .finalize]) ∧
    ∀ datagram : Datagram .message, ¬Lossless (run Connection.step messageConnection
      [.write datagram true, .finalize, messageTurn]) := by
  refine ⟨?_, ?_, ?_⟩
  · exact not_lossless letter (by decide +kernel) (by decide +kernel) (by decide +kernel)
  · exact not_lossless greeting (by decide +kernel) (by decide +kernel) (by decide +kernel)
  · exact message_lost

end Gneiss.Component
