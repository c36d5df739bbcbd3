import Gneiss.Library.Descriptors
import Gneiss.Message.Channel

/-!
`Session_Event` of `Gneiss.Message.Dispatcher` on Linux, on a queue that may hold anything a client
can send. The datagram in front stays where it is if its peeked length is too small, and otherwise
is received into a local buffer that it does not fit.
-/

namespace Gneiss.Message

open Descriptors Runs

structure ServerSession where
  fd : Int
  indexValid : Bool
  capValid : Bool
  deriving DecidableEq, Repr

def ServerSession.initialized (session : ServerSession) : Bool :=
  valid session.fd && session.indexValid && session.capValid

/-- What `Receive` of the server does to the channel. -/
inductive Reaction where
  | send (address : Nat)
  | change (memory : Memory)

/-- The address of `Buffer` in `Session_Event`, and what the server does with its content. -/
structure Event where
  address : Nat
  reactions : List Reaction

def Channel.react (channel : Channel) : Reaction → Channel
  | .send address => channel.write .server address
  | .change memory => { channel with memory := Function.update channel.memory .server memory }

/-- The number of bytes `recv` stores for the datagram in front. -/
def Channel.receivedBytes (channel : Channel) : Nat :=
  match channel.queue .server with
  | [] => 0
  | datagram :: _ => (datagram.take callSize).length

/-- No channel is left if `Read` writes past the end of `Buffer`, which lies on the stack. -/
def ServerSession.sessionEvent (session : ServerSession) (channel : Channel) (event : Event) :
    Option Channel :=
  if session.initialized = false then some channel
  else if channel.available .server then
    if bufferBytes < channel.receivedBytes then none
    else some (run Channel.react (channel.read .server event.address) event.reactions)
  else some channel

def ServerSession.sessionEvents (session : ServerSession) (channel : Channel)
    (events : List Event) : Option Channel :=
  events.foldlM session.sessionEvent channel

theorem available_iff (channel : Channel) (datagram : Text) (rest : List Text)
    (waits : channel.queue .server = datagram :: rest) :
    channel.available .server = true ↔ callSize ≤ datagram.length := by
  simp only [Channel.available, Channel.peek, waits, decide_eq_true_eq, Int.ofNat_le]

section

variable (session : ServerSession) (initialized : session.initialized = true)

include initialized

/-- A datagram that is long enough for `Available` is too long for `Buffer`. -/
theorem sessionEvent_overruns (channel : Channel) (event : Event) (datagram : Text)
    (rest : List Text) (waits : channel.queue .server = datagram :: rest)
    (long : callSize ≤ datagram.length) : session.sessionEvent channel event = none := by
  have running : ¬session.initialized = false := by simp [initialized]
  have ready := (available_iff channel datagram rest waits).mpr long
  have small : bufferBytes < callSize := by decide
  have overrun : bufferBytes < channel.receivedBytes := by
    simp only [Channel.receivedBytes, waits, List.length_take]
    omega
  rw [ServerSession.sessionEvent, if_neg running, if_pos ready, if_pos overrun]

/-- A shorter one stays in front of the queue for good. -/
theorem sessionEvents_stall (channel : Channel) (events : List Event) (datagram : Text)
    (rest : List Text) (waits : channel.queue .server = datagram :: rest)
    (short : datagram.length < callSize) :
    session.sessionEvents channel events = some channel := by
  have blocked : ¬channel.available .server = true := by
    rw [available_iff channel datagram rest waits]
    omega
  have running : ¬session.initialized = false := by simp [initialized]
  have same : ∀ event, session.sessionEvent channel event = some channel := by
    intro event
    rw [ServerSession.sessionEvent, if_neg running, if_neg blocked]
  induction events with
  | nil => rfl
  | cons event later ih =>
      rw [ServerSession.sessionEvents, List.foldlM_cons, same event]
      exact ih

end

/-- The event returns, and has removed at least the datagram in front if there was one. -/
def Removes (session : ServerSession) (channel : Channel) (event : Event) : Prop :=
  channel.queue .server ≠ [] → ∃ next, session.sessionEvent channel event = some next ∧
    next.queue .server <:+ (channel.queue .server).tail

theorem not_removes (session : ServerSession) (initialized : session.initialized = true)
    (channel : Channel) (event : Event) (waits : channel.queue .server ≠ []) :
    ¬Removes session channel event := by
  intro removes
  obtain ⟨next, returned, removed⟩ := removes waits
  obtain ⟨datagram, rest, queue⟩ := List.exists_cons_of_ne_nil waits
  by_cases long : callSize ≤ datagram.length
  · rw [sessionEvent_overruns session initialized channel event datagram rest queue long]
      at returned
    cases returned
  · have stalled := sessionEvents_stall session initialized channel [event] datagram rest queue
      (by omega)
    simp only [ServerSession.sessionEvents, List.foldlM_cons, List.foldlM_nil, returned] at stalled
    cases stalled
    rw [queue, List.tail_cons] at removed
    have shorter := removed.length_le
    rw [List.length_cons] at shorter
    omega

/-- What the client sends with one call of `Write`. -/
def fullSized (datagram : Text) : Bool := decide (datagram.length = callSize)

/-- As many events as there are datagrams empty the queue, and the full-sized messages among them
are received in order. -/
structure Drains (session : ServerSession) (channel : Channel) (events : List Event) : Prop where
  removes : ∀ before event after, events = before ++ event :: after →
    ∀ reached, session.sessionEvents channel before = some reached → Removes session reached event
  empty : ∃ final contents, session.sessionEvents channel events = some final ∧
    final.queue .server = [] ∧
    final.obtained .server = channel.obtained .server ++ contents ∧
    (((channel.queue .server).filter fullSized).map (·.take bufferBytes)).Sublist contents

/-- No datagram is removed by any event, so only a queue without datagrams is drained. -/
theorem drains_iff (session : ServerSession) (initialized : session.initialized = true)
    (channel : Channel) (events : List Event)
    (count : events.length = (channel.queue .server).length) :
    Drains session channel events ↔ channel.queue .server = [] := by
  constructor
  · intro drains
    by_contra waits
    cases events with
    | nil => exact waits (List.length_eq_zero_iff.mp count.symm)
    | cons event later =>
        exact not_removes session initialized channel event waits
          (drains.removes [] event later rfl channel rfl)
  · intro nothing
    rw [nothing, List.length_nil, List.length_eq_zero_iff] at count
    subst count
    refine ⟨?_, channel, [], rfl, nothing, by simp, by simp [nothing]⟩
    intro before event after split
    simp at split

def sampleSession : ServerSession := ⟨7, true, true⟩

def inbox (queue : List Text) : Channel where
  memory := sampleMemory
  queue
    | .client => []
    | .server => queue
  written _ := []
  obtained _ := []

theorem empty_inbox_drains :
    Drains sampleSession (inbox []) [] ∧
      ¬Drains sampleSession (inbox [List.replicate callSize 1]) [⟨0, [.send 0]⟩] := by
  refine ⟨(drains_iff sampleSession rfl (inbox []) [] rfl).mpr rfl, ?_⟩
  rw [drains_iff sampleSession rfl (inbox [List.replicate callSize 1]) [⟨0, [.send 0]⟩] rfl]
  exact List.cons_ne_nil _ _

/-- One datagram of one byte blocks a full message, however many events follow, and in front of the
queue the full message does not fit the buffer. -/
theorem short_datagram_stalls :
    (∀ events, sampleSession.sessionEvents (inbox [[1], List.replicate callSize 1]) events =
        some (inbox [[1], List.replicate callSize 1])) ∧
      ¬Drains sampleSession (inbox [[1], List.replicate callSize 1]) [⟨0, []⟩, ⟨0, []⟩] ∧
      sampleSession.sessionEvent (inbox [List.replicate callSize 1]) ⟨0, []⟩ = none := by
  refine ⟨fun events => sessionEvents_stall sampleSession rfl
    (inbox [[1], List.replicate callSize 1]) events [1] [List.replicate callSize 1] rfl (by decide),
    ?_, sessionEvent_overruns sampleSession rfl _ _ _ [] rfl (by simp)⟩
  intro drains
  exact not_removes sampleSession rfl (inbox [[1], List.replicate callSize 1]) ⟨0, []⟩
    (List.cons_ne_nil _ _) (drains.removes [] ⟨0, []⟩ [⟨0, []⟩] rfl _ rfl)

end Gneiss.Message
