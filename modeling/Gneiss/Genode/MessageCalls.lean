import Gneiss.Genode.MessageServer

/-!
The calls on a message session of Genode while one client is connected. `read` of the component
calls `Get`, and `Get` pops the queue whether there is a buffer in it or not: only the client's
package asks `avail` first. What `Receive` sends in return to a `write` are further calls of `Send`.
-/

namespace Gneiss.Genode.Message

open Fifo Runs

variable {Buffer : Type}

/-- The session, whether the client installed a signal handler, and what was observed so far:
buffers that `Send` accepted, buffers that were read, signals, and calls of `Pop` without a
buffer. -/
structure Exchange (Buffer : Type) where
  session : ServerSession Buffer
  signal : Bool
  accepted : List Buffer
  obtained : List Buffer
  signals : Nat
  emptyPops : Nat

inductive Rpc (Buffer : Type) where
  | send (data : Buffer)
  | sigh (installed : Bool)
  | write (data : Buffer)
  | read
  | avail
  deriving DecidableEq, Repr

namespace Exchange

def queued (exchange : Exchange Buffer) : List Buffer :=
  exchange.session.cache.items.map Sent.data

def sendSignal (exchange : Exchange Buffer) : Exchange Buffer :=
  if exchange.signal then { exchange with signals := exchange.signals + 1 } else exchange

def send (exchange : Exchange Buffer) (data : Buffer) : Exchange Buffer :=
  if exchange.session.cache.count < 10 then
    sendSignal { exchange with
      session := exchange.session.send data 0
      accepted := exchange.accepted ++ [data] }
  else exchange

/-- `Get`. What `Pop` does to an empty queue is not known. -/
def get (exchange : Exchange Buffer) : Exchange Buffer :=
  match exchange.session.cache.pop with
  | none => { exchange with emptyPops := exchange.emptyPops + 1 }
  | some (sent, rest) =>
      { exchange with
        session := { exchange.session with cache := rest }
        obtained := exchange.obtained ++ [sent.data] }

def call (exchange : Exchange Buffer) : Rpc Buffer → Exchange Buffer
  | .send data => exchange.send data
  | .sigh installed => { exchange with signal := installed }
  | .write _ => exchange
  | .read => exchange.get
  | .avail => exchange

end Exchange

/-- Reads return what was accepted, in order and each buffer once. -/
structure Ordered (exchange : Exchange Buffer) : Prop where
  noEmptyPop : exchange.emptyPops = 0
  history : exchange.accepted = exchange.obtained ++ exchange.queued

def Serves (exchange : Exchange Buffer) (rpc : Rpc Buffer) : Prop :=
  let after := exchange.call rpc
  Ordered after ∧
    match rpc with
    | .send data =>
        after.accepted = exchange.accepted ++ [data] ∧ after.queued = exchange.queued ++ [data] ∨
          exchange.queued.length = 10 ∧ after = exchange
    | .sigh _ => after.queued = exchange.queued
    | .write _ => after.queued = exchange.queued
    | .read => ∃ data, exchange.queued = data :: after.queued ∧
        after.obtained = exchange.obtained ++ [data]
    | .avail => (exchange.session.avail = true ↔ exchange.queued ≠ []) ∧ after = exchange

/-- The precondition that the client's package puts on `Read`. -/
def Available (exchange : Exchange Buffer) : Rpc Buffer → Prop
  | .read => exchange.session.avail = true
  | _ => True

theorem avail_iff (exchange : Exchange Buffer) :
    exchange.session.avail = true ↔ exchange.queued ≠ [] := by
  simp only [ServerSession.avail, Queue.count, Exchange.queued, decide_eq_true_eq,
    List.length_pos_iff, ne_eq, List.map_eq_nil_iff]

theorem sendSignal_queued (exchange : Exchange Buffer) :
    exchange.sendSignal.queued = exchange.queued := by
  unfold Exchange.sendSignal
  split <;> rfl

theorem send_cases (exchange : Exchange Buffer) (data : Buffer) :
    ((exchange.send data).accepted = exchange.accepted ++ [data] ∧
      (exchange.send data).queued = exchange.queued ++ [data] ∧
      (exchange.send data).obtained = exchange.obtained ∧
      (exchange.send data).emptyPops = exchange.emptyPops) ∨
    (exchange.queued.length = 10 ∧ exchange.send data = exchange) := by
  unfold Exchange.send
  by_cases free : exchange.session.cache.count < 10
  · left
    have stored : (exchange.session.send data 0).cache.items =
        exchange.session.cache.items ++ [⟨data, 0⟩] := by
      simp only [ServerSession.send, dif_pos free, Queue.put]
    rw [if_pos free]
    refine ⟨?_, ?_, ?_, ?_⟩
    · unfold Exchange.sendSignal
      split <;> rfl
    · rw [sendSignal_queued]
      simp only [Exchange.queued, stored, List.map_append, List.map_cons, List.map_nil]
    · unfold Exchange.sendSignal
      split <;> rfl
    · unfold Exchange.sendSignal
      split <;> rfl
  · right
    rw [if_neg free]
    have fits := exchange.session.cache.fits
    simp only [Queue.count] at free
    refine ⟨?_, rfl⟩
    rw [Exchange.queued, List.length_map]
    omega

theorem get_cases (exchange : Exchange Buffer) :
    (exchange.queued = [] ∧
      exchange.get = { exchange with emptyPops := exchange.emptyPops + 1 }) ∨
    ∃ data, exchange.queued = data :: exchange.get.queued ∧
      exchange.get.obtained = exchange.obtained ++ [data] ∧
      exchange.get.accepted = exchange.accepted ∧
      exchange.get.emptyPops = exchange.emptyPops := by
  cases popped : exchange.session.cache.pop with
  | none =>
      left
      constructor
      · rcases queue : exchange.session.cache with ⟨items, fits⟩
        rw [queue] at popped
        cases items with
        | nil => simp [Exchange.queued, queue]
        | cons first rest => cases popped
      · simp only [Exchange.get, popped]
  | some pair =>
      right
      obtain ⟨sent, rest⟩ := pair
      refine ⟨sent.data, ?_, ?_, ?_, ?_⟩
      · simp [Exchange.queued, Exchange.get, popped, Queue.pop_items popped]
      · simp only [Exchange.get, popped]
      · simp only [Exchange.get, popped]
      · simp only [Exchange.get, popped]

theorem serves_iff (exchange : Exchange Buffer) (ordered : Ordered exchange) (rpc : Rpc Buffer) :
    Serves exchange rpc ↔ Available exchange rpc := by
  cases rpc with
  | send data =>
      refine iff_of_true ?_ trivial
      rcases send_cases exchange data with ⟨accepted, queued, obtained, pops⟩ | ⟨full, same⟩
      · refine ⟨⟨pops.trans ordered.noEmptyPop, ?_⟩, Or.inl ⟨accepted, queued⟩⟩
        simp only [Exchange.call]
        rw [accepted, queued, obtained, ordered.history, List.append_assoc]
      · refine ⟨?_, Or.inr ⟨full, same⟩⟩
        simp only [Exchange.call]
        rw [same]
        exact ordered
  | sigh installed => exact iff_of_true ⟨⟨ordered.noEmptyPop, ordered.history⟩, rfl⟩ trivial
  | write data => exact iff_of_true ⟨ordered, rfl⟩ trivial
  | read =>
      rw [Available, avail_iff]
      rcases get_cases exchange with ⟨empty, same⟩ | ⟨data, first, obtained, accepted, pops⟩
      · refine iff_of_false ?_ (not_not_intro empty)
        rintro ⟨after, _⟩
        have none_ := after.noEmptyPop
        simp only [Exchange.call, same] at none_
        omega
      · refine iff_of_true ⟨⟨pops.trans ordered.noEmptyPop, ?_⟩, data, first, obtained⟩ ?_
        · simp only [Exchange.call]
          rw [accepted, obtained, ordered.history, first, List.append_assoc]
          rfl
        · rw [first]
          exact List.cons_ne_nil _ _
  | avail => exact iff_of_true ⟨ordered, avail_iff exchange, rfl⟩ trivial

def connected (session : ServerSession Buffer) (signal : Bool) : Exchange Buffer where
  session := session
  signal := signal
  accepted := session.cache.items.map Sent.data
  obtained := []
  signals := 0
  emptyPops := 0

/-- The server serves every order of calls if and only if each `read` finds a buffer. -/
theorem message_calls_iff (session : ServerSession Buffer) (signal : Bool)
    (rpcs : List (Rpc Buffer)) :
    EachStep Exchange.call Serves (connected session signal) rpcs ↔
      EachStep Exchange.call Available (connected session signal) rpcs := by
  apply eachStep_iff_of_invariant Exchange.call Ordered Serves Available
  · exact fun _ _ _ serves => serves.1
  · exact fun exchange rpc ordered => serves_iff exchange ordered rpc
  · exact ⟨rfl, rfl⟩

theorem early_read_pops_empty :
    (run Exchange.call (connected (World.initial : World Nat).session false)
        [.read]).emptyPops = 1 ∧
      ¬EachStep Exchange.call Serves (connected (World.initial : World Nat).session false)
        [.read] := by
  refine ⟨rfl, ?_⟩
  rintro ⟨⟨ordered, _⟩, _⟩
  have none_ := ordered.noEmptyPop
  cases none_

end Gneiss.Genode.Message
