import Gneiss.Library.Buffers
import Gneiss.Library.Descriptors
import Gneiss.Log.Client

/-!
`Gneiss.Log.Dispatcher` on Linux: how a log server takes one datagram from its session, and what a
whole run of the client makes of the text it prints.
-/

namespace Gneiss.Log

open Buffers Chunks Descriptors

structure ServerSession where
  fd : Int
  indexValid : Bool
  capValid : Bool
  buffer : Text
  cursor : Nat
  deriving DecidableEq, Repr

namespace ServerSession

def initialized (session : ServerSession) : Bool :=
  valid session.fd && session.capValid && session.indexValid

/-- `Read_Buffer`; a failed `recv` leaves the buffer alone. -/
def readBuffer (session : ServerSession) (datagram : Option Text) : ServerSession :=
  match datagram with
  | none => { session with cursor := 1 }
  | some bytes =>
      { session with buffer := overlay bufferLast bytes session.buffer, cursor := 1 }

/-- The loop over `Buffer'Range`, from index `i` on. -/
def scanFrom : Text → Nat → Nat → Nat
  | [], _, cursor => cursor
  | c :: rest, i, cursor => if c = nul then cursor else scanFrom rest (i + 1) i

/-- `Session_Event`, and the string it passes to `Write`. -/
def sessionEvent (session : ServerSession) (datagram : Option Text) :
    ServerSession × Option Text :=
  if session.initialized = false then (session, none)
  else
    let session := session.readBuffer datagram
    let session := { session with cursor := scanFrom session.buffer 1 session.cursor }
    if 1 < session.cursor then (session, some (session.buffer.take session.cursor))
    else (session, none)

def sessionEvents (session : ServerSession) : List Text → List Text
  | [] => []
  | datagram :: rest =>
      let (session, text) := session.sessionEvent (some datagram)
      text.toList ++ session.sessionEvents rest

end ServerSession

theorem scanFrom_piece (piece rest : Text) (i cursor : Nat) (nulFree : ∀ c ∈ piece, c ≠ nul)
    (ended : rest.headD nul = nul) :
    ServerSession.scanFrom (piece ++ rest) i cursor =
      if piece.length = 0 then cursor else i + piece.length - 1 := by
  induction piece generalizing i cursor with
  | nil =>
      cases rest with
      | nil => rfl
      | cons c rest =>
          have first : c = nul := ended
          simp [ServerSession.scanFrom, first]
  | cons c piece ih =>
      have first : c ≠ nul := nulFree c List.mem_cons_self
      have later := ih (i + 1) i fun other member => nulFree other (List.mem_cons_of_mem c member)
      rw [List.cons_append, ServerSession.scanFrom, if_neg first, later, List.length_cons,
        if_neg (Nat.succ_ne_zero _)]
      split <;> omega

/-- One datagram gives the server its piece, except a piece of one character. -/
theorem sessionEvent_carried (session : ServerSession) (datagram piece : Text)
    (initialized : session.initialized = true) (carries : Carries datagram piece)
    (nulFree : ∀ c ∈ piece, c ≠ nul) :
    (session.sessionEvent (some datagram)).2 = (if 1 < piece.length then some piece else none) ∧
      (session.sessionEvent (some datagram)).1.initialized = true := by
  obtain ⟨rest, split_, ended⟩ := carries.split
  have received : overlay bufferLast datagram session.buffer = datagram := by
    rw [overlay, carries.sized, List.take_of_length_le (Nat.le_of_eq carries.sized)]
    simp
  have cursor : ServerSession.scanFrom datagram 1 1 =
      if piece.length = 0 then 1 else 1 + piece.length - 1 := by
    rw [split_]
    exact scanFrom_piece piece rest 1 1 nulFree ended
  have running : ¬session.initialized = false := by simp [initialized]
  simp only [ServerSession.sessionEvent, if_neg running, ServerSession.readBuffer, received, cursor]
  by_cases long : 1 < piece.length
  · have nonempty : ¬piece.length = 0 := by omega
    have last : 1 + piece.length - 1 = piece.length := by omega
    simp only [if_neg nonempty, last, if_pos long, carries.start, true_and]
    exact initialized
  · have first : (if piece.length = 0 then 1 else 1 + piece.length - 1) = 1 := by
      split <;> omega
    simp only [first, if_neg long, Nat.lt_irrefl, if_false, true_and]
    exact initialized

theorem sessionEvents_carried (session : ServerSession) (datagrams pieces : List Text)
    (initialized : session.initialized = true) (carried : List.Forall₂ Carries datagrams pieces)
    (nulFree : ∀ c ∈ pieces.flatten, c ≠ nul) :
    (session.sessionEvents datagrams).flatten =
      (pieces.filter fun piece => decide (piece.length ≠ 1)).flatten := by
  induction carried generalizing session with
  | nil => rfl
  | @cons datagram piece datagrams pieces first _ ih =>
      have free := fun c (member : c ∈ piece) =>
        nulFree c (List.mem_flatten_of_mem List.mem_cons_self member)
      obtain ⟨wrote, still⟩ := sessionEvent_carried session datagram piece initialized first free
      have later := ih _ still fun c member => nulFree c (by
        rw [List.flatten_cons]
        exact List.mem_append_right piece member)
      simp only [ServerSession.sessionEvents, List.flatten_append, later, wrote]
      by_cases single : piece.length = 1
      · simp [single]
      · by_cases long : 1 < piece.length
        · simp [single, long]
        · have empty : piece = [] := List.length_eq_zero_iff.mp (by omega)
          simp [empty]

def ClientSession.unsent (session : ClientSession) : Text :=
  session.buffer.take session.cursor

/-- The pieces into which unsent text and the text of the calls are cut. -/
def pieces (unsent : Text) (calls : List Call) : List Text :=
  (cutItems lines unsent (items calls)).1

theorem pieces_flatten (unsent : Text) (calls : List Call) :
    (pieces unsent (calls ++ [.flush])).flatten = unsent ++ printed calls := by
  have whole := cutItems_flatten lines unsent (items (calls ++ [.flush]))
  have ended : (cutItems lines unsent (items (calls ++ [.flush]))).2 = [] := by
    have split_ : items (calls ++ [.flush]) = items calls ++ [.cut] := by
      simp [items, Call.items]
    rw [split_, cutItems_append]
    rfl
  rw [ended, List.append_nil, content_items] at whole
  rw [pieces, whole, printed, printed, List.flatMap_append]
  simp [Call.text]

/-- Text of a session arrives complete exactly if no piece of it is a single character. -/
theorem log_lossless_iff (session : ClientSession) (server : ServerSession) (calls : List Call)
    (sized : session.buffer.length = bufferLast) (room : session.cursor < bufferLast)
    (idle : session.written = []) (initialized : server.initialized = true)
    (nulFree : ∀ c ∈ session.unsent ++ printed calls, c ≠ nul) :
    ∃ after, session.performAll (calls ++ [.flush]) = some after ∧
      ((server.sessionEvents after.written).flatten = session.unsent ++ printed calls ↔
        ∀ piece ∈ pieces session.unsent (calls ++ [.flush]), piece.length ≠ 1) := by
  have length : session.unsent.length = session.cursor := by
    rw [ClientSession.unsent, List.length_take]
    omega
  have holds : Holds session [] session.unsent := by
    refine ⟨sized, length.symm, ?_, by omega, by rw [idle]; exact .nil⟩
    rw [length, ClientSession.unsent]
  obtain ⟨after, ran, kept, _⟩ := emits_performAll (calls ++ [.flush]) session [] session.unsent
    holds (by omega)
  refine ⟨after, ran, ?_⟩
  have whole := pieces_flatten session.unsent calls
  have carried : List.Forall₂ Carries after.written (pieces session.unsent (calls ++ [.flush])) :=
    kept.sent
  rw [sessionEvents_carried server after.written _ initialized carried (by rwa [whole]), ← whole,
    flatten_filter_eq_iff _ _ (by decide)]
  simp only [decide_eq_true_eq]

def sampleServer : ServerSession := ⟨7, true, true, List.replicate bufferLast nul, 1⟩

theorem sample_greeting_arrives :
    ∃ after, ClientSession.initial.performAll ([.info (ascii "hi") true] ++ [.flush]) = some after ∧
      (sampleServer.sessionEvents after.written).flatten = ascii "Info: hi" ++ [lf] := by
  obtain ⟨after, ran, complete⟩ := log_lossless_iff .initial sampleServer
    [.info (ascii "hi") true] rfl (by decide) rfl rfl (by decide +kernel)
  exact ⟨after, ran, complete.mpr (by decide +kernel)⟩

/-- An empty line is a piece of one character, and the server drops it. -/
theorem empty_line_lost :
    ∃ after, ClientSession.initial.performAll ([.print (ascii "ab" ++ [lf, lf])] ++ [.flush]) =
        some after ∧
      (sampleServer.sessionEvents after.written).flatten = ascii "ab" ++ [lf] ∧
      (sampleServer.sessionEvents after.written).flatten ≠
        printed [.print (ascii "ab" ++ [lf, lf])] := by
  refine ⟨_, rfl, ?_, ?_⟩
  · decide +kernel
  · decide +kernel

end Gneiss.Log
