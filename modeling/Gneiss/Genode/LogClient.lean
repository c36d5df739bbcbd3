import Gneiss.Library.Buffers
import Gneiss.Library.Runs
import Gneiss.Log.Client

/-!
`Gneiss.Log.Client` on Genode. Short strings are collected in a buffer, a string that has no room
is written behind what was collected, and `Write` cuts what it gets into messages. `Basalt.Slicer`
is a parameter. `written` lists what was passed to `Genode_Write`, each with its NUL; a failed check
is `none`.
-/

namespace Gneiss.Genode.Log

open Buffers Chunks
open Gneiss.Log (Call nul lf)

def bufferLast : Nat := 4096

def maximumMessageLength : Nat := 216

/-- `Basalt.Slicer`: the slices that `Create (First, Last, Size)` goes through. -/
structure Slicer where
  slices : Nat → Nat → Nat → List (Nat × Nat)
  consecutive : ∀ first last size, first ≤ last → 0 < size →
    Consecutive size first last (slices first last size)

structure ClientSession where
  buffer : Text
  cursor : Nat
  written : List Text
  sized : buffer.length = bufferLast

def blue : Text := 27 :: ascii "[34m"

def red : Text := 27 :: ascii "[31m"

def reset : Text := 27 :: ascii "[0m"

theorem length_overwritten (buffer data : Text) (position : Nat)
    (sized : buffer.length = bufferLast) (room : position + data.length ≤ bufferLast) :
    (buffer.take position ++ data ++ buffer.drop (position + data.length)).length = bufferLast := by
  simp only [List.length_append, List.length_take, List.length_drop]
  omega

theorem slice_overwritten (buffer data : Text) (position : Nat)
    (inside : position ≤ buffer.length) :
    slice (buffer.take position ++ data ++ buffer.drop (position + data.length))
        (1, position + data.length) =
      slice buffer (1, position) ++ data := by
  have front : (buffer.take position ++ data).length = position + data.length := by
    rw [List.length_append, List.length_take, Nat.min_eq_left inside]
  simp only [slice, Nat.sub_self, List.drop_zero, Nat.add_sub_cancel]
  rw [List.take_append_of_le_length (Nat.le_of_eq front.symm), List.take_of_length_le
    (Nat.le_of_eq front)]

namespace ClientSession

/-- `Session.Buffer (First .. First + Msg'Length - 1) := Msg`. -/
def assign (session : ClientSession) (first : Nat) (msg : Text) : Option ClientSession :=
  if room : 1 ≤ first ∧ first - 1 + msg.length ≤ bufferLast then
    some { session with
      buffer := session.buffer.take (first - 1) ++ msg ++
        session.buffer.drop (first - 1 + msg.length)
      sized := length_overwritten session.buffer msg (first - 1) session.sized room.2 }
  else none

def write (slicer : Slicer) (session : ClientSession) (m : Text) : ClientSession :=
  { session with written := session.written ++
      (slicer.slices 1 m.length maximumMessageLength).map fun range => slice m range ++ [nul] }

def flush (slicer : Slicer) (session : ClientSession) : Option ClientSession :=
  if 1 < session.cursor then
    if session.cursor - 1 ≤ bufferLast then
      some { session.write slicer (slice session.buffer (1, session.cursor - 1)) with cursor := 1 }
    else none
  else some { session with cursor := 1 }

def print (slicer : Slicer) (session : ClientSession) (msg : Text) : Option ClientSession :=
  if msg.length = 0 then some session
  else if (bufferLast : Int) - session.cursor < msg.length then do
    let session ← session.flush slicer
    some (session.write slicer msg)
  else do
    let session ← session.assign session.cursor msg
    let session := { session with cursor := session.cursor + msg.length }
    -- pragma Assert (Session.Cursor in Session.Buffer'Range)
    if 1 ≤ session.cursor ∧ session.cursor ≤ bufferLast then some session else none

/-- The end of `Info`, `Warning` and `Error`. -/
def endLine (slicer : Slicer) (session : ClientSession) (newline : Bool) : Option ClientSession :=
  if newline then do
    let session ← session.print slicer [lf]
    session.flush slicer
  else some session

def info (slicer : Slicer) (session : ClientSession) (msg : Text) (newline : Bool) :
    Option ClientSession := do
  let session ← session.print slicer msg
  session.endLine slicer newline

def coloured (slicer : Slicer) (session : ClientSession) (colour start msg : Text)
    (newline : Bool) : Option ClientSession := do
  let session ← session.print slicer colour
  let session ← session.print slicer start
  let session ← session.print slicer msg
  let session ← session.print slicer reset
  session.endLine slicer newline

def warning (slicer : Slicer) (session : ClientSession) (msg : Text) (newline : Bool) :
    Option ClientSession :=
  session.coloured slicer blue (ascii "Warning: ") msg newline

def error (slicer : Slicer) (session : ClientSession) (msg : Text) (newline : Bool) :
    Option ClientSession :=
  session.coloured slicer red (ascii "Error: ") msg newline

def perform (slicer : Slicer) (session : ClientSession) : Call → Option ClientSession
  | .print msg => session.print slicer msg
  | .info msg newline => session.info slicer msg newline
  | .warning msg newline => session.warning slicer msg newline
  | .error msg newline => session.error slicer msg newline
  | .flush => session.flush slicer

def performAll (slicer : Slicer) (session : ClientSession) : List Call → Option ClientSession
  | [] => some session
  | call :: rest => do
      let session ← session.perform slicer call
      session.performAll slicer rest

end ClientSession

def lineEnd (newline : Bool) : Text := if newline then [lf] else []

def text : Call → Text
  | .print msg => msg
  | .info msg newline => msg ++ lineEnd newline
  | .warning msg newline => blue ++ ascii "Warning: " ++ msg ++ reset ++ lineEnd newline
  | .error msg newline => red ++ ascii "Error: " ++ msg ++ reset ++ lineEnd newline
  | .flush => []

def flushes : Call → Bool
  | .print _ => false
  | .info _ newline => newline
  | .warning _ newline => newline
  | .error _ newline => newline
  | .flush => true

/-- Everything printed so far is in the messages and behind them in the buffer. -/
structure Complete (session : ClientSession) (printed : Text) : Prop where
  positive : 1 ≤ session.cursor
  bounded : session.cursor ≤ bufferLast
  messages : ∀ message ∈ session.written, ∃ text, message = text ++ [nul] ∧
    1 ≤ text.length ∧ text.length ≤ maximumMessageLength
  stream : (session.written.map List.dropLast).flatten ++
    slice session.buffer (1, session.cursor - 1) = printed

section Steps

variable (slicer : Slicer) {session : ClientSession} {printed : Text}

theorem write_messages (session : ClientSession) (m : Text) (nonempty : 0 < m.length) :
    ∃ messages, (session.write slicer m).written = session.written ++ messages ∧
      (messages.map List.dropLast).flatten = m ∧
      ∀ message ∈ messages, ∃ text, message = text ++ [nul] ∧
        1 ≤ text.length ∧ text.length ≤ maximumMessageLength := by
  have consecutive := slicer.consecutive 1 m.length maximumMessageLength nonempty
    (Nat.zero_lt_succ _)
  refine ⟨_, rfl, ?_, ?_⟩
  · have dropped : List.dropLast ∘ (fun range => slice m range ++ [nul]) = slice m := by
      funext range
      exact List.dropLast_concat
    rw [List.map_map, dropped, consecutive.flatten (Nat.le_refl 1)]
    simp [slice]
  · intro message member
    obtain ⟨range, inside, rfl⟩ := List.mem_map.mp member
    exact ⟨slice m range, rfl,
      consecutive.length_slice (Nat.le_refl 1) m (Nat.le_refl _) range inside⟩

theorem Complete.write (complete : Complete session printed) (start : session.cursor = 1)
    (m : Text) (nonempty : 0 < m.length) :
    Complete (session.write slicer m) (printed ++ m) ∧ (session.write slicer m).cursor = 1 := by
  obtain ⟨messages, written, content, sized⟩ := write_messages slicer session m nonempty
  have nothing : slice session.buffer (1, session.cursor - 1) = [] := by
    rw [start]
    rfl
  have stream := complete.stream
  rw [nothing, List.append_nil] at stream
  refine ⟨⟨complete.positive, complete.bounded, ?_, ?_⟩, start⟩
  · intro message member
    rw [written, List.mem_append] at member
    rcases member with earlier | later
    · exact complete.messages message earlier
    · exact sized message later
  · change ((session.write slicer m).written.map List.dropLast).flatten ++
      slice session.buffer (1, session.cursor - 1) = printed ++ m
    rw [nothing, List.append_nil, written, List.map_append, List.flatten_append, stream, content]

theorem Complete.flush (complete : Complete session printed) :
    ∃ after, session.flush slicer = some after ∧ Complete after printed ∧ after.cursor = 1 := by
  unfold ClientSession.flush
  by_cases more : 1 < session.cursor
  · have bounded := complete.bounded
    rw [if_pos more, if_pos (by omega)]
    refine ⟨_, rfl, ?_, rfl⟩
    have nonempty : 0 < (slice session.buffer (1, session.cursor - 1)).length := by
      simp only [slice, List.length_take, List.length_drop, session.sized]
      omega
    obtain ⟨messages, written, content, sized⟩ := write_messages slicer session _ nonempty
    refine ⟨Nat.le_refl 1, Nat.succ_le_succ (Nat.zero_le _), ?_, ?_⟩
    · intro message member
      simp only [written, List.mem_append] at member
      rcases member with earlier | later
      · exact complete.messages message earlier
      · exact sized message later
    · simp only [written, List.map_append, List.flatten_append, content]
      rw [complete.stream]
      exact List.append_nil printed
  · rw [if_neg more]
    have positive := complete.positive
    have start : session.cursor = 1 := by omega
    refine ⟨_, rfl, ⟨Nat.le_refl 1, Nat.succ_le_succ (Nat.zero_le _), complete.messages, ?_⟩, rfl⟩
    have stream := complete.stream
    rw [start] at stream
    exact stream

theorem Complete.print (complete : Complete session printed) (msg : Text) :
    ∃ after, session.print slicer msg = some after ∧ Complete after (printed ++ msg) := by
  unfold ClientSession.print
  have positive := complete.positive
  have bounded := complete.bounded
  by_cases empty : msg.length = 0
  · rw [if_pos empty, List.length_eq_zero_iff.mp empty, List.append_nil]
    exact ⟨session, rfl, complete⟩
  · rw [if_neg empty]
    by_cases long : (bufferLast : Int) - session.cursor < msg.length
    · rw [if_pos long]
      obtain ⟨flushed, ran, behind, start⟩ := complete.flush slicer
      rw [ran]
      exact ⟨_, rfl, (behind.write slicer start msg (by omega)).1⟩
    · rw [if_neg long]
      have room : 1 ≤ session.cursor ∧ session.cursor - 1 + msg.length ≤ bufferLast := by omega
      have inside : 1 ≤ session.cursor + msg.length ∧
          session.cursor + msg.length ≤ bufferLast := by omega
      simp only [ClientSession.assign, dif_pos room, Option.bind_eq_bind, Option.bind_some,
        if_pos inside]
      refine ⟨_, rfl, ⟨inside.1, inside.2, complete.messages, ?_⟩⟩
      have stored := slice_overwritten session.buffer msg (session.cursor - 1)
        (by rw [session.sized]; omega)
      have last : session.cursor + msg.length - 1 = session.cursor - 1 + msg.length := by omega
      simp only [last, stored]
      rw [← List.append_assoc, complete.stream]

theorem Complete.endLine (complete : Complete session printed) (newline : Bool) :
    ∃ after, session.endLine slicer newline = some after ∧
      Complete after (printed ++ lineEnd newline) ∧ (newline = true → after.cursor = 1) := by
  unfold ClientSession.endLine
  cases newline with
  | false =>
      rw [lineEnd, if_neg Bool.false_ne_true, if_neg Bool.false_ne_true, List.append_nil]
      exact ⟨session, rfl, complete, fun impossible => by cases impossible⟩
  | true =>
      obtain ⟨ended, printedEnd, behind⟩ := complete.print slicer [lf]
      obtain ⟨after, flushed, complete_, start⟩ := behind.flush slicer
      refine ⟨after, ?_, complete_, fun _ => start⟩
      rw [if_pos rfl, printedEnd]
      exact flushed

theorem Complete.coloured (complete : Complete session printed) (colour start msg : Text)
    (newline : Bool) :
    ∃ after, session.coloured slicer colour start msg newline = some after ∧
      Complete after (printed ++ (colour ++ start ++ msg ++ reset ++ lineEnd newline)) ∧
      (newline = true → after.cursor = 1) := by
  obtain ⟨first, ran1, complete1⟩ := complete.print slicer colour
  obtain ⟨second, ran2, complete2⟩ := complete1.print slicer start
  obtain ⟨third, ran3, complete3⟩ := complete2.print slicer msg
  obtain ⟨fourth, ran4, complete4⟩ := complete3.print slicer reset
  obtain ⟨after, ran5, complete5, emptied⟩ := complete4.endLine slicer newline
  refine ⟨after, ?_, ?_, emptied⟩
  · simp only [ClientSession.coloured, ran1, ran2, ran3, ran4, Option.bind_eq_bind,
      Option.bind_some]
    exact ran5
  · simp only [List.append_assoc] at complete5 ⊢
    exact complete5

theorem Complete.perform (complete : Complete session printed) (call : Call) :
    ∃ after, session.perform slicer call = some after ∧ Complete after (printed ++ text call) ∧
      (flushes call = true → after.cursor = 1) := by
  cases call with
  | print msg =>
      obtain ⟨after, ran, behind⟩ := complete.print slicer msg
      exact ⟨after, ran, behind, fun impossible => by cases impossible⟩
  | info msg newline =>
      obtain ⟨middle, ran, behind⟩ := complete.print slicer msg
      obtain ⟨after, ended, behind, start⟩ := behind.endLine slicer newline
      refine ⟨after, ?_, ?_, start⟩
      · simp only [ClientSession.perform, ClientSession.info, ran, Option.bind_eq_bind,
          Option.bind_some]
        exact ended
      · rw [List.append_assoc] at behind
        exact behind
  | warning msg newline => exact complete.coloured slicer blue (ascii "Warning: ") msg newline
  | error msg newline => exact complete.coloured slicer red (ascii "Error: ") msg newline
  | flush =>
      obtain ⟨after, ran, behind, start⟩ := complete.flush slicer
      rw [text, List.append_nil]
      exact ⟨after, ran, behind, fun _ => start⟩

theorem Complete.performAll (complete : Complete session printed) (calls : List Call) :
    ∃ after, session.performAll slicer calls = some after ∧
      Complete after (printed ++ calls.flatMap text) ∧
      ∀ call, calls.getLast? = some call → flushes call = true → after.cursor = 1 := by
  induction calls generalizing session printed with
  | nil =>
      refine ⟨session, rfl, ?_, fun call nothing => by cases nothing⟩
      rw [List.flatMap_nil, List.append_nil]
      exact complete
  | cons call rest ih =>
      obtain ⟨middle, ran, behind, start⟩ := complete.perform slicer call
      obtain ⟨after, later, finished, last⟩ := ih behind
      refine ⟨after, ?_, ?_, ?_⟩
      · simp only [ClientSession.performAll, ran, Option.bind_eq_bind, Option.bind_some]
        exact later
      · rw [List.flatMap_cons, ← List.append_assoc]
        exact finished
      · cases rest with
        | nil =>
            intro final same ends
            rw [List.getLast?_singleton, Option.some.injEq] at same
            subst same
            rw [ClientSession.performAll, Option.some.injEq] at later
            rw [← later]
            exact start ends
        | cons next rest =>
            intro final same ends
            rw [List.getLast?_cons_cons] at same
            exact last final same ends

end Steps

/-- What `Initialize` leaves: the buffer as it was, and the cursor at its start. -/
def opened (session : ClientSession) : ClientSession :=
  { session with cursor := 1, written := [] }

theorem complete_opened (session : ClientSession) : Complete (opened session) [] where
  positive := Nat.le_refl 1
  bounded := Nat.succ_le_succ (Nat.zero_le _)
  messages message member := by cases member
  stream := rfl

/-- The log client loses and reorders nothing, whatever is called. -/
theorem log_complete (slicer : Slicer) (before : ClientSession) (calls : List Call) :
    ∃ session, (opened before).performAll slicer calls = some session ∧
      Complete session (calls.flatMap text) ∧
      ∀ call, calls.getLast? = some call → flushes call = true →
        slice session.buffer (1, session.cursor - 1) = [] := by
  obtain ⟨session, ran, complete, last⟩ := (complete_opened before).performAll slicer calls
  refine ⟨session, ran, complete, ?_⟩
  intro call same ends
  rw [last call same ends]
  rfl

/-! A slicer whose slices are as long as they may be. -/

def greedySlices (size last : Nat) : Nat → Nat → List (Nat × Nat)
  | 0, first => [(first, last)]
  | fuel + 1, first =>
      if last < first + size then [(first, last)]
      else (first, first + size - 1) :: greedySlices size last fuel (first + size)

theorem greedySlices_consecutive (size last fuel first : Nat) (positive : 0 < size)
    (ordered : first ≤ last) (enough : last ≤ first + fuel) :
    Consecutive size first last (greedySlices size last fuel first) := by
  induction fuel generalizing first with
  | zero => exact .last first last ordered (by omega)
  | succ fuel ih =>
      rw [greedySlices]
      split
      · rename_i short
        exact .last first last ordered short
      · rename_i long
        refine .next first (first + size - 1) last _ (by omega) (by omega) ?_
        have behind : first + size - 1 + 1 = first + size := by omega
        rw [behind]
        exact ih (first + size) (by omega) (by omega)

def greedySlicer : Slicer where
  slices first last size := greedySlices size last (last - first) first
  consecutive first last size ordered positive :=
    greedySlices_consecutive size last (last - first) first positive ordered
      (Nat.le_of_eq (Nat.add_sub_cancel' ordered).symm)

def emptySession : ClientSession where
  buffer := List.replicate bufferLast nul
  cursor := 1
  written := []
  sized := List.length_replicate

theorem long_string_complete :
    ∃ session, (opened emptySession).performAll greedySlicer
        [.print (ascii "short"), .info (List.replicate 5000 lf) true] = some session ∧
      Complete session (ascii "short" ++ List.replicate 5000 lf ++ [lf]) ∧
      slice session.buffer (1, session.cursor - 1) = [] := by
  obtain ⟨session, ran, complete, last⟩ := log_complete greedySlicer emptySession
    [.print (ascii "short"), .info (List.replicate 5000 lf) true]
  refine ⟨session, ran, ?_, last _ rfl rfl⟩
  simp only [List.flatMap_cons, List.flatMap_nil, text, lineEnd, if_true,
    List.append_nil] at complete
  rw [List.append_assoc]
  exact complete

end Gneiss.Genode.Log
