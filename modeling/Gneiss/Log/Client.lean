import Mathlib.Data.List.Forall2
import Gneiss.Library.Chunks
import Gneiss.Platform.Session

/-!
`Gneiss.Log.Client` on Linux: `Print` collects characters in a buffer of 128 and sends the whole
buffer behind a line feed, when it is full, and on `Flush`. An index outside `Buffer'Range` fails
the run-time check, which is `none`; `written` lists the datagrams sent so far.
-/

namespace Gneiss.Log

open Chunks

def bufferLast : Nat := 128

def nul : UInt8 := 0

def lf : UInt8 := 10

structure ClientSession where
  buffer : Text
  cursor : Nat
  written : List Text
  deriving DecidableEq, Repr

namespace ClientSession

def initial : ClientSession := ⟨List.replicate bufferLast nul, 0, []⟩

/-- `Session.Buffer (Index) := C`, with indices counted from one. -/
def assign (session : ClientSession) (index : Nat) (c : UInt8) : Option ClientSession :=
  if 1 ≤ index ∧ index ≤ bufferLast then
    some { session with buffer := session.buffer.set (index - 1) c }
  else none

def flushBuffer (session : ClientSession) : Option ClientSession := do
  let session ←
    if session.cursor < bufferLast then session.assign (session.cursor + 1) nul else some session
  some { session with written := session.written ++ [session.buffer], cursor := 0 }

/-- One turn of the loop in `Print`. -/
def printChar (session : ClientSession) (c : UInt8) : Option ClientSession := do
  let session := { session with cursor := session.cursor + 1 }
  let session ← session.assign session.cursor c
  if (c = lf ∧ session.cursor < bufferLast) ∨ bufferLast ≤ session.cursor then
    session.flushBuffer
  else some session

def printFrom (session : ClientSession) : Text → Option ClientSession
  | [] => some session
  | c :: rest => do
      let session ← session.printChar c
      session.printFrom rest

def print (session : ClientSession) (msg : Text) : Option ClientSession := do
  let session ← if bufferLast ≤ session.cursor then session.flushBuffer else some session
  session.printFrom msg

def prefixMessage (session : ClientSession) (start msg : Text) (newline : Bool) :
    Option ClientSession := do
  let session ← session.print start
  let session ← session.print msg
  if newline then session.print [lf] else some session

def info (session : ClientSession) (msg : Text) (newline : Bool) : Option ClientSession :=
  session.prefixMessage (ascii "Info: ") msg newline

def warning (session : ClientSession) (msg : Text) (newline : Bool) : Option ClientSession :=
  session.prefixMessage (ascii "Warning: ") msg newline

def error (session : ClientSession) (msg : Text) (newline : Bool) : Option ClientSession :=
  session.prefixMessage (ascii "Error: ") msg newline

def flush (session : ClientSession) : Option ClientSession :=
  session.flushBuffer

end ClientSession

inductive Call where
  | print (msg : Text)
  | info (msg : Text) (newline : Bool)
  | warning (msg : Text) (newline : Bool)
  | error (msg : Text) (newline : Bool)
  | flush
  deriving DecidableEq, Repr

def ClientSession.perform (session : ClientSession) : Call → Option ClientSession
  | .print msg => session.print msg
  | .info msg newline => session.info msg newline
  | .warning msg newline => session.warning msg newline
  | .error msg newline => session.error msg newline
  | .flush => session.flush

def ClientSession.performAll (session : ClientSession) : List Call → Option ClientSession
  | [] => some session
  | call :: rest => do
      let session ← session.perform call
      session.performAll rest

/-! What the calls print, as a stream that is cut behind each line feed, at 128 characters and at
each `Flush`. -/

def prefixed (start msg : Text) (newline : Bool) : Text :=
  start ++ msg ++ (if newline then [lf] else [])

def Call.text : Call → Text
  | .print msg => msg
  | .info msg newline => prefixed (ascii "Info: ") msg newline
  | .warning msg newline => prefixed (ascii "Warning: ") msg newline
  | .error msg newline => prefixed (ascii "Error: ") msg newline
  | .flush => []

def Call.items : Call → List (Item UInt8)
  | .flush => [.cut]
  | call => call.text.map .element

def lines : Rule UInt8 where
  capacity := bufferLast
  ends c := c = lf

def printed (calls : List Call) : Text := calls.flatMap Call.text

def items (calls : List Call) : List (Item UInt8) := calls.flatMap Call.items

theorem content_items (calls : List Call) : content (items calls) = printed calls := by
  induction calls with
  | nil => rfl
  | cons call rest ih =>
      have first : content call.items = call.text := by
        cases call with
        | flush => rfl
        | _ => exact content_elements _
      simp only [items, printed, List.flatMap_cons] at ih ⊢
      rw [content_append, first, ih]

/-- A datagram that starts with `piece` and has a NUL behind it, if there is room. -/
structure Carries (datagram piece : Text) : Prop where
  sized : datagram.length = bufferLast
  fits : piece.length ≤ bufferLast
  start : datagram.take piece.length = piece
  ended : piece.length < bufferLast → datagram[piece.length]? = some nul

/-- The session has sent `pieces` and holds `pending` in front of its cursor. -/
structure Holds (session : ClientSession) (pieces : List Text) (pending : Text) : Prop where
  sized : session.buffer.length = bufferLast
  cursor : session.cursor = pending.length
  start : session.buffer.take pending.length = pending
  fits : pending.length ≤ bufferLast
  sent : List.Forall₂ Carries session.written pieces

theorem Holds.flushBuffer {session : ClientSession} {pieces : List Text} {pending : Text}
    (holds : Holds session pieces pending) :
    ∃ after, session.flushBuffer = some after ∧ Holds after (pieces ++ [pending]) [] := by
  obtain ⟨sized, cursor, start, fits, sent⟩ := holds
  by_cases room : session.cursor < bufferLast
  · refine ⟨⟨session.buffer.set session.cursor nul, 0,
      session.written ++ [session.buffer.set session.cursor nul]⟩, ?_, ?_, rfl, rfl,
      Nat.zero_le _, ?_⟩
    · have inside : 1 ≤ session.cursor + 1 ∧ session.cursor + 1 ≤ bufferLast := by omega
      simp only [ClientSession.flushBuffer, if_pos room, ClientSession.assign, if_pos inside,
        Option.bind_eq_bind, Option.bind_some, Nat.add_sub_cancel]
    · rw [List.length_set, sized]
    · refine List.rel_append sent (.cons ⟨?_, fits, ?_, ?_⟩ .nil)
      · rw [List.length_set, sized]
      · rw [List.take_set_of_le (by omega), start]
      · intro _
        rw [← cursor, List.getElem?_set_self (by omega)]
  · refine ⟨⟨session.buffer, 0, session.written ++ [session.buffer]⟩, ?_, sized, rfl, rfl,
      Nat.zero_le _, ?_⟩
    · simp only [ClientSession.flushBuffer, if_neg room, Option.bind_eq_bind, Option.bind_some]
    · exact List.rel_append sent (.cons ⟨sized, fits, start, by omega⟩ .nil)

theorem Holds.append {session : ClientSession} {pieces : List Text} {pending : Text}
    (holds : Holds session pieces pending) (room : pending.length < bufferLast) (c : UInt8) :
    Holds ⟨session.buffer.set session.cursor c, session.cursor + 1, session.written⟩ pieces
      (pending ++ [c]) := by
  obtain ⟨sized, cursor, start, fits, sent⟩ := holds
  refine ⟨?_, ?_, ?_, ?_, sent⟩
  · rw [List.length_set, sized]
  · rw [List.length_append, cursor, List.length_singleton]
  · have bound : pending.length < session.buffer.length := by omega
    rw [List.length_append, List.length_singleton, cursor, List.take_add_one,
      List.take_set_of_le (Nat.le_refl _), start, List.getElem?_set_self bound]
    rfl
  · rw [List.length_append, List.length_singleton]
    omega

/-- The operation succeeds and sends the stream as it is cut. -/
def Emits (operation : ClientSession → Option ClientSession) (stream : List (Item UInt8)) : Prop :=
  ∀ session pieces pending, Holds session pieces pending → pending.length < bufferLast →
    ∃ after, operation session = some after ∧
      Holds after (pieces ++ (cutItems lines pending stream).1) (cutItems lines pending stream).2 ∧
      (cutItems lines pending stream).2.length < bufferLast

theorem Emits.nothing : Emits some [] := by
  intro session pieces pending holds room
  exact ⟨session, rfl, by simpa [cutItems] using holds, room⟩

theorem Emits.bind {first second : ClientSession → Option ClientSession}
    {start rest : List (Item UInt8)} (before : Emits first start) (after : Emits second rest) :
    Emits (fun session => first session >>= second) (start ++ rest) := by
  intro session pieces pending holds room
  obtain ⟨middle, ran, between, short⟩ := before session pieces pending holds room
  obtain ⟨last, finished, all, ended⟩ := after middle _ _ between short
  refine ⟨last, ?_, ?_, ?_⟩
  · simp only [ran]
    exact finished
  · rw [cutItems_append, ← List.append_assoc]
    exact all
  · rw [cutItems_append]
    exact ended

theorem emits_flushBuffer : Emits ClientSession.flushBuffer [.cut] := by
  intro session pieces pending holds _
  obtain ⟨after, ran, empty⟩ := holds.flushBuffer
  exact ⟨after, ran, empty, Nat.zero_lt_succ _⟩

theorem flushes_iff (c : UInt8) (pending : Text) :
    ((c = lf ∧ pending.length + 1 < bufferLast) ∨ bufferLast ≤ pending.length + 1) ↔
      (lines.ends c = true ∨ lines.capacity ≤ pending.length + 1) := by
  simp only [lines, decide_eq_true_eq]
  constructor
  · rintro (⟨newline, _⟩ | full)
    · exact Or.inl newline
    · exact Or.inr full
  · rintro (newline | full)
    · by_cases short : pending.length + 1 < bufferLast
      · exact Or.inl ⟨newline, short⟩
      · exact Or.inr (by omega)
    · exact Or.inr full

theorem emits_printChar (c : UInt8) :
    Emits (fun session => session.printChar c) [.element c] := by
  intro session pieces pending holds room
  have appended := holds.append room c
  have inside : 1 ≤ pending.length + 1 ∧ pending.length + 1 ≤ bufferLast := by omega
  rw [holds.cursor] at appended
  simp only [ClientSession.printChar, ClientSession.assign, holds.cursor, if_pos inside,
    Nat.add_sub_cancel, Option.bind_eq_bind, Option.bind_some, flushes_iff, cutItems, cutItem,
    List.append_nil]
  by_cases full : lines.ends c = true ∨ lines.capacity ≤ pending.length + 1
  · simp only [if_pos full]
    obtain ⟨after, ran, empty⟩ := appended.flushBuffer
    exact ⟨after, ran, empty, by decide⟩
  · simp only [if_neg full, List.append_nil]
    refine ⟨_, rfl, appended, ?_⟩
    rw [not_or] at full
    have below := full.2
    simp only [lines] at below
    rw [List.length_append, List.length_singleton]
    omega

theorem emits_printFrom (msg : Text) :
    Emits (fun session => session.printFrom msg) (msg.map .element) := by
  induction msg with
  | nil => exact Emits.nothing
  | cons c rest ih => exact (emits_printChar c).bind ih

theorem emits_print (msg : Text) :
    Emits (fun session => session.print msg) (msg.map .element) := by
  intro session pieces pending holds room
  have below : ¬bufferLast ≤ session.cursor := by
    rw [holds.cursor]
    omega
  simp only [ClientSession.print, if_neg below, Option.bind_eq_bind, Option.bind_some]
  exact emits_printFrom msg session pieces pending holds room

theorem emits_prefixMessage (start msg : Text) (newline : Bool) :
    Emits (fun session => session.prefixMessage start msg newline)
      ((prefixed start msg newline).map .element) := by
  have both := (emits_print start).bind (emits_print msg)
  rw [prefixed, List.map_append, List.map_append]
  cases newline with
  | false =>
      have all := both.bind Emits.nothing
      simpa [ClientSession.prefixMessage, Option.bind_assoc] using all
  | true =>
      have all := both.bind (emits_print [lf])
      simpa [ClientSession.prefixMessage, Option.bind_assoc] using all

theorem emits_perform (call : Call) : Emits (fun session => session.perform call) call.items := by
  cases call with
  | print msg => exact emits_print msg
  | info msg newline => exact emits_prefixMessage _ msg newline
  | warning msg newline => exact emits_prefixMessage _ msg newline
  | error msg newline => exact emits_prefixMessage _ msg newline
  | flush => exact emits_flushBuffer

theorem emits_performAll (calls : List Call) :
    Emits (fun session => session.performAll calls) (items calls) := by
  induction calls with
  | nil => exact Emits.nothing
  | cons call rest ih =>
      have both := (emits_perform call).bind ih
      rw [items, List.flatMap_cons]
      exact both

theorem Carries.split {datagram piece : Text} (carries : Carries datagram piece) :
    ∃ rest, datagram = piece ++ rest ∧ rest.headD nul = nul := by
  refine ⟨datagram.drop piece.length, ?_, ?_⟩
  · conv_lhs => rw [← List.take_append_drop piece.length datagram, carries.start]
  · by_cases short : piece.length < bufferLast
    · have next := carries.ended short
      rw [List.headD_eq_head?_getD, List.head?_drop, next, Option.getD_some]
    · have long : datagram.length ≤ piece.length := by
        rw [carries.sized]
        omega
      rw [List.drop_eq_nil_of_le long]
      rfl

/-- The text of a datagram: up to its first NUL, or all of it. -/
def textOf (datagram : Text) : Text :=
  datagram.takeWhile fun c => decide (c ≠ nul)

theorem textOf_append (piece rest : Text) (nulFree : ∀ c ∈ piece, c ≠ nul) :
    textOf (piece ++ rest) = piece ++ textOf rest :=
  List.takeWhile_append_of_pos fun c member => decide_eq_true (nulFree c member)

theorem textOf_ended (rest : Text) (ended : rest.headD nul = nul) : textOf rest = [] := by
  cases rest with
  | nil => rfl
  | cons c rest =>
      have first : c = nul := ended
      simp [textOf, first]

theorem textOf_carried (datagrams pieces : List Text)
    (carried : List.Forall₂ Carries datagrams pieces) (nulFree : ∀ c ∈ pieces.flatten, c ≠ nul) :
    datagrams.map textOf = pieces := by
  induction carried with
  | nil => rfl
  | @cons datagram piece datagrams pieces first _ ih =>
      obtain ⟨rest, split_, ended⟩ := first.split
      have own := textOf_append piece rest
        fun c member => nulFree c (List.mem_flatten_of_mem List.mem_cons_self member)
      rw [textOf_ended rest ended, List.append_nil] at own
      have later := ih fun c member => nulFree c (by
        rw [List.flatten_cons]
        exact List.mem_append_right piece member)
      rw [List.map_cons, split_, own, later]

/-- No index leaves the buffer, and what was printed is in the datagrams and in front of the
cursor. -/
theorem log_chunking (session : ClientSession) (calls : List Call)
    (sized : session.buffer.length = bufferLast) (fresh : session.cursor = 0)
    (idle : session.written = []) (nulFree : ∀ c ∈ printed calls, c ≠ nul) :
    ∃ after, session.performAll calls = some after ∧
      after.cursor < bufferLast ∧
      (∀ datagram ∈ after.written, datagram.length = bufferLast) ∧
      (after.written.map textOf).flatten ++ after.buffer.take after.cursor = printed calls := by
  have holds : Holds session [] [] := ⟨sized, fresh, rfl, Nat.zero_le _, by rw [idle]; exact .nil⟩
  obtain ⟨after, ran, kept, short⟩ := emits_performAll calls session [] [] holds (by decide)
  rw [List.nil_append] at kept
  have whole : (cutItems lines [] (items calls)).1.flatten ++ (cutItems lines [] (items calls)).2 =
      printed calls := by
    rw [cutItems_flatten, content_items, List.nil_append]
  have texts := textOf_carried after.written _ kept.sent fun c member => nulFree c (by
    rw [← whole]
    exact List.mem_append_left _ member)
  refine ⟨after, ran, by rw [kept.cursor]; exact short, ?_, ?_⟩
  · have both : List.Forall₂ (fun datagram piece => datagram.length = bufferLast ∧
        Carries datagram piece) after.written (cutItems lines [] (items calls)).1 :=
      kept.sent.imp fun _ _ carries => ⟨carries.sized, carries⟩
    exact ((List.forall₂_and_left _ _).mp both).1
  · rw [texts, kept.cursor, kept.start, whole]

theorem long_line_chunked :
    ∃ after, ClientSession.initial.performAll
        [.print (List.replicate 200 lf), .info (ascii "hi") false] = some after ∧
      (after.written.map textOf).flatten ++ after.buffer.take after.cursor =
        List.replicate 200 lf ++ ascii "Info: hi" := by
  obtain ⟨after, ran, _, _, whole⟩ := log_chunking .initial
    [.print (List.replicate 200 lf), .info (ascii "hi") false] rfl rfl rfl (by decide +kernel)
  exact ⟨after, ran, whole⟩

end Gneiss.Log
