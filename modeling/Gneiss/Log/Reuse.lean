import Mathlib.Data.List.TakeWhile
import Gneiss.Library.Runs
import Gneiss.Log.Server

/-!
Log sessions that are used again. `Finalize` and `Initialize` of the client keep `Buffer` and
`Cursor`, and so do `Session_Initialize` and `Session_Cleanup` of the dispatcher; the theorems say
when that shows.
-/

namespace Gneiss.Log

open Buffers Chunks Descriptors Runs

/-- The fields of `Client_Session`; `session.written` lists what was sent to `fd`. -/
structure Client where
  fd : Int
  label : Text
  session : ClientSession
  deriving DecidableEq, Repr

namespace Client

def initialized (client : Client) : Bool := valid client.fd

/-- `granted` is the descriptor the broker answers with, or -1. -/
def initializeSession (client : Client) (label : Text) (granted : Int) : Client :=
  if client.initialized = true ∨ 255 < label.length then client
  else if granted < 0 then client
  else ⟨granted, label, { client.session with written := [] }⟩

def finalize (client : Client) : Client :=
  { client with fd := -1, label := [] }

def performAll (client : Client) (calls : List Call) : Option Client := do
  let session ← client.session.performAll calls
  some { client with session := session }

def reopen (client : Client) (before : List Call) (label : Text) (granted : Int) :
    Option Client := do
  let client ← client.performAll before
  some (client.finalize.initializeSession label granted)

def sentAfter (client : Client) (before : List Call) (label : Text) (granted : Int)
    (later : List Call) : Option (List Text) := do
  let client ← client.reopen before label granted
  let client ← client.performAll later
  some client.session.written

end Client

/-- Whatever is printed behind a restart, it gives the same datagrams in both runs. -/
def SameAfterwards (client : Client) (first second : List Call) : Prop :=
  ∀ label granted later, label.length ≤ 255 → valid granted = true →
    client.sentAfter first label granted later = client.sentAfter second label granted later

/-- The same cursor, and buffers that differ at most where the next character goes. -/
def Alike (first second : ClientSession) : Prop :=
  first.cursor = second.cursor ∧
    ∀ index, index ≠ first.cursor → first.buffer[index]? = second.buffer[index]?

structure Usable (session : ClientSession) : Prop where
  sized : session.buffer.length = bufferLast
  room : session.cursor < bufferLast
  sent : ∀ datagram ∈ session.written, datagram.length = bufferLast

theorem carries_self (datagrams : List Text)
    (sized : ∀ datagram ∈ datagrams, datagram.length = bufferLast) :
    List.Forall₂ Carries datagrams datagrams := by
  rw [List.forall₂_same]
  intro datagram member
  have length := sized datagram member
  exact ⟨length, Nat.le_of_eq length, List.take_length, by omega⟩

theorem Usable.holds {session : ClientSession} (usable : Usable session) :
    Holds session session.written session.unsent := by
  obtain ⟨sized, room, sent⟩ := usable
  have length : session.unsent.length = session.cursor := by
    rw [ClientSession.unsent, List.length_take]
    omega
  refine ⟨sized, length.symm, ?_, by omega, carries_self session.written sent⟩
  rw [length, ClientSession.unsent]

theorem Usable.unsent_length {session : ClientSession} (usable : Usable session) :
    session.unsent.length < bufferLast := by
  rw [← usable.holds.cursor]
  exact usable.room

theorem Usable.emits {session : ClientSession} (usable : Usable session) {calls : List Call} :
    ∃ after, session.performAll calls = some after ∧ Usable after ∧
      Holds after (session.written ++ pieces session.unsent calls)
        (cutItems lines session.unsent (items calls)).2 := by
  obtain ⟨after, ran, kept, short⟩ := emits_performAll calls session session.written session.unsent
    usable.holds usable.unsent_length
  have lengths : ∀ datagram ∈ after.written, datagram.length = bufferLast := by
    have both : List.Forall₂ (fun datagram piece => datagram.length = bufferLast ∧
        Carries datagram piece) after.written (session.written ++ pieces session.unsent calls) :=
      kept.sent.imp fun _ _ carries => ⟨carries.sized, carries⟩
    exact ((List.forall₂_and_left _ _).mp both).1
  exact ⟨after, ran, ⟨kept.sized, by rw [kept.cursor]; exact short, lengths⟩, kept⟩

/-! Two sessions that differ at most where the next character goes do the same from there on. -/

structure Twins (first second : ClientSession) : Prop where
  alike : Alike first second
  written : first.written = second.written
  left : first.buffer.length = bufferLast
  right : second.buffer.length = bufferLast
  room : first.cursor < bufferLast

theorem Twins.set {first second : ClientSession} (twins : Twins first second) (c : UInt8) :
    first.buffer.set first.cursor c = second.buffer.set second.cursor c := by
  have cursor := twins.alike.1
  apply List.ext_getElem?
  intro index
  by_cases here : index = first.cursor
  · have room := twins.room
    have left := twins.left
    have right := twins.right
    rw [here, List.getElem?_set_self (by omega), cursor, List.getElem?_set_self (by omega)]
  · rw [List.getElem?_set_ne (Ne.symm here), ← cursor, List.getElem?_set_ne (Ne.symm here)]
    exact twins.alike.2 index here

/-- The results are the same, or nothing happened yet. -/
def Agree (first second : Option ClientSession) : Prop :=
  first = second ∨ ∃ left right, first = some left ∧ second = some right ∧ Twins left right

def Steady (operation : ClientSession → Option ClientSession) : Prop :=
  ∀ first second, Twins first second → Agree (operation first) (operation second)

theorem Steady.bind {first second : ClientSession → Option ClientSession}
    (before : Steady first) (after : Steady second) :
    Steady fun session => first session >>= second := by
  intro left right twins
  rcases before left right twins with same | ⟨one, two, left_, right_, still⟩
  · exact Or.inl (by simp only [same])
  · simp only [left_, right_]
    exact after one two still

theorem Steady.nothing : Steady some := by
  intro first second twins
  exact Or.inr ⟨first, second, rfl, rfl, twins⟩

theorem flushBuffer_twins {first second : ClientSession} (twins : Twins first second) :
    first.flushBuffer = second.flushBuffer := by
  have set_ := twins.set nul
  have cursor := twins.alike.1
  have room := twins.room
  have inside : 1 ≤ first.cursor + 1 ∧ first.cursor + 1 ≤ bufferLast := by omega
  rw [← cursor] at set_
  simp only [ClientSession.flushBuffer, ClientSession.assign, ← cursor, if_pos room, if_pos inside,
    Nat.add_sub_cancel, Option.bind_eq_bind, Option.bind_some, set_, twins.written]

theorem printChar_twins {first second : ClientSession} (twins : Twins first second) (c : UInt8) :
    first.printChar c = second.printChar c := by
  have set_ := twins.set c
  have cursor := twins.alike.1
  have room := twins.room
  have inside : 1 ≤ first.cursor + 1 ∧ first.cursor + 1 ≤ bufferLast := by omega
  rw [← cursor] at set_
  simp only [ClientSession.printChar, ClientSession.assign, ← cursor, if_pos inside,
    Nat.add_sub_cancel, Option.bind_eq_bind, Option.bind_some, set_, twins.written]

theorem steady_printFrom (msg : Text) : Steady fun session => session.printFrom msg := by
  intro first second twins
  cases msg with
  | nil => exact Steady.nothing first second twins
  | cons c rest => exact Or.inl (by simp only [ClientSession.printFrom, printChar_twins twins])

theorem steady_print (msg : Text) : Steady fun session => session.print msg := by
  intro first second twins
  have room := twins.room
  have cursor := twins.alike.1
  have left : ¬bufferLast ≤ first.cursor := by omega
  have right : ¬bufferLast ≤ second.cursor := by omega
  simp only [ClientSession.print, if_neg left, if_neg right, Option.bind_eq_bind,
    Option.bind_some]
  exact steady_printFrom msg first second twins

theorem steady_prefixMessage (start msg : Text) (newline : Bool) :
    Steady fun session => session.prefixMessage start msg newline := by
  have both := (steady_print start).bind (steady_print msg)
  cases newline with
  | false => simpa [ClientSession.prefixMessage, Option.bind_assoc] using both.bind Steady.nothing
  | true =>
      simpa [ClientSession.prefixMessage, Option.bind_assoc] using both.bind (steady_print [lf])

theorem steady_perform (call : Call) : Steady fun session => session.perform call := by
  cases call with
  | print msg => exact steady_print msg
  | info msg newline => exact steady_prefixMessage _ msg newline
  | warning msg newline => exact steady_prefixMessage _ msg newline
  | error msg newline => exact steady_prefixMessage _ msg newline
  | flush => exact fun first second twins => Or.inl (flushBuffer_twins twins)

theorem steady_performAll (calls : List Call) : Steady fun session => session.performAll calls := by
  induction calls with
  | nil => exact Steady.nothing
  | cons call rest ih => exact (steady_perform call).bind ih

/-! Any other difference shows: in the cursor after one more character, in the buffer at once. -/

theorem head_carries (session : ClientSession) (usable : Usable session)
    (idle : session.written = []) (c : UInt8) :
    ∃ after datagram rest, session.performAll [.print [c], .flush] = some after ∧
      after.written = datagram :: rest ∧
      datagram.take (session.cursor + 1) = session.unsent ++ [c] := by
  obtain ⟨after, ran, _, kept⟩ := usable.emits
  have cursor := usable.holds.cursor
  obtain ⟨others, cut⟩ : ∃ others, pieces session.unsent [.print [c], .flush] =
      (session.unsent ++ [c]) :: others := by
    simp only [pieces, items, Call.items, Call.text, List.flatMap_cons, List.flatMap_nil,
      List.map_cons, List.map_nil, List.append_nil, List.cons_append, List.nil_append, cutItems,
      cutItem]
    split
    · exact ⟨_, rfl⟩
    · exact ⟨[], rfl⟩
  have sent := kept.sent
  rw [idle, List.nil_append, cut] at sent
  cases written : after.written with
  | nil =>
      rw [written] at sent
      cases sent
  | cons datagram rest =>
      rw [written] at sent
      have carries := (List.forall₂_cons.mp sent).1
      have start := carries.start
      rw [List.length_append, List.length_singleton, ← cursor] at start
      exact ⟨after, datagram, rest, ran, written, start⟩

def ClientSession.sends (session : ClientSession) (calls : List Call) : Option (List Text) :=
  (session.performAll calls).map ClientSession.written

theorem sends_distinguishes_cursor (first second : ClientSession) (left : Usable first)
    (right : Usable second) (leftIdle : first.written = []) (rightIdle : second.written = [])
    (same : ∀ calls, first.sends calls = second.sends calls) : ¬first.cursor < second.cursor := by
  intro below
  have room := right.room
  have sized := right.sized
  have bound : first.cursor < second.buffer.length := by omega
  -- A character the second buffer does not hold at the first cursor.
  obtain ⟨c, other⟩ : ∃ c : UInt8, c ≠ second.buffer.get ⟨first.cursor, bound⟩ := by
    by_cases zero : second.buffer.get ⟨first.cursor, bound⟩ = 0
    · exact ⟨1, by rw [zero]; decide⟩
    · exact ⟨0, Ne.symm zero⟩
  obtain ⟨afterFirst, datagram, rest, ranFirst, sentFirst, startFirst⟩ :=
    head_carries first left leftIdle c
  obtain ⟨afterSecond, datagram', rest', ranSecond, sentSecond, startSecond⟩ :=
    head_carries second right rightIdle c
  have equal := same [.print [c], .flush]
  simp only [ClientSession.sends, ranFirst, ranSecond, Option.map_some, Option.some.injEq,
    sentFirst, sentSecond, List.cons.injEq] at equal
  obtain ⟨rfl, _⟩ := equal
  have unsent := left.holds.cursor
  have here : datagram[first.cursor]? = some c := by
    have taken := congrArg (fun text => text[first.cursor]?) startFirst
    have last : first.cursor - first.unsent.length = 0 := by omega
    rw [List.getElem?_take_of_lt (Nat.lt_succ_self _),
      List.getElem?_append_right (by omega), last] at taken
    exact taken
  have there : datagram[first.cursor]? = second.buffer[first.cursor]? := by
    have unsent' := right.holds.cursor
    have taken := congrArg (fun text => text[first.cursor]?) startSecond
    rw [List.getElem?_take_of_lt (by omega), List.getElem?_append_left (by omega),
      ClientSession.unsent, List.getElem?_take_of_lt below] at taken
    exact taken
  rw [here, List.getElem?_eq_getElem bound, Option.some.injEq] at there
  exact other there

theorem sends_iff_alike (first second : ClientSession) (left : Usable first)
    (right : Usable second) (leftIdle : first.written = []) (rightIdle : second.written = []) :
    (∀ calls, first.sends calls = second.sends calls) ↔ Alike first second := by
  constructor
  · intro same
    have notBelow := sends_distinguishes_cursor first second left right leftIdle rightIdle same
    have notAbove := sends_distinguishes_cursor second first right left rightIdle leftIdle
      fun calls => (same calls).symm
    have cursor : first.cursor = second.cursor := by omega
    refine ⟨cursor, ?_⟩
    intro index elsewhere
    have room := left.room
    have inside : 1 ≤ first.cursor + 1 ∧ first.cursor + 1 ≤ bufferLast := by omega
    have flushed := same [.flush]
    simp only [ClientSession.sends, ClientSession.performAll, ClientSession.perform,
      ClientSession.flush, ClientSession.flushBuffer, ClientSession.assign, ← cursor, if_pos room,
      if_pos inside, Nat.add_sub_cancel, Option.bind_eq_bind, Option.bind_some, Option.map_some,
      leftIdle, rightIdle, List.nil_append, Option.some.injEq, List.cons.injEq, and_true] at flushed
    have entry := congrArg (fun buffer => buffer[index]?) flushed
    simpa [List.getElem?_set_ne (Ne.symm elsewhere)] using entry
  · intro alike calls
    have twins : Twins first second :=
      ⟨alike, leftIdle.trans rightIdle.symm, left.sized, right.sized, left.room⟩
    rcases steady_performAll calls first second twins with same | ⟨one, two, ran, ran', still⟩
    · simp only [ClientSession.sends] at same ⊢
      rw [same]
    · simp only [ClientSession.sends, ran, ran', Option.map_some, still.written]

theorem Client.sentAfter_eq (client : Client) (before : List Call) (middle : ClientSession)
    (ran : client.session.performAll before = some middle) (label : Text) (granted : Int)
    (short : label.length ≤ 255) (open_ : valid granted = true) (later : List Call) :
    client.sentAfter before label granted later =
      ClientSession.sends { middle with written := [] } later := by
  have closed : ¬(Client.initialized ⟨-1, [], middle⟩ = true ∨ 255 < label.length) := by
    rintro (wrong | long)
    · cases wrong
    · omega
  have nonnegative := nonneg_of_valid open_
  simp only [Client.sentAfter, Client.reopen, Client.performAll, Client.finalize,
    Client.initializeSession, ran, Option.bind_eq_bind, Option.bind_some, if_neg closed,
    if_neg nonnegative, ClientSession.sends]
  cases ClientSession.performAll { middle with written := [] } later <;> rfl

/-- What is sent behind a restart depends on what was printed before it, unless both runs leave the
same cursor behind and buffers that differ at most where the next character goes. -/
theorem sameAfterwards_iff (client : Client) (usable : Usable client.session)
    (first second : List Call) :
    ∃ left right, client.session.performAll first = some left ∧
      client.session.performAll second = some right ∧
      (SameAfterwards client first second ↔ Alike left right) := by
  obtain ⟨left, ranLeft, usableLeft, _⟩ := @Usable.emits client.session usable first
  obtain ⟨right, ranRight, usableRight, _⟩ := @Usable.emits client.session usable second
  refine ⟨left, right, ranLeft, ranRight, ?_⟩
  have same := sends_iff_alike { left with written := [] } { right with written := [] }
    ⟨usableLeft.sized, usableLeft.room, by simp⟩ ⟨usableRight.sized, usableRight.room, by simp⟩
    rfl rfl
  rw [show Alike left right ↔ Alike { left with written := [] } { right with written := [] } from
    Iff.rfl, ← same]
  constructor
  · intro equal later
    have short : ([] : Text).length ≤ 255 := by decide
    rw [← client.sentAfter_eq first left ranLeft [] 0 short rfl,
      ← client.sentAfter_eq second right ranRight [] 0 short rfl]
    exact equal [] 0 later short rfl
  · intro equal label granted later short open_
    rw [client.sentAfter_eq first left ranLeft label granted short open_,
      client.sentAfter_eq second right ranRight label granted short open_, equal]

def sampleClient : Client := ⟨5, ascii "log", .initial⟩

theorem sample_usable : Usable sampleClient.session :=
  ⟨rfl, by decide, by decide⟩

/-- Complete lines of different lengths leave different buffers behind, equal ones the same. -/
theorem equal_lines_sameAfterwards :
    SameAfterwards sampleClient [.info (ascii "one") true]
      [.print (ascii "Info: one" ++ [lf])] := by
  obtain ⟨left, right, ranLeft, ranRight, same⟩ := sameAfterwards_iff sampleClient sample_usable
    [.info (ascii "one") true] [.print (ascii "Info: one" ++ [lf])]
  have equal : sampleClient.session.performAll [.info (ascii "one") true] =
      sampleClient.session.performAll [.print (ascii "Info: one" ++ [lf])] := by
    decide +kernel
  rw [ranLeft, ranRight, Option.some.injEq] at equal
  rw [same, equal]
  exact ⟨rfl, fun _ _ => rfl⟩

/-- Text that was not flushed before `Finalize` goes to the next server. -/
theorem unsent_text_leaks :
    sampleClient.sentAfter [.print (ascii "secret")] (ascii "other") 6 [.flush] =
        some [ascii "secret" ++ List.replicate 122 nul] ∧
      sampleClient.sentAfter [.print (ascii "public")] (ascii "other") 6 [.flush] =
        some [ascii "public" ++ List.replicate 122 nul] ∧
      ¬SameAfterwards sampleClient [.print (ascii "secret")] [.print (ascii "public")] := by
  have secret : sampleClient.sentAfter [.print (ascii "secret")] (ascii "other") 6 [.flush] =
      some [ascii "secret" ++ List.replicate 122 nul] := by
    decide +kernel
  have public_ : sampleClient.sentAfter [.print (ascii "public")] (ascii "other") 6 [.flush] =
      some [ascii "public" ++ List.replicate 122 nul] := by
    decide +kernel
  refine ⟨secret, public_, ?_⟩
  intro same
  have equal := same (ascii "other") 6 [.flush] (by decide) rfl
  rw [secret, public_] at equal
  revert equal
  decide +kernel

/-! The server. A `Server_Session` object goes through events of one client, a cleanup, and the
initialization for the next client. -/

inductive ServerStep where
  | sessionInitialize (fd : Int) (ready : Bool)
  | sessionEvent (datagram : Option Text)
  | sessionCleanup (cleanFd : Int)
  deriving DecidableEq, Repr

namespace ServerSession

def sessionInitialize (session : ServerSession) (fd : Int) (ready : Bool) : ServerSession :=
  let session := { session with fd := fd, indexValid := true, capValid := true }
  if ready then session else { session with fd := -1, indexValid := false, capValid := false }

def sessionCleanup (session : ServerSession) (cleanFd : Int) : ServerSession :=
  if cleanFd = session.fd ∧ session.initialized = true then
    { session with fd := -1, indexValid := false, capValid := false }
  else session

def step (session : ServerSession) : ServerStep → ServerSession
  | .sessionInitialize fd ready => session.sessionInitialize fd ready
  | .sessionEvent datagram => (session.sessionEvent datagram).1
  | .sessionCleanup cleanFd => session.sessionCleanup cleanFd

end ServerSession

/-- A text of one character is not written. -/
def report (text : Text) : Option Text :=
  if 1 < text.length then some text else none

/-- What a datagram alone has to report: its first 128 bytes up to a NUL. -/
def reported (datagram : Text) : Option Text :=
  report (textOf (datagram.take bufferLast))

/-- An event writes what its datagram reports, and nothing if it consumed none. -/
def Reports (session : ServerSession) : ServerStep → Prop
  | .sessionEvent datagram => (session.sessionEvent datagram).2 =
      if session.initialized = true then datagram.bind reported else none
  | _ => True

/-- A datagram that fills the buffer or brings its own NUL, or a buffer that has nothing to add. -/
def SelfContained (session : ServerSession) : ServerStep → Prop
  | .sessionEvent (some datagram) => session.initialized = true →
      bufferLast ≤ datagram.length ∨ nul ∈ datagram ∨
        session.buffer[datagram.length]? = some nul ∨
        datagram = [] ∧ (textOf session.buffer).length < 2
  | .sessionEvent none => session.initialized = true → (textOf session.buffer).length < 2
  | _ => True

theorem scanFrom_text (buffer : Text) :
    ServerSession.scanFrom buffer 1 1 =
      if (textOf buffer).length = 0 then 1 else (textOf buffer).length := by
  have free : ∀ c ∈ textOf buffer, c ≠ nul := fun c member =>
    of_decide_eq_true (List.mem_takeWhile_imp (p := fun c => decide (c ≠ nul)) member)
  have ended : (buffer.dropWhile fun c => decide (c ≠ nul)).headD nul = nul := by
    cases rest : buffer.dropWhile fun c => decide (c ≠ nul) with
    | nil => rfl
    | cons c _ =>
        have stopped := List.head?_dropWhile_not (fun c => decide (c ≠ nul)) buffer
        rw [rest] at stopped
        simpa using stopped
  have whole : buffer = textOf buffer ++ buffer.dropWhile fun c => decide (c ≠ nul) :=
    List.takeWhile_append_dropWhile.symm
  conv_lhs => rw [whole, scanFrom_piece _ _ 1 1 free ended]
  split
  · rfl
  · omega

theorem sessionEvent_text (session : ServerSession) (datagram : Option Text)
    (initialized : session.initialized = true) :
    (session.sessionEvent datagram).2 = report (textOf (session.readBuffer datagram).buffer) := by
  have running : ¬session.initialized = false := by simp [initialized]
  have cursor : (session.readBuffer datagram).cursor = 1 := by cases datagram <;> rfl
  have start : (session.readBuffer datagram).buffer.take
      (textOf (session.readBuffer datagram).buffer).length =
      textOf (session.readBuffer datagram).buffer :=
    (List.prefix_iff_eq_take.mp (List.takeWhile_prefix _)).symm
  simp only [ServerSession.sessionEvent, if_neg running, cursor, scanFrom_text, report]
  by_cases long : 1 < (textOf (session.readBuffer datagram).buffer).length
  · have nonempty : ¬(textOf (session.readBuffer datagram).buffer).length = 0 := by omega
    simp only [if_neg nonempty, if_pos long, start]
  · have short : ¬1 < if (textOf (session.readBuffer datagram).buffer).length = 0 then 1
        else (textOf (session.readBuffer datagram).buffer).length := by
      split <;> omega
    simp only [if_neg short, if_neg long]

theorem report_append_iff (front rest : Text) :
    report (front ++ rest) = report front ↔ rest = [] ∨ front = [] ∧ rest.length < 2 := by
  constructor
  · intro same
    by_cases nothing : rest = []
    · exact Or.inl nothing
    · have positive := List.length_pos_iff.mpr nothing
      have short : (front ++ rest).length < 2 := by
        by_contra long
        have whole : 1 < (front ++ rest).length := by omega
        simp only [report, if_pos whole] at same
        split at same
        · exact nothing (List.append_right_eq_self.mp (Option.some.inj same))
        · cases same
      rw [List.length_append] at short
      have empty : front.length = 0 := by omega
      exact Or.inr ⟨List.length_eq_zero_iff.mp empty, by omega⟩
  · rintro (rfl | ⟨rfl, short⟩)
    · rw [List.append_nil]
    · have single : ¬1 < rest.length := by omega
      simp [report, single]

theorem textOf_append_of_mem (front rest : Text) (ended : nul ∈ front) :
    textOf (front ++ rest) = textOf front := by
  induction front with
  | nil => cases ended
  | cons c front ih =>
      by_cases last : c = nul
      · simp [textOf, last]
      · have later : nul ∈ front := by
          rcases List.mem_cons.mp ended with same | later
          · exact (last same.symm).elim
          · exact later
        have single : ∀ other ∈ [c], other ≠ nul := by simpa using last
        have start := fun rest => textOf_append [c] rest single
        calc textOf ([c] ++ (front ++ rest)) = [c] ++ textOf (front ++ rest) := start _
          _ = [c] ++ textOf front := by rw [ih later]
          _ = textOf ([c] ++ front) := (start front).symm

theorem textOf_drop_iff (buffer : Text) (index : Nat) (inside : index < buffer.length) :
    textOf (buffer.drop index) = [] ↔ buffer[index]? = some nul := by
  rw [List.drop_eq_getElem_cons inside, List.getElem?_eq_getElem inside, Option.some.injEq, textOf,
    List.takeWhile_cons]
  split
  · rename_i other
    simp [of_decide_eq_true other]
  · rename_i same
    simpa using same

theorem reports_iff (session : ServerSession) (step : ServerStep)
    (sized : session.buffer.length = bufferLast) :
    Reports session step ↔ SelfContained session step := by
  cases step with
  | sessionInitialize fd ready => exact Iff.rfl
  | sessionCleanup cleanFd => exact Iff.rfl
  | sessionEvent datagram =>
      by_cases initialized : session.initialized = true
      · have text := sessionEvent_text session datagram initialized
        cases datagram with
        | none =>
            have alone := report_append_iff [] (textOf session.buffer)
            rw [List.nil_append] at alone
            simp only [Reports, SelfContained, text, initialized, if_true, forall_const,
              Option.bind_none, ServerSession.readBuffer]
            refine alone.trans ?_
            constructor
            · rintro (empty | ⟨_, short⟩)
              · rw [empty]
                decide
              · exact short
            · exact fun short => Or.inr ⟨rfl, short⟩
        | some datagram =>
            simp only [Reports, SelfContained, text, initialized, if_true, forall_const,
              Option.bind_some, ServerSession.readBuffer, reported]
            by_cases full : bufferLast ≤ datagram.length
            · have whole : overlay bufferLast datagram session.buffer =
                  datagram.take bufferLast := by
                rw [overlay, Nat.sub_eq_zero_of_le full, List.take_zero, List.append_nil]
              simp [whole, full]
            · have below : datagram.length < bufferLast := by omega
              have whole : overlay bufferLast datagram session.buffer =
                  datagram ++ session.buffer.drop datagram.length := by
                rw [overlay_fits _ _ _ (by omega), List.take_of_length_le]
                rw [List.length_drop, sized]
              rw [whole, List.take_of_length_le (by omega)]
              by_cases ended : nul ∈ datagram
              · simp [textOf_append_of_mem _ _ ended, ended]
              · have free : ∀ c ∈ datagram, c ≠ nul := by
                  rintro c member rfl
                  exact ended member
                have own : textOf datagram = datagram := by
                  have all := textOf_append datagram [] free
                  rwa [List.append_nil, textOf_ended [] rfl, List.append_nil] at all
                rw [textOf_append _ _ free, own, report_append_iff,
                  textOf_drop_iff _ _ (by omega)]
                simp only [full, ended, false_or]
                apply or_congr_right
                apply and_congr_right
                rintro rfl
                rw [List.length_nil, List.drop_zero]
      · have idle : session.initialized = false := by simpa using initialized
        cases datagram <;>
          simp [Reports, SelfContained, ServerSession.sessionEvent, idle]

theorem step_sized (session : ServerSession) (step : ServerStep)
    (sized : session.buffer.length = bufferLast) :
    (session.step step).buffer.length = bufferLast := by
  cases step with
  | sessionInitialize fd ready =>
      simp only [ServerSession.step, ServerSession.sessionInitialize]
      split <;> exact sized
  | sessionCleanup cleanFd =>
      simp only [ServerSession.step, ServerSession.sessionCleanup]
      split <;> exact sized
  | sessionEvent datagram =>
      have received : (session.readBuffer datagram).buffer.length = bufferLast := by
        cases datagram with
        | none => exact sized
        | some bytes => exact overlay_length bufferLast bytes session.buffer sized
      simp only [ServerSession.step, ServerSession.sessionEvent]
      split
      · exact sized
      · split <;> exact received

/-- Along every run, clients that come and go included, all events report their own datagrams
exactly if every datagram stands for itself. -/
theorem log_reports_iff (session : ServerSession) (steps : List ServerStep)
    (sized : session.buffer.length = bufferLast) :
    EachStep ServerSession.step Reports session steps ↔
      EachStep ServerSession.step SelfContained session steps := by
  refine eachStep_iff_of_invariant ServerSession.step
    (fun session => session.buffer.length = bufferLast) Reports SelfContained ?_ ?_ session steps
    sized
  · exact fun state step sized _ => step_sized state step sized
  · exact reports_iff

def emptyServer : ServerSession := ⟨-1, false, false, List.replicate bufferLast nul, 1⟩

theorem terminated_reported :
    EachStep ServerSession.step Reports emptyServer
      [.sessionInitialize 7 true, .sessionEvent (some (ascii "first" ++ [nul])),
        .sessionCleanup 7, .sessionInitialize 8 true,
        .sessionEvent (some (ascii "ab" ++ [nul]))] := by
  refine (log_reports_iff emptyServer _ rfl).mpr ⟨trivial, ?_, trivial, trivial, ?_, trivial⟩
  · intro _
    exact Or.inr (Or.inl (by decide))
  · intro _
    exact Or.inr (Or.inl (by decide))

/-- The second client sends two characters and is handed the rest of the first client's line. -/
theorem earlier_client_reported :
    let steps : List ServerStep := [.sessionInitialize 7 true,
      .sessionEvent (some (ascii "a secret" ++ List.replicate 120 nul)), .sessionCleanup 7,
      .sessionInitialize 8 true]
    ((run ServerSession.step emptyServer steps).sessionEvent (some (ascii "ab"))).2 =
        some (ascii "absecret") ∧
      ¬EachStep ServerSession.step Reports emptyServer
        (steps ++ [.sessionEvent (some (ascii "ab"))]) := by
  intro steps
  have text : ((run ServerSession.step emptyServer steps).sessionEvent (some (ascii "ab"))).2 =
      some (ascii "absecret") := by
    decide +kernel
  refine ⟨text, ?_⟩
  rintro ⟨_, _, _, _, own, _⟩
  have alone : some (ascii "absecret") = reported (ascii "ab") := text.symm.trans own
  revert alone
  decide +kernel

end Gneiss.Log
