import Mathlib.Data.List.TakeWhile
import Gneiss.Genode.LogClient
import Gneiss.Genode.SessionRuns

/-!
The component `log_proxy` on Genode: up to ten log servers whose text goes, with the name of its
client in front and with colours, to the log service that the component is a client of. The text
passes a buffer for each server and then the buffer of the log client. Above it stands a display
that has no buffers at all and knows the sessions only by their names.
-/

namespace Gneiss.Genode.LogProxy

open Runs Chunks
open Gneiss.Log (nul lf)
open Gneiss.Genode.Log (ClientSession Slicer Complete reset)

inductive Color where
  | red | orange | yellow | green | cyan | blue | magenta
  deriving DecidableEq, Repr

/-- `Get_Color`. -/
def getColor : Color → Text
  | .red => 27 :: ascii "[31m"
  | .orange => 27 :: ascii "[91m"
  | .yellow => 27 :: ascii "[33m"
  | .green => 27 :: ascii "[32m"
  | .cyan => 27 :: ascii "[36m"
  | .blue => 27 :: ascii "[34m"
  | .magenta => 27 :: ascii "[35m"

def rainbow : Color → Color
  | .red => .orange
  | .orange => .yellow
  | .yellow => .green
  | .green => .cyan
  | .cyan => .blue
  | .blue => .magenta
  | .magenta => .red

/-- The part of `Server_Slot` that `Write` changes; `Ident`, `Last` and `Ready` belong to `root`. -/
structure Slot where
  buffer : Text
  cursor : Nat
  hue : Color

structure Proxy where
  root : Root.World 10
  slots : Fin 10 → Slot
  client : ClientSession

/-- `Buffer'Last`. -/
def bufferLast : Nat := 1024

namespace Proxy

variable (slicer : Slicer)

def setSlot (proxy : Proxy) (i : Fin 10) (slot : Slot) : Proxy :=
  { proxy with slots := Function.update proxy.slots i slot }

/-- The reset sequence is put behind the text, but the slice that is printed ends before it. -/
def flush (proxy : Proxy) (i : Fin 10) : Option Proxy := do
  let slot := proxy.slots i
  if slot.cursor + 4 ≤ bufferLast then
    let buffer := slot.buffer.take slot.cursor ++ reset ++ slot.buffer.drop (slot.cursor + 4)
    let client ← proxy.client.print slicer (buffer.take slot.cursor)
    let client ← client.flush slicer
    some (Proxy.setSlot { proxy with client := client } i
      { slot with buffer := buffer, cursor := 0 })
  else none

def put (proxy : Proxy) (i : Fin 10) (c : UInt8) : Option Proxy := do
  let proxy ←
    (if (proxy.slots i).cursor = bufferLast - 4 then proxy.flush slicer i else some proxy :
      Option Proxy)
  let slot := proxy.slots i
  if slot.cursor + 1 ≤ bufferLast then
    some (proxy.setSlot i
      { slot with buffer := slot.buffer.set slot.cursor c, cursor := slot.cursor + 1 })
  else none

def putAll (i : Fin 10) : Text → Proxy → Option Proxy
  | [], proxy => some proxy
  | c :: rest, proxy => do
      let proxy ← proxy.put slicer i c
      putAll i rest proxy

def putColor (proxy : Proxy) (i : Fin 10) (c : UInt8) : Option Proxy :=
  if c = lf ∨ c = nul then do
    let proxy ← putAll slicer i reset proxy
    let proxy ← proxy.put slicer i c
    proxy.flush slicer i
  else do
    let proxy ← putAll slicer i (getColor (proxy.slots i).hue) proxy
    let proxy ← proxy.put slicer i c
    let slot := proxy.slots i
    some (proxy.setSlot i { slot with hue := rainbow slot.hue })

def putColors (i : Fin 10) : Text → Proxy → Option Proxy
  | [], proxy => some proxy
  | c :: rest, proxy => do
      let proxy ← proxy.putColor slicer i c
      putColors i rest proxy

/-- `Write` of the server with index `i`. The client has been connected since `Construct`, so that
`Initialized` is about its cursor. -/
def write (proxy : Proxy) (i : Fin 10) (data : Text) : Option Proxy :=
  if 1 ≤ proxy.client.cursor ∧ proxy.client.cursor ≤ Log.bufferLast then do
    let proxy ← proxy.put slicer i 91
    let proxy ← putAll slicer i (proxy.root.slots i).text proxy
    let proxy ← proxy.put slicer i 93
    let proxy ← proxy.put slicer i 32
    let proxy ← putColors slicer i data proxy
    proxy.flush slicer i
  else some proxy

end Proxy

/-- Sessions come and go, and a client writes to the session that it has. -/
inductive Input where
  | root (input : Root.Input 10)
  | write (address : Nat) (data : Text)

namespace Proxy

/-- `Log_Component::write` passes on what `strlen` finds. -/
def step (slicer : Slicer) (proxy : Proxy) : Input → Proxy
  | .root input => { proxy with root := proxy.root.step .log input }
  | .write address data =>
      if proxy.root.halted then proxy
      else
        match proxy.root.live.find? fun component => component.address = address with
        | none => proxy
        | some component =>
            match proxy.write slicer component.server (Root.toString data) with
            | none => { proxy with root := { proxy.root with halted := true } }
            | some after => after

def initial (client : ClientSession) : Proxy where
  root := .initial
  slots _ := ⟨List.replicate bufferLast nul, 0, .red⟩
  client := client

end Proxy

/-! The display. -/

structure Display where
  root : Root.World 10
  hues : Fin 10 → Color
  text : Text

def paint : Color → Text → Text
  | _, [] => []
  | hue, c :: rest =>
      if c = lf ∨ c = nul then reset ++ [c] ++ paint hue rest
      else getColor hue ++ [c] ++ paint (rainbow hue) rest

def hueAfter : Color → Text → Color
  | hue, [] => hue
  | hue, c :: rest => if c = lf ∨ c = nul then hueAfter hue rest else hueAfter (rainbow hue) rest

/-- What a client writes, with its name and label in front. -/
def line (name label : Text) (hue : Color) (data : Text) : Text :=
  ascii "[" ++ Root.World.ident name label ++ ascii "] " ++ paint hue data

namespace Display

def write (display : Display) (session : Root.Session) (i : Fin 10) (data : Text) : Display :=
  { display with
    hues := Function.update display.hues i (hueAfter (display.hues i) data)
    text := display.text ++ line session.name session.label (display.hues i) data }

def step (display : Display) : Input → Display
  | .root input => { display with root := display.root.step .log input }
  | .write address data =>
      if display.root.halted then display
      else
        match display.root.sessions.find? fun session => session.address = address,
            display.root.live.find? fun component => component.address = address with
        | some session, some component =>
            display.write session component.server (Root.toString data)
        | _, _ => display

def initial : Display where
  root := .initial
  hues _ := .red
  text := []

end Display

/-! The buffers of the servers. -/

/-- Everything put so far was printed or is in the buffer of server `i`; nothing is left in any
other buffer. -/
structure Buffered (proxy : Proxy) (i : Fin 10) (printed : Text) : Prop where
  sized : ∀ j, (proxy.slots j).buffer.length = bufferLast
  room : (proxy.slots i).cursor + 4 ≤ bufferLast
  others : ∀ j, j ≠ i → (proxy.slots j).cursor = 0
  start : proxy.client.cursor = 1
  complete : ∃ sent, Complete proxy.client sent ∧
    sent ++ (proxy.slots i).buffer.take (proxy.slots i).cursor = printed

/-- What a step on the slot of server `i` leaves as it was. -/
structure Untouched (proxy after : Proxy) (i : Fin 10) : Prop where
  root : after.root = proxy.root
  hue : ∀ j, j ≠ i → (after.slots j).hue = (proxy.slots j).hue

theorem Untouched.refl (proxy : Proxy) (i : Fin 10) : Untouched proxy proxy i :=
  ⟨rfl, fun _ _ => rfl⟩

theorem Untouched.trans {proxy middle after : Proxy} {i : Fin 10}
    (first : Untouched proxy middle i) (second : Untouched middle after i) :
    Untouched proxy after i :=
  ⟨second.root.trans first.root, fun j other => (second.hue j other).trans (first.hue j other)⟩

section Steps

variable (slicer : Slicer) {proxy : Proxy} {i : Fin 10} {printed : Text}

theorem Buffered.flush (buffered : Buffered proxy i printed) :
    ∃ after, proxy.flush slicer i = some after ∧ Buffered after i printed ∧
      Untouched proxy after i ∧ (after.slots i).hue = (proxy.slots i).hue ∧
      (after.slots i).cursor = 0 := by
  obtain ⟨sent, complete, stream⟩ := buffered.complete
  have room := buffered.room
  have sized := buffered.sized i
  have length : ((proxy.slots i).buffer.take (proxy.slots i).cursor).length =
      (proxy.slots i).cursor := by
    rw [List.length_take]
    omega
  let buffer := (proxy.slots i).buffer.take (proxy.slots i).cursor ++ reset ++
    (proxy.slots i).buffer.drop ((proxy.slots i).cursor + 4)
  have text : buffer.take (proxy.slots i).cursor =
      (proxy.slots i).buffer.take (proxy.slots i).cursor := by
    simp only [buffer, List.append_assoc]
    rw [List.take_append_of_le_length (Nat.le_of_eq length.symm), List.take_take, Nat.min_self]
  obtain ⟨middle, printedTo, behind⟩ := complete.print slicer (buffer.take (proxy.slots i).cursor)
  obtain ⟨client, flushed, last, start⟩ := behind.flush slicer
  refine ⟨Proxy.setSlot { proxy with client := client } i
    { proxy.slots i with buffer := buffer, cursor := 0 }, ?_, ?_, ⟨rfl, ?_⟩, ?_, ?_⟩
  · unfold Proxy.flush
    simp only [if_pos room]
    simp only [buffer] at printedTo
    rw [printedTo, Option.bind_eq_bind, Option.bind_some, flushed]
    rfl
  · have whole : buffer.length = bufferLast := by
      simp only [buffer, List.length_append, length, List.length_drop, sized]
      have four : reset.length = 4 := rfl
      rw [four]
      omega
    constructor
    · intro j
      by_cases same : j = i
      · rw [same]
        simpa [Proxy.setSlot] using whole
      · simpa [Proxy.setSlot, Function.update_of_ne same] using buffered.sized j
    · simp [Proxy.setSlot, bufferLast]
    · intro j other
      simpa [Proxy.setSlot, Function.update_of_ne other] using buffered.others j other
    · exact start
    · refine ⟨_, last, ?_⟩
      simp only [Proxy.setSlot, Function.update_self, List.take_zero, List.append_nil, text]
      exact stream
  · intro j other
    simp [Proxy.setSlot, Function.update_of_ne other]
  · simp [Proxy.setSlot]
  · simp [Proxy.setSlot]

theorem Buffered.put (buffered : Buffered proxy i printed) (c : UInt8) :
    ∃ after, proxy.put slicer i c = some after ∧ Buffered after i (printed ++ [c]) ∧
      Untouched proxy after i ∧ (after.slots i).hue = (proxy.slots i).hue := by
  obtain ⟨middle, ran, behind, untouched, hue, space⟩ : ∃ middle : Proxy,
      (if (proxy.slots i).cursor = bufferLast - 4 then proxy.flush slicer i else some proxy) =
        some middle ∧ Buffered middle i printed ∧ Untouched proxy middle i ∧
      (middle.slots i).hue = (proxy.slots i).hue ∧ (middle.slots i).cursor + 4 < bufferLast := by
    by_cases full : (proxy.slots i).cursor = bufferLast - 4
    · obtain ⟨middle, ran, behind, untouched, hue, empty⟩ := buffered.flush slicer
      refine ⟨middle, by rw [if_pos full, ran], behind, untouched, hue, ?_⟩
      rw [empty]
      decide
    · refine ⟨proxy, if_neg full, buffered, .refl proxy i, rfl, ?_⟩
      have room := buffered.room
      omega
  obtain ⟨sent, complete, stream⟩ := behind.complete
  have sized := behind.sized i
  have inside : (middle.slots i).cursor < (middle.slots i).buffer.length := by omega
  refine ⟨middle.setSlot i
    { middle.slots i with
      buffer := (middle.slots i).buffer.set (middle.slots i).cursor c
      cursor := (middle.slots i).cursor + 1 }, ?_, ?_, untouched.trans ⟨rfl, ?_⟩, ?_⟩
  · unfold Proxy.put
    rw [ran, Option.bind_eq_bind, Option.bind_some]
    exact if_pos (by omega)
  · constructor
    · intro j
      by_cases same : j = i
      · rw [same]
        simpa [Proxy.setSlot] using sized
      · simpa [Proxy.setSlot, Function.update_of_ne same] using behind.sized j
    · simp only [Proxy.setSlot, Function.update_self]
      omega
    · intro j other
      simpa [Proxy.setSlot, Function.update_of_ne other] using behind.others j other
    · exact behind.start
    · refine ⟨sent, complete, ?_⟩
      simp only [Proxy.setSlot, Function.update_self]
      rw [List.take_add_one, List.take_set_of_le (Nat.le_refl _),
        List.getElem?_set_self inside, Option.toList_some, ← List.append_assoc, stream]
  · intro j other
    simp [Proxy.setSlot, Function.update_of_ne other]
  · simp [Proxy.setSlot, hue]

theorem Buffered.putAll (buffered : Buffered proxy i printed) (text : Text) :
    ∃ after, Proxy.putAll slicer i text proxy = some after ∧
      Buffered after i (printed ++ text) ∧ Untouched proxy after i ∧
      (after.slots i).hue = (proxy.slots i).hue := by
  induction text generalizing proxy printed with
  | nil =>
      rw [List.append_nil]
      exact ⟨proxy, rfl, buffered, .refl proxy i, rfl⟩
  | cons c rest ih =>
      obtain ⟨middle, ran, behind, untouched, hue⟩ := buffered.put slicer c
      obtain ⟨after, later, final, others, same⟩ := ih behind
      refine ⟨after, ?_, ?_, untouched.trans others, same.trans hue⟩
      · unfold Proxy.putAll
        rw [ran]
        exact later
      · rw [List.append_assoc] at final
        exact final

theorem Buffered.putColor (buffered : Buffered proxy i printed) (c : UInt8) :
    ∃ after, proxy.putColor slicer i c = some after ∧
      Buffered after i (printed ++ paint (proxy.slots i).hue [c]) ∧ Untouched proxy after i ∧
      (after.slots i).hue = hueAfter (proxy.slots i).hue [c] := by
  unfold Proxy.putColor paint hueAfter
  by_cases ends : c = lf ∨ c = nul
  · obtain ⟨first, ranFirst, behindFirst, untouchedFirst, hueFirst⟩ :=
      buffered.putAll slicer reset
    obtain ⟨second, ranSecond, behindSecond, untouchedSecond, hueSecond⟩ :=
      behindFirst.put slicer c
    obtain ⟨after, ran, behind, untouched, hue, _⟩ := behindSecond.flush slicer
    refine ⟨after, ?_, ?_, untouchedFirst.trans (untouchedSecond.trans untouched), ?_⟩
    · rw [if_pos ends, ranFirst, Option.bind_eq_bind, Option.bind_some, ranSecond]
      exact ran
    · rw [if_pos ends, paint, List.append_nil, ← List.append_assoc]
      exact behind
    · rw [if_pos ends, hueAfter, hue, hueSecond, hueFirst]
  · obtain ⟨first, ranFirst, behindFirst, untouchedFirst, hueFirst⟩ :=
      buffered.putAll slicer (getColor (proxy.slots i).hue)
    obtain ⟨second, ranSecond, behindSecond, untouchedSecond, hueSecond⟩ :=
      behindFirst.put slicer c
    refine ⟨second.setSlot i { second.slots i with hue := rainbow (second.slots i).hue }, ?_, ?_,
      untouchedFirst.trans (untouchedSecond.trans ⟨rfl, ?_⟩), ?_⟩
    · rw [if_neg ends, ranFirst, Option.bind_eq_bind, Option.bind_some, ranSecond]
      rfl
    · rw [if_neg ends, paint, List.append_nil, ← List.append_assoc]
      have slot (j : Fin 10) :
          ((second.setSlot i
            { second.slots i with hue := rainbow (second.slots i).hue }).slots j).buffer =
              (second.slots j).buffer ∧
          ((second.setSlot i
            { second.slots i with hue := rainbow (second.slots i).hue }).slots j).cursor =
              (second.slots j).cursor := by
        by_cases same : j = i
        · rw [same]
          simp [Proxy.setSlot]
        · simp [Proxy.setSlot, Function.update_of_ne same]
      constructor
      · intro j
        rw [(slot j).1]
        exact behindSecond.sized j
      · rw [(slot i).2]
        exact behindSecond.room
      · intro j other
        rw [(slot j).2]
        exact behindSecond.others j other
      · exact behindSecond.start
      · rw [(slot i).1, (slot i).2]
        exact behindSecond.complete
    · intro j other
      simp [Proxy.setSlot, Function.update_of_ne other]
    · rw [if_neg ends, hueAfter]
      simp [Proxy.setSlot, hueSecond, hueFirst]

theorem paint_cons (hue : Color) (c : UInt8) (rest : Text) :
    paint hue (c :: rest) = paint hue [c] ++ paint (hueAfter hue [c]) rest ∧
      hueAfter hue (c :: rest) = hueAfter (hueAfter hue [c]) rest := by
  simp only [paint, hueAfter]
  split <;> simp

theorem Buffered.putColors (buffered : Buffered proxy i printed) (data : Text) :
    ∃ after, Proxy.putColors slicer i data proxy = some after ∧
      Buffered after i (printed ++ paint (proxy.slots i).hue data) ∧ Untouched proxy after i ∧
      (after.slots i).hue = hueAfter (proxy.slots i).hue data := by
  induction data generalizing proxy printed with
  | nil =>
      rw [paint, List.append_nil]
      exact ⟨proxy, rfl, buffered, .refl proxy i, rfl⟩
  | cons c rest ih =>
      obtain ⟨middle, ran, behind, untouched, hue⟩ := buffered.putColor slicer c
      obtain ⟨after, later, final, others, last⟩ := ih behind
      obtain ⟨painted, cycled⟩ := paint_cons (proxy.slots i).hue c rest
      refine ⟨after, ?_, ?_, untouched.trans others, ?_⟩
      · unfold Proxy.putColors
        rw [ran]
        exact later
      · rw [hue, List.append_assoc, ← painted] at final
        exact final
      · rw [last, hue, cycled]

/-- Everything was handed to the log service. -/
structure Shown (proxy : Proxy) (printed : Text) : Prop where
  sized : ∀ i, (proxy.slots i).buffer.length = bufferLast
  empty : ∀ i, (proxy.slots i).cursor = 0
  start : proxy.client.cursor = 1
  complete : Complete proxy.client printed

theorem Shown.buffered (shown : Shown proxy printed) (i : Fin 10) : Buffered proxy i printed := by
  constructor
  · exact shown.sized
  · rw [shown.empty]
    decide
  · exact fun j _ => shown.empty j
  · exact shown.start
  · refine ⟨printed, shown.complete, ?_⟩
    rw [shown.empty, List.take_zero, List.append_nil]

theorem Buffered.shown (buffered : Buffered proxy i printed) (empty : (proxy.slots i).cursor = 0) :
    Shown proxy printed := by
  obtain ⟨sent, complete, stream⟩ := buffered.complete
  rw [empty, List.take_zero, List.append_nil] at stream
  constructor
  · exact buffered.sized
  · intro j
    by_cases same : j = i
    · rw [same, empty]
    · exact buffered.others j same
  · exact buffered.start
  · exact stream ▸ complete

theorem Shown.write (shown : Shown proxy printed) (i : Fin 10) (data : Text) :
    ∃ after, proxy.write slicer i data = some after ∧
      Shown after (printed ++ (ascii "[" ++ (proxy.root.slots i).text ++ ascii "] " ++
        paint (proxy.slots i).hue data)) ∧
      Untouched proxy after i ∧ (after.slots i).hue = hueAfter (proxy.slots i).hue data := by
  have initialized : 1 ≤ proxy.client.cursor ∧ proxy.client.cursor ≤ Log.bufferLast :=
    ⟨shown.complete.positive, shown.complete.bounded⟩
  obtain ⟨first, ranFirst, behindFirst, untouchedFirst, hueFirst⟩ :=
    (shown.buffered i).put slicer 91
  obtain ⟨second, ranSecond, behindSecond, untouchedSecond, hueSecond⟩ :=
    behindFirst.putAll slicer (first.root.slots i).text
  obtain ⟨third, ranThird, behindThird, untouchedThird, hueThird⟩ := behindSecond.put slicer 93
  obtain ⟨fourth, ranFourth, behindFourth, untouchedFourth, hueFourth⟩ :=
    behindThird.put slicer 32
  obtain ⟨fifth, ranFifth, behindFifth, untouchedFifth, hueFifth⟩ :=
    behindFourth.putColors slicer data
  obtain ⟨after, ran, behind, untouched, hue, empty⟩ := behindFifth.flush slicer
  have sameHue : (fourth.slots i).hue = (proxy.slots i).hue := by
    rw [hueFourth, hueThird, hueSecond, hueFirst]
  refine ⟨after, ?_, ?_, ?_, ?_⟩
  · unfold Proxy.write
    rw [if_pos initialized]
    simp only [ranFirst, ranSecond, ranThird, ranFourth, ranFifth, ran, Option.bind_eq_bind,
      Option.bind_some]
  · have text := behind.shown empty
    rw [sameHue, untouchedFirst.root] at text
    have brackets : ascii "[" = [91] ∧ ascii "] " = [93, 32] := ⟨rfl, rfl⟩
    rw [brackets.1, brackets.2]
    simpa using text
  · exact untouchedFirst.trans (untouchedSecond.trans (untouchedThird.trans
      (untouchedFourth.trans (untouchedFifth.trans untouched))))
  · rw [hue, hueFifth, sameHue]

end Steps

/-! The proxy against the display. -/

open Root in
/-- The buffers make no difference: the display shows what the log service received. -/
structure Follows (proxy : Proxy) (display : Display) : Prop where
  root : proxy.root = display.root
  hues : ∀ i, (proxy.slots i).hue = display.hues i
  shown : Shown proxy display.text
  matched : Matched .log proxy.root proxy.root.sessions

theorem follows_initial (client : ClientSession) :
    Follows (.initial (Log.opened client)) .initial where
  root := rfl
  hues _ := rfl
  shown := by
    refine ⟨fun i => List.length_replicate, fun i => rfl, rfl, ?_⟩
    exact Log.complete_opened client
  matched := Root.matched_initial .log

theorem Follows.write {proxy : Proxy} {display : Display} (slicer : Slicer)
    (follows : Follows proxy display) (address : Nat) (data : Text) :
    Follows (proxy.step slicer (.write address data)) (display.step (.write address data)) := by
  unfold Proxy.step Display.step
  simp only [← follows.root]
  split
  · exact follows
  · cases found : proxy.root.live.find? fun component => component.address = address with
    | none =>
        simp only
        split
        · rename_i impossible
          cases impossible
        · exact follows
    | some component =>
        have alive := List.mem_of_find?_eq_some found
        have itsAddress : component.address = address := by
          simpa using List.find?_some found
        obtain ⟨session, open_⟩ : ∃ session,
            (proxy.root.sessions.find? fun session => session.address = address) =
              some session := by
          rw [← Option.isSome_iff_exists, List.find?_isSome]
          have known : address ∈ proxy.root.sessions.map Root.Session.address :=
            follows.matched.handed.mem_iff.mpr (itsAddress ▸ List.mem_map_of_mem alive)
          obtain ⟨session, member, same⟩ := List.mem_map.mp known
          exact ⟨session, member, by simpa using same⟩
        have itsSession : session.address = address := by
          simpa using List.find?_some open_
        have named := (follows.matched.named session (List.mem_of_find?_eq_some open_) component
          alive (itsAddress.trans itsSession.symm)).known rfl
        obtain ⟨after, ran, shown, untouched, hue⟩ :=
          follows.shown.write slicer component.server (Root.toString data)
        simp only [open_, ran]
        constructor
        · exact untouched.root.trans follows.root
        · intro i
          by_cases same : i = component.server
          · rw [same, hue, follows.hues]
            simp [Display.write]
          · rw [untouched.hue i same, follows.hues]
            simp [Display.write, Function.update_of_ne same]
        · rw [named, follows.hues] at shown
          exact shown
        · rw [untouched.root]
          exact follows.matched

theorem Follows.step {proxy : Proxy} {display : Display} (slicer : Slicer)
    (follows : Follows proxy display) (input : Input) :
    Follows (proxy.step slicer input) (display.step input) := by
  cases input with
  | root input =>
      constructor
      · exact congrArg (fun root => Root.World.step .log root input) follows.root
      · exact follows.hues
      · exact ⟨follows.shown.sized, follows.shown.empty, follows.shown.start,
          follows.shown.complete⟩
      · exact (Root.stepped follows.matched input).2
  | write address data => exact follows.write slicer address data

theorem follows_run (slicer : Slicer) (client : ClientSession) (inputs : List Input) :
    Follows (run (Proxy.step slicer) (.initial (Log.opened client)) inputs)
      (run Display.step .initial inputs) := by
  suffices both : ∀ proxy display, Follows proxy display →
      Follows (run (Proxy.step slicer) proxy inputs) (run Display.step display inputs) from
    both _ _ (follows_initial client)
  induction inputs with
  | nil => exact fun proxy display follows => follows
  | cons input rest ih =>
      exact fun proxy display follows => ih _ _ (follows.step slicer input)

/-! The messages are strings that end with a zero byte, and there is none before their end. -/

theorem toString_clean (text : Text) : nul ∉ Root.toString text := by
  intro member
  have kept := List.mem_takeWhile_imp member
  simp [nul] at kept

theorem getColor_clean (hue : Color) : nul ∉ getColor hue := by
  cases hue <;> decide

theorem paint_clean (hue : Color) (data : Text) (clean : nul ∉ data) : nul ∉ paint hue data := by
  induction data generalizing hue with
  | nil => simp [paint]
  | cons c rest ih =>
      have first : nul ≠ c := fun same => clean (same ▸ List.mem_cons_self)
      have later : nul ∉ rest := fun member => clean (List.mem_cons_of_mem _ member)
      have noReset : nul ∉ reset := by decide
      unfold paint
      split
      · simp only [List.mem_append, List.mem_singleton, not_or]
        exact ⟨⟨noReset, first⟩, ih hue later⟩
      · simp only [List.mem_append, List.mem_singleton, not_or]
        exact ⟨⟨getColor_clean hue, first⟩, ih _ later⟩

/-- No name, no label and nothing that was shown has a zero byte in it. -/
structure Clean (display : Display) : Prop where
  matched : Root.Matched .log display.root display.root.sessions
  sessions : ∀ session ∈ display.root.sessions, nul ∉ session.name ∧ nul ∉ session.label
  text : nul ∉ display.text

theorem arguments_clean (kind : Root.Kind) (front lastElement : Root.SessionLabel) :
    nul ∉ (Root.World.arguments kind front lastElement).1 ∧
      nul ∉ (Root.World.arguments kind front lastElement).2 := by
  have first := toString_clean front.characters
  have second := toString_clean lastElement.characters
  rw [← Root.toAda_eq kind front] at first
  rw [← Root.toAda_eq kind lastElement] at second
  unfold Root.World.arguments
  simp only
  split
  · exact ⟨first, second⟩
  · exact ⟨second, first⟩

theorem sessions_clean {world after : Root.World 10} {input : Root.Input 10}
    (step : Root.Stepped .log world input after)
    (clean : ∀ session ∈ world.sessions, nul ∉ session.name ∧ nul ∉ session.label) :
    ∀ session ∈ after.sessions, nul ∉ session.name ∧ nul ∉ session.label := by
  cases step with
  | raised log front lastElement offers i free fails => exact clean
  | nothing _ refused unknown => exact clean
  | denied front lastElement offers after unserved =>
      rw [unserved.sessions]
      exact clean
  | granted front lastElement offers after i address admitted =>
      intro session member
      rcases List.mem_append.mp member with before | last
      · exact clean session before
      · rw [List.mem_singleton.mp last]
        exact arguments_clean .log front lastElement
  | closed i address serving alive =>
      exact fun session member => clean session (List.mem_filter.mp member).1

theorem Clean.step {display : Display} (clean : Clean display) (input : Input) :
    Clean (display.step input) := by
  cases input with
  | root input =>
      obtain ⟨step, next⟩ := Root.stepped clean.matched input
      exact ⟨next, sessions_clean step clean.sessions, clean.text⟩
  | write address data =>
      unfold Display.step
      simp only
      split
      · exact clean
      · split
        · rename_i session component open_ _
          refine ⟨clean.matched, clean.sessions, ?_⟩
          obtain ⟨name, label⟩ := clean.sessions session (List.mem_of_find?_eq_some open_)
          have painted := paint_clean (display.hues component.server) (Root.toString data)
            (toString_clean data)
          have brackets : nul ∉ ascii "[" ∧ nul ∉ ascii "] " ∧ nul ∉ ascii ":" := by decide
          simp only [Display.write, line, Root.World.ident, List.mem_append, not_or]
          exact ⟨clean.text, ⟨⟨brackets.1, ⟨name, brackets.2.2⟩, label⟩, brackets.2.1⟩, painted⟩
        · exact clean

theorem clean_initial : Clean .initial := by
  refine ⟨Root.matched_initial .log, ?_, List.not_mem_nil⟩
  intro session member
  cases member

/-- What the log service reads of a message. -/
def received (message : Text) : Text :=
  Root.toString message

/-- In every run, whatever sessions come and go and whatever their clients write, the log service
receives what the display shows: every line whole, once, in order, with the name and label of the
client that wrote it and in the colours of its server. No message is empty or too long, and nothing
is left behind in a buffer. -/
theorem log_proxy_relays (slicer : Slicer) (client : ClientSession) (inputs : List Input) :
    let proxy := run (Proxy.step slicer) (.initial (Log.opened client)) inputs
    let display := run Display.step .initial inputs
    proxy.root = display.root ∧
      (proxy.client.written.map received).flatten = display.text ∧
      (∀ message ∈ proxy.client.written,
        1 ≤ (received message).length ∧ message = received message ++ [nul] ∧
          message.length ≤ Log.maximumMessageLength + 1) ∧
      proxy.client.cursor = 1 ∧ ∀ i, (proxy.slots i).cursor = 0 := by
  intro proxy display
  have follows : Follows proxy display := follows_run slicer client inputs
  have clean : Clean display := run_invariant Display.step Clean
    (fun _ input holds => holds.step input) _ inputs clean_initial
  have stream := follows.shown.complete.stream
  have nothing : slice proxy.client.buffer (1, proxy.client.cursor - 1) = [] := by
    rw [follows.shown.start]
    rfl
  rw [nothing, List.append_nil] at stream
  have whole (message : Text) (member : message ∈ proxy.client.written) :
      received message = message.dropLast := by
    obtain ⟨text, rfl, _, _⟩ := follows.shown.complete.messages message member
    have cleanText : nul ∉ text := by
      intro inside
      refine clean.text ?_
      rw [← stream]
      refine List.mem_flatten.mpr ⟨text, List.mem_map.mpr ⟨_, member, ?_⟩, inside⟩
      exact List.dropLast_concat
    have all : ∀ c ∈ text, decide (c ≠ 0) = true := by
      intro c inside
      refine decide_eq_true fun zero => ?_
      rw [zero] at inside
      exact cleanText inside
    rw [List.dropLast_concat, received, Root.toString, List.takeWhile_append_of_pos all]
    simp [nul]
  refine ⟨follows.root, ?_, ?_, follows.shown.start, follows.shown.empty⟩
  · rw [List.map_congr_left whole]
    exact stream
  · intro message member
    rw [whole message member]
    obtain ⟨text, rfl, nonempty, short⟩ := follows.shown.complete.messages message member
    rw [List.dropLast_concat]
    refine ⟨nonempty, rfl, ?_⟩
    rw [List.length_append]
    exact Nat.add_le_add_right short 1

end Gneiss.Genode.LogProxy
