import Mathlib.Data.List.Nodup
import Gneiss.Platform.Syscall
import Gneiss.Broker.StartupRuns

/-!
`Read_Message` down to the control buffer of `read_message`. `readMessage` takes the descriptors of
a message to arrive as they were sent; here the four slots of `Fds` are filled from the buffer, and
the two agree where no stale word reaches a slot.
-/

namespace Gneiss

open Descriptors

variable {sxml : Sxml} {size : Nat}

/-- The descriptors attached to a message, the numbers they are installed under, and what the
control buffer held before. -/
structure Arrival (table : Table) where
  sent : List Int
  numberOf : Nat → Int
  control : Syscall.ControlBuffer 4
  fresh : ∀ slot, table.fresh (numberOf slot) = true
  distinct : Function.Injective numberOf

namespace Arrival

variable {table : Table}

def received (arrival : Arrival table) : Syscall.Received :=
  Syscall.recvmsg 4 (Syscall.writeMessage arrival.sent) arrival.numberOf arrival.control

def fds (arrival : Arrival table) : List Int :=
  Syscall.readMessage 4 arrival.received

def install (arrival : Arrival table) : Table :=
  arrival.received.arrived.foldl Table.insert table

/-- No stale word that reaches a slot names a descriptor that was open before. -/
def Harmless (arrival : Arrival table) : Prop :=
  arrival.sent.length = 0 ∨ 4 ≤ arrival.sent.length ∨
    ∀ slot, arrival.sent.length ≤ slot → slot < 4 →
      valid (arrival.control.val.getD slot (-1)) = true →
      arrival.control.val.getD slot (-1) ∉ table.opened

end Arrival

def readMessageWords (generated : GeneratedPacket) (world : World sxml size) (index : Fin size)
    (datagram : Text) (stale : Packet.Buffer) (arrival : Arrival world.table)
    (outcome : Outcome) : World sxml size :=
  let fds := arrival.fds
  let world := { world with table := arrival.install }
  match Packet.receive generated (some datagram) stale with
  | .invalid => world.closeAll fds
  | .valid action kind name label =>
      let world := { world with
        handled := world.handled ++ [⟨index, action, kind, name.text, label.text, fds⟩] }
      handleMessage world index action kind name.text label.text fds outcome

/-- Among the descriptors open after the receive, exactly those that arrived are closed. -/
def ClosesArrived {table : Table} (arrival : Arrival table) (after : World sxml size) : Prop :=
  ∀ fd, valid fd = true →
    ((fd ∈ arrival.install.opened ∧ fd ∉ after.table.opened) ↔ fd ∈ arrival.received.arrived)

namespace Arrival

variable {table : Table}

theorem mem_install (arrival : Arrival table) (fd : Int) :
    fd ∈ arrival.install.opened ↔ fd ∈ arrival.received.arrived ∨ fd ∈ table.opened :=
  mem_insertAll table _ fd

theorem mem_arrived (arrival : Arrival table) (fd : Int) :
    fd ∈ arrival.received.arrived ↔
      ∃ slot, slot < arrival.sent.length ∧ slot < 4 ∧ arrival.numberOf slot = fd := by
  have words : Syscall.controlWords 4 = 4 := rfl
  rw [received, Syscall.arrived_eq, words]
  simp only [List.mem_map, List.mem_range]
  constructor
  · rintro ⟨slot, bound, same⟩
    exact ⟨slot, by omega, by omega, same⟩
  · rintro ⟨slot, sent, bound, same⟩
    exact ⟨slot, by omega, same⟩

theorem arrived_fresh (arrival : Arrival table) (fd : Int)
    (arrived : fd ∈ arrival.received.arrived) : fd ∉ table.opened := by
  obtain ⟨slot, _, _, rfl⟩ := (arrival.mem_arrived fd).mp arrived
  exact ((fresh_iff table _).mp (arrival.fresh slot)).2

theorem mem_fds (arrival : Arrival table) (fd : Int) (open_ : valid fd = true) :
    fd ∈ arrival.fds ↔ fd ∈ arrival.received.arrived ∨
      ∃ slot, 0 < arrival.sent.length ∧ arrival.sent.length ≤ slot ∧ slot < 4 ∧
        arrival.control.val.getD slot (-1) = fd := by
  rw [valid_iff] at open_
  rcases Nat.eq_zero_or_pos arrival.sent.length with empty | some_
  · have nothing : arrival.sent = [] := List.length_eq_zero_iff.mp empty
    rw [mem_arrived, fds, received, nothing, Syscall.readMessage_nothing]
    simp only [List.mem_replicate, List.length_nil]
    constructor
    · rintro ⟨_, same⟩
      omega
    · rintro (⟨_, impossible, _⟩ | ⟨_, impossible, _⟩) <;> omega
  · have slots := fun slot (bound : slot < 4) => Syscall.readMessage_slot 4 arrival.sent
      arrival.numberOf arrival.control slot bound some_
    rw [mem_arrived, List.mem_iff_getElem?]
    constructor
    · rintro ⟨slot, found⟩
      have bound : slot < 4 := by
        have inside := (List.getElem?_eq_some_iff.mp found).1
        rwa [fds, received, Syscall.readMessage_length] at inside
      rw [fds, received, slots slot bound, Option.some.injEq] at found
      by_cases arrived : slot < arrival.sent.length
      · rw [if_pos arrived] at found
        exact Or.inl ⟨slot, arrived, bound, found⟩
      · rw [if_neg arrived, if_pos (by omega)] at found
        exact Or.inr ⟨slot, some_, by omega, bound, found⟩
    · rintro (⟨slot, arrived, bound, same⟩ | ⟨slot, _, beyond, bound, same⟩)
      · refine ⟨slot, ?_⟩
        rw [fds, received, slots slot bound, if_pos arrived, same]
      · refine ⟨slot, ?_⟩
        rw [fds, received, slots slot bound, if_neg (by omega), if_pos (by omega), same]

end Arrival

theorem dropped_table (generated : GeneratedPacket) (world : World sxml size) (index : Fin size)
    (datagram : Text) (stale : Packet.Buffer) (arrival : Arrival world.table) (outcome : Outcome)
    (dropped : Packet.receive generated (some datagram) stale = .invalid) :
    (readMessageWords generated world index datagram stale arrival outcome).table =
      arrival.install.closeAll arrival.fds := by
  simp only [readMessageWords, dropped, World.closeAll_table]

theorem dropped_closesArrived_iff (generated : GeneratedPacket) (world : World sxml size)
    (index : Fin size) (datagram : Text) (stale : Packet.Buffer) (arrival : Arrival world.table)
    (outcome : Outcome) (dropped : Packet.receive generated (some datagram) stale = .invalid) :
    ClosesArrived arrival (readMessageWords generated world index datagram stale arrival outcome) ↔
      arrival.Harmless := by
  have table := dropped_table generated world index datagram stale arrival outcome dropped
  constructor
  · intro closes
    by_cases none_ : arrival.sent.length = 0
    · exact Or.inl none_
    · refine Or.inr (Or.inr fun slot beyond bound open_ member => ?_)
      have named := (arrival.mem_fds _ open_).mpr
        (Or.inr ⟨slot, by omega, beyond, bound, rfl⟩)
      have gone := (closes _ open_).mp ⟨(arrival.mem_install _).mpr (Or.inr member), by
        rw [table, mem_closeAll _ _ _ open_]
        exact fun kept => kept.2 named⟩
      exact arrival.arrived_fresh _ gone member
  · intro harmless fd open_
    rw [table, mem_closeAll _ _ _ open_]
    constructor
    · rintro ⟨installed, closed⟩
      have named : fd ∈ arrival.fds := by
        by_contra absent
        exact closed ⟨installed, absent⟩
      rcases (arrival.mem_fds fd open_).mp named with arrived | ⟨slot, some_, beyond, bound, same⟩
      · exact arrived
      · rcases (arrival.mem_install fd).mp installed with arrived | before
        · exact arrived
        · rcases harmless with none_ | enough | harmless
          · omega
          · omega
          · exact (harmless slot beyond bound (by rwa [same]) (by rwa [same])).elim
    · intro arrived
      refine ⟨(arrival.mem_install fd).mpr (Or.inl arrived), fun kept => ?_⟩
      exact kept.2 ((arrival.mem_fds fd open_).mpr (Or.inl arrived))

/-! With clean words the slots hold what was sent, and `readMessage` is what the code does. -/

theorem exactSlots_append (num count : Nat) (numberOf : Nat → Int) :
    Syscall.exactSlots num count numberOf =
      (List.range (min count num)).map numberOf ++ List.replicate (num - min count num) (-1) := by
  apply List.ext_getElem?
  intro slot
  by_cases bound : slot < num
  · by_cases received : slot < min count num
    · rw [List.getElem?_append_left (by simpa using received)]
      simp only [Syscall.exactSlots, List.getElem?_map, List.getElem?_range bound,
        List.getElem?_range received, Option.map_some, if_pos received]
    · rw [List.getElem?_append_right (by simp; omega), List.getElem?_replicate,
        if_pos (by simp; omega)]
      simp only [Syscall.exactSlots, List.getElem?_map, List.getElem?_range bound, Option.map_some,
        if_neg received]
  · rw [List.getElem?_eq_none (by simp [Syscall.exactSlots]; omega),
      List.getElem?_eq_none (by simp; omega)]

def Arrival.delivery {table : Table} (arrival : Arrival table) (datagram : Text)
    (stale : Packet.Buffer) : Delivery where
  datagram := some datagram
  stale := stale
  offered slot :=
    (Syscall.exactSlots 4 arrival.sent.length arrival.numberOf).getD slot (-1)

theorem Arrival.delivery_fds {table : Table} (arrival : Arrival table) (datagram : Text)
    (stale : Packet.Buffer) :
    (arrival.delivery datagram stale).fds =
      Syscall.exactSlots 4 arrival.sent.length arrival.numberOf := by
  simp [Delivery.fds, Arrival.delivery, Syscall.exactSlots, List.range_succ]

/-- Where the words are clean, the word by word reading is `readMessage`. -/
theorem readMessageWords_eq (generated : GeneratedPacket) (world : World sxml size)
    (index : Fin size) (datagram : Text) (stale : Packet.Buffer) (arrival : Arrival world.table)
    (outcome : Outcome)
    (clean : Syscall.CleanWords arrival.sent.length 4 arrival.control.val) :
    readMessageWords generated world index datagram stale arrival outcome =
      readMessage generated world index (arrival.delivery datagram stale) outcome := by
  have exact_ : arrival.fds = Syscall.exactSlots 4 arrival.sent.length arrival.numberOf :=
    (Syscall.readMessage_exact_iff 4 arrival.sent arrival.numberOf arrival.control).mpr clean
  have words : Syscall.controlWords 4 = 4 := rfl
  have received : world.table.receive
      (Syscall.exactSlots 4 arrival.sent.length arrival.numberOf) =
        (arrival.install, Syscall.exactSlots 4 arrival.sent.length arrival.numberOf) := by
    rw [exactSlots_append, receive_fresh, Arrival.install, Arrival.received, Syscall.arrived_eq,
      words]
    · intro fd member
      obtain ⟨slot, _, rfl⟩ := List.mem_map.mp member
      exact arrival.fresh slot
    · exact (List.nodup_map_iff arrival.distinct).mpr List.nodup_range
  simp only [readMessageWords, readMessage, Arrival.delivery_fds, received, exact_]
  rfl

/-- Every array of slots, and the four slots of a message that is dropped. -/
theorem descriptors_exact_iff (num : Nat) (sent : List Int) (numberOf : Nat → Int)
    (words : Syscall.ControlBuffer num) (generated : GeneratedPacket) (world : World sxml size)
    (index : Fin size) (datagram : Text) (stale : Packet.Buffer) (arrival : Arrival world.table)
    (outcome : Outcome) (dropped : Packet.receive generated (some datagram) stale = .invalid) :
    (Syscall.readMessage num
          (Syscall.recvmsg num (Syscall.writeMessage sent) numberOf words) =
        Syscall.exactSlots num sent.length numberOf ↔
      Syscall.CleanWords sent.length num words.val) ∧
    (ClosesArrived arrival
        (readMessageWords generated world index datagram stale arrival outcome) ↔
      arrival.Harmless) :=
  ⟨Syscall.readMessage_exact_iff num sent numberOf words,
    dropped_closesArrived_iff generated world index datagram stale arrival outcome dropped⟩

/-! One descriptor arrives at the sample system while the control buffer still holds `word`. -/

def filledControl (word : Int) : Syscall.ControlBuffer 4 :=
  ⟨[word, word, word, word], rfl⟩

theorem filledControl_getD (word : Int) (slot : Nat) (bound : slot < 4) :
    (filledControl word).val.getD slot (-1) = word := by
  match slot, bound with
  | 0, _ => rfl
  | 1, _ => rfl
  | 2, _ => rfl
  | 3, _ => rfl

theorem sample_fresh (slot : Nat) : sampleWorld.table.fresh (20 + slot) = true := by
  have opened : sampleWorld.table.opened = [6, 4, 3, 0, 1, 2] := by decide +kernel
  rw [fresh_iff, valid_iff, opened]
  simp
  omega

def sampleArrival (word : Int) : Arrival sampleWorld.table where
  sent := [5]
  numberOf slot := 20 + slot
  control := filledControl word
  fresh := sample_fresh
  distinct := by
    intro first second same
    have equal : (20 : Int) + first = 20 + second := same
    omega

theorem sample_dropped :
    Packet.receive referencePacket (some [255]) Packet.Buffer.zero = .invalid := by
  decide +kernel

theorem sample_clean_received :
    (Syscall.readMessage 4 (Syscall.recvmsg 4 (Syscall.writeMessage [5]) (20 + ·)
          (filledControl (-1))) = [20, -1, -1, -1]) ∧
      ClosesArrived (sampleArrival (-1)) (readMessageWords referencePacket sampleWorld 0 [255]
        Packet.Buffer.zero (sampleArrival (-1)) sampleOutcome) := by
  have both := descriptors_exact_iff 4 [5] (20 + ·) (filledControl (-1)) referencePacket
    sampleWorld 0 [255] Packet.Buffer.zero (sampleArrival (-1)) sampleOutcome sample_dropped
  constructor
  · rw [both.1.mpr (Or.inr (Or.inr fun slot _ bound => ?_))]
    · decide
    · exact filledControl_getD (-1) slot (by omega)
  · refine both.2.mpr (Or.inr (Or.inr fun slot _ bound open_ => ?_))
    rw [show (sampleArrival (-1)).control = filledControl (-1) from rfl,
      filledControl_getD (-1) slot bound] at open_
    cases open_

/-- A stale 3 makes the broker close its own epoll descriptor with the dropped message. -/
theorem stale_word_closed :
    Syscall.readMessage 4 (Syscall.recvmsg 4 (Syscall.writeMessage [5]) (20 + ·)
          (filledControl 3)) = [20, 3, 3, 3] ∧
      Syscall.exactSlots 4 1 (20 + ·) = [20, -1, -1, -1] ∧
      sampleWorld.state.epollFd = 3 ∧
      ¬ClosesArrived (sampleArrival 3) (readMessageWords referencePacket sampleWorld 0 [255]
        Packet.Buffer.zero (sampleArrival 3) sampleOutcome) := by
  refine ⟨by decide, by decide, by decide +kernel, fun closes => ?_⟩
  have harmless := (dropped_closesArrived_iff referencePacket sampleWorld 0 [255]
    Packet.Buffer.zero (sampleArrival 3) sampleOutcome sample_dropped).mp closes
  have member : (3 : Int) ∈ sampleWorld.table.opened := by decide +kernel
  rcases harmless with none_ | enough | harmless
  · simp [sampleArrival] at none_
  · simp [sampleArrival] at enough
  · exact harmless 1 (Nat.le_refl 1) (by decide) (by decide) member

end Gneiss
