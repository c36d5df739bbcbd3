import Gneiss.Genode.BlockFlights
import Gneiss.Genode.BlockTest

/-!
Every run of the block test. Packet number `n` writes block `n` if it is one of the first 33, and
reads block `n - 33` otherwise; the invariant says what has become of each of them.
-/

namespace Gneiss.Genode.BlockTest

open Runs BlockDevice Block
open BlockProxy (packetData)

structure Asks (packet : PacketDescriptor) (serial : Nat) : Prop where
  opcode : packet.opcode = if serial < 33 then 1 else 0
  start : packet.blockNumber = serial % 33
  length : packet.blockCount = 1

def goodWrite (ack : Acknowledged Unit) : Bool :=
  ack.success && decide (ack.ticket.serial < 33)

def goodRead (ack : Acknowledged Unit) : Bool :=
  ack.success && decide (33 ≤ ack.ticket.serial)

/-- The answers that wait for `Update_Request`, and those that it `collected`. -/
def answered (client : ClientWorld Unit RequestId) (collected : List (Acknowledged Unit)) :
    List (Acknowledged Unit) :=
  entries client.cache ++ (client.sessions ()).acked ++ collected

/-- What an answer to a packet stands for. -/
def Carried (size : Nat) (contents : List Text) (blocks : Nat → Text)
    (ack : Acknowledged Unit) : Prop :=
  ack.success = true →
    (ack.ticket.serial < 33 → blocks ack.ticket.serial = pattern size ack.ticket.serial) ∧
    (33 ≤ ack.ticket.serial →
      contents.getD ack.ticket.serial [] = pattern size (ack.ticket.serial - 33))

structure Delivered (size : Nat) (collected : List (Acknowledged Unit))
    (client : ClientWorld Unit RequestId) (contents : List Text) (blocks : Nat → Text) : Prop where
  flights : Flights Asks client
  acknowledged : (client.acknowledged.map Prod.snd).Perm (answered client collected)
  numbered : (client.flying.map Prod.snd ++ collected.map (·.ticket.serial)).Perm
    (List.range client.enqueued)
  sized : contents.length = client.enqueued
  filled : ∀ serial < client.enqueued, serial < 33 →
    contents.getD serial [] = pattern size serial
  carried : ∀ ack ∈ answered client collected, Carried size contents blocks ack

structure Testing (collected : List (Acknowledged Unit)) (world : TestWorld) : Prop where
  delivered : Delivered world.session.blockSize collected world.client world.contents world.blocks
  enqueued : (world.client.enqueued : Int) = world.writeState.sent + world.readState.sent + 2
  writes : -1 ≤ world.writeState.sent ∧ world.writeState.sent ≤ 32
  reads : -1 ≤ world.readState.sent ∧ world.readState.sent ≤ 32
  order : world.readState.sent = -1 ∨ world.writeState.acked = 32 ∧ world.writeState.sent = 32
  written : world.writeState.acked + 1 = collected.countP goodWrite
  read : world.readState.acked + 1 = collected.countP goodRead
  shown : world.shown.map Prod.fst = (collected.filter goodRead).map fun ack =>
    ack.ticket.serial - 33
  whole : ∀ entry ∈ world.shown, entry.2 = pattern world.session.blockSize entry.1
  done_ : .success ∈ world.vacated → world.writeState.acked = 32 ∧ world.readState.acked = 32

/-! Counting packets. -/

theorem perm_range {numbers : List Nat} {count : Nat} (nodup : numbers.Nodup)
    (bound : ∀ number ∈ numbers, number < count) (length : count ≤ numbers.length) :
    numbers.Perm (List.range count) := by
  have within : numbers.Subperm (List.range count) :=
    List.subperm_of_subset nodup fun number member => List.mem_range.mpr (bound number member)
  exact within.perm_of_length_le (by rw [List.length_range]; exact length)

section Counting

variable {size : Nat} {collected : List (Acknowledged Unit)}
  {client : ClientWorld Unit RequestId} {contents : List Text} {blocks : Nat → Text}

theorem Delivered.serials (delivered : Delivered size collected client contents blocks) :
    ((client.sessions ()).submitted.map (·.ticket.serial) ++
      (answered client collected).map (·.ticket.serial)).Perm (List.range client.enqueued) := by
  have numbered := delivered.numbered
  unfold ClientWorld.flying at numbered
  simp only [List.map_append, List.map_map, Function.comp_def] at numbered
  unfold answered
  simp only [List.map_append]
  rw [List.append_assoc, List.append_assoc] at numbered
  rw [List.append_assoc (List.map _ (entries client.cache))]
  exact numbered

theorem Delivered.nodup (delivered : Delivered size collected client contents blocks) :
    ((client.sessions ()).submitted.map (·.ticket.serial) ++
      (answered client collected).map (·.ticket.serial)).Nodup :=
  delivered.serials.nodup_iff.mpr List.nodup_range

theorem Delivered.serial_lt (delivered : Delivered size collected client contents blocks)
    {ack : Acknowledged Unit} (member : ack ∈ answered client collected) :
    ack.ticket.serial < client.enqueued :=
  List.mem_range.mp (delivered.serials.mem_iff.mp
    (List.mem_append_right _ (List.mem_map_of_mem member)))

theorem Delivered.submitted_lt (delivered : Delivered size collected client contents blocks)
    {item : Submitted Unit} (member : item ∈ (client.sessions ()).submitted) :
    item.ticket.serial < client.enqueued :=
  List.mem_range.mp (delivered.serials.mem_iff.mp
    (List.mem_append_left _ (List.mem_map_of_mem member)))

theorem Delivered.apart (delivered : Delivered size collected client contents blocks)
    {item : Submitted Unit} (sent : item ∈ (client.sessions ()).submitted)
    {ack : Acknowledged Unit} (member : ack ∈ answered client collected) :
    ack.ticket.serial ≠ item.ticket.serial := by
  intro same
  have disjoint := (List.nodup_append.mp delivered.nodup).2.2
  exact disjoint _ (List.mem_map_of_mem sent) _ (List.mem_map_of_mem member) same.symm

theorem mem_answered {ack : Acknowledged Unit} (member : ack ∈ collected) :
    ack ∈ answered client collected :=
  List.mem_append_right _ member

theorem Delivered.collected_nodup (delivered : Delivered size collected client contents blocks) :
    (collected.map (·.ticket.serial)).Nodup := by
  have numbered := delivered.numbered.nodup_iff.mpr List.nodup_range
  exact (List.nodup_append.mp numbered).2.1

theorem Delivered.flying_apart (delivered : Delivered size collected client contents blocks)
    {item : Nat × Nat} (flown : item ∈ client.flying) {ack : Acknowledged Unit}
    (member : ack ∈ collected) : ack.ticket.serial ≠ item.2 := by
  intro same
  have numbered := delivered.numbered.nodup_iff.mpr List.nodup_range
  exact (List.nodup_append.mp numbered).2.2 _ (List.mem_map_of_mem flown) _
    (List.mem_map_of_mem member) same.symm

theorem Delivered.flying_lt (delivered : Delivered size collected client contents blocks)
    {item : Nat × Nat} (flown : item ∈ client.flying) : item.2 < client.enqueued :=
  List.mem_range.mp (delivered.numbered.mem_iff.mp
    (List.mem_append_left _ (List.mem_map_of_mem flown)))

/-- The blocks that were written, and as many at most as there are. -/
theorem Delivered.writes_nodup (delivered : Delivered size collected client contents blocks) :
    ((collected.filter goodWrite).map (·.ticket.serial)).Nodup :=
  delivered.collected_nodup.sublist (List.filter_sublist.map _)

theorem writes_bound : ∀ number ∈ (collected.filter goodWrite).map (·.ticket.serial),
    number < 33 := by
  intro number member
  obtain ⟨ack, good, rfl⟩ := List.mem_map.mp member
  have both := (List.mem_filter.mp good).2
  simp only [goodWrite, Bool.and_eq_true, decide_eq_true_eq] at both
  exact both.2

theorem Delivered.reads_nodup (delivered : Delivered size collected client contents blocks) :
    ((collected.filter goodRead).map fun ack => ack.ticket.serial - 33).Nodup := by
  have serials : ((collected.filter goodRead).map (·.ticket.serial)).Nodup :=
    delivered.collected_nodup.sublist (List.filter_sublist.map _)
  rw [List.nodup_map_iff_inj_on (serials.of_map _)]
  intro first firstIn second secondIn same
  have one := (List.mem_filter.mp firstIn).2
  have two := (List.mem_filter.mp secondIn).2
  simp only [goodRead, Bool.and_eq_true, decide_eq_true_eq] at one two
  exact List.inj_on_of_nodup_map serials firstIn secondIn (by omega)

end Counting

variable {collected : List (Acknowledged Unit)} {world : TestWorld}

theorem Testing.enqueued_le (testing : Testing collected world) :
    world.client.enqueued ≤ 66 := by
  have total := testing.enqueued
  have writes := testing.writes
  have reads := testing.reads
  omega

theorem Testing.reads_bound (testing : Testing collected world) :
    ∀ number ∈ (collected.filter goodRead).map (fun ack => ack.ticket.serial - 33),
      number < 33 := by
  intro number member
  obtain ⟨ack, good, rfl⟩ := List.mem_map.mp member
  have bound := testing.delivered.serial_lt (mem_answered (List.mem_filter.mp good).1)
  have total := testing.enqueued_le
  omega

/-- When 33 writes were counted every block was written. -/
theorem Testing.all_written (testing : Testing collected world)
    (finished : 32 ≤ world.writeState.acked) (number : Nat) (bound : number < 33) :
    ∃ ack ∈ collected, ack.success = true ∧ ack.ticket.serial = number := by
  have count := testing.written
  rw [List.countP_eq_length_filter] at count
  have all := perm_range testing.delivered.writes_nodup writes_bound
    (by rw [List.length_map]; omega)
  obtain ⟨ack, good, same⟩ := List.mem_map.mp (all.mem_iff.mpr (List.mem_range.mpr bound))
  obtain ⟨member, both⟩ := List.mem_filter.mp good
  simp only [goodWrite, Bool.and_eq_true] at both
  exact ⟨ack, member, both.1, same⟩

theorem Testing.all_read (testing : Testing collected world)
    (finished : 32 ≤ world.readState.acked) :
    ((collected.filter goodRead).map fun ack => ack.ticket.serial - 33).Perm
      (List.range 33) := by
  have count := testing.read
  rw [List.countP_eq_length_filter] at count
  exact perm_range testing.delivered.reads_nodup testing.reads_bound
    (by rw [List.length_map]; omega)

theorem Testing.acked_le (testing : Testing collected world) :
    world.writeState.acked ≤ 32 ∧ world.readState.acked ≤ 32 := by
  have writes := testing.written
  have reads := testing.read
  rw [List.countP_eq_length_filter] at writes reads
  have first : (collected.filter goodWrite).length ≤ 33 := by
    have within := (List.subperm_of_subset testing.delivered.writes_nodup fun number member =>
      List.mem_range.mpr (writes_bound number member)).length_le
    rwa [List.length_map, List.length_range] at within
  have second : (collected.filter goodRead).length ≤ 33 := by
    have within := (List.subperm_of_subset testing.delivered.reads_nodup fun number member =>
      List.mem_range.mpr (testing.reads_bound number member)).length_le
    rwa [List.length_map, List.length_range] at within
  omega

theorem Testing.block_written (testing : Testing collected world)
    (finished : 32 ≤ world.writeState.acked) (number : Nat) (bound : number < 33) :
    world.blocks number = pattern world.session.blockSize number := by
  obtain ⟨ack, member, success, rfl⟩ := testing.all_written finished number bound
  exact (testing.delivered.carried ack (mem_answered member) success).1 bound

/-- All writes were sent when the last of them was counted. -/
theorem Testing.all_sent (testing : Testing collected world)
    (finished : 32 ≤ world.writeState.acked) : world.writeState.sent = 32 := by
  obtain ⟨ack, member, _, last⟩ := testing.all_written finished 32 (by omega)
  have bound := testing.delivered.serial_lt (mem_answered member)
  have total := testing.enqueued
  have writes := testing.writes
  rcases testing.order with none_ | ⟨_, all⟩
  · omega
  · exact all

/-! The device answers a packet. -/

theorem pattern_length (length start : Nat) : (pattern length start).length = length :=
  List.length_replicate

theorem writeBlocks_own (size : Nat) (blocks : Nat → Text) (number start : Nat) :
    writeBlocks size blocks number 1 (pattern size start) number = pattern size start := by
  have inside : number ≤ number ∧ number < number + 1 := by omega
  rw [writeBlocks, if_pos inside, Nat.sub_self, Nat.zero_mul, List.drop_zero]
  exact List.take_of_length_le (by rw [pattern_length])

theorem writeBlocks_other (size : Nat) (blocks : Nat → Text) (number other : Nat) (data : Text)
    (different : other ≠ number) : writeBlocks size blocks number 1 data other = blocks other := by
  unfold writeBlocks
  exact if_neg (by omega)

section Answers

variable {size : Nat} {client : ClientWorld Unit RequestId} {contents : List Text}
  {blocks : Nat → Text}

theorem answered_acknowledge {place : Nat} {success : Bool} {item : Submitted Unit}
    {before behind : List (Submitted Unit)}
    (same : client.acknowledge () place success =
      { client.setSession () { client.sessions () with
          submitted := before ++ behind
          acked := (client.sessions ()).acked ++ [⟨item.packet.tag, success, item.ticket⟩] } with
        acknowledged := client.acknowledged ++
          [((), ⟨item.packet.tag, success, item.ticket⟩)] }) :
    (answered (client.acknowledge () place success) collected).Perm
      (answered client collected ++ [⟨item.packet.tag, success, item.ticket⟩]) := by
  unfold answered
  rw [same]
  simp only [ClientWorld.setSession, Function.update_self, List.append_assoc]
  refine List.Perm.append_left _ (List.Perm.append_left _ ?_)
  exact List.perm_append_comm

/-- A new answer: the data of the others is as it was. -/
theorem Delivered.acknowledge (delivered : Delivered size collected client contents blocks)
    {place : Nat} {success : Bool} {item : Submitted Unit} {before behind : List (Submitted Unit)}
    (same : client.acknowledge () place success =
      { client.setSession () { client.sessions () with
          submitted := before ++ behind
          acked := (client.sessions ()).acked ++ [⟨item.packet.tag, success, item.ticket⟩] } with
        acknowledged := client.acknowledged ++
          [((), ⟨item.packet.tag, success, item.ticket⟩)] })
    (contents' : List Text) (blocks' : Nat → Text) (sized : contents'.length = contents.length)
    (kept : ∀ serial < 33, contents'.getD serial [] = contents.getD serial [])
    (old : ∀ ack ∈ answered client collected, Carried size contents' blocks' ack)
    (new : Carried size contents' blocks' ⟨item.packet.tag, success, item.ticket⟩) :
    Delivered size collected (client.acknowledge () place success) contents' blocks' := by
  obtain ⟨flights, flying⟩ := delivered.flights.acknowledge place success
  have more : (answered (client.acknowledge () place success) collected).Perm
      (answered client collected ++ [⟨item.packet.tag, success, item.ticket⟩]) :=
    answered_acknowledge same
  have enqueued : (client.acknowledge () place success).enqueued = client.enqueued := by
    rw [same]
    rfl
  refine ⟨flights, ?_, ?_, ?_, ?_, ?_⟩
  · have acknowledged : (client.acknowledge () place success).acknowledged.map Prod.snd =
        client.acknowledged.map Prod.snd ++ [⟨item.packet.tag, success, item.ticket⟩] := by
      rw [same, List.map_append]
      rfl
    rw [acknowledged]
    exact (delivered.acknowledged.append_right _).trans more.symm
  · rw [enqueued]
    exact ((flying.map Prod.snd).append_right _).trans delivered.numbered
  · rw [enqueued, sized]
    exact delivered.sized
  · intro serial bound early
    rw [kept serial early]
    exact delivered.filled serial (enqueued ▸ bound) early
  · intro ack member
    rcases List.mem_append.mp (more.mem_iff.mp member) with before | last
    · exact old ack before
    · rw [List.mem_singleton.mp last]
      exact new

end Answers

/-- What the answer to a write stores, and the answer to a read copies. -/
theorem answer_cases (world : TestWorld) (place : Nat) (success : Bool) (left : Text)
    (flights : Flights Asks world.client) :
    (world.session.submitted[place]? = none ∧ world.answer place success left = world) ∨
    ∃ item before behind,
      item ∈ world.session.submitted ∧ Asks item.packet item.ticket.serial ∧
      world.client.acknowledge () place success =
        { world.client.setSession () { world.client.sessions () with
            submitted := before ++ behind
            acked := (world.client.sessions ()).acked ++
              [⟨item.packet.tag, success, item.ticket⟩] } with
          acknowledged := world.client.acknowledged ++
            [((), ⟨item.packet.tag, success, item.ticket⟩)] } ∧
      (item.ticket.serial < 33 → world.answer place success left =
        { world with
          client := world.client.acknowledge () place success
          blocks := writeBlocks world.session.blockSize world.blocks item.ticket.serial 1
            (if success then world.contents.getD item.ticket.serial [] else left) }) ∧
      (33 ≤ item.ticket.serial → item.ticket.serial < 66 → world.answer place success left =
        { world with
          client := world.client.acknowledge () place success
          contents := world.contents.set item.ticket.serial
            (if success then world.blocks (item.ticket.serial - 33) else left) }) := by
  rcases acknowledge_cases world.client place success with
    ⟨none_, _⟩ | ⟨item, before, behind, found, split, same⟩
  · have nothing : world.session.submitted[place]? = none := none_
    left
    refine ⟨nothing, ?_⟩
    simp only [TestWorld.answer, nothing]
  · have found' : world.session.submitted[place]? = some item := found
    have member : item ∈ world.session.submitted := List.mem_of_getElem? found
    have asks := flights.submitted item member
    refine Or.inr ⟨item, before, behind, member, asks, same, ?_, ?_⟩
    · intro write
      have opcode : item.packet.opcode = 1 := by rw [asks.opcode, if_pos write]
      have start : item.packet.blockNumber = item.ticket.serial := by
        rw [asks.start]
        exact Nat.mod_eq_of_lt write
      simp only [TestWorld.answer, found', opcode, if_true, TestWorld.write, start, asks.length]
    · intro read bound
      have opcode : ¬item.packet.opcode = 1 := by
        rw [asks.opcode, if_neg (by omega)]
        decide
      have start : item.packet.blockNumber = item.ticket.serial - 33 := by
        rw [asks.start]
        omega
      simp only [TestWorld.answer, found', opcode, if_false, start, asks.length, readBlocks,
        List.append_nil]

theorem acknowledge_size (client : ClientWorld Unit RequestId) (place : Nat) (success : Bool) :
    ((client.acknowledge () place success).sessions ()).blockSize =
      (client.sessions ()).blockSize := by
  rcases acknowledge_cases client place success with ⟨_, same⟩ | ⟨item, before, behind, _, _, same⟩
  · rw [same]
  · rw [same]
    simp only [ClientWorld.setSession, Function.update_self]

theorem acknowledge_enqueued (client : ClientWorld Unit RequestId) (place : Nat)
    (success : Bool) : (client.acknowledge () place success).enqueued = client.enqueued := by
  rcases acknowledge_cases client place success with ⟨_, same⟩ | ⟨item, before, behind, _, _, same⟩
  · rw [same]
  · rw [same]
    rfl

theorem Testing.answer (testing : Testing collected world) (place : Nat) (success : Bool)
    (left : Text) : Testing collected (world.answer place success left) := by
  have delivered := testing.delivered
  rcases answer_cases world place success left delivered.flights with
    ⟨_, nothing⟩ | ⟨item, before, behind, sent, asks, same, write, read⟩
  · rw [nothing]
    exact testing
  · have apart (ack : Acknowledged Unit) (member : ack ∈ answered world.client collected) :
        ack.ticket.serial ≠ item.ticket.serial := delivered.apart sent member
    have fresh := delivered.submitted_lt sent
    have total := testing.enqueued_le
    have size : ((world.client.acknowledge () place success).sessions ()).blockSize =
        world.session.blockSize := acknowledge_size world.client place success
    by_cases writes : item.ticket.serial < 33
    · rw [write writes]
      refine ⟨?_, ?_, testing.writes, testing.reads, testing.order, testing.written, testing.read,
        testing.shown, ?_, testing.done_⟩
      · rw [TestWorld.session, size]
        refine delivered.acknowledge same _ _ rfl (fun _ _ => rfl) ?_ ?_
        · intro ack member good
          refine ⟨fun early => ?_, (delivered.carried ack member good).2⟩
          exact (writeBlocks_other _ _ _ _ _ (apart ack member)).trans
            ((delivered.carried ack member good).1 early)
        · intro good
          refine ⟨fun early => ?_, fun late => absurd late (by simp only; omega)⟩
          simp only at good
          simp only [good, if_true]
          rw [delivered.filled _ fresh writes]
          exact writeBlocks_own _ _ _ _
      · simp only [acknowledge_enqueued]
        exact testing.enqueued
      · intro entry member
        exact (testing.whole entry member).trans
          (congrArg (fun size => pattern size entry.1) size.symm)
    · have bound : 33 ≤ item.ticket.serial := by omega
      rw [read bound (by omega)]
      refine ⟨?_, ?_, testing.writes, testing.reads, testing.order, testing.written, testing.read,
        testing.shown, ?_, testing.done_⟩
      · rw [TestWorld.session, size]
        have others (serial : Nat) (different : serial ≠ item.ticket.serial) (data : Text) :
            (world.contents.set item.ticket.serial data).getD serial [] =
              world.contents.getD serial [] := by
          simp only [List.getD_eq_getElem?_getD, List.getElem?_set_ne (Ne.symm different)]
        refine delivered.acknowledge same _ _ List.length_set ?_ ?_ ?_
        · intro serial early
          exact others serial (by omega) _
        · intro ack member good
          refine ⟨(delivered.carried ack member good).1, fun late => ?_⟩
          exact (others _ (apart ack member) _).trans ((delivered.carried ack member good).2 late)
        · intro good
          refine ⟨fun early => absurd bound (by simp only at early; omega), fun late => ?_⟩
          simp only at good
          have inside : item.ticket.serial < world.contents.length := by
            rw [delivered.sized]
            exact fresh
          simp only [good, if_true, List.getD_eq_getElem?_getD, List.getElem?_set_self inside,
            Option.getD_some]
          have sum := testing.enqueued
          have writes := testing.writes
          have finished : 32 ≤ world.writeState.acked := by
            rcases testing.order with none_ | ⟨all, _⟩ <;> omega
          exact testing.block_written finished _ (by omega)
      · simp only [acknowledge_enqueued]
        exact testing.enqueued
      · intro entry member
        exact (testing.whole entry member).trans
          (congrArg (fun size => pattern size entry.1) size.symm)

/-! The first part of a turn. -/

/-- When `Single` is called: for the writes as long as nothing was read, then for the reads. -/
def Turns (world : TestWorld) : Phase → Prop
  | .writing => world.readState.sent = -1
  | .reading => 32 ≤ world.writeState.acked

/-- `Single` sends requests for blocks of this size only. -/
def Sized (world : TestWorld) : Prop :=
  world.session.blockSize ≤ 4096 ∧ 256 ≤ world.session.blockSize

theorem crwLength_one {size : Nat} (sized : size ≤ 4096 ∧ 256 ≤ size) :
    crwLength positiveIndex size 1 = some (size : Int) := by
  have long : longInteger.last = 9223372036854775807 := rfl
  have last : sizeType.last = 4294967295 := rfl
  have range : positiveIndex.range = ⟨1, 2147483647⟩ := rfl
  have whole := (crwLength_iff positiveIndex size 1).mpr (by
    refine ⟨by omega, by omega, ?_, ?_, fun _ => ?_⟩
    · rw [range]
      simp only
      omega
    · rw [range]
      simp only
      omega
    · rw [range])
  rwa [Nat.one_mul] at whole

theorem packetData_pattern (size start : Nat) :
    packetData (pattern size start) size = pattern size start := by
  unfold packetData pattern
  rw [Int.toNat_natCast]
  refine List.ext_getElem (by simp) ?_
  intro place _ bound
  rw [List.length_replicate] at bound
  simp [bound]

inductive Collects (world : TestWorld) (index : RequestId) : Phase → TestWorld → Prop
  | idle (phase : Phase) (done_ : (world.client.requests index).status ≠ .pending ∨
      32 ≤ (world.counter phase).acked) : Collects world index phase world
  | waiting (phase : Phase) (pending : (world.client.requests index).status = .pending)
      (client : ClientWorld Unit RequestId) (updated : Collected world.client client index [])
      (missing : ∀ ack ∈ entries world.client.cache ++ (world.client.sessions ()).acked,
        ack.tag ≠ index.val) :
      Collects world index phase { world with client := client }
  | failed (phase : Phase) (pending : (world.client.requests index).status = .pending)
      (client : ClientWorld Unit RequestId) (ack : Acknowledged Unit)
      (updated : Collected world.client client index [ack]) (c : ClientRequest Unit)
      (raw : c.status = .raw) (failure : ack.success = false) :
      Collects world index phase { world with client := client.setRequest index c }
  | wrote (pending : (world.client.requests index).status = .pending)
      (unfinished : world.writeState.acked < 32)
      (client : ClientWorld Unit RequestId) (ack : Acknowledged Unit)
      (updated : Collected world.client client index [ack]) (c : ClientRequest Unit)
      (raw : c.status = .raw) (success : ack.success = true) (early : ack.ticket.serial < 33) :
      Collects world index .writing
        { world with
          client := client.setRequest index c
          writeState := ⟨world.writeState.sent, world.writeState.acked + 1⟩ }
  | read (pending : (world.client.requests index).status = .pending)
      (unfinished : world.readState.acked < 32)
      (client : ClientWorld Unit RequestId) (ack : Acknowledged Unit)
      (updated : Collected world.client client index [ack]) (c : ClientRequest Unit)
      (raw : c.status = .raw) (success : ack.success = true) (late : 33 ≤ ack.ticket.serial) :
      Collects world index .reading
        { world with
          client := client.setRequest index c
          readState := ⟨world.readState.sent, world.readState.acked + 1⟩
          shown := world.shown ++ [(ack.ticket.serial - 33,
            pattern world.session.blockSize (ack.ticket.serial - 33))] }

/-- In its phase a component waits for packets of one kind only. -/
theorem Testing.serial_phase (testing : Testing collected world) {phase : Phase}
    (turns : Turns world phase) {item : Nat × Nat} (flown : item ∈ world.client.flying) :
    (phase = .writing → item.2 < 33) ∧ (phase = .reading → 33 ≤ item.2) := by
  have bound := testing.delivered.flying_lt flown
  have total := testing.enqueued
  have writes := testing.writes
  constructor
  · rintro rfl
    have none_ : world.readState.sent = -1 := turns
    omega
  · rintro rfl
    by_contra early
    obtain ⟨ack, member, _, same⟩ := testing.all_written turns item.2 (by omega)
    exact testing.delivered.flying_apart flown member same

/-- The request without its status, as `Release` leaves it. -/
def release (c : ClientRequest Unit) : ClientRequest Unit := { c with status := .raw }

theorem complete_pending (world : TestWorld) {phase : Phase} {index : RequestId}
    (status : (world.client.requests index).status = .pending) :
    world.complete phase index = world := by
  simp [TestWorld.complete, status]

theorem complete_error (world : TestWorld) {phase : Phase} {index : RequestId}
    (status : (world.client.requests index).status = .error) :
    world.complete phase index =
      { world with
        client := world.client.setRequest index (release (world.client.requests index)) } := by
  simp [TestWorld.complete, status, release]

theorem complete_write (world : TestWorld) {index : RequestId}
    (status : (world.client.requests index).status = .ok)
    (opcode : (world.client.requests index).packet.opcode = 1) :
    world.complete .writing index =
      { world with
        client := world.client.setRequest index (release (world.client.requests index))
        writeState := ⟨world.writeState.sent, world.writeState.acked + 1⟩ } := by
  simp [TestWorld.complete, status, opcode, TestWorld.counter, TestWorld.setCounter, release]

theorem complete_read (world : TestWorld) {index : RequestId} {number : Nat}
    (running : world.halted = false) (sized : Sized world)
    (status : (world.client.requests index).status = .ok)
    (opcode : (world.client.requests index).packet.opcode = 0)
    (length : (world.client.requests index).packet.blockCount = 1)
    (start : (world.client.requests index).packet.blockNumber = number)
    (content : world.content (world.client.requests index) =
      pattern world.session.blockSize number) :
    world.complete .reading index =
      { world with
        client := world.client.setRequest index (release (world.client.requests index))
        readState := ⟨world.readState.sent, world.readState.acked + 1⟩
        shown := world.shown ++ [(number, pattern world.session.blockSize number)] } := by
  have read : world.readPacket (world.client.requests index) =
      { world with
        shown := world.shown ++ [(number, pattern world.session.blockSize number)] } := by
    unfold TestWorld.readPacket
    rw [if_pos length, length, crwLength_one sized]
    simp only [content, start, packetData_pattern]
  simp [TestWorld.complete, status, opcode, read, running, TestWorld.counter,
    TestWorld.setCounter, release]

theorem Testing.collect_cases (testing : Testing collected world) (running : world.halted = false)
    (sized : Sized world) {phase : Phase} (turns : Turns world phase) (index : RequestId) :
    Collects world index phase (world.collect phase index) := by
  unfold TestWorld.collect
  by_cases pending : (world.client.requests index).status = .pending
  · by_cases unfinished : (world.counter phase).acked < requestCount
    · have flights := testing.delivered.flights
      have busy := flights.busy pending
      rw [if_pos ⟨unfinished, pending, busy.assigned⟩]
      obtain ⟨removed, updated, found⟩ := updateRequest_collected world.client index
      generalize world.client.updateRequest () index = client at updated
      have request : client.requests index =
          settled (world.client.requests index) removed := by
        rw [updated.requests, Function.update_self]
      rcases flights.removed_cases pending updated with rfl | ⟨ack, rfl, ticket⟩
      · rw [complete_pending { world with client := client }
          ((congrArg _ request).trans pending)]
        have room := flights.length_flying
        simp only [ClientWorld.flying, List.length_append, List.length_map] at room
        refine .waiting phase pending client updated fun ack member tag => ?_
        refine absurd (found ?_ ack member (tag.trans busy.tag.symm)) List.not_mem_nil
        rw [flights.cache, List.length_append]
        omega
      · have settled_ : client.requests index = { world.client.requests index with
            status := if ack.success then .ok else .error } := by
          rw [request]
          rfl
        obtain ⟨serial, own, asks⟩ := busy.ticket
        obtain rfl : ack.ticket.serial = serial := by
          rw [ticket, Option.some.injEq] at own
          rw [own]
        have flown : (index.val, ack.ticket.serial) ∈ world.client.flying :=
          flights.flying.mem_iff.mpr (flights.mem_pending.mpr ⟨index, rfl, pending, ticket⟩)
        have kind := testing.serial_phase turns flown
        have packet : (client.requests index).packet =
            (world.client.requests index).packet := by
          rw [settled_]
        cases success : ack.success with
        | false =>
            rw [success] at settled_
            rw [complete_error { world with client := client } (by rw [settled_]; rfl)]
            exact .failed phase pending client ack updated _ rfl success
        | true =>
            rw [success] at settled_
            have status : (client.requests index).status = .ok := by
              rw [settled_]
              rfl
            cases phase with
            | writing =>
                have early := kind.1 rfl
                rw [complete_write { world with client := client } status
                  (by rw [packet, asks.opcode, if_pos early])]
                exact .wrote pending unfinished client ack updated _ rfl success early
            | reading =>
                have late := kind.2 rfl
                have there : ack ∈ answered world.client collected :=
                  List.mem_append_left _ (updated.conserved.mem_iff.mpr
                    (List.mem_append_right _ List.mem_cons_self))
                have bound := testing.delivered.serial_lt there
                have total := testing.enqueued_le
                have size : (client.sessions ()).blockSize = world.session.blockSize :=
                  updated.size
                have content : ({ world with client := client } : TestWorld).content
                    (client.requests index) =
                      pattern (client.sessions ()).blockSize (ack.ticket.serial - 33) := by
                  simp only [TestWorld.content, settled_, ticket, Option.map_some,
                    Option.getD_some]
                  rw [size]
                  exact (testing.delivered.carried ack there success).2 late
                rw [complete_read { world with client := client } running
                  (by unfold Sized; rw [TestWorld.session, size]; exact sized) status
                  (by rw [packet, asks.opcode, if_neg (by omega)])
                  (by rw [packet, asks.length])
                  (by rw [packet, asks.start]; omega) content]
                simp only [TestWorld.session, size]
                exact .read pending unfinished client ack updated _ rfl success late
    · rw [if_neg (fun both => unfinished both.1)]
      exact .idle phase (Or.inr (by unfold requestCount at unfinished; omega))
  · rw [if_neg (fun both => pending both.2.1)]
    exact .idle phase (Or.inl pending)

/-- Answers that were taken out of the stream are collected. -/
theorem Delivered.settle {size : Nat} {client after : ClientWorld Unit RequestId}
    {contents : List Text} {blocks : Nat → Text} {removed : List (Acknowledged Unit)}
    (delivered : Delivered size collected client contents blocks) (flights : Flights Asks after)
    (flying : client.flying.Perm
      (after.flying ++ removed.map fun ack => (ack.tag, ack.ticket.serial)))
    (conserved : (entries client.cache ++ (client.sessions ()).acked).Perm
      (entries after.cache ++ (after.sessions ()).acked ++ removed))
    (enqueued : after.enqueued = client.enqueued)
    (acknowledged : after.acknowledged = client.acknowledged) :
    Delivered size (collected ++ removed) after contents blocks := by
  have same : (answered client collected).Perm (answered after (collected ++ removed)) := by
    unfold answered
    refine (conserved.append_right collected).trans ?_
    rw [List.append_assoc _ removed]
    exact List.perm_append_comm.append_left _
  refine ⟨flights, ?_, ?_, ?_, ?_, ?_⟩
  · rw [acknowledged]
    exact delivered.acknowledged.trans same
  · rw [enqueued]
    refine List.Perm.trans ?_ delivered.numbered
    have serials := flying.map Prod.snd
    rw [List.map_append, List.map_map] at serials
    refine List.Perm.trans ?_ (serials.symm.append_right _)
    rw [List.map_append, List.append_assoc]
    exact List.perm_append_comm.append_left _
  · rw [enqueued]
    exact delivered.sized
  · rw [enqueued]
    exact delivered.filled
  · exact fun ack member => delivered.carried ack (same.mem_iff.mpr member)

/-- Taking the answer to a packet and releasing its request. -/
theorem Delivered.released {size : Nat} {client after : ClientWorld Unit RequestId}
    {contents : List Text} {blocks : Nat → Text} {index : RequestId} {ack : Acknowledged Unit}
    (delivered : Delivered size collected client contents blocks)
    (pending : (client.requests index).status = .pending)
    (updated : Collected client after index [ack]) (c : ClientRequest Unit)
    (raw : c.status = .raw) :
    Delivered size (collected ++ [ack]) (after.setRequest index c) contents blocks := by
  obtain ⟨flights, flying⟩ := delivered.flights.released pending updated c raw
  exact delivered.settle flights (flying.trans (List.perm_append_singleton _ _).symm)
    updated.conserved updated.enqueued updated.acknowledged

theorem countP_snoc (good : Acknowledged Unit → Bool) (ack : Acknowledged Unit) :
    (collected ++ [ack]).countP good = collected.countP good + if good ack then 1 else 0 := by
  rw [List.countP_append, List.countP_singleton]

theorem Testing.collect {index : RequestId} {phase : Phase} {after : TestWorld}
    (testing : Testing collected world) (turns : Turns world phase)
    (collects : Collects world index phase after) :
    ∃ more, Testing (collected ++ more) after := by
  have delivered := testing.delivered
  cases collects with
  | idle _ done_ =>
      refine ⟨[], ?_⟩
      rw [List.append_nil]
      exact testing
  | waiting _ pending client updated _ =>
      refine ⟨[], ?_⟩
      obtain ⟨flights, flying⟩ := delivered.flights.unanswered updated
      have settled_ := delivered.settle flights
        ((List.append_nil client.flying).symm ▸ flying) updated.conserved updated.enqueued
        updated.acknowledged
      rw [List.append_nil] at settled_ ⊢
      exact
        { testing with
          delivered := updated.size.symm ▸ settled_
          enqueued := updated.enqueued.symm ▸ testing.enqueued
          whole := updated.size.symm ▸ testing.whole }
  | failed _ pending client ack updated c raw failure =>
      have released := delivered.released pending updated c raw
      have noWrite : goodWrite ack = false := by simp [goodWrite, failure]
      have noRead : goodRead ack = false := by simp [goodRead, failure]
      refine ⟨[ack], updated.size.symm ▸ released, updated.enqueued.symm ▸ testing.enqueued,
        testing.writes, testing.reads, testing.order, ?_, ?_, ?_,
        updated.size.symm ▸ testing.whole, testing.done_⟩
      · rw [countP_snoc, noWrite]
        exact testing.written
      · rw [countP_snoc, noRead]
        exact testing.read
      · rw [List.filter_append, List.filter_singleton, noRead]
        simpa using testing.shown
  | wrote pending unfinished client ack updated c raw success early =>
      have released := delivered.released pending updated c raw
      have write : goodWrite ack = true := by simp [goodWrite, success, early]
      have noRead : goodRead ack = false := by simp [goodRead, early]
      have counted := testing.written
      refine ⟨[ack], updated.size.symm ▸ released, updated.enqueued.symm ▸ testing.enqueued,
        testing.writes, testing.reads, Or.inl turns, ?_, ?_, ?_,
        updated.size.symm ▸ testing.whole, ?_⟩
      · rw [countP_snoc, write]
        simp only [if_true]
        omega
      · rw [countP_snoc, noRead]
        exact testing.read
      · rw [List.filter_append, List.filter_singleton, noRead]
        simpa using testing.shown
      · intro ended
        have all := (testing.done_ ended).1
        omega
  | read pending unfinished client ack updated c raw success late =>
      have released := delivered.released pending updated c raw
      have noWrite : goodWrite ack = false := by simp [goodWrite, late]
      have read : goodRead ack = true := by simp [goodRead, success, late]
      have counted := testing.read
      refine ⟨[ack], updated.size.symm ▸ released, updated.enqueued.symm ▸ testing.enqueued,
        testing.writes, testing.reads, testing.order, ?_, ?_, ?_, ?_, ?_⟩
      · rw [countP_snoc, noWrite]
        exact testing.written
      · rw [countP_snoc, read]
        simp only [if_true]
        omega
      · rw [List.filter_append, List.filter_singleton, read, List.map_append, List.map_append,
          testing.shown]
        rfl
      · intro entry member
        rcases List.mem_append.mp member with before | last
        · exact (testing.whole entry before).trans
            (congrArg (fun size => pattern size entry.1) updated.size.symm)
        · rw [List.mem_singleton.mp last]
          exact congrArg (fun size => pattern size _) updated.size.symm
      · intro ended
        have all := (testing.done_ ended).2
        omega

/-! The second part of a turn. -/

/-- What `Allocate_Request` makes of a request for one block. -/
def allocated (world : TestWorld) (phase : Phase) (index : RequestId) (offset : Int) :
    ClientRequest Unit :=
  { world.client.requests index with
    packet := ⟨offset, world.session.blockSize * 1 % 2 ^ 64, opcode phase.operation, index,
      ((world.counter phase).sent + 1).toNat, 1⟩
    status := .allocated
    session := world.session.tag }

def refused (world : TestWorld) (index : RequestId) : ClientRequest Unit :=
  { world.client.requests index with
    packet := { (world.client.requests index).packet with blockCount := 0 }
    session := world.session.tag }

theorem allocate_one (world : TestWorld) (phase : Phase) (index : RequestId)
    (memory : Option Int) :
    allocateRequest world.session (world.client.requests index) phase.operation
        ((world.counter phase).sent + 1).toNat 1 index memory =
      (memory.map fun offset => (allocated world phase index offset, .success)).getD
        (refused world index, .outOfMemory) := by
  cases phase <;> cases memory <;> rfl

inductive Submits (world : TestWorld) (index : RequestId) (allocation : Allocation) :
    Phase → TestWorld → Prop
  | idle (phase : Phase) (done_ : (world.client.requests index).status ≠ .raw ∨
      32 ≤ (world.counter phase).sent) : Submits world index allocation phase world
  | refused (phase : Phase) (raw : (world.client.requests index).status = .raw)
      (memory : allocation.memory = none) (c : ClientRequest Unit) (unused : c.status = .raw) :
      Submits world index allocation phase
        { world with client := world.client.setRequest index c }
  | wrote (raw : (world.client.requests index).status = .raw)
      (unsent : world.writeState.sent < 32) (offset : Int) :
      Submits world index allocation .writing
        { world with
          client := (world.client.setRequest index
            (allocated world .writing index offset)).enqueue () index
          contents := world.contents ++ [pattern world.session.blockSize
            (world.writeState.sent + 1).toNat]
          writeState := ⟨world.writeState.sent + 1, world.writeState.acked⟩ }
  | read (raw : (world.client.requests index).status = .raw)
      (unsent : world.readState.sent < 32) (offset : Int) :
      Submits world index allocation .reading
        { world with
          client := (world.client.setRequest index
            (allocated world .reading index offset)).enqueue () index
          contents := world.contents ++ [allocation.content]
          readState := ⟨world.readState.sent + 1, world.readState.acked⟩ }

theorem submit_cases (sized : Sized world) (phase : Phase) (index : RequestId)
    (allocation : Allocation) :
    Submits world index allocation phase (world.submit phase index allocation) := by
  unfold TestWorld.submit
  simp only [allocate_one]
  split
  · rename_i guard
    obtain ⟨unsent, raw⟩ := guard
    cases memory : allocation.memory with
    | none => exact .refused phase raw memory (refused world index) raw
    | some offset =>
        cases phase with
        | writing =>
            have request : (world.client.setRequest index
                (allocated world .writing index offset)).requests index =
                  allocated world .writing index offset := Function.update_self _ _ _
            have length : crwLength positiveIndex (world.client.sessions ()).blockSize 1 =
                some ((world.client.sessions ()).blockSize : Int) := crwLength_one sized
            simp only [Option.map_some, Option.getD_some, allocated, Phase.operation, opcode,
              if_true, TestWorld.setCounter, TestWorld.session, ClientWorld.setRequest, length,
              TestWorld.enqueue, TestWorld.fill, Function.update_self, Int.toNat_natCast]
            exact .wrote raw unsent offset
        | reading =>
            simp only [Option.map_some, Option.getD_some]
            rw [if_neg (by simp [allocated, Phase.operation, opcode])]
            exact .read raw unsent offset
  · rename_i guard
    refine .idle phase ?_
    unfold requestCount at guard
    by_cases raw : (world.client.requests index).status = .raw
    · exact Or.inr (by
        by_contra unsent
        exact guard ⟨by omega, raw⟩)
    · exact Or.inl raw

theorem Delivered.enqueue {size : Nat} {client : ClientWorld Unit RequestId}
    {contents : List Text} {blocks : Nat → Text}
    (delivered : Delivered size collected client contents blocks) {index : RequestId}
    (raw : (client.requests index).status = .raw) (c : ClientRequest Unit)
    (tag : c.packet.tag = index.val) (assigned : (client.sessions ()).assigned c = true)
    (asks : Asks c.packet client.enqueued) (content : Text)
    (filled : client.enqueued < 33 → content = pattern size client.enqueued) :
    Delivered size collected ((client.setRequest index c).enqueue () index)
      (contents ++ [content]) blocks := by
  obtain ⟨flights, flying⟩ := delivered.flights.enqueue raw c tag assigned asks
  have same : answered ((client.setRequest index c).enqueue () index) collected =
      answered client collected := by
    simp only [answered, ClientWorld.enqueue, ClientWorld.setRequest, ClientWorld.setSession,
      Function.update_self]
  have kept (serial : Nat) (bound : serial < client.enqueued) :
      (contents ++ [content]).getD serial [] = contents.getD serial [] := by
    have inside : serial < contents.length := by
      rw [delivered.sized]
      exact bound
    rw [List.getD_append _ _ _ _ inside]
  refine ⟨flights, ?_, ?_, ?_, ?_, ?_⟩
  · rw [same]
    exact delivered.acknowledged
  · have serials := (flying.map Prod.snd).append_right (collected.map (·.ticket.serial))
    refine serials.trans ((delivered.numbered.cons client.enqueued).trans ?_)
    refine (List.perm_append_singleton _ _).symm.trans (List.Perm.of_eq ?_)
    exact List.range_succ.symm
  · rw [List.length_append, delivered.sized]
    rfl
  · intro serial bound early
    by_cases last : serial = client.enqueued
    · subst last
      rw [List.getD_append_right _ _ _ _ (Nat.le_of_eq delivered.sized), delivered.sized,
        Nat.sub_self]
      exact filled early
    · have before : serial < client.enqueued :=
        Nat.lt_of_le_of_ne (Nat.le_of_lt_succ bound) last
      rw [kept serial before]
      exact delivered.filled serial before early
  · intro ack member good
    rw [same] at member
    refine ⟨(delivered.carried ack member good).1, fun late => ?_⟩
    rw [kept _ (delivered.serial_lt member)]
    exact (delivered.carried ack member good).2 late

theorem enqueue_session (client : ClientWorld Unit RequestId) (index : RequestId)
    (c : ClientRequest Unit) :
    let after := (client.setRequest index c).enqueue () index
    (after.sessions ()).blockSize = (client.sessions ()).blockSize ∧
      (after.sessions ()).initialized = (client.sessions ()).initialized := by
  simp only [ClientWorld.enqueue, ClientWorld.setRequest, ClientWorld.setSession,
    Function.update_self, ClientSession.initialized, and_self]

theorem Testing.submit {index : RequestId} {allocation : Allocation} {phase : Phase}
    {after : TestWorld} (testing : Testing collected world) (turns : Turns world phase)
    (submits : Submits world index allocation phase after) : Testing collected after := by
  have delivered := testing.delivered
  have total := testing.enqueued
  have writes := testing.writes
  have reads := testing.reads
  cases submits with
  | idle _ _ => exact testing
  | refused _ raw _ c unused =>
      have flights := delivered.flights.setRaw raw c unused
      have moved : Delivered world.session.blockSize collected
          (world.client.setRequest index c) world.contents world.blocks :=
        ⟨flights, delivered.acknowledged, delivered.numbered, delivered.sized, delivered.filled,
          delivered.carried⟩
      exact { testing with delivered := moved }
  | wrote raw unsent offset =>
      have none_ : world.readState.sent = -1 := turns
      have serial : (world.writeState.sent + 1).toNat = world.client.enqueued := by omega
      have size : (((world.client.setRequest index
          (allocated world .writing index offset)).enqueue () index).sessions ()).blockSize =
            world.session.blockSize := (enqueue_session world.client index _).1
      have early : world.client.enqueued < 33 := by omega
      have sent := delivered.enqueue raw (allocated world .writing index offset) rfl
        (by simp [allocated, ClientSession.assigned, TestWorld.session])
        ⟨by rw [if_pos early]; rfl, by
          rw [Nat.mod_eq_of_lt early]
          exact serial, rfl⟩
        (pattern world.session.blockSize world.client.enqueued) (fun _ => rfl)
      rw [serial]
      refine ⟨?_, ?_, ⟨by simp only; omega, by simp only; omega⟩, testing.reads, Or.inl none_,
        testing.written, testing.read, testing.shown, size.symm ▸ testing.whole, ?_⟩
      · exact size.symm ▸ sent
      · simp only [ClientWorld.enqueue, ClientWorld.setRequest]
        omega
      · intro ended
        exact testing.done_ ended
  | read raw unsent offset =>
      have finished : 32 ≤ world.writeState.acked := turns
      have all := testing.all_sent finished
      have most := testing.acked_le.1
      have serial : (world.readState.sent + 1).toNat = world.client.enqueued - 33 := by omega
      have size : (((world.client.setRequest index
          (allocated world .reading index offset)).enqueue () index).sessions ()).blockSize =
            world.session.blockSize := (enqueue_session world.client index _).1
      have late : 33 ≤ world.client.enqueued ∧ world.client.enqueued < 66 := by omega
      have sent := delivered.enqueue raw (allocated world .reading index offset) rfl
        (by simp [allocated, ClientSession.assigned, TestWorld.session])
        ⟨by rw [if_neg (by omega)]; rfl, by
          have start : (allocated world .reading index offset).packet.blockNumber =
            (world.readState.sent + 1).toNat := rfl
          rw [start, serial]
          omega, rfl⟩
        allocation.content (fun early => absurd early (by omega))
      refine ⟨?_, ?_, testing.writes, ⟨by simp only; omega, by simp only; omega⟩,
        Or.inr ⟨by simp only; omega, all⟩, testing.written, testing.read, testing.shown,
        size.symm ▸ testing.whole, ?_⟩
      · exact size.symm ▸ sent
      · simp only [ClientWorld.enqueue, ClientWorld.setRequest]
        omega
      · intro ended
        exact testing.done_ ended

/-! A turn, and the loop of `Single`. -/

/-- How far the test has come. -/
def progress (world : TestWorld) : Int :=
  world.writeState.sent + world.writeState.acked + world.readState.sent + world.readState.acked

/-- What a turn leaves alone. -/
structure Steady (phase : Phase) (world after : TestWorld) : Prop where
  halted : after.halted = world.halted
  log : after.log = world.log
  size : after.session.blockSize = world.session.blockSize
  initialized : after.session.initialized = world.session.initialized
  vacated : after.vacated = world.vacated
  acknowledged : after.client.acknowledged = world.client.acknowledged
  writing : phase = .writing → after.readState = world.readState
  reading : phase = .reading → after.writeState = world.writeState
  forward : progress world ≤ progress after

theorem Steady.refl (phase : Phase) (world : TestWorld) : Steady phase world world :=
  ⟨rfl, rfl, rfl, rfl, rfl, rfl, fun _ => rfl, fun _ => rfl, Int.le_refl _⟩

theorem Steady.trans {phase : Phase} {first second third : TestWorld}
    (one : Steady phase first second) (two : Steady phase second third) :
    Steady phase first third :=
  ⟨two.halted.trans one.halted, two.log.trans one.log, two.size.trans one.size,
    two.initialized.trans one.initialized, two.vacated.trans one.vacated,
    two.acknowledged.trans one.acknowledged,
    fun writing => (two.writing writing).trans (one.writing writing),
    fun reading => (two.reading reading).trans (one.reading reading),
    one.forward.trans two.forward⟩

theorem Steady.turns {phase : Phase} {after : TestWorld} (steady : Steady phase world after)
    (turns : Turns world phase) : Turns after phase := by
  cases phase with
  | writing =>
      unfold Turns
      rw [steady.writing rfl]
      exact turns
  | reading =>
      unfold Turns
      rw [steady.reading rfl]
      exact turns

theorem Steady.sized {phase : Phase} {after : TestWorld} (steady : Steady phase world after)
    (sized : Sized world) : Sized after := by
  unfold Sized
  rw [steady.size]
  exact sized

theorem Collects.steady {index : RequestId} {phase : Phase} {after : TestWorld}
    (collects : Collects world index phase after) : Steady phase world after := by
  cases collects with
  | idle _ done_ => exact .refl phase world
  | waiting _ _ client updated _ =>
      exact ⟨rfl, rfl, updated.size, updated.initialized, rfl, updated.acknowledged,
        fun _ => rfl, fun _ => rfl, Int.le_refl _⟩
  | failed _ _ client ack updated c raw failure =>
      have same := updated.initialized
      exact ⟨rfl, rfl, updated.size, same, rfl, updated.acknowledged, fun _ => rfl,
        fun _ => rfl, Int.le_refl _⟩
  | wrote _ unfinished client ack updated c raw success early =>
      have same := updated.initialized
      refine ⟨rfl, rfl, updated.size, same, rfl, updated.acknowledged, fun _ => rfl,
        fun other => Phase.noConfusion other, ?_⟩
      simp only [progress]
      omega
  | read _ unfinished client ack updated c raw success late =>
      have same := updated.initialized
      refine ⟨rfl, rfl, updated.size, same, rfl, updated.acknowledged,
        fun other => Phase.noConfusion other, fun _ => rfl, ?_⟩
      simp only [progress]
      omega

theorem Submits.steady {index : RequestId} {allocation : Allocation} {phase : Phase}
    {after : TestWorld} (submits : Submits world index allocation phase after) :
    Steady phase world after := by
  cases submits with
  | idle _ done_ => exact .refl phase world
  | refused _ raw memory c unused =>
      exact ⟨rfl, rfl, rfl, rfl, rfl, rfl, fun _ => rfl, fun _ => rfl, Int.le_refl _⟩
  | wrote raw unsent offset =>
      refine ⟨rfl, rfl, ?_, ?_, rfl, rfl, fun _ => rfl, fun other => Phase.noConfusion other, ?_⟩
      · exact (enqueue_session world.client index _).1
      · exact (enqueue_session world.client index _).2
      · simp only [progress]
        omega
  | read raw unsent offset =>
      refine ⟨rfl, rfl, ?_, ?_, rfl, rfl, fun other => Phase.noConfusion other, fun _ => rfl, ?_⟩
      · exact (enqueue_session world.client index _).1
      · exact (enqueue_session world.client index _).2
      · simp only [progress]
        omega

/-- A turn collects, and then sends. -/
theorem Testing.turn_cases (testing : Testing collected world) (running : world.halted = false)
    (sized : Sized world) {phase : Phase} (turns : Turns world phase)
    (allocations : RequestId → Allocation) (index : RequestId) :
    ∃ between more, Collects world index phase between ∧ Testing (collected ++ more) between ∧
      Turns between phase ∧
      Submits between index (allocations index) phase (world.turn phase allocations index) := by
  have collects := testing.collect_cases running sized turns index
  obtain ⟨more, later⟩ := testing.collect turns collects
  have steady := collects.steady
  have still : (world.collect phase index).halted = false := steady.halted.trans running
  have same : world.turn phase allocations index =
      (world.collect phase index).submit phase index (allocations index) := by
    simp only [TestWorld.turn, running, still, Bool.false_eq_true, if_false]
  rw [same]
  exact ⟨world.collect phase index, more, collects, later, steady.turns turns,
    submit_cases (steady.sized sized) phase index (allocations index)⟩

theorem Testing.turn (testing : Testing collected world) (running : world.halted = false)
    (sized : Sized world) {phase : Phase} (turns : Turns world phase)
    (allocations : RequestId → Allocation) (index : RequestId) :
    (∃ more, Testing (collected ++ more) (world.turn phase allocations index)) ∧
      Steady phase world (world.turn phase allocations index) := by
  obtain ⟨between, more, collects, later, still, submits⟩ :=
    testing.turn_cases running sized turns allocations index
  exact ⟨⟨more, later.submit still submits⟩, collects.steady.trans submits.steady⟩

theorem Testing.turns (testing : Testing collected world) (running : world.halted = false)
    (sized : Sized world) {phase : Phase} (turns : Turns world phase)
    (allocations : RequestId → Allocation) (indices : List RequestId) :
    let after := indices.foldl (fun world index => world.turn phase allocations index) world
    (∃ more, Testing (collected ++ more) after) ∧ Steady phase world after := by
  induction indices generalizing world collected with
  | nil => exact ⟨⟨[], (List.append_nil collected).symm ▸ testing⟩, .refl phase world⟩
  | cons index rest ih =>
      obtain ⟨⟨more, later⟩, steady⟩ := testing.turn running sized turns allocations index
      obtain ⟨⟨further, last⟩, onward⟩ :=
        ih later (steady.halted.trans running) (steady.sized sized) (steady.turns turns)
      exact ⟨⟨more ++ further, List.append_assoc collected more further ▸ last⟩,
        steady.trans onward⟩

theorem Testing.single (testing : Testing collected world) (running : world.halted = false)
    {phase : Phase} (turns : Turns world phase) (allocations : RequestId → Allocation) :
    (∃ more, Testing (collected ++ more) (world.single phase allocations)) ∧
      Steady phase world (world.single phase allocations) := by
  unfold TestWorld.single
  split
  · rename_i sized
    exact testing.turns running sized turns allocations (List.finRange 8)
  · exact ⟨⟨[], (List.append_nil collected).symm ▸ testing⟩, .refl phase world⟩

end Gneiss.Genode.BlockTest
