import Mathlib.Data.List.Perm.Basic
import Gneiss.Genode.BlockClient

/-!
What one `Update_Request` does to the acknowledgements. The loop fills every free entry of the cache
it passes from the queue and then takes out the entries with the tag of the request, so it is the
same as filling the whole cache first and taking out afterwards.
-/

namespace Gneiss.Genode.Block

variable {Session Key : Type}

def answers (tag : Nat) (ack : Acknowledged Session) : Bool := ack.tag = tag

/-- An entry behind the test against the tag. -/
def cleared (tag : Nat) (handle : RequestHandle Session) : RequestHandle Session :=
  handle.filter fun ack => !answers tag ack

/-- What was put into free entries, in the order of the cache. -/
def newcomers (cache filled : List (RequestHandle Session)) : List (Acknowledged Session) :=
  (cache.zip filled).filterMap fun pair => if pair.1.isNone then pair.2 else none

/-- The request after these entries were matched, one after the other. -/
def settled (request : ClientRequest Session) (removed : List (Acknowledged Session)) :
    ClientRequest Session :=
  match removed.getLast? with
  | none => request
  | some last => { request with status := if last.success then .ok else .error }

/-- The cache once its free entries were filled from the queue. An entry stays free only when the
queue is used up. -/
structure Filled (cache filled : List (RequestHandle Session))
    (acked rest : List (Acknowledged Session)) : Prop where
  length : filled.length = cache.length
  kept : ∀ (index : Nat) ack, cache[index]? = some (some ack) → filled[index]? = some (some ack)
  taken : acked = newcomers cache filled ++ rest
  free : none ∈ filled → rest = []

theorem Filled.nil (acked : List (Acknowledged Session)) : Filled [] [] acked acked where
  length := rfl
  kept index ack there := by cases there
  taken := rfl
  free left := by cases left

theorem Filled.cons {cache filled : List (RequestHandle Session)}
    {acked rest : List (Acknowledged Session)} (behind : Filled cache filled acked rest)
    (before after : RequestHandle Session) (same : ∀ ack, before = some ack → after = some ack)
    (spare : after = none → acked = []) :
    Filled (before :: cache) (after :: filled)
      ((if before.isNone then after.toList else []) ++ acked) rest where
  length := congrArg Nat.succ behind.length
  kept index ack there := by
    cases index with
    | zero =>
        rw [List.getElem?_cons_zero, Option.some.injEq] at there ⊢
        exact same ack there
    | succ index => exact behind.kept index ack there
  taken := by
    have first : newcomers (before :: cache) (after :: filled) =
        (if before.isNone then after.toList else []) ++ newcomers cache filled := by
      simp only [newcomers, List.zip_cons_cons, List.filterMap_cons]
      cases before with
      | some ack => rfl
      | none => cases after <;> rfl
    rw [first, List.append_assoc, ← behind.taken]
  free left := by
    rcases List.mem_cons.mp left with here | later
    · have used := behind.taken
      rw [spare here.symm] at used
      exact (List.append_eq_nil_iff.mp used.symm).2
    · exact behind.free later

theorem settled_cons (request : ClientRequest Session) (first : Acknowledged Session)
    (later : List (Acknowledged Session)) :
    settled request (first :: later) =
      settled { request with status := if first.success then .ok else .error } later := by
  unfold settled
  cases later with
  | nil => rfl
  | cons second rest =>
      rw [List.getLast?_cons_cons]
      cases last : (second :: rest).getLast? with
      | none => cases List.getLast?_eq_none_iff.mp last
      | some ack => rfl

theorem matchHandle_eq (handle : RequestHandle Session) (request : ClientRequest Session) :
    matchHandle handle request = (cleared request.packet.tag handle,
      settled request (handle.toList.filter (answers request.packet.tag))) := by
  cases handle with
  | none => rfl
  | some ack =>
      by_cases same : ack.tag = request.packet.tag
      · simp [matchHandle, cleared, settled, answers, same, Option.filter]
      · simp [matchHandle, cleared, settled, answers, same, Option.filter]

theorem settled_tag (request : ClientRequest Session) (removed : List (Acknowledged Session)) :
    (settled request removed).packet = request.packet := by
  unfold settled
  split <;> rfl

theorem settled_append (request : ClientRequest Session)
    (first second : List (Acknowledged Session)) :
    settled (settled request first) second = settled request (first ++ second) := by
  induction first generalizing request with
  | nil => rfl
  | cons ack rest ih => rw [settled_cons, ih, List.cons_append, settled_cons]

theorem entries_cons (handle : RequestHandle Session) (cache : List (RequestHandle Session)) :
    entries (handle :: cache) = handle.toList ++ entries cache := by
  cases handle <;> rfl

/-- `Update_Response_Queue` fills a free handle from the front of the queue. -/
theorem updateResponseQueue_takes (handle : RequestHandle Session)
    (acked : List (Acknowledged Session)) :
    ∃ after remaining, updateResponseQueue handle acked = (after, remaining) ∧
      acked = (if handle.isNone then after.toList else []) ++ remaining ∧
      (∀ ack, handle = some ack → after = some ack) ∧ (after = none → remaining = []) := by
  cases handle with
  | some held => exact ⟨some held, acked, rfl, rfl, fun _ same => same, fun empty => by cases empty⟩
  | none =>
      cases acked with
      | nil => exact ⟨none, [], rfl, rfl, fun _ same => same, fun _ => rfl⟩
      | cons first rest =>
          refine ⟨some first, rest, rfl, rfl, fun _ same => ?_, fun empty => ?_⟩
          · cases same
          · cases empty

theorem updateFrom_filled (cache : List (RequestHandle Session))
    (acked : List (Acknowledged Session)) (request : ClientRequest Session) :
    ∃ filled rest, Filled cache filled acked rest ∧
      updateFrom cache acked request =
        (filled.map (cleared request.packet.tag), rest,
          settled request ((entries filled).filter (answers request.packet.tag))) := by
  induction cache generalizing acked request with
  | nil => exact ⟨[], acked, Filled.nil acked, rfl⟩
  | cons handle cache ih =>
      obtain ⟨after, remaining, queue, split_, kept, spare⟩ :=
        updateResponseQueue_takes handle acked
      obtain ⟨filled, rest, behind, later⟩ := ih remaining
        (settled request (after.toList.filter (answers request.packet.tag)))
      rw [settled_tag] at later
      refine ⟨after :: filled, rest, ?_, ?_⟩
      · rw [split_]
        exact behind.cons handle after kept spare
      · simp only [updateFrom, queue, matchHandle_eq, later, List.map_cons, entries_cons,
          List.filter_append, settled_append]

/-- Filling moves acknowledgements and keeps all of them. -/
theorem entries_filled (cache filled : List (RequestHandle Session))
    (sized : filled.length = cache.length)
    (kept : ∀ (index : Nat) ack, cache[index]? = some (some ack) →
      filled[index]? = some (some ack)) :
    (entries filled).Perm (entries cache ++ newcomers cache filled) := by
  induction cache generalizing filled with
  | nil =>
      rw [List.length_nil, List.length_eq_zero_iff] at sized
      rw [sized]
      exact List.Perm.refl _
  | cons before cache ih =>
      cases filled with
      | nil => cases sized
      | cons after filled =>
          have rest := ih filled (Nat.succ.inj sized)
            fun index ack there => kept (index + 1) ack there
          cases before with
          | some ack =>
              have same := kept 0 ack rfl
              rw [List.getElem?_cons_zero, Option.some.injEq] at same
              rw [same, entries_cons, entries_cons]
              exact rest.cons ack
          | none =>
              cases after with
              | none => exact rest
              | some ack =>
                  rw [entries_cons]
                  exact (rest.cons ack).trans List.perm_middle.symm

theorem entries_cleared (tag : Nat) (filled : List (RequestHandle Session)) :
    entries (filled.map (cleared tag)) =
      (entries filled).filter fun ack => !answers tag ack := by
  induction filled with
  | nil => rfl
  | cons handle filled ih =>
      rw [List.map_cons, entries_cons, entries_cons, ih, List.filter_append]
      cases handle with
      | none => rfl
      | some ack =>
          by_cases same : answers tag ack = true
          · simp [cleared, same, Option.filter]
          · simp [cleared, same, Option.filter]

theorem settled_status_iff (request : ClientRequest Session)
    (removed : List (Acknowledged Session)) (pending : request.status = .pending) :
    (settled request removed).status ≠ .pending ↔ removed ≠ [] := by
  unfold settled
  cases last : removed.getLast? with
  | none =>
      rw [List.getLast?_eq_none_iff] at last
      simp [last, pending]
  | some ack =>
      have nonempty : removed ≠ [] := by
        rintro rfl
        cases last
      refine iff_of_true ?_ nonempty
      simp only
      split <;> simp

/-- What was cached and queued is left in the cache, or in the queue, or taken out. -/
theorem Filled.conserves {cache filled : List (RequestHandle Session)}
    {acked rest : List (Acknowledged Session)} (filling : Filled cache filled acked rest)
    (tag : Nat) :
    (entries cache ++ acked).Perm (entries (filled.map (cleared tag)) ++ rest ++
      (entries filled).filter (answers tag)) := by
  have moved := entries_filled cache filled filling.length filling.kept
  have parts := List.filter_append_perm (answers tag) (entries filled)
  have start : entries cache ++ acked = entries cache ++ newcomers cache filled ++ rest := by
    rw [List.append_assoc, ← filling.taken]
  have together : (entries cache ++ acked).Perm (entries filled ++ rest) := by
    rw [start]
    exact moved.symm.append_right rest
  have taken : (entries filled ++ rest).Perm ((entries filled).filter (answers tag) ++
      (entries (filled.map (cleared tag)) ++ rest)) := by
    rw [entries_cleared, ← List.append_assoc]
    exact parts.symm.append_right rest
  exact (together.trans taken).trans List.perm_append_comm

theorem count_of_other_tag [DecidableEq Session] {held left removed : List (Acknowledged Session)}
    {tag : Nat} (conserved : held.Perm (left ++ removed))
    (removedTag : ∀ ack ∈ removed, ack.tag = tag) (ack : Acknowledged Session)
    (other : ack.tag ≠ tag) : left.count ack = held.count ack := by
  have absent : removed.count ack = 0 :=
    List.count_eq_zero_of_not_mem fun member => other (removedTag ack member)
  rw [conserved.count_eq ack, List.count_append, absent, Nat.add_zero]

theorem removed_at_most_answers {held left removed : List (Acknowledged Session)} {tag : Nat}
    (conserved : held.Perm (left ++ removed)) (removedTag : ∀ ack ∈ removed, ack.tag = tag) :
    removed.length ≤ (held.filter (answers tag)).length := by
  have same := (conserved.filter (answers tag)).length_eq
  have all : removed.filter (answers tag) = removed :=
    List.filter_eq_self.mpr fun ack member => decide_eq_true_eq.mpr (removedTag ack member)
  rw [List.filter_append, List.length_append, all] at same
  omega

/-- `Update_Request` conserves acknowledgements: it takes from the queue in order and into free
entries only, as long as there is one, and it removes what has the tag of the request and nothing
else. -/
theorem updateRequest_conserves [DecidableEq Session] [DecidableEq Key]
    (world : ClientWorld Session Key) (c : Session) (r : Key)
    (pending : (world.requests r).status = .pending) :
    let tag := (world.requests r).packet.tag
    let after := world.updateRequest c r
    let held := entries world.cache ++ (world.sessions c).acked
    let left := entries after.cache ++ (after.sessions c).acked
    ∃ filled removed,
      Filled world.cache filled (world.sessions c).acked (after.sessions c).acked ∧
      after.cache = filled.map (cleared tag) ∧
      removed = (entries filled).filter (answers tag) ∧
      held.Perm (left ++ removed) ∧
      ((after.requests r).status ≠ .pending ↔ removed ≠ []) ∧
      (∀ last, removed.getLast? = some last →
        (after.requests r).status = if last.success then .ok else .error) ∧
      (∀ ack, ack.tag ≠ tag → left.count ack = held.count ack) ∧
      ((held.filter (answers tag)).length = 1 → removed.length ≤ 1) ∧
      (∀ other, other ≠ r → after.requests other = world.requests other) ∧
      ∀ other, other ≠ c → after.sessions other = world.sessions other := by
  intro tag after held left
  obtain ⟨filled, rest, filling, loop⟩ :=
    updateFrom_filled world.cache (world.sessions c).acked (world.requests r)
  have cache : after.cache = filled.map (cleared tag) := by
    simp [after, tag, ClientWorld.updateRequest, loop]
  have queue : (after.sessions c).acked = rest := by
    simp [after, ClientWorld.updateRequest, ClientWorld.setRequest, ClientWorld.setSession, loop]
  have request : after.requests r =
      settled (world.requests r) ((entries filled).filter (answers tag)) := by
    simp [after, tag, ClientWorld.updateRequest, ClientWorld.setRequest, loop]
  have conserved : held.Perm (left ++ (entries filled).filter (answers tag)) := by
    have permuted := filling.conserves tag
    rw [← cache, ← queue] at permuted
    exact permuted
  have removedTag : ∀ ack ∈ (entries filled).filter (answers tag), ack.tag = tag := by
    intro ack member
    exact decide_eq_true_eq.mp (List.mem_filter.mp member).2
  refine ⟨filled, (entries filled).filter (answers tag), ?_, cache, rfl, conserved, ?_, ?_, ?_, ?_,
    ?_, ?_⟩
  · rw [queue]
    exact filling
  · rw [request]
    exact settled_status_iff (world.requests r) _ pending
  · intro last found
    rw [request, settled, found]
  · exact count_of_other_tag conserved removedTag
  · intro single
    have bound := removed_at_most_answers conserved removedTag
    omega
  · intro other different
    simp [after, ClientWorld.updateRequest, ClientWorld.setRequest, ClientWorld.setSession,
      different]
  · intro other different
    simp [after, ClientWorld.updateRequest, ClientWorld.setRequest, ClientWorld.setSession,
      different]

/-! A full cache that holds one answer to the request, and a queue with the answer to another. -/

def fullCache : List (RequestHandle Unit) :=
  some ⟨7, true, ⟨0, ()⟩⟩ :: List.replicate 127 (some ⟨9, false, ⟨1, ()⟩⟩)

def fullWorld : ClientWorld Unit Unit where
  sessions := fun _ => ⟨true, 512, some 1, [], [⟨8, true, ⟨2, ()⟩⟩]⟩
  cache := fullCache
  requests := fun _ => ⟨⟨0, 0, 0, 7, 0, 1⟩, .pending, some 1, some ⟨0, ()⟩⟩
  enqueued := 3
  acknowledged := []

theorem full_cache_conserves :
    ∃ removed : List (Acknowledged Unit),
      (entries fullCache ++ (fullWorld.sessions ()).acked).Perm
        (entries (fullWorld.updateRequest () ()).cache ++
          ((fullWorld.updateRequest () ()).sessions ()).acked ++ removed) ∧
      (((fullWorld.updateRequest () ()).requests ()).status ≠ .pending ↔ removed ≠ []) := by
  obtain ⟨_, removed, _, _, _, conserved, changed, _⟩ := updateRequest_conserves fullWorld () () rfl
  exact ⟨removed, conserved, changed⟩

end Gneiss.Genode.Block
