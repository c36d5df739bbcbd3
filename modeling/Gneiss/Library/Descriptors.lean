import Mathlib.Data.List.Basic
import Mathlib.Logic.Function.Basic

/-!
The descriptor table of one process; a negative number is no descriptor. A call that creates
descriptors is given the numbers the kernel offers and fails unless they are fresh, so no reachable
table holds a number twice. `Owned` says that a family of variables holds pairwise distinct open
descriptors.
-/

namespace Descriptors

def valid (fd : Int) : Bool := decide (-1 < fd)

structure Table where
  opened : List Int
  watched : List Int
  deriving DecidableEq, Repr

def Table.fresh (table : Table) (fd : Int) : Bool :=
  valid fd && decide (fd ∉ table.opened)

def Table.insert (table : Table) (fd : Int) : Table :=
  { table with opened := fd :: table.opened }

def Table.allocate (table : Table) : Option Int → Table × Int
  | some fd => if table.fresh fd then (table.insert fd, fd) else (table, -1)
  | none => (table, -1)

def Table.grantsPair (table : Table) (first second : Int) : Bool :=
  table.fresh first && table.fresh second && decide (first ≠ second)

def Table.allocatePair (table : Table) :
    Option (Int × Int) → Table × Int × Int
  | some (first, second) =>
      if table.grantsPair first second then
        ((table.insert first).insert second, first, second)
      else (table, -1, -1)
  | none => (table, -1, -1)

/-- Descriptors that arrive with a message; a slot without a fresh one holds -1. -/
def Table.receive (table : Table) : List Int → Table × List Int
  | [] => (table, [])
  | fd :: rest =>
      let (table, fd) := table.allocate (some fd)
      let (table, rest) := table.receive rest
      (table, fd :: rest)

def Table.close (table : Table) (fd : Int) : Table :=
  if fd < 0 then table
  else {
    opened := table.opened.filter (· ≠ fd)
    watched := table.watched.filter (· ≠ fd)
  }

def Table.closeAll (table : Table) (fds : List Int) : Table :=
  fds.foldl Table.close table

def Table.watch (table : Table) (fd : Int) (success : Bool) : Table :=
  if success then { table with watched := fd :: table.watched } else table

def Table.unwatch (table : Table) (fd : Int) (success : Bool) : Table :=
  if success then { table with watched := table.watched.filter (· ≠ fd) } else table

theorem valid_iff (fd : Int) : valid fd = true ↔ 0 ≤ fd := by
  simp only [valid, decide_eq_true_eq]
  omega

theorem ne_of_valid {fd : Int} (open_ : valid fd = true) : fd ≠ -1 := by
  rw [valid_iff] at open_
  omega

theorem nonneg_of_valid {fd : Int} (open_ : valid fd = true) : ¬fd < 0 := by
  rw [valid_iff] at open_
  omega

@[simp] theorem not_valid_negative : valid (-1) = false := rfl

theorem fresh_iff (table : Table) (fd : Int) :
    table.fresh fd = true ↔ valid fd = true ∧ fd ∉ table.opened := by
  simp [Table.fresh]

@[simp] theorem mem_insert (table : Table) (fd other : Int) :
    other ∈ (table.insert fd).opened ↔ other = fd ∨ other ∈ table.opened := by
  simp [Table.insert]

theorem mem_insertAll (table : Table) (fds : List Int) (other : Int) :
    other ∈ (fds.foldl Table.insert table).opened ↔ other ∈ fds ∨ other ∈ table.opened := by
  induction fds generalizing table with
  | nil => simp
  | cons fd rest ih =>
      rw [List.foldl_cons, ih, mem_insert, List.mem_cons]
      constructor
      · rintro (later | same | before)
        · exact Or.inl (Or.inr later)
        · exact Or.inl (Or.inl same)
        · exact Or.inr before
      · rintro ((same | later) | before)
        · exact Or.inr (Or.inl same)
        · exact Or.inl later
        · exact Or.inr (Or.inr before)

@[simp] theorem insert_watched (table : Table) (fd : Int) :
    (table.insert fd).watched = table.watched := rfl

@[simp] theorem watch_opened (table : Table) (fd : Int) (success : Bool) :
    (table.watch fd success).opened = table.opened := by
  cases success <;> rfl

@[simp] theorem unwatch_opened (table : Table) (fd : Int) (success : Bool) :
    (table.unwatch fd success).opened = table.opened := by
  cases success <;> rfl

theorem mem_close (table : Table) (fd other : Int) (open_ : valid other = true) :
    other ∈ (table.close fd).opened ↔ other ∈ table.opened ∧ other ≠ fd := by
  rw [valid_iff] at open_
  unfold Table.close
  split
  · constructor
    · intro member
      exact ⟨member, by omega⟩
    · exact fun member => member.1
  · simp

theorem mem_close_watched (table : Table) (fd other : Int) (open_ : valid other = true) :
    other ∈ (table.close fd).watched ↔ other ∈ table.watched ∧ other ≠ fd := by
  rw [valid_iff] at open_
  unfold Table.close
  split
  · constructor
    · intro member
      exact ⟨member, by omega⟩
    · exact fun member => member.1
  · simp

theorem mem_closeAll (table : Table) (fds : List Int) (other : Int) (open_ : valid other = true) :
    other ∈ (table.closeAll fds).opened ↔ other ∈ table.opened ∧ other ∉ fds := by
  induction fds generalizing table with
  | nil => simp [Table.closeAll]
  | cons fd rest ih =>
      have unfolded : table.closeAll (fd :: rest) = (table.close fd).closeAll rest := rfl
      rw [unfolded, ih, mem_close table fd other open_, List.mem_cons, not_or, and_assoc]

/-! A call that creates descriptors either leaves the table alone and returns -1, or returns fresh
descriptors that are open afterwards. -/

theorem allocate_cases (table : Table) (offer : Option Int) :
    table.allocate offer = (table, -1) ∨
      ∃ fd, offer = some fd ∧ table.fresh fd = true ∧
        table.allocate offer = (table.insert fd, fd) := by
  cases offer with
  | none => exact Or.inl rfl
  | some fd =>
      by_cases fresh : table.fresh fd = true
      · exact Or.inr ⟨fd, rfl, fresh, by simp [Table.allocate, fresh]⟩
      · exact Or.inl (by simp [Table.allocate, fresh])

theorem allocatePair_cases (table : Table) (offer : Option (Int × Int)) :
    table.allocatePair offer = (table, -1, -1) ∨
      ∃ first second, offer = some (first, second) ∧ table.grantsPair first second = true ∧
        table.allocatePair offer = ((table.insert first).insert second, first, second) := by
  match offer with
  | none => exact Or.inl rfl
  | some (first, second) =>
      by_cases granted : table.grantsPair first second = true
      · exact Or.inr ⟨first, second, rfl, granted, by simp [Table.allocatePair, granted]⟩
      · exact Or.inl (by simp [Table.allocatePair, granted])

theorem grantsPair_iff (table : Table) (first second : Int) :
    table.grantsPair first second = true ↔
      (valid first = true ∧ first ∉ table.opened) ∧
        (valid second = true ∧ second ∉ table.opened) ∧ first ≠ second := by
  simp only [Table.grantsPair, Bool.and_eq_true, fresh_iff, decide_eq_true_eq, and_assoc]

theorem receive_watched (table : Table) (offered : List Int) :
    (table.receive offered).1.watched = table.watched := by
  induction offered generalizing table with
  | nil => rfl
  | cons fd rest ih =>
      simp only [Table.receive]
      rw [ih]
      rcases allocate_cases table (some fd) with failed | ⟨other, _, _, granted⟩
      · rw [failed]
      · rw [granted, insert_watched]

theorem mem_receive (table : Table) (offered : List Int) (other : Int)
    (open_ : valid other = true) :
    other ∈ (table.receive offered).1.opened ↔
      other ∈ table.opened ∨ other ∈ (table.receive offered).2 := by
  induction offered generalizing table with
  | nil => simp [Table.receive]
  | cons fd rest ih =>
      simp only [Table.receive, List.mem_cons]
      rw [ih]
      rcases allocate_cases table (some fd) with failed | ⟨received, same, _, granted⟩
      · have different := ne_of_valid open_
        simp [failed, different]
      · rw [granted, mem_insert]
        simp only [Option.some.injEq] at same
        subst same
        constructor
        · rintro ((same | before) | later)
          · exact Or.inr (Or.inl same)
          · exact Or.inl before
          · exact Or.inr (Or.inr later)
        · rintro (before | same | later)
          · exact Or.inl (Or.inr before)
          · exact Or.inl (Or.inl same)
          · exact Or.inr later

theorem received_fresh (table : Table) (offered : List Int) (other : Int)
    (open_ : valid other = true) (received : other ∈ (table.receive offered).2) :
    other ∉ table.opened := by
  induction offered generalizing table with
  | nil => simp [Table.receive] at received
  | cons fd rest ih =>
      simp only [Table.receive, List.mem_cons] at received
      rcases allocate_cases table (some fd) with failed | ⟨first, _, fresh, granted⟩
      · rw [failed] at received
        rcases received with same | later
        · subst same
          simp at open_
        · exact ih table later
      · rw [granted] at received
        rcases received with same | later
        · subst same
          exact ((fresh_iff table other).mp fresh).2
        · intro before
          exact ih (table.insert first) later (by simp [before])

/-- Only the fresh descriptors of an offer count. -/
theorem receive_filter (table : Table) (offered : List Int) :
    table.receive ((table.receive offered).2.filter valid) =
      ((table.receive offered).1, (table.receive offered).2.filter valid) := by
  induction offered generalizing table with
  | nil => rfl
  | cons fd rest ih =>
      simp only [Table.receive]
      rcases allocate_cases table (some fd) with failed | ⟨first, _, fresh, granted⟩
      · rw [failed, List.filter_cons_of_neg (by simp)]
        exact ih table
      · have kept : valid first = true := ((fresh_iff table first).mp fresh).1
        have again : table.allocate (some first) = (table.insert first, first) := by
          simp [Table.allocate, fresh]
        rw [granted, List.filter_cons_of_pos kept, Table.receive, again]
        simp only [ih (table.insert first)]

theorem received_nodup (table : Table) (offered : List Int) :
    ((table.receive offered).2.filter valid).Nodup := by
  induction offered generalizing table with
  | nil => exact List.nodup_nil
  | cons fd rest ih =>
      simp only [Table.receive]
      rcases allocate_cases table (some fd) with failed | ⟨first, _, fresh, granted⟩
      · rw [failed, List.filter_cons_of_neg (by simp)]
        exact ih table
      · have kept : valid first = true := ((fresh_iff table first).mp fresh).1
        rw [granted, List.filter_cons_of_pos kept, List.nodup_cons]
        refine ⟨?_, ih (table.insert first)⟩
        intro again
        exact received_fresh (table.insert first) rest first kept (List.mem_of_mem_filter again)
          (by simp)

theorem receive_fresh (table : Table) (fds : List Int)
    (fresh : ∀ fd ∈ fds, table.fresh fd = true) (distinct : fds.Nodup) (absent : Nat) :
    table.receive (fds ++ List.replicate absent (-1)) =
      (fds.foldl Table.insert table, fds ++ List.replicate absent (-1)) := by
  induction fds generalizing table with
  | nil =>
      induction absent with
      | zero => rfl
      | succ absent ih =>
          simp only [List.nil_append, List.foldl_nil] at ih ⊢
          rw [List.replicate_succ, Table.receive]
          simp [Table.allocate, Table.fresh, ih]
  | cons fd rest ih =>
      rw [List.nodup_cons] at distinct
      have granted := fresh fd List.mem_cons_self
      have later : ∀ other ∈ rest, (table.insert fd).fresh other = true := by
        intro other member
        have before := (fresh_iff table other).mp (fresh other (List.mem_cons_of_mem fd member))
        rw [fresh_iff, mem_insert, not_or]
        refine ⟨before.1, ?_, before.2⟩
        rintro rfl
        exact distinct.1 member
      simp only [List.cons_append, Table.receive, Table.allocate, granted, if_true, List.foldl_cons]
      rw [ih (table.insert fd) later distinct.2]

/-! What a process can do to its table. Whatever it does, only open descriptors are watched. -/

inductive Evolves (table : Table) : Table → Prop
  | refl : Evolves table table
  | insert {later : Table} (before : Evolves table later) (fd : Int) :
      Evolves table (later.insert fd)
  | close {later : Table} (before : Evolves table later) (fd : Int) :
      Evolves table (later.close fd)
  | watch {later : Table} (before : Evolves table later) (fd : Int) (success : Bool)
      (opened : fd ∈ later.opened) : Evolves table (later.watch fd success)
  | unwatch {later : Table} (before : Evolves table later) (fd : Int) (success : Bool) :
      Evolves table (later.unwatch fd success)

theorem Evolves.trans {first second third : Table} (before : Evolves first second)
    (after : Evolves second third) : Evolves first third := by
  induction after with
  | refl => exact before
  | insert _ fd ih => exact ih.insert fd
  | close _ fd ih => exact ih.close fd
  | watch _ fd success opened ih => exact ih.watch fd success opened
  | unwatch _ fd success ih => exact ih.unwatch fd success

theorem Evolves.closeAll {table later : Table} (before : Evolves table later) (fds : List Int) :
    Evolves table (later.closeAll fds) := by
  induction fds generalizing later with
  | nil => exact before
  | cons fd rest ih => exact ih (before.close fd)

theorem Evolves.receive (table : Table) (offered : List Int) :
    Evolves table (table.receive offered).1 := by
  induction offered generalizing table with
  | nil => exact .refl
  | cons fd rest ih =>
      simp only [Table.receive]
      rcases allocate_cases table (some fd) with failed | ⟨other, _, _, granted⟩
      · rw [failed]
        exact ih table
      · rw [granted]
        exact (Evolves.refl.insert other).trans (ih (table.insert other))

def Registered (table : Table) : Prop :=
  ∀ fd ∈ table.watched, fd ∈ table.opened

theorem Evolves.registered {table later : Table} (evolves : Evolves table later)
    (registered : Registered table) : Registered later := by
  induction evolves with
  | refl => exact registered
  | insert _ fd ih =>
      intro other member
      rw [mem_insert]
      exact Or.inr (ih other member)
  | @close later _ fd ih =>
      intro other member
      unfold Table.close at member ⊢
      split
      · rename_i negative
        rw [if_pos negative] at member
        exact ih other member
      · rename_i positive
        simp only [if_neg positive, List.mem_filter] at member ⊢
        exact ⟨ih other member.1, member.2⟩
  | watch _ fd success opened ih =>
      intro other member
      rw [watch_opened]
      cases success with
      | false => exact ih other member
      | true =>
          rcases List.mem_cons.mp member with same | before
          · rw [same]
            exact opened
          · exact ih other before
  | unwatch _ fd success ih =>
      intro other member
      rw [unwatch_opened]
      cases success with
      | false => exact ih other member
      | true => exact ih other (List.mem_of_mem_filter member)

/-! Variables that hold descriptors of their own. -/

variable {Place : Type}

structure Owned (table : Table) (stored : Place → Int) : Prop where
  opened : ∀ place, valid (stored place) = true → stored place ∈ table.opened
  distinct : ∀ first second, valid (stored first) = true → stored first = stored second →
    first = second

theorem Owned.nothing (table : Table) : Owned table fun _ : Place => -1 :=
  ⟨fun _ open_ => by simp at open_, fun _ _ open_ => by simp at open_⟩

theorem Owned.of_opened {table other : Table} {stored : Place → Int} (owned : Owned table stored)
    (kept : ∀ place, valid (stored place) = true → stored place ∈ table.opened →
      stored place ∈ other.opened) : Owned other stored :=
  ⟨fun place open_ => kept place open_ (owned.opened place open_), owned.distinct⟩

theorem Owned.ne_of_fresh {table : Table} {stored : Place → Int} (owned : Owned table stored)
    {fd : Int} (open_ : valid fd = true) (fresh : fd ∉ table.opened) (place : Place) :
    stored place ≠ fd := by
  rintro rfl
  exact fresh (owned.opened place open_)

variable [DecidableEq Place]

theorem Owned.assign {table : Table} {stored : Place → Int} (owned : Owned table stored)
    (place : Place) {fd : Int} (fresh : fd ∉ table.opened) :
    Owned (table.insert fd) (Function.update stored place fd) := by
  constructor
  · intro other open_
    by_cases same : other = place
    · subst same
      simp
    · rw [Function.update_of_ne same] at open_ ⊢
      simp [owned.opened other open_]
  · intro first second open_ equal
    by_cases firstPlace : first = place
    · by_cases secondPlace : second = place
      · rw [firstPlace, secondPlace]
      · subst firstPlace
        rw [Function.update_self] at open_ equal
        rw [Function.update_of_ne secondPlace] at equal
        exact (owned.ne_of_fresh open_ fresh second equal.symm).elim
    · rw [Function.update_of_ne firstPlace] at open_ equal
      by_cases secondPlace : second = place
      · subst secondPlace
        rw [Function.update_self] at equal
        rw [equal] at open_
        exact (owned.ne_of_fresh open_ fresh first equal).elim
      · rw [Function.update_of_ne secondPlace] at equal
        exact owned.distinct first second open_ equal

theorem Owned.clear {table : Table} {stored : Place → Int} (owned : Owned table stored)
    (place : Place) : Owned table (Function.update stored place (-1)) := by
  constructor
  · intro other open_
    by_cases same : other = place
    · subst same
      simp at open_
    · rw [Function.update_of_ne same] at open_ ⊢
      exact owned.opened other open_
  · intro first second open_ equal
    by_cases firstPlace : first = place
    · subst firstPlace
      simp at open_
    · rw [Function.update_of_ne firstPlace] at open_ equal
      by_cases secondPlace : second = place
      · subst secondPlace
        rw [Function.update_self] at equal
        rw [equal] at open_
        simp at open_
      · rw [Function.update_of_ne secondPlace] at equal
        exact owned.distinct first second open_ equal

theorem Owned.release {table : Table} {stored : Place → Int} (owned : Owned table stored)
    (place : Place) :
    Owned (table.close (stored place)) (Function.update stored place (-1)) := by
  apply (owned.clear place).of_opened
  intro other open_ member
  rw [mem_close table _ _ open_]
  refine ⟨member, ?_⟩
  by_cases same : other = place
  · subst same
    simp at open_
  · rw [Function.update_of_ne same] at open_ ⊢
    exact fun equal => same (owned.distinct other place open_ equal)

theorem Owned.move {table : Table} {stored : Place → Int} (owned : Owned table stored)
    (source target : Place) :
    Owned table (Function.update (Function.update stored source (-1)) target (stored source)) := by
  have elsewhere : ∀ place, valid (Function.update stored source (-1) place) = true →
      place ≠ source ∧ Function.update stored source (-1) place = stored place := by
    intro place open_
    by_cases same : place = source
    · subst same
      simp at open_
    · exact ⟨same, Function.update_of_ne same _ _⟩
  constructor
  · intro place open_
    by_cases same : place = target
    · subst same
      rw [Function.update_self] at open_ ⊢
      exact owned.opened source open_
    · rw [Function.update_of_ne same] at open_ ⊢
      obtain ⟨_, value⟩ := elsewhere place open_
      rw [value] at open_ ⊢
      exact owned.opened place open_
  · intro first second open_ equal
    by_cases firstPlace : first = target
    · by_cases secondPlace : second = target
      · rw [firstPlace, secondPlace]
      · subst firstPlace
        rw [Function.update_self] at open_ equal
        rw [Function.update_of_ne secondPlace] at equal
        obtain ⟨other, value⟩ := elsewhere second (equal ▸ open_)
        rw [value] at equal
        exact (other (owned.distinct source second open_ equal).symm).elim
    · rw [Function.update_of_ne firstPlace] at open_ equal
      obtain ⟨other, value⟩ := elsewhere first open_
      by_cases secondPlace : second = target
      · subst secondPlace
        rw [value] at open_ equal
        rw [Function.update_self] at equal
        exact (other (owned.distinct first source open_ equal)).elim
      · rw [Function.update_of_ne secondPlace] at equal
        obtain ⟨_, value'⟩ := elsewhere second (equal ▸ open_)
        rw [value] at open_ equal
        rw [value'] at equal
        exact owned.distinct first second open_ equal

/-- Variables that take received descriptors; the descriptor of a slot without one stays loose. -/
def assignAll (stored : Place → Int) : List (Option Place) → List Int → Place → Int
  | some place :: places, fd :: fds => assignAll (Function.update stored place fd) places fds
  | none :: places, _ :: fds => assignAll stored places fds
  | _, _ => stored

theorem Owned.receive {table : Table} {stored : Place → Int} (owned : Owned table stored)
    (places : List (Option Place)) (offered : List Int) :
    Owned (table.receive offered).1 (assignAll stored places (table.receive offered).2) := by
  induction offered generalizing table stored places with
  | nil =>
      cases places with
      | nil => exact owned
      | cons place places => cases place <;> exact owned
  | cons fd rest ih =>
      simp only [Table.receive]
      rcases allocate_cases table (some fd) with failed | ⟨received, _, fresh, granted⟩
      · rw [failed]
        match places with
        | [] => exact ih owned []
        | none :: places => exact ih owned places
        | some place :: places => exact ih (owned.clear place) places
      · rw [granted]
        have closed := ((fresh_iff table received).mp fresh).2
        have loose : Owned (table.insert received) stored :=
          owned.of_opened fun place _ member => by simp [member]
        match places with
        | [] => exact ih loose []
        | none :: places => exact ih loose places
        | some place :: places => exact ih (owned.assign place closed) places

end Descriptors
