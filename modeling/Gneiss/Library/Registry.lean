import Mathlib.Data.List.Basic
import Mathlib.Logic.Function.Basic

/-!
A set of registrations, each a descriptor together with a key. `active key` is the descriptor on
which the key can be called, if it can be called at all.
-/

namespace Registry

variable {Key : Type}

def Backed (active : Key → Option Int) (entries : List (Int × Key)) : Prop :=
  ∀ entry ∈ entries, active entry.2 = some entry.1

theorem backed_nil (active : Key → Option Int) : Backed active [] :=
  fun _ member => (List.not_mem_nil member).elim

theorem Backed.cons {active : Key → Option Int} {entries : List (Int × Key)}
    (backed : Backed active entries) {key : Key} {fd : Int} (called : active key = some fd) :
    Backed active ((fd, key) :: entries) := by
  intro entry member
  rcases List.mem_cons.mp member with rfl | later
  · exact called
  · exact backed entry later

theorem Backed.filter {active : Key → Option Int} {entries : List (Int × Key)}
    (backed : Backed active entries) (kept : Int × Key → Bool) :
    Backed active (entries.filter kept) :=
  fun entry member => backed entry (List.mem_of_mem_filter member)

variable [DecidableEq Key]

/-- A key that could not be called is not registered. -/
theorem Backed.update {active : Key → Option Int} {entries : List (Int × Key)}
    (backed : Backed active entries) {key : Key} (idle : active key = none) (value : Option Int) :
    Backed (Function.update active key value) entries := by
  intro entry member
  have called := backed entry member
  have other : entry.2 ≠ key := by
    intro same
    rw [same, idle] at called
    cases called
  rw [Function.update_of_ne other]
  exact called

/-- Without the registrations of its descriptor a key may change. -/
theorem Backed.remove {active : Key → Option Int} {entries : List (Int × Key)}
    (backed : Backed active entries) {key : Key} {fd : Int} (called : active key = some fd)
    (value : Option Int) :
    Backed (Function.update active key value) (entries.filter fun entry => entry.1 ≠ fd) := by
  intro entry member
  obtain ⟨before, different⟩ := List.mem_filter.mp member
  have other : entry.2 ≠ key := by
    intro same
    have equal := backed entry before
    rw [same, called, Option.some.injEq] at equal
    simp [equal] at different
  rw [Function.update_of_ne other]
  exact backed entry before

/-! A function on keys that reads a family of records, when one record is replaced. -/

section Families

variable {Id Record Result : Type} [DecidableEq Id]

theorem update_family (key : Id → Key) (family : Id → Record) (id : Id) (record : Record)
    (read : Id → Record → Result) {before after : Key → Result}
    (own : ∀ other, before (key other) = read other (family other))
    (replaced : ∀ other, after (key other) = read other (Function.update family id record other))
    (others : ∀ place, (∀ other, place ≠ key other) → after place = before place) :
    after = Function.update before (key id) (read id record) := by
  funext place
  by_cases same : place = key id
  · rw [same, replaced, Function.update_self, Function.update_self]
  · rw [Function.update_of_ne same]
    by_cases member : ∃ other, place = key other
    · obtain ⟨other, rfl⟩ := member
      have different : other ≠ id := fun equal => same (by rw [equal])
      rw [replaced, Function.update_of_ne different, own]
    · exact others place fun other equal => member ⟨other, equal⟩

end Families

end Registry
