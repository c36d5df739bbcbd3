import Gneiss.Platform.Views

/-!
`Set_Timeout` of a timer client. A `Duration` is a number of nanoseconds of 64 bits with a sign,
which both platforms take as an unsigned number. On Linux it becomes seconds and nanoseconds of a
timer descriptor, on Genode microseconds.
-/

namespace Gneiss.Timer

open Checked

/-- A `Duration` that meets the precondition of `Set_Timeout`. -/
structure PositiveDuration where
  nanoseconds : Nat
  positive : 0 < nanoseconds
  bounded : nanoseconds < 9223372036854775808

def nano : Int := 1000000000

structure Timespec where
  sec : Int
  nsec : Int
  deriving DecidableEq, Repr

def unsigned64 : Int := 18446744073709551616

/-- The fields that `gneiss_timer_set` computes. The product is signed, so it must not overflow, and
the difference is not. -/
def itValue (duration : Nat) : Option Timespec := do
  let sec ← longInteger.check ((duration : Int) / nano)
  let product ← longInteger.check (sec * nano)
  let nsec ← longInteger.check (((duration : Int) - product) % unsigned64)
  some ⟨sec, nsec⟩

/-- `timerfd_settime` of a relative one-shot timer: zero disarms it, and other values are refused if
they are not in range. -/
def timerfdSettime (timer : Option Timespec) (value : Timespec) : Option Timespec :=
  if 0 ≤ value.sec ∧ 0 ≤ value.nsec ∧ value.nsec < nano then
    if value.sec = 0 ∧ value.nsec = 0 then none else some value
  else timer

def gneissTimerSet (timer : Option Timespec) (duration : Nat) : Option (Option Timespec) := do
  let timer := timerfdSettime timer ⟨0, 0⟩
  let value ← itValue duration
  some (timerfdSettime timer value)

/-! A Genode timer session has one timeout, in microseconds. -/

def discard (_ : Option Nat) : Option Nat := none

def schedule (_ : Option Nat) (d : Nat) : Option Nat := some d

def updateTimeout (timeout : Option Nat) (d : Nat) : Option Nat :=
  let timeout := if timeout.isSome then discard timeout else timeout
  schedule timeout d

def setTimeout (timeout : Option Nat) (duration : Nat) : Option Nat :=
  updateTimeout timeout (duration / 1000)

structure AtLeast (timer : Option Timespec) (timeout : Option Nat) (d : PositiveDuration) :
    Prop where
  linux : ∃ value, gneissTimerSet timer d.nanoseconds = some (some value) ∧
    0 ≤ value.nsec ∧ value.nsec < nano ∧ value.sec * nano + value.nsec = d.nanoseconds ∧
    ¬(value.sec = 0 ∧ value.nsec = 0)
  genode : ∃ microseconds, setTimeout timeout d.nanoseconds = some microseconds ∧
    d.nanoseconds ≤ microseconds * 1000

theorem remainder_unsigned (duration : Int) :
    (duration - duration / nano * nano) % unsigned64 = duration % nano := by
  have small : 0 ≤ duration % nano ∧ duration % nano < unsigned64 := by
    unfold nano unsigned64
    omega
  have difference : duration - duration / nano * nano = duration % nano := by
    unfold nano
    omega
  rw [difference]
  exact Int.emod_eq_of_lt small.1 small.2

theorem itValue_of (duration : Nat) (sec product nsec : Int)
    (first : longInteger.check ((duration : Int) / nano) = some sec)
    (second : longInteger.check (sec * nano) = some product)
    (third : longInteger.check (((duration : Int) - product) % unsigned64) = some nsec) :
    itValue duration = some ⟨sec, nsec⟩ := by
  unfold itValue
  -- The kernel would evaluate the quotient of a checked value, so the checks are variables.
  generalize longInteger.check ((duration : Int) / nano) = checked at first ⊢
  subst first
  rw [Option.bind_eq_bind, Option.bind_some]
  generalize longInteger.check (sec * nano) = checked at second ⊢
  subst second
  rw [Option.bind_some]
  generalize longInteger.check (((duration : Int) - product) % unsigned64) = checked at third ⊢
  subst third
  rfl

theorem itValue_eq (d : PositiveDuration) :
    itValue d.nanoseconds = some ⟨(d.nanoseconds : Int) / nano, (d.nanoseconds : Int) % nano⟩ := by
  have bounded : (d.nanoseconds : Int) ≤ longInteger.last := by
    have below := d.bounded
    have last : longInteger.last = 9223372036854775807 := rfl
    omega
  have first : longInteger.first ≤ 0 := by decide
  have sec : 0 ≤ (d.nanoseconds : Int) / nano ∧
      (d.nanoseconds : Int) / nano ≤ d.nanoseconds := by
    unfold nano
    omega
  have product : 0 ≤ (d.nanoseconds : Int) / nano * nano ∧
      (d.nanoseconds : Int) / nano * nano ≤ d.nanoseconds := by
    unfold nano
    omega
  have nsec : 0 ≤ (d.nanoseconds : Int) % nano ∧
      (d.nanoseconds : Int) % nano ≤ d.nanoseconds := by
    unfold nano
    omega
  apply itValue_of d.nanoseconds _ ((d.nanoseconds : Int) / nano * nano)
  · exact longInteger.check_of_mem _ (Int.le_trans first sec.1) (Int.le_trans sec.2 bounded)
  · exact longInteger.check_of_mem _ (Int.le_trans first product.1)
      (Int.le_trans product.2 bounded)
  · rw [remainder_unsigned]
    exact longInteger.check_of_mem _ (Int.le_trans first nsec.1) (Int.le_trans nsec.2 bounded)

/-- On Linux the timer is set to exactly the duration, whatever it was set to before. -/
theorem gneissTimerSet_exact (timer : Option Timespec) (d : PositiveDuration) :
    ∃ value, gneissTimerSet timer d.nanoseconds = some (some value) ∧
      0 ≤ value.nsec ∧ value.nsec < nano ∧ value.sec * nano + value.nsec = d.nanoseconds ∧
      ¬(value.sec = 0 ∧ value.nsec = 0) := by
  have positive := d.positive
  refine ⟨⟨(d.nanoseconds : Int) / nano, (d.nanoseconds : Int) % nano⟩, ?_⟩
  have armed : ¬((d.nanoseconds : Int) / nano = 0 ∧ (d.nanoseconds : Int) % nano = 0) := by
    unfold nano
    omega
  have inRange : 0 ≤ (d.nanoseconds : Int) / nano ∧ 0 ≤ (d.nanoseconds : Int) % nano ∧
      (d.nanoseconds : Int) % nano < nano := by
    unfold nano
    omega
  refine ⟨?_, inRange.2.1, inRange.2.2, ?_, armed⟩
  · simp only [gneissTimerSet, itValue_eq, timerfdSettime, Option.bind_eq_bind, Option.bind_some,
      if_pos inRange, if_neg armed]
  · exact Int.ediv_mul_add_emod _ _

theorem setTimeout_eq (timeout : Option Nat) (duration : Nat) :
    setTimeout timeout duration = some (duration / 1000) := rfl

/-- No timeout is shorter than asked for if and only if the duration is a whole number of
microseconds. -/
theorem timeout_atLeast_iff (timer : Option Timespec) (timeout : Option Nat)
    (d : PositiveDuration) : AtLeast timer timeout d ↔ d.nanoseconds % 1000 = 0 := by
  constructor
  · intro kept
    obtain ⟨microseconds, scheduled, enough⟩ := kept.genode
    rw [setTimeout_eq, Option.some.injEq] at scheduled
    omega
  · intro whole
    refine ⟨gneissTimerSet_exact timer d, d.nanoseconds / 1000, rfl, ?_⟩
    omega

def shortDuration : PositiveDuration where
  nanoseconds := 1500
  positive := Nat.zero_lt_succ _
  bounded := Nat.lt_of_sub_pos (Nat.zero_lt_succ _)

theorem short_duration_truncated :
    setTimeout none 1500 = some 1 ∧ ¬AtLeast none none shortDuration := by
  refine ⟨rfl, ?_⟩
  intro kept
  obtain ⟨microseconds, scheduled, enough⟩ := kept.genode
  rw [setTimeout_eq, Option.some.injEq] at scheduled
  have nanoseconds : shortDuration.nanoseconds = 1500 := rfl
  omega

end Gneiss.Timer
