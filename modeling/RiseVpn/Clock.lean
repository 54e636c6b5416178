import Mathlib.Algebra.Order.Ring.Int
import Mathlib.Tactic.Common

/-!
# Instants, durations and machine integers

An instant is a Go `time.Time`, taken as the number of nanoseconds since the Unix epoch, and a
duration is a number of nanoseconds; both are integers here. The node keeps instants as whole Unix
seconds (`unix`), so an instant read back from its store has lost its fraction (`ofUnix`). `wrap64`
is the wrap-around of Go's `int64` addition; the controller's `bigint` columns refuse a value
outside the range instead (`Int64Range`).
-/

set_option autoImplicit false

namespace RiseVpn

def second : ℤ := 1000000000

def minute : ℤ := 60 * second

def hour : ℤ := 60 * minute

def day : ℤ := 24 * hour

/-- `Time.Unix`: the whole seconds of an instant, rounded down. -/
def unix (t : ℤ) : ℤ := t / second

/-- `time.Unix(s, 0)`. -/
def ofUnix (s : ℤ) : ℤ := s * second

/-- The zero `time.Time`, the first of January of year 1. -/
def zeroTime : ℤ := ofUnix (-62135596800)

theorem second_pos : 0 < second := by decide

theorem ofUnix_unix_le (t : ℤ) : ofUnix (unix t) ≤ t :=
  Int.ediv_mul_le t (Int.ne_of_gt second_pos)

theorem unix_lt_unix {t later : ℤ} (hlater : t + second ≤ later) : unix t < unix later := by
  unfold unix
  have hnext : (t + 1 * second) / second = t / second + 1 :=
    Int.add_mul_ediv_right t 1 (Int.ne_of_gt second_pos)
  have hle := Int.ediv_le_ediv second_pos hlater
  rw [Int.one_mul] at hnext
  omega

theorem unix_ofUnix (s : ℤ) : unix (ofUnix s) = s := by
  rw [unix, ofUnix, Int.mul_ediv_cancel s (Int.ne_of_gt second_pos)]

/-- Go's `int64` wrap-around. -/
def wrap64 (x : ℤ) : ℤ := Int.bmod x (2 ^ 64)

/-- The values a `bigint` column takes. -/
def Int64Range (x : ℤ) : Prop := -2 ^ 63 ≤ x ∧ x < 2 ^ 63
  deriving Decidable

theorem int64Range_wrap64 (x : ℤ) : Int64Range (wrap64 x) := by
  have hle := Int.le_bmod (x := x) (m := 2 ^ 64) (by decide)
  have hlt := Int.bmod_lt (x := x) (m := 2 ^ 64) (by decide)
  unfold Int64Range wrap64
  omega

theorem wrap64_of_range {x : ℤ} (hrange : Int64Range x) : wrap64 x = x := by
  unfold Int64Range at hrange
  exact Int.bmod_eq_of_le_mul_two (by omega) (by omega)

end RiseVpn
