import Mathlib.Algebra.Order.Ring.Int
import Mathlib.Tactic.Common

/-!
# Decimal texts of 64-bit integers

`parseInt64` reads an optional sign and at least one decimal digit and refuses a value outside the
signed 64-bit range. `parseInt64_repr` is the round trip with the decimal text of a natural number,
`parseInt_toString` the one of `parseInt` with the text of an integer, so that the text identifies
the number. `not_mem_toString` says which characters the text of an integer does not have, so that
such a character separates it from what stands before it (`append_cons_left_inj`).
-/

set_option autoImplicit false

namespace DecimalText

/-- The value of a non-empty list of decimal digits. -/
def parseDigits (digits : List Char) : Option ℕ :=
  if digits ≠ [] ∧ digits.all Char.isDigit then some (Nat.ofDigitChars 10 digits 0) else none

/-- Reads a signed decimal text of the 64-bit range. -/
def parseInt64 (text : String) : Option ℤ :=
  match text.toList with
  | '-' :: digits =>
    (parseDigits digits).bind fun n ↦ if n ≤ 2 ^ 63 then some (-(n : ℤ)) else none
  | '+' :: digits => (parseDigits digits).bind fun n ↦ if n < 2 ^ 63 then some (n : ℤ) else none
  | digits => (parseDigits digits).bind fun n ↦ if n < 2 ^ 63 then some (n : ℤ) else none

theorem parseDigits_toDigits (n : ℕ) : parseDigits (Nat.toDigits 10 n) = some n := by
  have hdigits : (Nat.toDigits 10 n).all Char.isDigit = true := by
    rw [List.all_eq_true]
    exact fun c hc ↦ Nat.isDigit_of_mem_toDigits (by decide) (by decide) hc
  rw [parseDigits, if_pos ⟨Nat.toDigits_ne_nil, hdigits⟩, Nat.ofDigitChars_ten_toDigits]

theorem repr_injective {m n : ℕ} (h : Nat.repr m = Nat.repr n) : m = n := by
  have hdigits : Nat.toDigits 10 m = Nat.toDigits 10 n := by
    rw [← Nat.toList_repr, ← Nat.toList_repr, h]
  have hparsed := congrArg parseDigits hdigits
  rw [parseDigits_toDigits, parseDigits_toDigits] at hparsed
  exact Option.some.inj hparsed

theorem parseInt64_repr (n : ℕ) :
    parseInt64 (Nat.repr n) = if n < 2 ^ 63 then some (n : ℤ) else none := by
  have htext : (Nat.repr n).toList = Nat.toDigits 10 n := by simp [Nat.repr]
  have hdigit : ∀ c ∈ Nat.toDigits 10 n, c.isDigit = true := fun c hc ↦
    Nat.isDigit_of_mem_toDigits (by decide) (by decide) hc
  unfold parseInt64
  rw [htext]
  split
  · rename_i digits heq
    exact absurd (hdigit '-' (by rw [heq]; simp)) (by decide)
  · rename_i digits heq
    exact absurd (hdigit '+' (by rw [heq]; simp)) (by decide)
  · rw [parseDigits_toDigits, Option.bind_some]

/-- Reads a decimal text with a sign only in front of a negative number. -/
def parseInt : List Char → Option ℤ
  | '-' :: digits => (parseDigits digits).map fun n ↦ -(n : ℤ)
  | digits => (parseDigits digits).map fun n ↦ (n : ℤ)

theorem toList_toString_negSucc (n : ℕ) :
    (toString (Int.negSucc n)).toList = '-' :: Nat.toDigits 10 (n + 1) := by
  change ("-" ++ Nat.repr (n + 1)).toList = _
  simp [Nat.repr]

theorem not_mem_toString {c : Char} (hdigit : c.isDigit = false) (hminus : c ≠ '-') (n : ℤ) :
    c ∉ (toString n).toList := by
  have hdigits : ∀ k : ℕ, c ∉ Nat.toDigits 10 k := by
    intro k hmem
    have hc := Nat.isDigit_of_mem_toDigits (by decide) (by decide) hmem
    rw [hdigit] at hc
    cases hc
  cases n with
  | ofNat k => exact (Nat.toList_repr (n := k)).symm ▸ hdigits k
  | negSucc k =>
    rw [toList_toString_negSucc, List.mem_cons, not_or]
    exact ⟨hminus, hdigits _⟩

theorem parseInt_toString (n : ℤ) : parseInt (toString n).toList = some n := by
  cases n with
  | ofNat k =>
    have htext : (toString (Int.ofNat k)).toList = Nat.toDigits 10 k := Nat.toList_repr
    rw [htext, parseInt, parseDigits_toDigits]
    · rfl
    · intro digits hminus
      exact absurd (Nat.isDigit_of_mem_toDigits (by decide) (by decide)
        (hminus ▸ List.mem_cons_self)) (by decide)
  | negSucc k =>
    rw [toList_toString_negSucc, parseInt, parseDigits_toDigits]
    rfl

theorem toString_injective {m n : ℤ} (h : toString m = toString n) : m = n := by
  have hparsed := parseInt_toString m
  rw [h, parseInt_toString] at hparsed
  exact (Option.some.inj hparsed).symm

theorem append_cons_left_inj {α : Type*} {separator : α} {first second left right : List α}
    (hleft : separator ∉ left) (hright : separator ∉ right)
    (h : first ++ separator :: left = second ++ separator :: right) : first = second := by
  rcases List.append_eq_append_iff.mp h with ⟨more, hsecond, hrest⟩ | ⟨more, hfirst, hrest⟩
  · cases more with
    | nil => simpa using hsecond.symm
    | cons head tail =>
      obtain ⟨-, hrest⟩ := List.cons.inj hrest
      exact absurd (by rw [hrest]; simp) hleft
  · cases more with
    | nil => simpa using hfirst
    | cons head tail =>
      obtain ⟨-, hrest⟩ := List.cons.inj hrest
      exact absurd (by rw [hrest]; simp) hright

end DecimalText
