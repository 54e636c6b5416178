import Mathlib.Algebra.Ring.Nat
import Mathlib.Data.List.DropRight
import Mathlib.Tactic.Common

/-!
# Reading texts from the front

A reader takes a value from the front of a text and returns what stands behind it. `expect` reads a
symbol, `readUntil` values up to a symbol and `readPadded` a number of a fixed width; each gives
back what was written. Stripping the zeros at the end of a text of known length loses nothing
(`ofDigitChars_rdropWhile`).
-/

set_option autoImplicit false

namespace PrefixCode

variable {α β : Type*}

/-- Reads one symbol. -/
def expect [DecidableEq β] (symbol : β) : List β → Option (List β)
  | [] => none
  | first :: rest => if first = symbol then some rest else none

@[simp] theorem expect_cons [DecidableEq β] (symbol : β) (rest : List β) :
    expect symbol (symbol :: rest) = some rest := if_pos rfl

theorem expect_cons_of_ne [DecidableEq β] {symbol first : β} (hne : first ≠ symbol)
    (rest : List β) : expect symbol (first :: rest) = none := if_neg hne

/-- Reads a value with nothing behind it. -/
def whole (read : List β → Option (α × List β)) (text : List β) : Option α :=
  (read text).bind fun (a, rest) ↦ if rest.isEmpty then some a else none

theorem whole_of_read {read : List β → Option (α × List β)} {text : List β} {a : α}
    (hread : ∀ rest, read (text ++ rest) = some (a, rest)) : whole read text = some a := by
  have hall := hread []
  rw [List.append_nil] at hall
  rw [whole, hall]
  rfl

/-- Reads values up to a symbol, in at most as many steps as given. -/
def readUntil [DecidableEq β] (read : List β → Option (α × List β)) (stop : β) :
    ℕ → List β → Option (List α × List β)
  | 0, _ => none
  | steps + 1, text =>
    match expect stop text with
    | some rest => some ([], rest)
    | none => do
      let (a, text) ← read text
      let (more, rest) ← readUntil read stop steps text
      some (a :: more, rest)

/-- A value may need what stands behind it to be read, which is the next value or the symbol. -/
theorem readUntil_flatMap [DecidableEq β] {read : List β → Option (α × List β)}
    {encode : α → List β} {stop : β} (follows : List β → Prop)
    (hread : ∀ a rest, follows rest → read (encode a ++ rest) = some (a, rest))
    (hencode : ∀ a rest, follows (encode a ++ rest) ∧ expect stop (encode a ++ rest) = none)
    (hstop : ∀ rest, follows (stop :: rest)) (hne : ∀ a, encode a ≠ []) (values : List α)
    (rest : List β) {steps : ℕ} (hsteps : (values.flatMap encode).length < steps) :
    readUntil read stop steps (values.flatMap encode ++ stop :: rest) = some (values, rest) := by
  induction values generalizing steps with
  | nil =>
    obtain ⟨steps, rfl⟩ := Nat.exists_eq_succ_of_ne_zero (Nat.ne_zero_of_lt hsteps)
    rw [List.flatMap_nil, List.nil_append, readUntil, expect_cons]
  | cons a values ih =>
    obtain ⟨steps, rfl⟩ := Nat.exists_eq_succ_of_ne_zero (Nat.ne_zero_of_lt hsteps)
    have hpositive := List.length_pos_of_ne_nil (hne a)
    have hfollows : follows (values.flatMap encode ++ stop :: rest) := by
      cases values with
      | nil => exact hstop rest
      | cons b values =>
        rw [List.flatMap_cons, List.append_assoc]
        exact (hencode b _).1
    rw [List.flatMap_cons, List.length_append] at hsteps
    rw [List.flatMap_cons, List.append_assoc, readUntil, (hencode a _).2]
    simp only [hread a _ hfollows, ih (show _ < steps by omega), Option.bind_eq_bind,
      Option.bind_some]

/-! ### Numbers of a fixed width -/

/-- The decimal digits of a number, of which the last ones are given. -/
def padded : ℕ → ℕ → List Char
  | 0, _ => []
  | width + 1, n => padded width (n / 10) ++ [Nat.digitChar (n % 10)]

@[simp] theorem length_padded (width n : ℕ) : (padded width n).length = width := by
  induction width generalizing n with
  | zero => rfl
  | succ width ih => simp [padded, ih]

theorem ofDigitChars_padded {width n : ℕ} (hn : n < 10 ^ width) :
    Nat.ofDigitChars 10 (padded width n) 0 = n := by
  induction width generalizing n with
  | zero =>
    rw [padded, Nat.ofDigitChars_nil]
    omega
  | succ width ih =>
    rw [padded, Nat.ofDigitChars_append, ih (by omega),
      Nat.ofDigitChars_cons_digitChar_of_lt_ten (Nat.mod_lt n (by decide)), Nat.ofDigitChars_nil]
    omega

theorem isDigit_of_mem_padded {width n : ℕ} {c : Char} (hmem : c ∈ padded width n) :
    c.isDigit = true := by
  induction width generalizing n with
  | zero => cases hmem
  | succ width ih =>
    rcases List.mem_append.mp hmem with hfront | hlast
    · exact ih hfront
    · have hall : ∀ i < 10, (Nat.digitChar i).isDigit = true := by decide
      rw [List.mem_singleton.mp hlast]
      exact hall _ (Nat.mod_lt n (by decide))

/-- Reads a number of a fixed width. -/
def readPadded (width : ℕ) (text : List Char) : Option (ℕ × List Char) :=
  if width ≤ text.length ∧ (text.take width).all Char.isDigit then
    some (Nat.ofDigitChars 10 (text.take width) 0, text.drop width)
  else none

theorem readPadded_padded {width n : ℕ} (hn : n < 10 ^ width) (rest : List Char) :
    readPadded width (padded width n ++ rest) = some (n, rest) := by
  have hdigits : (padded width n).all Char.isDigit = true :=
    List.all_eq_true.mpr fun c hc ↦ isDigit_of_mem_padded hc
  rw [readPadded, List.take_left' (length_padded width n), List.drop_left' (length_padded width n),
    if_pos ⟨by simp, hdigits⟩, ofDigitChars_padded hn]

theorem rdropWhile_append_replicate [DecidableEq β] (symbol : β) (text : List β) :
    text = text.rdropWhile (· = symbol) ++
      List.replicate (text.length - (text.rdropWhile (· = symbol)).length) symbol := by
  induction text using List.reverseRecOn with
  | nil => rfl
  | append_singleton front last ih =>
    by_cases hlast : last = symbol
    · rw [List.rdropWhile_concat_pos _ _ _ (by simpa using hlast)]
      have hle : (front.rdropWhile (· = symbol)).length ≤ front.length :=
        (List.rdropWhile_prefix _ _).length_le
      rw [List.length_append, List.length_singleton, Nat.succ_sub hle, List.replicate_succ',
        ← List.append_assoc, ← ih, hlast]
    · rw [List.rdropWhile_concat_neg _ _ _ (by simpa using hlast)]
      simp

theorem ofDigitChars_rdropWhile (text : List Char) :
    Nat.ofDigitChars 10 (text.rdropWhile (· = '0')) 0 *
      10 ^ (text.length - (text.rdropWhile (· = '0')).length) = Nat.ofDigitChars 10 text 0 := by
  conv_rhs => rw [rdropWhile_append_replicate '0' text]
  rw [Nat.ofDigitChars_append, Nat.ofDigitChars_replicate_zero, mul_comm]

end PrefixCode
