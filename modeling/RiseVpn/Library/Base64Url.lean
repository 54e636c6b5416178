import Mathlib.Data.List.Basic

/-!
# Base64 texts without padding

The base64 alphabet for URLs, as `base64.RawURLEncoding` writes and reads it: three bytes are four
digits, one byte left over is two digits and two are three. A reader skips line breaks and does not
look at the bits of the last digit that belong to no byte. A single digit left over and any other
character are errors.

`decode_encode` says that what was written is read back.
-/

set_option autoImplicit false

namespace Base64Url

/-- The digits, in their order. -/
def alphabet : List Char :=
  "ABCDEFGHIJKLMNOPQRSTUVWXYZabcdefghijklmnopqrstuvwxyz0123456789-_".toList

def digit (n : ℕ) : Char := alphabet.getD n 'A'

def value (c : Char) : Option ℕ := if c ∈ alphabet then some (alphabet.idxOf c) else none

def encodeDigits : List UInt8 → List ℕ
  | a :: b :: c :: rest =>
    a.toNat / 4 :: (a.toNat % 4 * 16 + b.toNat / 16) :: (b.toNat % 16 * 4 + c.toNat / 64) ::
      c.toNat % 64 :: encodeDigits rest
  | [a, b] => [a.toNat / 4, a.toNat % 4 * 16 + b.toNat / 16, b.toNat % 16 * 4]
  | [a] => [a.toNat / 4, a.toNat % 4 * 16]
  | [] => []

def decodeDigits : List ℕ → Option (List UInt8)
  | a :: b :: c :: d :: rest => (decodeDigits rest).map fun bytes ↦
      .ofNat (a * 4 + b / 16) :: .ofNat (b % 16 * 16 + c / 4) :: .ofNat (c % 4 * 64 + d) :: bytes
  | [a, b, c] => some [.ofNat (a * 4 + b / 16), .ofNat (b % 16 * 16 + c / 4)]
  | [a, b] => some [.ofNat (a * 4 + b / 16)]
  | [_] => none
  | [] => some []

/-- `EncodeToString`. -/
def encode (bytes : List UInt8) : String := String.ofList ((encodeDigits bytes).map digit)

/-- `DecodeString`. -/
def decode (text : String) : Option (List UInt8) :=
  ((text.toList.filter fun c ↦ c ≠ '\n' ∧ c ≠ '\r').mapM value).bind decodeDigits

theorem value_digit : ∀ n < 64, value (digit n) = some n ∧ digit n ≠ '\n' ∧ digit n ≠ '\r' := by
  decide

theorem encodeDigits_lt (bytes : List UInt8) : ∀ n ∈ encodeDigits bytes, n < 64 := by
  have hbyte : ∀ b : UInt8, b.toNat < 256 := fun b ↦ b.toNat_lt
  fun_induction encodeDigits bytes with
  | case1 a b c rest ih =>
    have ha := hbyte a
    have hb := hbyte b
    have hc := hbyte c
    simp only [List.mem_cons]
    rintro n (rfl | rfl | rfl | rfl | hrest)
    · omega
    · omega
    · omega
    · omega
    · exact ih n hrest
  | case2 a b =>
    have ha := hbyte a
    have hb := hbyte b
    simp only [List.mem_cons, List.not_mem_nil, or_false]
    rintro n (rfl | rfl | rfl) <;> omega
  | case3 a =>
    have ha := hbyte a
    simp only [List.mem_cons, List.not_mem_nil, or_false]
    rintro n (rfl | rfl) <;> omega
  | case4 => simp

theorem ofNat_eq {b : UInt8} {n : ℕ} (hn : n = b.toNat) : UInt8.ofNat n = b := by
  rw [hn, UInt8.ofNat_toNat]

theorem decodeDigits_encodeDigits (bytes : List UInt8) :
    decodeDigits (encodeDigits bytes) = some bytes := by
  have hbyte : ∀ b : UInt8, b.toNat < 256 := fun b ↦ b.toNat_lt
  fun_induction encodeDigits bytes with
  | case1 a b c rest ih =>
    have hb := hbyte b
    have hc := hbyte c
    rw [decodeDigits, ih, Option.map_some]
    congr 2
    · exact ofNat_eq (by omega)
    · congr 1
      · exact ofNat_eq (by omega)
      · congr 1
        exact ofNat_eq (by omega)
  | case2 a b =>
    have hb := hbyte b
    rw [decodeDigits]
    congr 2
    · exact ofNat_eq (by omega)
    · congr 1
      exact ofNat_eq (by omega)
  | case3 a =>
    rw [decodeDigits]
    congr 2
    exact ofNat_eq (by omega)
  | case4 => rfl

theorem mapM_value {digits : List ℕ} (hdigits : ∀ n ∈ digits, n < 64) :
    (digits.map digit).mapM value = some digits := by
  induction digits with
  | nil => rfl
  | cons n rest ih =>
    obtain ⟨hn, hrest⟩ := List.forall_mem_cons.mp hdigits
    rw [List.map_cons, List.mapM_cons, (value_digit n hn).1, ih hrest]
    rfl

theorem decode_encode (bytes : List UInt8) : decode (encode bytes) = some bytes := by
  have hdigits := encodeDigits_lt bytes
  have hkept : ((encodeDigits bytes).map digit).filter (fun c ↦ c ≠ '\n' ∧ c ≠ '\r') =
      (encodeDigits bytes).map digit := by
    rw [List.filter_eq_self]
    intro c hc
    obtain ⟨n, hn, rfl⟩ := List.mem_map.mp hc
    exact decide_eq_true (value_digit n (hdigits n hn)).2
  rw [decode, encode, String.toList_ofList, hkept, mapM_value hdigits, Option.bind_some,
    decodeDigits_encodeDigits]

end Base64Url
