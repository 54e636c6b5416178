import RiseVpn.Library.Utf8Lines

/-!
# Escaping in URLs

`escape` spells a text with the bytes that are kept and `%XX` for the others. `queryEscape` and
`pathEscape` are the escapes of `net/url` for a component of a query and for a segment of a path;
they differ in what they keep and in the space. `encodeValues` is the query of some values.

`notMem_queryEscape` and `notMem_encodeValues` say that what the escape does not keep cannot occur
in a query, so that it separates the query from what stands before it.
-/

set_option autoImplicit false

namespace UrlEscape

open Utf8Lines

/-- A letter or digit of ASCII, or one of `-_.~`. -/
def Unreserved (char : Char) : Prop :=
  char.isAlphanum = true ∨ char ∈ ['-', '_', '.', '~']
  deriving Decidable

def hexDigit (n : ℕ) : Char := "0123456789ABCDEF".toList.getD n '0'

/-- `%XX`. -/
def percent (byte : UInt8) : List Char :=
  ['%', hexDigit (byte.toNat / 16), hexDigit (byte.toNat % 16)]

/-- What the escape spells for a byte, with the text of a space. -/
def escapeByte (kept : Char → Bool) (space : List Char) (byte : UInt8) : List Char :=
  if byte.toNat = 32 then space
  else if byte.toNat < 128 ∧ kept (Char.ofNat byte.toNat) then [Char.ofNat byte.toNat]
  else percent byte

def escape (kept : Char → Bool) (space : List Char) (text : List Char) : List Char :=
  (encode text).flatMap (escapeByte kept space)

/-- `url.QueryEscape`. -/
def queryEscape (text : String) : String :=
  String.ofList (escape (fun char ↦ Unreserved char) ['+'] text.toList)

/-- `url.PathEscape`. -/
def pathEscape (text : String) : String :=
  String.ofList (escape (fun char ↦ Unreserved char ∨ char ∈ ['$', '&', '+', '=', ':', '@'])
    ['%', '2', '0'] text.toList)

/-- `url.Values.Encode` of values whose keys are in order. -/
def encodeValues (values : List (String × String)) : String :=
  "&".intercalate (values.map fun value ↦ queryEscape value.1 ++ "=" ++ queryEscape value.2)

theorem hexDigit_isAlphanum (n : ℕ) : (hexDigit n).isAlphanum = true := by
  unfold hexDigit
  rw [List.getD_eq_getElem?_getD]
  cases hdigit : "0123456789ABCDEF".toList[n]? with
  | none => decide
  | some digit =>
    have hdigits : "0123456789ABCDEF".toList.all Char.isAlphanum = true := by decide
    exact List.all_eq_true.mp hdigits digit (List.mem_of_getElem? hdigit)

theorem notMem_escapeByte {kept : Char → Bool} {space : List Char} {char : Char}
    (hkept : kept char = false) (hspace : char ∉ space) (hpercent : char ≠ '%')
    (hdigit : char.isAlphanum = false) (byte : UInt8) : char ∉ escapeByte kept space byte := by
  unfold escapeByte
  split_ifs with hblank hplain
  · exact hspace
  · rw [List.mem_singleton]
    rintro rfl
    rw [hplain.2] at hkept
    cases hkept
  · have hhex : ∀ n, char ≠ hexDigit n := by
      rintro n rfl
      rw [hexDigit_isAlphanum] at hdigit
      cases hdigit
    simp [percent, hpercent, hhex]

theorem notMem_queryEscape {char : Char} (hkept : ¬ Unreserved char) (hplus : char ≠ '+')
    (hpercent : char ≠ '%') (text : String) : char ∉ (queryEscape text).toList := by
  rw [queryEscape, String.toList_ofList, escape, List.mem_flatMap]
  rintro ⟨byte, -, hmem⟩
  have hdigit : char.isAlphanum = false := by
    by_contra hletter
    exact hkept (.inl (by simpa using hletter))
  exact notMem_escapeByte (decide_eq_false hkept) (by simpa using hplus) hpercent hdigit byte hmem

theorem notMem_encodeValues {char : Char} (hkept : ¬ Unreserved char) (hplus : char ≠ '+')
    (hpercent : char ≠ '%') (hand : char ≠ '&') (hequals : char ≠ '=')
    (values : List (String × String)) : char ∉ (encodeValues values).toList := by
  have hvalue : ∀ value : String × String,
      char ∉ (queryEscape value.1 ++ "=" ++ queryEscape value.2).toList := by
    intro value
    simp only [String.toList_append, List.mem_append, not_or]
    exact ⟨⟨notMem_queryEscape hkept hplus hpercent _, by simpa using hequals⟩,
      notMem_queryEscape hkept hplus hpercent _⟩
  rw [encodeValues, String.toList_intercalate]
  induction values with
  | nil => simp
  | cons value values ih =>
    cases values with
    | nil => simpa using hvalue value
    | cons next values =>
      have hcomma : char ∉ "&".toList := by simpa using hand
      simp only [List.map_cons, List.intercalate_cons_cons, List.mem_append, not_or] at ih ⊢
      exact ⟨⟨hvalue value, hcomma⟩, ih⟩

end UrlEscape
