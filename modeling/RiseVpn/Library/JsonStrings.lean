import RiseVpn.Library.DecimalText
import RiseVpn.Library.PrefixCode

/-!
# JSON strings and objects

`quote` is the JSON text of a string as Go's `encoding/json` writes it: seven characters have an
escape of their own, and the other control characters, the characters with a meaning in HTML and the
two line separators of JavaScript are written as `\uXXXX`. `unescape` reads one character of such a
text and `unquote` the whole of it (`unquote_quote`). `readObject` reads the text of an object of
strings and whole numbers (`readObject_object`).
-/

set_option autoImplicit false

namespace JsonStrings

open PrefixCode

/-- The characters with an escape of their own, and its letter. -/
def letters : List (Char × Char) :=
  [('"', '"'), ('\\', '\\'), ('\x08', 'b'), ('\x0c', 'f'), ('\n', 'n'), ('\r', 'r'), ('\t', 't')]

/-- The other characters that are escaped. -/
def HexEscaped (c : Char) : Prop :=
  c.toNat < 32 ∨ c ∈ ['<', '>', '&', '\u2028', '\u2029']
  deriving Decidable

def hexDigits : List Char := "0123456789abcdef".toList

def hexDigit (n : ℕ) : Char := hexDigits.getD n '0'

def hexValue (c : Char) : ℕ := hexDigits.idxOf c

/-- `encoding/json` for one character of a string. -/
def escape (c : Char) : List Char :=
  match letters.lookup c with
  | some letter => ['\\', letter]
  | none =>
    if HexEscaped c then
      ['\\', 'u', hexDigit (c.toNat / 4096), hexDigit (c.toNat / 256 % 16),
        hexDigit (c.toNat / 16 % 16), hexDigit (c.toNat % 16)]
    else [c]

def quote (text : String) : List Char := '"' :: (text.toList.flatMap escape ++ ['"'])

def unescape : List Char → Option (Char × List Char)
  | '\\' :: 'u' :: first :: second :: third :: fourth :: rest =>
    some (Char.ofNat (hexValue first * 4096 + hexValue second * 256 + hexValue third * 16 +
      hexValue fourth), rest)
  | '\\' :: letter :: rest =>
    (letters.find? fun entry ↦ entry.2 = letter).map fun entry ↦ (entry.1, rest)
  | c :: rest => some (c, rest)
  | [] => none

example : String.ofList (quote "<a>\n\"") = "\"\\u003ca\\u003e\\n\\\"\"" := by decide

theorem hexValue_hexDigit {n : ℕ} (hn : n < 16) : hexValue (hexDigit n) = n := by
  have hall : ∀ i < 16, hexValue (hexDigit i) = i := by decide
  exact hall n hn

theorem HexEscaped.toNat_lt {c : Char} (hescaped : HexEscaped c) : c.toNat < 65536 := by
  rcases hescaped with hcontrol | hspecial
  · omega
  · have hall : ['<', '>', '&', '\u2028', '\u2029'].all (·.toNat < 65536) = true := rfl
    exact of_decide_eq_true (List.all_eq_true.mp hall c hspecial)

theorem unescape_letter {c letter : Char} (hletter : letters.lookup c = some letter)
    (rest : List Char) : unescape ('\\' :: letter :: rest) = some (c, rest) := by
  have hall : ∀ entry ∈ letters, entry.2 ≠ 'u' ∧
      letters.find? (fun other ↦ other.2 = entry.2) = some entry := by decide
  obtain ⟨before, after, hsplit, -⟩ := List.lookup_eq_some_iff.mp hletter
  obtain ⟨hnot, hfind⟩ := hall (c, letter) (by rw [hsplit]; simp)
  rw [unescape, hfind]
  · rfl
  · exact fun _ _ _ _ _ hu _ ↦ hnot hu

theorem unescape_escape (c : Char) (rest : List Char) :
    unescape (escape c ++ rest) = some (c, rest) := by
  unfold escape
  split
  · rename_i letter hletter
    exact unescape_letter hletter rest
  · rename_i hletter
    split_ifs with hescaped
    · have hlt := hescaped.toNat_lt
      simp only [List.cons_append, List.nil_append, unescape]
      rw [hexValue_hexDigit (by omega), hexValue_hexDigit (by omega), hexValue_hexDigit (by omega),
        hexValue_hexDigit (by omega)]
      have hvalue : c.toNat / 4096 * 4096 + c.toNat / 256 % 16 * 256 + c.toNat / 16 % 16 * 16 +
        c.toNat % 16 = c.toNat := by omega
      rw [hvalue, Char.ofNat_toNat]
    · have hplain : c ≠ '\\' := by
        rintro rfl
        cases hletter
      cases rest <;> simp [unescape, hplain]

theorem escape_ne_nil (c : Char) : escape c ≠ [] := by
  unfold escape
  split
  · exact List.cons_ne_nil _ _
  · split_ifs <;> exact List.cons_ne_nil _ _

theorem expect_escape (c : Char) (rest : List Char) : expect '"' (escape c ++ rest) = none := by
  unfold escape
  split
  · exact expect_cons_of_ne (by decide) _
  · rename_i hletter
    split_ifs
    · exact expect_cons_of_ne (by decide) _
    · refine expect_cons_of_ne ?_ _
      rintro rfl
      cases hletter

/-- Reads a quoted string. -/
def unquote (text : List Char) : Option (String × List Char) := do
  let (chars, rest) ← readUntil unescape '"' text.length (← expect '"' text)
  some (String.ofList chars, rest)

theorem unquote_quote (text : String) (rest : List Char) :
    unquote (quote text ++ rest) = some (text, rest) := by
  have hread : readUntil unescape '"' (quote text ++ rest).length
      (text.toList.flatMap escape ++ '"' :: rest) = some (text.toList, rest) := by
    refine readUntil_flatMap (fun _ ↦ True) (fun c rest _ ↦ unescape_escape c rest)
      (fun c rest ↦ ⟨trivial, expect_escape c rest⟩) (fun _ ↦ trivial) escape_ne_nil _ _ ?_
    simp only [quote, List.length_cons, List.length_append]
    omega
  have htail : expect '"' (quote text ++ rest) =
      some (text.toList.flatMap escape ++ '"' :: rest) := by
    simp [quote]
  simp only [unquote, htail, hread, Option.bind_eq_bind, Option.bind_some, String.ofList_toList]

/-! ### Objects of strings and numbers -/

inductive Scalar
  | text (value : String)
  | number (value : ℤ)

def Scalar.encode : Scalar → List Char
  | .text value => quote value
  | .number value => (toString value).toList

def numeric (c : Char) : Bool := c.isDigit || c = '-'

def readScalar (text : List Char) : Option (Scalar × List Char) :=
  match DecimalText.parseInt (text.takeWhile numeric) with
  | some value => some (.number value, text.dropWhile numeric)
  | none => (unquote text).map fun (value, rest) ↦ (.text value, rest)

/-- A member of an object, with the comma in front of it. -/
def encodeMember (member : String × Scalar) : List Char :=
  ',' :: (quote member.1 ++ ':' :: member.2.encode)

/-- The JSON text of an object. The first member has no comma. -/
def object (members : List (String × Scalar)) : List Char :=
  '\x7b' :: ((members.flatMap encodeMember).tail ++ ['\x7d'])

def readMember (text : List Char) : Option ((String × Scalar) × List Char) := do
  let (name, text) ← unquote (← expect ',' text)
  let (value, rest) ← readScalar (← expect ':' text)
  some ((name, value), rest)

def readObject (text : List Char) : Option (List (String × Scalar)) :=
  if text = ['\x7b', '\x7d'] then some []
  else do whole (readUntil readMember '\x7d' text.length) (',' :: (← expect '\x7b' text))

/-- A text that does not go on with a number. -/
def Ends (text : List Char) : Prop := text.takeWhile numeric = []

theorem ends_cons {c : Char} (hc : numeric c = false) (text : List Char) : Ends (c :: text) :=
  List.takeWhile_cons_of_neg (Bool.not_eq_true _ ▸ hc)

theorem readScalar_encode (value : Scalar) {rest : List Char} (hrest : Ends rest) :
    readScalar (value.encode ++ rest) = some (value, rest) := by
  cases value with
  | text value =>
    have hends : Ends (quote value ++ rest) := ends_cons (by decide) _
    have hnone : DecimalText.parseInt [] = none := by decide
    rw [Scalar.encode, readScalar, hends, hnone, unquote_quote]
    rfl
  | number value =>
    have hnumeric : ∀ c ∈ (toString value).toList, numeric c = true := by
      intro c hc
      by_contra hnot
      obtain ⟨hdigit, hminus⟩ := Bool.or_eq_false_iff.mp (Bool.eq_false_of_not_eq_true hnot)
      exact DecimalText.not_mem_toString hdigit (of_decide_eq_false hminus) value hc
    have hdrop := List.takeWhile_append_dropWhile (p := numeric) (l := rest)
    rw [hrest, List.nil_append] at hdrop
    rw [Scalar.encode, readScalar, List.takeWhile_append_of_pos hnumeric, hrest, List.append_nil,
      DecimalText.parseInt_toString, List.dropWhile_append_of_pos hnumeric, hdrop]

theorem readMember_encodeMember (member : String × Scalar) {rest : List Char}
    (hrest : Ends rest) : readMember (encodeMember member ++ rest) = some (member, rest) := by
  simp only [readMember, encodeMember, List.cons_append, List.append_assoc, expect_cons,
    Option.bind_eq_bind, Option.bind_some, unquote_quote, readScalar_encode member.2 hrest]

theorem lt_length_object (member : String × Scalar) (members : List (String × Scalar)) :
    ((member :: members).flatMap encodeMember).length <
      (object (member :: members)).length := by
  simp only [object, List.length_cons, List.length_append, List.length_tail, List.length_nil]
  omega

theorem readObject_object (members : List (String × Scalar)) :
    readObject (object members) = some members := by
  cases members with
  | nil => rfl
  | cons member members =>
    have hread := readUntil_flatMap Ends (fun member _ ↦ readMember_encodeMember member)
      (fun member rest ↦ ⟨ends_cons (by decide) _, expect_cons_of_ne (by decide) _⟩)
      (ends_cons (by decide : numeric '\x7d' = false)) (fun member ↦ List.cons_ne_nil _ _)
      (member :: members) [] (lt_length_object member members)
    rw [readObject, if_neg (by simp [object, encodeMember, quote]), object, expect_cons]
    exact congrArg (Option.bind · _) hread

end JsonStrings
