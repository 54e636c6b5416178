import Mathlib.Algebra.Ring.Nat
import Mathlib.Data.List.Basic

/-!
# Bytes, characters and lines

`decode` reads the bytes of a text as UTF-8, one replacement character for each byte that is part of
no character; `encode` are the bytes of a text, and `decode_encode` reads them back.

`pieces` is what stands between the newlines of a list of symbols, and `lines` leaves out the last
piece when it is empty. `lines_append` says which lines a list and what follows it have together:
all pieces of the first but the last, and the lines of the rest behind the last piece.
-/

set_option autoImplicit false

namespace Utf8Lines

/-! ### UTF-8 -/

/-- U+FFFD. -/
def replacement : Char := '�'

def decode : List UInt8 → List Char
  | [] => []
  | byte :: rest =>
    match (byte :: rest).toByteArray.utf8DecodeChar? 0 with
    | some char => char :: decode ((byte :: rest).drop char.utf8Size)
    | none => replacement :: decode rest
  termination_by bytes => bytes.length
  decreasing_by
    · have := char.utf8Size_pos
      simp only [List.length_drop, List.length_cons]
      omega
    · simp

def encode (text : List Char) : List UInt8 := text.flatMap String.utf8EncodeChar

@[simp] theorem encode_nil : encode [] = [] := rfl

theorem encode_cons (char : Char) (text : List Char) :
    encode (char :: text) = String.utf8EncodeChar char ++ encode text := List.flatMap_cons

theorem encode_append (front back : List Char) :
    encode (front ++ back) = encode front ++ encode back := List.flatMap_append

theorem encode_eq_nil_iff {text : List Char} : encode text = [] ↔ text = [] := by
  cases text with
  | nil => simp
  | cons char text =>
    have hlength := String.length_utf8EncodeChar char
    have hsize := char.utf8Size_pos
    constructor
    · intro hempty
      rw [encode_cons, List.append_eq_nil_iff] at hempty
      rw [hempty.1, List.length_nil] at hlength
      omega
    · exact fun hempty ↦ absurd hempty (List.cons_ne_nil char text)

theorem decode_encode (text : List Char) : decode (encode text) = text := by
  induction text with
  | nil => rw [encode_nil, decode]
  | cons char text ih =>
    have hread : (encode (char :: text)).toByteArray.utf8DecodeChar? 0 = some char :=
      List.utf8DecodeChar?_utf8Encode_cons
    have hdrop : (encode (char :: text)).drop char.utf8Size = encode text := by
      rw [encode_cons, ← String.length_utf8EncodeChar, List.drop_left]
    cases hbytes : encode (char :: text) with
    | nil =>
      rw [hbytes] at hread
      cases hread
    | cons byte rest =>
      rw [hbytes] at hread hdrop
      rw [decode, hread]
      simp only [hdrop, ih]

theorem length_encode (text : List Char) :
    (encode text).length = (text.map Char.utf8Size).sum := by
  induction text with
  | nil => rfl
  | cons char text ih =>
    rw [encode_cons, List.length_append, String.length_utf8EncodeChar, ih, List.map_cons,
      List.sum_cons]

theorem utf8EncodeChar_cases (char : Char) :
    (char.val.toNat ≤ 127 ∧ String.utf8EncodeChar char = [UInt8.ofNat char.val.toNat]) ∨
      127 < char.val.toNat ∧ ∀ byte ∈ String.utf8EncodeChar char, 128 ≤ byte.toNat := by
  by_cases hascii : char.val.toNat ≤ 127
  · refine .inl ⟨hascii, ?_⟩
    simp only [String.utf8EncodeChar, if_pos hascii]
  · refine .inr ⟨by omega, fun byte hbyte ↦ ?_⟩
    simp only [String.utf8EncodeChar, if_neg hascii] at hbyte
    split_ifs at hbyte <;> simp only [List.mem_cons, List.not_mem_nil, or_false] at hbyte
    all_goals rcases hbyte with rfl | rfl | rfl | rfl <;> simp <;> omega

/-! ### Lines -/

section Lines

variable {α : Type*} [DecidableEq α] (newline : α)

/-- What stands between the newlines. -/
def pieces (text : List α) : List (List α) := text.splitOn newline

/-- What stands behind the last newline. -/
def lastPiece (text : List α) : List α := (pieces newline text).getLastD []

/-- The pieces, without the last one when it is empty. -/
def lines (text : List α) : List (List α) :=
  if lastPiece newline text = [] then (pieces newline text).dropLast else pieces newline text

/-- A line without the given symbol at its end. -/
def stripEnd (symbol : α) (line : List α) : List α :=
  if line.getLast? = some symbol then line.dropLast else line

variable {newline}

theorem pieces_ne_nil (text : List α) : pieces newline text ≠ [] := List.splitOn_ne_nil newline text

theorem pieces_cons (symbol : α) (text : List α) :
    pieces newline (symbol :: text) =
      if symbol = newline then [] :: pieces newline text
      else (pieces newline text).modifyHead (symbol :: ·) := by
  rw [pieces, List.splitOn_eq_splitOnP, List.splitOnP_cons_eq_if_modifyHead]
  simp only [beq_iff_eq]
  rfl

theorem pieces_append_of_notMem {front : List α} (hfront : newline ∉ front) (back : List α) :
    pieces newline (front ++ back) = (pieces newline back).modifyHead (front ++ ·) := by
  induction front with
  | nil => cases hback : pieces newline back <;> simp [hback]
  | cons symbol front ih =>
    rw [List.mem_cons, not_or] at hfront
    rw [List.cons_append, pieces_cons, if_neg (Ne.symm hfront.1), ih hfront.2,
      List.modifyHead_modifyHead]
    rfl

theorem pieces_replicate (count : ℕ) (text : List α) :
    pieces newline (List.replicate count newline ++ text) =
      List.replicate count [] ++ pieces newline text := by
  induction count with
  | zero => rfl
  | succ count ih =>
    rw [List.replicate_succ, List.cons_append, pieces_cons, if_pos rfl, ih, List.replicate_succ,
      List.cons_append]

theorem pieces_append (front back : List α) :
    pieces newline (front ++ back) =
      (pieces newline front).dropLast ++ pieces newline (lastPiece newline front ++ back) := by
  induction front with
  | nil => rfl
  | cons symbol front ih =>
    obtain ⟨head, tail, hpieces⟩ := List.exists_cons_of_ne_nil (@pieces_ne_nil _ _ newline front)
    rw [List.cons_append, pieces_cons, ih]
    simp only [lastPiece, pieces_cons symbol front, hpieces]
    by_cases hnewline : symbol = newline
    · simp [hnewline]
    · cases tail with
      | nil => simp [hnewline, pieces_cons]
      | cons next tail => simp [hnewline]

theorem lastPiece_append (front back : List α) :
    lastPiece newline (front ++ back) = lastPiece newline (lastPiece newline front ++ back) := by
  rw [lastPiece, pieces_append, List.getLastD_eq_getLast?,
    List.getLast?_append_of_ne_nil _ (pieces_ne_nil _), ← List.getLastD_eq_getLast?]
  rfl

theorem lines_append (front back : List α) :
    lines newline (front ++ back) =
      (pieces newline front).dropLast ++ lines newline (lastPiece newline front ++ back) := by
  rw [lines, lines, lastPiece_append, pieces_append]
  split_ifs with hempty
  · rw [List.dropLast_append_of_ne_nil (pieces_ne_nil _)]
  · rfl

end Lines

/-! ### The lines of the bytes of a text -/

theorem mem_utf8EncodeChar_iff {symbol char : Char} (hsymbol : symbol.val.toNat ≤ 127) :
    UInt8.ofNat symbol.val.toNat ∈ String.utf8EncodeChar char ↔ char = symbol := by
  have hbyte : (UInt8.ofNat symbol.val.toNat).toNat = symbol.val.toNat := by
    simp only [UInt8.toNat_ofNat']
    omega
  rcases utf8EncodeChar_cases char with ⟨hascii, hbytes⟩ | ⟨hlarge, hbytes⟩
  · rw [hbytes, List.mem_singleton]
    constructor
    · intro hsame
      have hnat := congrArg UInt8.toNat hsame
      rw [hbyte, UInt8.toNat_ofNat'] at hnat
      apply Char.ext
      apply UInt32.toNat_inj.mp
      omega
    · rintro rfl
      rfl
  · constructor
    · intro hmem
      have := hbytes _ hmem
      omega
    · rintro rfl
      omega

theorem pieces_encode (text : List Char) :
    pieces 10 (encode text) = (pieces '\n' text).map encode := by
  induction text with
  | nil => rfl
  | cons char text ih =>
    rw [encode_cons, pieces_cons]
    by_cases hnewline : char = '\n'
    · rw [if_pos hnewline, hnewline, List.map_cons, ← ih]
      exact pieces_cons 10 (encode text)
    · have hbytes : (10 : UInt8) ∉ String.utf8EncodeChar char :=
        fun hmem ↦ hnewline ((@mem_utf8EncodeChar_iff '\n' char (by decide)).mp hmem)
      obtain ⟨head, tail, hpieces⟩ :=
        List.exists_cons_of_ne_nil (@pieces_ne_nil _ _ '\n' text)
      rw [pieces_append_of_notMem hbytes, ih, if_neg hnewline, hpieces]
      simp [encode_cons]

theorem lines_encode (text : List Char) :
    lines 10 (encode text) = (lines '\n' text).map encode := by
  have hlast : lastPiece 10 (encode text) = encode (lastPiece '\n' text) := by
    rw [lastPiece, pieces_encode, List.getLastD_eq_getLast?, List.getLast?_map, lastPiece,
      List.getLastD_eq_getLast?]
    cases (pieces '\n' text).getLast? <;> rfl
  rw [lines, lines, hlast, pieces_encode]
  simp only [encode_eq_nil_iff]
  split_ifs
  · rw [List.map_dropLast]
  · rfl

theorem stripEnd_encode (line : List Char) :
    stripEnd 13 (encode line) = encode (stripEnd '\r' line) := by
  rcases List.eq_nil_or_concat line with rfl | ⟨front, char, rfl⟩
  · rfl
  · rw [stripEnd, stripEnd, List.concat_eq_append, encode_append, List.getLast?_concat,
      List.getLast?_append_of_ne_nil _ (encode_eq_nil_iff.not.mpr (List.cons_ne_nil char []))]
    by_cases hcr : char = '\r'
    · rw [if_pos (congrArg some hcr), hcr, List.dropLast_concat]
      exact List.dropLast_concat
    · have hbytes : (13 : UInt8) ∉ encode [char] := by
        rw [encode_cons, encode_nil, List.append_nil]
        exact fun hmem ↦ hcr ((@mem_utf8EncodeChar_iff '\r' char (by decide)).mp hmem)
      rw [if_neg fun hlast ↦ hcr (Option.some.inj hlast),
        if_neg fun hlast ↦ hbytes (List.mem_of_getLast? hlast), encode_append]

end Utf8Lines
