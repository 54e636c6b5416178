import RiseVpn.Fleet.RefreshRuns
import RiseVpn.Library.Utf8Lines

/-!
# The body of the list of domains

`refreshCompliance` reads at most 32 MiB of the body of the list, through an `io.LimitReader`, which
ends like the body itself. Bodies are bytes here: `bodyLines` are the lines of a body, each decoded
as UTF-8, and `parseBody` is `parseDomains` on bytes. `parseBody_encode` relates it to
`parseDomains` on texts.

`published_whole_iff` says when the names that are published are those of the whole body: when the
body has at most 32 MiB, or when nothing depends on what stands behind them. `publishes_cut_line` is
a body whose last line is cut: a name is published that no line has, and the name that the line has
is not.
-/

set_option autoImplicit false

namespace RiseVpn.Fleet

open Control Utf8Lines

/-! ### Reading a body -/

/-- `32<<20`. -/
def readLimit : ℕ := 32 * 2 ^ 20

def bodyLines (body : List UInt8) : List Text :=
  ((lines 10 body).map (stripEnd 13)).map decode

/-- The lines of a `bufio.Scanner` with a buffer of 1 MiB. -/
def scanBody (body : List UInt8) : Except String (List Text) :=
  if ∃ line ∈ pieces (10 : UInt8) body, 1024 * 1024 ≤ line.length then
    .error "bufio.Scanner: token too long"
  else .ok (bodyLines body)

/-- `parseDomains` on the bytes that the reader gives, with any `idna.Lookup.ToASCII`. -/
def parseBytes (cases : CaseMapping) (toAscii : Text → Option Text) (body : List UInt8) :
    Except String (List Text) :=
  match scanBody body with
  | .error message => .error message
  | .ok lines => acceptLines cases toAscii lines

abbrev parseBody (cases : CaseMapping) (idna : Idna) (body : List UInt8) :
    Except String (List Text) := parseBytes cases idna.toAscii body

/-- `refreshCompliance` after its first query, on the whole body of an answer. -/
def refreshBody (source : FeedSource) (privateKey : Option String) (tables : ComplianceTables)
    (seen : Option Snapshot) (answer : Answer (List UInt8)) (now : ℤ) :
    ComplianceTables × Except String (Option Publication) :=
  refreshFrom source
    (fun body ↦ parseBody source.tools.cases source.idna (body.take readLimit)) privateKey tables
    seen answer now

/-! ### Bodies and texts -/

theorem scanLines_eq (text : Text) :
    scanLines text =
      if ∃ line ∈ pieces '\n' text, 1024 * 1024 ≤ byteLength line then
        .error "bufio.Scanner: token too long"
      else .ok ((lines '\n' text).map (stripEnd '\r')) := by
  have hlast : (text.splitOn '\n').getLast? = some [] ↔ lastPiece '\n' text = [] := by
    rw [lastPiece, pieces, List.getLastD_eq_getLast?,
      List.getLast?_eq_some_getLast (List.splitOn_ne_nil '\n' text)]
    simp
  by_cases hlong : ∃ line ∈ pieces '\n' text, 1024 * 1024 ≤ byteLength line
  · rw [if_pos hlong]
    exact if_pos hlong
  · rw [if_neg hlong, lines]
    refine (if_neg hlong).trans ?_
    by_cases hempty : lastPiece '\n' text = []
    · rw [if_pos hempty]
      exact if_pos (hlast.mpr hempty)
    · rw [if_neg hempty]
      exact if_neg (hlast.not.mpr hempty)

theorem bodyLines_encode (text : Text) :
    bodyLines (encode text) = (lines '\n' text).map (stripEnd '\r') := by
  rw [bodyLines, lines_encode, List.map_map, List.map_map]
  refine List.map_congr_left fun line _ ↦ ?_
  simp only [Function.comp_apply, stripEnd_encode, decode_encode]

theorem parseBody_encode (cases : CaseMapping) (idna : Idna) (text : Text) :
    parseBody cases idna (encode text) = parseDomains cases idna text := by
  have hlong : (∃ line ∈ pieces 10 (encode text), 1024 * 1024 ≤ line.length) ↔
      ∃ line ∈ pieces '\n' text, 1024 * 1024 ≤ byteLength line := by
    rw [pieces_encode]
    simp [length_encode, byteLength]
  rw [parseBody, parseBytes, parseDomains, scanLines_eq, scanBody, bodyLines_encode]
  by_cases h : ∃ line ∈ pieces '\n' text, 1024 * 1024 ≤ byteLength line
  · rw [if_pos (hlong.mpr h), if_pos h]
  · rw [if_neg (hlong.not.mpr h), if_neg h]

/-! ### The names of a body -/

section Names

variable (cases : CaseMapping) (idna : Idna)

def NamedIn (lines : List Text) (name : Text) : Prop :=
  ∃ line ∈ lines, ¬ Skipped (normalLine cases line) ∧
    idna.nameOf (normalLine cases line) = some name

/-- The names are those of all lines of the body, each once. -/
def Whole (body : List UInt8) (domains : List Text) : Prop :=
  domains.Nodup ∧ ∀ name, name ∈ domains ↔ NamedIn cases idna (bodyLines body) name

/-- The names of the line in which the limit lies and of the lines behind it stand before the limit,
and what the limit leaves of the line has no name that no line has. -/
structure NothingBeyond (body : List UInt8) : Prop where
  behind : ∀ name, NamedIn cases idna
      (bodyLines (lastPiece 10 (body.take readLimit) ++ body.drop readLimit)) name →
    NamedIn cases idna (bodyLines (body.take readLimit)) name
  cut : ∀ name, NamedIn cases idna (bodyLines (lastPiece 10 (body.take readLimit))) name →
    NamedIn cases idna (bodyLines body) name

variable {cases idna}

theorem namedIn_append {front back : List Text} {name : Text} :
    NamedIn cases idna (front ++ back) name ↔
      NamedIn cases idna front name ∨ NamedIn cases idna back name := by
  simp only [NamedIn, List.mem_append, or_and_right, exists_or]

theorem parseBody_ok {body : List UInt8} {domains : List Text}
    (hparse : parseBody cases idna body = .ok domains) : Whole cases idna body domains := by
  rw [parseBody, parseBytes, scanBody] at hparse
  split_ifs at hparse with hlong
  simp only [acceptLines] at hparse
  split_ifs at hparse with hrefused
  cases hparse
  rw [tallyLines_eq]
  exact ⟨nodup_eraseDups _, fun name ↦ List.mem_eraseDups.trans mem_listedNames⟩

theorem namedIn_bodyLines_append (front back : List UInt8) (name : Text) :
    NamedIn cases idna (bodyLines (front ++ back)) name ↔
      NamedIn cases idna (((pieces 10 front).dropLast.map (stripEnd 13)).map decode) name ∨
        NamedIn cases idna (bodyLines (lastPiece 10 front ++ back)) name := by
  rw [bodyLines, lines_append, List.map_append, List.map_append, namedIn_append]
  rfl

theorem whole_iff {body : List UInt8} {domains : List Text}
    (hread : Whole cases idna (body.take readLimit) domains) :
    Whole cases idna body domains ↔
      body.length ≤ readLimit ∨ NothingBeyond cases idna body := by
  have hbody := @namedIn_bodyLines_append cases idna (body.take readLimit) (body.drop readLimit)
  have htake := @namedIn_bodyLines_append cases idna (body.take readLimit) []
  rw [List.take_append_drop] at hbody
  simp only [List.append_nil] at htake
  constructor
  · intro hwhole
    have hsame : ∀ name, NamedIn cases idna (bodyLines (body.take readLimit)) name ↔
        NamedIn cases idna (bodyLines body) name :=
      fun name ↦ (hread.2 name).symm.trans (hwhole.2 name)
    refine .inr ⟨fun name hname ↦ ?_, fun name hname ↦ ?_⟩
    · exact (hsame name).mpr ((hbody name).mpr (.inr hname))
    · exact (hsame name).mp ((htake name).mpr (.inr hname))
  · rintro (hfits | hnothing)
    · rwa [List.take_of_length_le hfits] at hread
    · refine ⟨hread.1, fun name ↦ (hread.2 name).trans ⟨fun hname ↦ ?_, fun hname ↦ ?_⟩⟩
      · rcases (htake name).mp hname with hline | hcut
        · exact (hbody name).mpr (.inl hline)
        · exact hnothing.cut name hcut
      · rcases (hbody name).mp hname with hline | hbehind
        · exact (htake name).mpr (.inl hline)
        · exact hnothing.behind name hbehind

end Names

/-- Assumes: an answer whose list is published. The names that are published are those of the whole
body exactly when the body has at most 32 MiB or nothing depends on what stands behind them. -/
theorem published_whole_iff {source : FeedSource} {privateKey : Option String}
    {tables : ComplianceTables} {seen : Option Snapshot} {etag lastModified : String}
    {body : List UInt8} {now : ℤ} {publication : Publication}
    (hpublished : (refreshBody source privateKey tables seen
      (.response 200 etag lastModified body) now).2 = .ok (some publication)) :
    Whole source.tools.cases source.idna body publication.domains ↔
      body.length ≤ readLimit ∨ NothingBeyond source.tools.cases source.idna body := by
  rcases refreshFrom_cases source
    (fun body ↦ parseBody source.tools.cases source.idna (body.take readLimit)) privateKey tables
    seen (.response 200 etag lastModified body) now with
    ⟨other, hother, hpublishes⟩ | ⟨hnothing, -⟩
  · obtain rfl : other = publication := by
      simpa using hother.symm.trans hpublished
    obtain ⟨read, hparse, hanswer⟩ := hpublishes.answer
    cases hanswer
    exact whole_iff (parseBody_ok hparse)
  · exact absurd hpublished (hnothing publication)

/-- A body with a comment, an empty line and a name that stands there twice. -/
def shortBody : List UInt8 := encode "# list\nA.example\n\na.example.\nb.example\n".toList

theorem published_whole_short : ∃ publication,
    (refreshBody plainSource (some "key") ⟨[], [], [], []⟩ none
        (.response 200 "" "" shortBody) 0).2 = .ok (some publication) ∧
      publication.domains = ["a.example".toList, "b.example".toList] ∧
      Whole plainSource.tools.cases plainSource.idna shortBody publication.domains := by
  have hfits : shortBody.length ≤ readLimit := by decide
  have hparse : parseBody plainSource.tools.cases plainSource.idna (shortBody.take readLimit) =
      .ok ["a.example".toList, "b.example".toList] := by
    rw [List.take_of_length_le hfits, shortBody, parseBody_encode]
    rfl
  have hpublished : (refreshBody plainSource (some "key") ⟨[], [], [], []⟩ none
      (.response 200 "" "" shortBody) 0).2 = .ok (some _) :=
    refreshFrom_published hparse (List.cons_ne_nil _ _) (Nat.zero_le _)
  exact ⟨_, hpublished, rfl, (published_whole_iff hpublished).mpr (.inl hfits)⟩

/-! ### A line that is cut -/

section Blank

variable {cases : CaseMapping} {idna : Idna}

theorem bodyLines_blank (count : ℕ) (body : List UInt8) :
    bodyLines (List.replicate count 10 ++ body) = List.replicate count [] ++ bodyLines body := by
  have hpieces : pieces (10 : UInt8) (List.replicate count 10) =
      List.replicate count [] ++ [[]] := by
    have hblank := @pieces_replicate _ _ (10 : UInt8) count []
    rwa [List.append_nil] at hblank
  have hlast : lastPiece (10 : UInt8) (List.replicate count 10) = [] := by
    rw [lastPiece, hpieces]
    simp
  have hempty : decode (stripEnd 13 []) = [] := decode_encode []
  rw [bodyLines, lines_append, hpieces, hlast, List.dropLast_concat]
  simp only [List.map_append, List.map_replicate, hempty]
  rfl

theorem namedIn_blank (count : ℕ) (lines : List Text) (name : Text) :
    NamedIn cases idna (List.replicate count [] ++ lines) name ↔ NamedIn cases idna lines name := by
  rw [namedIn_append, or_iff_right]
  rintro ⟨line, hline, hskipped, -⟩
  obtain rfl := List.eq_of_mem_replicate hline
  exact hskipped (.inl rfl)

theorem tallyLines_blank (toAscii : Text → Option Text) (count : ℕ) (lines : List Text) :
    tallyLines cases toAscii (List.replicate count [] ++ lines) =
      tallyLines cases toAscii lines := by
  have hskip : ∀ tally : Tally, tally.add cases toAscii [] = tally := fun _ ↦ if_pos (.inl rfl)
  induction count with
  | zero => rfl
  | succ count ih =>
    rw [List.replicate_succ, List.cons_append, tallyLines, List.foldl_cons, hskip]
    exact ih

theorem parseBody_blank (count : ℕ) (body : List UInt8) :
    parseBody cases idna (List.replicate count 10 ++ body) = parseBody cases idna body := by
  have hlong : (∃ line ∈ pieces (10 : UInt8) (List.replicate count 10 ++ body),
        1024 * 1024 ≤ line.length) ↔
      ∃ line ∈ pieces (10 : UInt8) body, 1024 * 1024 ≤ line.length := by
    rw [pieces_replicate]
    simp only [List.mem_append, or_and_right, exists_or]
    refine or_iff_right ?_
    rintro ⟨line, hline, hlong⟩
    rw [List.eq_of_mem_replicate hline, List.length_nil] at hlong
    omega
  rw [parseBody, parseBody, parseBytes, parseBytes, scanBody, scanBody, bodyLines_blank]
  simp only [hlong]
  split_ifs
  · rfl
  · simp only [acceptLines, tallyLines_blank]

end Blank

def cutBody : List UInt8 := List.replicate (readLimit - 4) 10 ++ encode "b.example\n".toList

/-- The start of the line is published as a name. -/
theorem publishes_cut_line : ∃ publication,
    (refreshBody plainSource (some "key") ⟨[], [], [], []⟩ none (.response 200 "" "" cutBody) 0).2 =
        .ok (some publication) ∧
      publication.domains = ["b.ex".toList] ∧
      NamedIn plainSource.tools.cases plainSource.idna (bodyLines cutBody) "b.example".toList ∧
      ¬ NamedIn plainSource.tools.cases plainSource.idna (bodyLines cutBody) "b.ex".toList := by
  have htake : cutBody.take readLimit =
      List.replicate (readLimit - 4) 10 ++ encode "b.ex".toList := by
    have hcut : (encode "b.example\n".toList).take 4 = encode "b.ex".toList := by decide
    have hlimit : readLimit = (List.replicate (readLimit - 4) (10 : UInt8)).length + 4 := by
      rw [List.length_replicate]
      rfl
    rw [cutBody]
    nth_rewrite 1 [hlimit]
    rw [List.take_length_add_append, hcut]
  have hparse : parseBody plainSource.tools.cases plainSource.idna (cutBody.take readLimit) =
      .ok ["b.ex".toList] := by
    rw [htake, parseBody_blank, parseBody_encode]
    rfl
  have hnamed : ∀ name, NamedIn plainSource.tools.cases plainSource.idna (bodyLines cutBody) name ↔
      NamedIn plainSource.tools.cases plainSource.idna ["b.example".toList] name := by
    intro name
    rw [cutBody, bodyLines_blank, namedIn_blank, bodyLines_encode]
    rfl
  refine ⟨⟨["b.ex".toList], "", ""⟩, ?_, rfl, (hnamed _).mpr ?_, (hnamed _).not.mpr ?_⟩
  · exact refreshFrom_published hparse (List.cons_ne_nil _ _) (Nat.zero_le _)
  · exact ⟨_, List.mem_singleton_self _, by decide, rfl⟩
  · rintro ⟨line, hline, -, hname⟩
    obtain rfl := List.mem_singleton.mp hline
    revert hname
    decide

end RiseVpn.Fleet
