import RiseVpn.Node.Compliance

/-!
# The list of blocked domains

`parseDomains` reads the list that the controller fetches: one name a line, blank lines and comments
skipped, names in their ASCII form and each once. It refuses a list without a name and one with too
many lines that are no name.

`Idna` is `idna.Lookup`, a parameter with the fact the code relies on; `plainIdna` is an
instance. `parseDomains_ok` says which names an accepted list gives.
-/

set_option autoImplicit false

namespace RiseVpn.Control

/-- `idna.Lookup.ToASCII`: a result has plain characters only. -/
structure Idna where
  toAscii : Text → Option Text
  toAscii_plain : ∀ name ascii, toAscii name = some ascii → ∀ c ∈ ascii, PlainChar c

def plainIdna : Idna where
  toAscii := fun name ↦ if name.all fun c ↦ PlainChar c then some name else none
  toAscii_plain := by
    intro name ascii hascii
    split_ifs at hascii with hplain
    cases hascii
    simpa using hplain

/-! ### Reading the list -/

def byteLength (text : Text) : ℕ := (text.map Char.utf8Size).sum

/-- `dropCR` of `bufio.ScanLines`. -/
def dropCr (line : Text) : Text := if line.getLast? = some '\r' then line.dropLast else line

/-- The lines of a `bufio.Scanner` with a buffer of 1 MiB. What stands after the last newline is a
line when it is not empty. -/
def scanLines (text : Text) : Except String (List Text) :=
  if ∃ line ∈ text.splitOn '\n', 1024 * 1024 ≤ byteLength line then
    .error "bufio.Scanner: token too long"
  else if (text.splitOn '\n').getLast? = some [] then
    .ok ((text.splitOn '\n').dropLast.map dropCr)
  else .ok ((text.splitOn '\n').map dropCr)

def normalLine (cases : CaseMapping) (raw : Text) : Text := trimSpace (cases.toLower raw)

def Skipped (line : Text) : Prop := line = [] ∨ line.head? = some '#'
  deriving Decidable

/-- The name of a line, when it has one; `toAscii` is `idna.Lookup.ToASCII`. -/
def lineName (toAscii : Text → Option Text) (line : Text) : Option Text :=
  if containsAny line " /:@\t" ∨ 253 < byteLength line then none
  else match toAscii (trimTrailingDot line) with
  | none => none
  | some ascii => if '.' ∈ ascii then some ascii else none

abbrev Idna.nameOf (idna : Idna) (line : Text) : Option Text := lineName idna.toAscii line

/-- The variables of the loop of `parseDomains`. -/
structure Tally where
  domains : List Text
  invalid : ℕ
  total : ℕ

/-- The body of the loop of `parseDomains`. -/
def Tally.add (cases : CaseMapping) (toAscii : Text → Option Text) (tally : Tally) (raw : Text) :
    Tally :=
  if Skipped (normalLine cases raw) then tally
  else match lineName toAscii (normalLine cases raw) with
  | none => { tally with invalid := tally.invalid + 1, total := tally.total + 1 }
  | some ascii =>
    { tally with
      domains := if ascii ∈ tally.domains then tally.domains else tally.domains ++ [ascii]
      total := tally.total + 1 }

/-- The loop of `parseDomains`. -/
def tallyLines (cases : CaseMapping) (toAscii : Text → Option Text) (lines : List Text) : Tally :=
  lines.foldl (Tally.add cases toAscii) ⟨[], 0, 0⟩

/-- What `parseDomains` makes of the lines. -/
def acceptLines (cases : CaseMapping) (toAscii : Text → Option Text) (lines : List Text) :
    Except String (List Text) :=
  let tally := tallyLines cases toAscii lines
  if tally.domains = [] ∨ 5 < tally.invalid ∧ tally.total < tally.invalid * 20 then
    .error ("feed contains too many invalid domains: " ++ toString tally.invalid ++ " of " ++
      toString tally.total)
  else .ok tally.domains

def parseDomains (cases : CaseMapping) (idna : Idna) (text : Text) : Except String (List Text) :=
  match scanLines text with
  | .error message => .error message
  | .ok lines => acceptLines cases idna.toAscii lines

/-! ### What is counted -/

section Counting

variable (cases : CaseMapping) (toAscii : Text → Option Text)

def listedNames (lines : List Text) : List Text :=
  lines.filterMap fun raw ↦ if Skipped (normalLine cases raw) then none
    else lineName toAscii (normalLine cases raw)

def countedLines (lines : List Text) : ℕ :=
  lines.countP fun raw ↦ ¬ Skipped (normalLine cases raw)

def rejectedLines (lines : List Text) : ℕ :=
  lines.countP fun raw ↦
    ¬ Skipped (normalLine cases raw) ∧ lineName toAscii (normalLine cases raw) = none

variable {cases toAscii}

theorem tallyLines_eq (lines : List Text) :
    tallyLines cases toAscii lines = ⟨(listedNames cases toAscii lines).eraseDups,
      rejectedLines cases toAscii lines, countedLines cases lines⟩ := by
  induction lines using List.reverseRecOn with
  | nil => rfl
  | append_singleton lines raw ih =>
    have hstep : tallyLines cases toAscii (lines ++ [raw]) =
        (tallyLines cases toAscii lines).add cases toAscii raw := List.foldl_concat ..
    rw [hstep, ih, Tally.add]
    by_cases hskipped : Skipped (normalLine cases raw)
    · simp [hskipped, listedNames, rejectedLines, countedLines]
    · cases hname : lineName toAscii (normalLine cases raw) with
      | none => simp [hskipped, hname, listedNames, rejectedLines, countedLines]
      | some ascii =>
        have hnames : listedNames cases toAscii (lines ++ [raw]) =
            listedNames cases toAscii lines ++ [ascii] := by
          simp [listedNames, hskipped, hname]
        rw [hnames, List.eraseDups_append]
        by_cases hseen : ascii ∈ listedNames cases toAscii lines <;>
          simp [hskipped, hname, hseen, rejectedLines, countedLines, List.removeAll,
            List.eraseDups_cons]

theorem nodup_eraseDups (names : List Text) : names.eraseDups.Nodup := by
  induction names using List.reverseRecOn with
  | nil => exact List.nodup_nil
  | append_singleton names name ih =>
    rw [List.eraseDups_append]
    by_cases hseen : name ∈ names
    · simpa [List.removeAll, hseen] using ih
    · have hfresh : names.eraseDups.Disjoint [name] :=
        fun other hother hname ↦ hseen (List.mem_singleton.mp hname ▸ List.mem_eraseDups.mp hother)
      simpa [List.removeAll, hseen, List.eraseDups_cons] using
        ih.append (List.nodup_singleton name) hfresh

theorem mem_listedNames {lines : List Text} {name : Text} :
    name ∈ listedNames cases toAscii lines ↔ ∃ raw ∈ lines, ¬ Skipped (normalLine cases raw) ∧
      lineName toAscii (normalLine cases raw) = some name := by
  simp only [listedNames, List.mem_filterMap]
  exact exists_congr fun raw ↦ and_congr_right fun _ ↦ Option.ite_none_left_eq_some

end Counting

/-! ### What is accepted -/

def acceptedLines (cases : CaseMapping) (idna : Idna) (text : Text) : List Text :=
  match scanLines text with
  | .error _ => []
  | .ok lines => (lines.map (normalLine cases)).filter fun line ↦
      ¬ Skipped line ∧ (idna.nameOf line).isSome

section

variable {cases : CaseMapping} {idna : Idna}

theorem lineName_eq_some_iff {toAscii : Text → Option Text} {line name : Text} :
    lineName toAscii line = some name ↔
      (containsAny line " /:@\t" = false ∧ byteLength line ≤ 253) ∧
        toAscii (trimTrailingDot line) = some name ∧ '.' ∈ name := by
  rw [lineName]
  split_ifs with hrefused
  · refine ⟨False.elim, ?_⟩
    rintro ⟨⟨hany, hlength⟩, -⟩
    rcases hrefused with hrefused | hlong
    · rw [hany] at hrefused
      cases hrefused
    · omega
  · have hline : containsAny line " /:@\t" = false ∧ byteLength line ≤ 253 := by
      simpa [not_or] using hrefused
    cases hascii : toAscii (trimTrailingDot line) with
    | none => simp
    | some ascii =>
      simp only [hline, and_self, true_and, Option.some.injEq, Option.ite_none_right_eq_some]
      constructor
      · rintro ⟨hdot, rfl⟩
        exact ⟨rfl, hdot⟩
      · rintro ⟨rfl, hdot⟩
        exact ⟨hdot, rfl⟩

theorem parseDomains_ok {text : Text} {domains : List Text}
    (hparse : parseDomains cases idna text = .ok domains) :
    domains ≠ [] ∧ ∀ domain, domain ∈ domains ↔
      ∃ line ∈ acceptedLines cases idna text, idna.nameOf line = some domain := by
  rw [parseDomains] at hparse
  cases hscan : scanLines text with
  | error message =>
    rw [hscan] at hparse
    cases hparse
  | ok lines =>
    simp only [hscan, acceptLines] at hparse
    split_ifs at hparse with hrefused
    cases hparse
    refine ⟨fun hempty ↦ hrefused (.inl hempty), fun domain ↦ ?_⟩
    rw [tallyLines_eq, List.mem_eraseDups, mem_listedNames]
    simp only [acceptedLines, hscan, List.mem_filter, List.mem_map, decide_eq_true_eq]
    constructor
    · rintro ⟨raw, hraw, hskipped, hname⟩
      exact ⟨_, ⟨⟨raw, hraw, rfl⟩, hskipped, Option.isSome_of_eq_some hname⟩, hname⟩
    · rintro ⟨_, ⟨⟨raw, hraw, rfl⟩, hskipped, -⟩, hname⟩
      exact ⟨raw, hraw, hskipped, hname⟩

theorem plainName_of_parseDomains {text : Text} {domains : List Text}
    (hparse : parseDomains cases idna text = .ok domains) :
    ∀ domain ∈ domains, PlainName domain := by
  intro domain hdomain
  obtain ⟨line, -, hname⟩ := ((parseDomains_ok hparse).2 domain).mp hdomain
  obtain ⟨-, hascii, hdot⟩ := lineName_eq_some_iff.mp hname
  exact ⟨List.ne_nil_of_mem hdot, idna.toAscii_plain _ _ hascii⟩

theorem mem_acceptedLines {text line : Text} (hline : line ∈ acceptedLines cases idna text) :
    (∃ raw, line = normalLine cases raw) ∧ ∃ name, idna.nameOf line = some name := by
  rw [acceptedLines] at hline
  split at hline
  · cases hline
  · obtain ⟨hread, hkept⟩ := List.mem_filter.mp hline
    obtain ⟨raw, -, rfl⟩ := List.mem_map.mp hread
    exact ⟨⟨raw, rfl⟩, Option.isSome_iff_exists.mp (of_decide_eq_true hkept).2⟩

theorem isUpper_of_mem_acceptedLines {text line : Text}
    (hline : line ∈ acceptedLines cases idna text) : ∀ c ∈ line, c.isUpper = false := by
  obtain ⟨⟨raw, rfl⟩, -⟩ := mem_acceptedLines hline
  intro c hc
  obtain ⟨other, -, rfl⟩ := List.mem_map.mp (trimSpace_subset _ hc)
  exact cases.lower_isUpper other

end

end RiseVpn.Control
