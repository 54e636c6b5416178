import RiseVpn.Fleet.FeedBodies

/-!
# The specification of the list of domains

`parseDomains` for any bytes and any `idna.Lookup.ToASCII`: `acceptLines_ok_iff` says what it
returns and when, in terms of the names of the lines (`listedNames`), the lines that count and those
that are rejected. Lines may be added anywhere as long as they are blank, comments or have a name
that is there already (`Inserted`): the list is still accepted and has the same names
(`inserted_kept`).

The names are returned in the order in which they first occur. `parsed_as_specified` says that added
lines do not change the result when a name stands before the line that repeats it;
`order_changed` adds a line in front of the one it repeats.
-/

set_option autoImplicit false

namespace RiseVpn.Fleet

open Control Utf8Lines

section Specification

variable (cases : CaseMapping) (toAscii : Text → Option Text)

def TooManyRejected (lines : List Text) : Prop :=
  5 < rejectedLines cases toAscii lines ∧
    countedLines cases lines < 20 * rejectedLines cases toAscii lines

def Adds (names : List Text) (line : Text) : Prop :=
  Skipped (normalLine cases line) ∨
    ∃ name ∈ names, lineName toAscii (normalLine cases line) = some name

/-- Lines are added one after the other: each adds nothing to the names of the lines that `among`
picks from those before and behind it. -/
inductive Inserted (among : List Text → List Text → List Text) (lines : List Text) :
    List Text → Prop
  | same : Inserted among lines lines
  | insert {front back : List Text} {line : Text} (hbefore : Inserted among lines (front ++ back))
      (hadds : Adds cases toAscii (listedNames cases toAscii (among front back)) line) :
      Inserted among lines (front ++ line :: back)

variable {cases toAscii} {lines more : List Text} {among : List Text → List Text → List Text}

theorem acceptLines_ok_iff {domains : List Text} :
    acceptLines cases toAscii lines = .ok domains ↔
      domains = (listedNames cases toAscii lines).eraseDups ∧ domains ≠ [] ∧
        ¬ TooManyRejected cases toAscii lines := by
  unfold acceptLines TooManyRejected
  rw [tallyLines_eq, Nat.mul_comm 20]
  dsimp only
  split_ifs with hfails
  · refine ⟨nofun, ?_⟩
    rintro ⟨rfl, hsome, hfew⟩
    exact absurd hfails (not_or.mpr ⟨hsome, hfew⟩)
  · obtain ⟨hsome, hfew⟩ := not_or.mp hfails
    rw [Except.ok.injEq, eq_comm]
    exact ⟨fun hdomains ↦ ⟨hdomains, hdomains ▸ hsome, hfew⟩, And.left⟩

theorem parseBytes_of_fits {body : List UInt8}
    (hfits : ∀ line ∈ pieces 10 body, line.length < 1024 * 1024) :
    parseBytes cases toAscii body = acceptLines cases toAscii (bodyLines body) := by
  have hshort : ¬ ∃ line ∈ pieces 10 body, 1024 * 1024 ≤ line.length := by
    rintro ⟨line, hline, hlong⟩
    exact Nat.not_lt.mpr hlong (hfits line hline)
  rw [parseBytes, scanBody, if_neg hshort]

theorem listedNames_append (front back : List Text) :
    listedNames cases toAscii (front ++ back) =
      listedNames cases toAscii front ++ listedNames cases toAscii back :=
  List.filterMap_append ..

theorem Adds.line {names : List Text} {line : Text} (hadds : Adds cases toAscii names line) :
    listedNames cases toAscii [line] ⊆ names ∧ rejectedLines cases toAscii [line] = 0 := by
  by_cases hskipped : Skipped (normalLine cases line)
  · simp [listedNames, rejectedLines, hskipped]
  · obtain ⟨name, hname, hline⟩ := hadds.resolve_left hskipped
    simp [listedNames, rejectedLines, hskipped, hline, hname]

theorem inserted_kept (hamong : ∀ front back, among front back ⊆ front ++ back)
    (hinserted : Inserted cases toAscii among lines more) :
    (∀ name, name ∈ listedNames cases toAscii more ↔ name ∈ listedNames cases toAscii lines) ∧
      rejectedLines cases toAscii more = rejectedLines cases toAscii lines ∧
      countedLines cases lines ≤ countedLines cases more := by
  induction hinserted with
  | same => exact ⟨fun _ ↦ Iff.rfl, rfl, le_rfl⟩
  | @insert front back line hbefore hadds ih =>
    obtain ⟨hnames, hrejected, hcounted⟩ := ih
    obtain ⟨hsubset, hnone⟩ := hadds.line
    rw [← List.singleton_append]
    have hthere : ∀ name ∈ listedNames cases toAscii [line],
        name ∈ listedNames cases toAscii (front ++ back) := by
      intro name hname
      obtain ⟨raw, hraw, hof⟩ := mem_listedNames.mp (hsubset hname)
      exact mem_listedNames.mpr ⟨raw, hamong front back hraw, hof⟩
    simp only [listedNames_append, List.mem_append, rejectedLines, countedLines,
      List.countP_append] at *
    refine ⟨fun name ↦ ?_, by omega, by omega⟩
    rw [← hnames name]
    have := hthere name
    tauto

theorem inserted_eraseDups
    (hinserted : Inserted cases toAscii (fun front _ ↦ front) lines more) :
    (listedNames cases toAscii more).eraseDups = (listedNames cases toAscii lines).eraseDups := by
  induction hinserted with
  | same => rfl
  | @insert front back line hbefore hadds ih =>
    have hnone : (listedNames cases toAscii [line]).removeAll (listedNames cases toAscii front) =
        [] := by
      rw [List.removeAll, List.filter_eq_nil_iff]
      intro name hname
      simpa using hadds.line.1 hname
    have hback : (listedNames cases toAscii back).removeAll (listedNames cases toAscii front ++
        listedNames cases toAscii [line]) =
        (listedNames cases toAscii back).removeAll (listedNames cases toAscii front) := by
      refine List.filter_congr fun name _ ↦ congrArg not (Bool.eq_iff_iff.mpr ?_)
      simp only [List.elem_iff, List.mem_append]
      exact ⟨fun hname ↦ hname.elim id (@hadds.line.1 name), .inl⟩
    rw [← ih, ← List.singleton_append, ← List.append_assoc]
    simp only [listedNames_append, List.eraseDups_append, hnone, hback, List.eraseDups_nil,
      List.append_nil]

/-- Assumes: a text whose lines fit the buffer of the scanner. `parseDomains` returns the names of
its lines, each once and in the order in which they first occur, and fails exactly when there is
none or too many lines are rejected. A name is the ASCII form of a line in lower case without the
space around it and one trailing dot, and has a dot. Blank lines, comments and lines with a name
that is there may be added anywhere: the text is still accepted, with the same names, and in the
same order when the added lines repeat names before them. -/
theorem parsed_as_specified (cases : CaseMapping) (toAscii : Text → Option Text)
    {body : List UInt8} (hfits : ∀ line ∈ pieces 10 body, line.length < 1024 * 1024) :
    (∀ domains, parseBytes cases toAscii body = .ok domains ↔
      domains = (listedNames cases toAscii (bodyLines body)).eraseDups ∧ domains ≠ [] ∧
        ¬ TooManyRejected cases toAscii (bodyLines body)) ∧
    (∀ name ∈ listedNames cases toAscii (bodyLines body), '.' ∈ name ∧ ∃ raw ∈ bodyLines body,
      toAscii (trimTrailingDot (trimSpace (cases.toLower raw))) = some name) ∧
    ∀ (more : List UInt8) (domains : List Text),
      (∀ line ∈ pieces 10 more, line.length < 1024 * 1024) →
      parseBytes cases toAscii body = .ok domains →
      (Inserted cases toAscii (· ++ ·) (bodyLines body) (bodyLines more) →
        ∃ domains', parseBytes cases toAscii more = .ok domains' ∧ domains'.Perm domains) ∧
      (Inserted cases toAscii (fun front _ ↦ front) (bodyLines body) (bodyLines more) →
        parseBytes cases toAscii more = .ok domains) := by
  rw [parseBytes_of_fits hfits]
  refine ⟨fun domains ↦ acceptLines_ok_iff, fun name hname ↦ ?_, fun more domains hmore hbody ↦ ?_⟩
  · obtain ⟨raw, hraw, -, hof⟩ := mem_listedNames.mp hname
    obtain ⟨-, hascii, hdot⟩ := lineName_eq_some_iff.mp hof
    exact ⟨hdot, raw, hraw, hascii⟩
  · obtain ⟨rfl, hsome, hfew⟩ := acceptLines_ok_iff.mp hbody
    rw [parseBytes_of_fits hmore]
    -- an added line counts, so that the share of the rejected ones does not grow
    have hsuccess : ∀ among, (∀ front back, among front back ⊆ front ++ back) →
        Inserted cases toAscii among (bodyLines body) (bodyLines more) →
        (listedNames cases toAscii (bodyLines more)).eraseDups.Perm
            (listedNames cases toAscii (bodyLines body)).eraseDups ∧
          acceptLines cases toAscii (bodyLines more) =
            .ok (listedNames cases toAscii (bodyLines more)).eraseDups := by
      intro among hamong hinserted
      obtain ⟨hnames, hrejected, hcounted⟩ := inserted_kept hamong hinserted
      have hperm : (listedNames cases toAscii (bodyLines more)).eraseDups.Perm
          (listedNames cases toAscii (bodyLines body)).eraseDups :=
        (List.perm_ext_iff_of_nodup (nodup_eraseDups _) (nodup_eraseDups _)).mpr fun name ↦ by
          rw [List.mem_eraseDups, List.mem_eraseDups, hnames name]
      refine ⟨hperm, acceptLines_ok_iff.mpr ⟨rfl, fun hempty ↦ hsome ?_, ?_⟩⟩
      · exact List.Perm.eq_nil (hempty ▸ hperm.symm)
      · rintro ⟨hmany, hshare⟩
        rw [hrejected] at hmany hshare
        exact hfew ⟨hmany, hcounted.trans_lt hshare⟩
    refine ⟨fun hinserted ↦ ?_, fun hinserted ↦ ?_⟩
    · obtain ⟨hperm, haccepted⟩ := hsuccess _ (fun _ _ ↦ List.Subset.refl _) hinserted
      exact ⟨_, haccepted, hperm⟩
    · rw [← inserted_eraseDups hinserted]
      exact (hsuccess _ (fun front back ↦ List.subset_append_left front back) hinserted).2

end Specification

def orderedBody : List UInt8 := encode "a.example\nb.example\n".toList

def repeatedBody : List UInt8 := encode "a.example\nb.example\n#\nA.example.\n".toList

def swappedBody : List UInt8 := encode "b.example\na.example\nb.example\n".toList

theorem parseBytes_orderedBody :
    bodyLines orderedBody = ["a.example".toList, "b.example".toList] ∧
      parseBytes asciiCase some orderedBody = .ok ["a.example".toList, "b.example".toList] := by
  have hlines : bodyLines orderedBody = ["a.example".toList, "b.example".toList] :=
    (bodyLines_encode _).trans rfl
  refine ⟨hlines, ?_⟩
  rw [parseBytes_of_fits (by decide), hlines]
  rfl

theorem parsed_as_specified_repeated :
    parseBytes asciiCase some repeatedBody = .ok ["a.example".toList, "b.example".toList] := by
  obtain ⟨hlines, hparse⟩ := parseBytes_orderedBody
  have hrepeated : bodyLines repeatedBody =
      ["a.example".toList, "b.example".toList, "#".toList] ++ "A.example.".toList :: [] :=
    (bodyLines_encode _).trans rfl
  have hspec := @parsed_as_specified asciiCase some orderedBody (by decide)
  refine (hspec.2.2 repeatedBody _ (by decide) hparse).2 ?_
  rw [hlines, hrepeated]
  have hcommented : Inserted asciiCase some (fun front _ ↦ front)
      ["a.example".toList, "b.example".toList]
      (["a.example".toList, "b.example".toList] ++ "#".toList :: []) :=
    .insert .same (.inl (by decide))
  exact .insert hcommented (.inr ⟨"a.example".toList, by decide, by decide⟩)

/-- A line is added in front of the one it repeats, and the order of the names changes. -/
theorem order_changed :
    Inserted asciiCase some (· ++ ·) (bodyLines orderedBody) (bodyLines swappedBody) ∧
      parseBytes asciiCase some orderedBody = .ok ["a.example".toList, "b.example".toList] ∧
      parseBytes asciiCase some swappedBody = .ok ["b.example".toList, "a.example".toList] := by
  obtain ⟨hlines, hparse⟩ := parseBytes_orderedBody
  have hswapped : bodyLines swappedBody =
      [] ++ "b.example".toList :: ["a.example".toList, "b.example".toList] :=
    (bodyLines_encode _).trans rfl
  rw [parseBytes_of_fits (by decide : ∀ line ∈ pieces 10 swappedBody, line.length < 1024 * 1024),
    hlines, hswapped]
  exact ⟨.insert .same (.inr ⟨"b.example".toList, by decide, by decide⟩), hparse, rfl⟩

end RiseVpn.Fleet
