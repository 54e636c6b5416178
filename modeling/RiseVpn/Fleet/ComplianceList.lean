import RiseVpn.Fleet.ComplianceRefresh

/-!
# The blocked domains, from the list to the node

The controller reads a list, publishes it and a node applies it; the node then blocks the hosts of
the list and those below them. The two ends do not agree on dots: a listed name is a line without
any dot at its ends (`listedName`), but `parseDomains` takes off one dot at the end and
`Service.Blocked` one at the start, so that the node compares with a name that may still have some
(`matchedName`). They also differ on names that are not ASCII, of which the node knows the ASCII
form only.

`listed_blocked_iff` says for every list that is accepted that the node blocks exactly what is
listed when the names of the two ends cover one another (`NamesKept`). `dotted_line_passes` is a
list for which they do not.
-/

set_option autoImplicit false

namespace RiseVpn.Fleet

open Control DottedNames

/-! ### The two ends -/

def listedName (line : Text) : Text := (line.dropWhile (· = '.')).rdropWhile (· = '.')

def matchedName (idna : Idna) (line : Text) : Option Text :=
  (idna.nameOf line).map fun name ↦ (trimLeadingDot name).map Char.toLower

def normalHost (host : Text) : Text := (trimTrailingDot host).map Char.toLower

def Listed (cases : CaseMapping) (idna : Idna) (text host : Text) : Prop :=
  ∃ line ∈ acceptedLines cases idna text, Covers '.' (listedName line) (normalHost host)
  deriving Decidable

def Matched (cases : CaseMapping) (idna : Idna) (text host : Text) : Prop :=
  ∃ line ∈ acceptedLines cases idna text, ∃ name ∈ matchedName idna line,
    name ≠ [] ∧ Covers '.' name (normalHost host)
  deriving Decidable

/-- Every listed ASCII name is one that the node compares with or below one, and the other way
round. -/
def NamesKept (cases : CaseMapping) (idna : Idna) (text : Text) : Prop :=
  (∀ line ∈ acceptedLines cases idna text, Ascii line →
    ∃ other ∈ acceptedLines cases idna text, ∃ name ∈ matchedName idna other,
      name ≠ [] ∧ Covers '.' name (listedName line)) ∧
  ∀ other ∈ acceptedLines cases idna text, ∀ name ∈ matchedName idna other, name ≠ [] →
    ∃ line ∈ acceptedLines cases idna text, Covers '.' (listedName line) name
  deriving Decidable

/-- The node blocks the ASCII hosts that are listed, whatever the port, and no other host that is no
IP address. -/
def BlocksListed (source : FeedSource) (text : Text) (store : ComplianceStore) : Prop :=
  ∀ address, Ascii (hostOf address) →
    (Listed source.tools.cases source.idna text (hostOf address) →
      store.blocked source.tools address = .ok true) ∧
    (¬ Listed source.tools.cases source.idna text (hostOf address) →
      source.tools.networks.parseIp (hostOf address) = none →
      store.blocked source.tools address = .ok false)

/-! ### Names -/

theorem map_toLower_eq {text : Text} (hlower : ∀ c ∈ text, c.isUpper = false) :
    text.map Char.toLower = text := by
  refine (List.map_congr_left fun c hc ↦ ?_).trans (List.map_id text)
  exact Char.toLower_eq_of_not_isUpper (by simp [hlower c hc])

theorem listedName_subset (line : Text) : listedName line ⊆ line := by
  have hfront := List.rdropWhile_prefix (· = '.') (line.dropWhile (· = '.'))
  exact List.Subset.trans hfront.subset (List.dropWhile_sublist _).subset

theorem mem_listedName {line : Text} {c : Char} (hc : c ∈ line) (hdot : c ≠ '.') :
    c ∈ listedName line := by
  have hmiddle : c ∈ line.dropWhile (· = '.') := by
    rw [← @List.takeWhile_append_dropWhile _ (· = '.') line, List.mem_append] at hc
    exact hc.resolve_left fun hfront ↦ hdot (by simpa using List.mem_takeWhile_imp hfront)
  rw [← @List.rdropWhile_append_rtakeWhile _ (· = '.') (line.dropWhile (· = '.')),
    List.mem_append] at hmiddle
  exact hmiddle.resolve_right fun hback ↦ hdot (by simpa using List.mem_rtakeWhile_imp hback)

theorem trimTrailingDot_listedName (line : Text) :
    trimTrailingDot (listedName line) = listedName line := by
  rw [trimTrailingDot, if_neg]
  intro hlast
  have hne : listedName line ≠ [] := fun hempty ↦ by rw [hempty] at hlast; cases hlast
  rw [List.getLast?_eq_some_getLast hne] at hlast
  have hdot := List.rdropWhile_last_not (· = '.') (line.dropWhile (· = '.')) hne
  exact hdot (by simpa [listedName] using hlast)

section

variable {cases : CaseMapping} {idna : Idna} {text line name : Text}

theorem plain_of_matchedName (hname : matchedName idna line = some name) :
    ∀ c ∈ name, PlainChar c ∧ c.isUpper = false := by
  obtain ⟨ascii, hascii, rfl⟩ := Option.map_eq_some_iff.mp hname
  intro c hc
  obtain ⟨other, hother, rfl⟩ := List.mem_map.mp hc
  have hplain := idna.toAscii_plain _ _ (lineName_eq_some_iff.mp hascii).2.1 other
    (trimLeadingDot_subset ascii hother)
  exact ⟨hplain.toLower, Char.isUpper_toLower_eq_false other⟩

theorem colon_not_mem (hline : line ∈ acceptedLines cases idna text) : ':' ∉ line := by
  obtain ⟨-, name, hname⟩ := mem_acceptedLines hline
  have hany := (lineName_eq_some_iff.mp hname).1.1
  rw [containsAny, List.any_eq_false] at hany
  intro hcolon
  exact hany ':' hcolon (by decide)

/-! ### What the node blocks -/

theorem blocked_published {source : FeedSource} {key : String} {domains : List Text}
    {published : ℤ} {feed : SignedFeed} {store : ComplianceStore} {address : Text}
    (hparse : parseDomains source.tools.cases source.idna text = .ok domains)
    (hfeed : source.Signed key domains published feed) (hascii : Ascii (hostOf address)) :
    (store.save (feed.received source.tools.json)).resolveAlert.blocked source.tools address =
      .ok (decide (Matched source.tools.cases source.idna text (hostOf address))) := by
  have hrules : source.tools.json.decode (feed.received source.tools.json).rules =
      .ok ⟨domains, [], []⟩ := by
    rw [hfeed.received_eq.1]
    exact source.tools.json.decode_stored domains hfeed.nonempty fun domain hdomain ↦
      (hfeed.plain domain hdomain).2
  have hcompared : ∀ domain ∈ domains, source.tools.cases.comparedDomain domain =
      (trimLeadingDot domain).map Char.toLower := by
    intro domain hdomain
    rw [CaseMapping.comparedDomain, (hfeed.plain domain hdomain).trimSpace]
    exact List.map_congr_left fun c hc ↦ source.tools.cases.lower_ascii c
      ((hfeed.plain domain hdomain).2 c (trimLeadingDot_subset domain hc)).lt
  simp only [ComplianceStore.blocked, ComplianceStore.resolveAlert, ComplianceStore.save, hrules]
  rw [blocked_domains, comparedHost_ascii _ hascii]
  congr 2
  refine propext ⟨?_, ?_⟩
  · rintro ⟨_, hmem, hne, hcovers⟩
    obtain ⟨domain, hdomain, rfl⟩ := List.mem_map.mp hmem
    obtain ⟨line, hline, hname⟩ := ((parseDomains_ok hparse).2 domain).mp hdomain
    rw [hcompared domain hdomain] at hne hcovers
    exact ⟨line, hline, _, by rw [matchedName, hname]; rfl, hne, hcovers⟩
  · rintro ⟨line, hline, name, hname, hne, hcovers⟩
    obtain ⟨domain, hdomain, rfl⟩ := Option.map_eq_some_iff.mp hname
    have hmem := ((parseDomains_ok hparse).2 domain).mpr ⟨line, hline, hdomain⟩
    exact ⟨_, List.mem_map.mpr ⟨domain, hmem, hcompared domain hmem⟩, hne, hcovers⟩

theorem listed_iff_matched {host : Text} (hkept : NamesKept cases idna text)
    (hascii : Ascii host) : Listed cases idna text host ↔ Matched cases idna text host := by
  have hnormal : Ascii (normalHost host) := by
    intro c hc
    obtain ⟨other, hother, rfl⟩ := List.mem_map.mp hc
    exact @forall_ascii (fun c ↦ c.toLower.toNat < 128) (by decide) other
      (hascii other (trimTrailingDot_subset host hother))
  constructor
  · rintro ⟨line, hline, hcovers⟩
    -- what covers an ASCII host is ASCII, and dots are all that a listed name lacks
    have hlineAscii : Ascii line := by
      intro c hc
      by_cases hdot : c = '.'
      · rw [hdot]
        decide
      · exact hnormal c (hcovers.subset (mem_listedName hc hdot))
    obtain ⟨other, hother, name, hname, hne, hbelow⟩ := hkept.1 line hline hlineAscii
    exact ⟨other, hother, name, hname, hne, hbelow.trans hcovers⟩
  · rintro ⟨other, hother, name, hname, hne, hcovers⟩
    obtain ⟨line, hline, hbelow⟩ := hkept.2 other hother name hname hne
    exact ⟨line, hline, hbelow.trans hcovers⟩

theorem normalHost_listedName (hline : line ∈ acceptedLines cases idna text) :
    hostOf (listedName line) = listedName line ∧
      normalHost (listedName line) = listedName line := by
  have hsubset := listedName_subset line
  refine ⟨hostOf_of_not_mem fun hcolon ↦ colon_not_mem hline (hsubset hcolon), ?_⟩
  rw [normalHost, trimTrailingDot_listedName]
  exact map_toLower_eq fun c hc ↦ isUpper_of_mem_acceptedLines hline c (hsubset hc)

def labelledHost (count : ℕ) (name : Text) : Text := List.replicate (count + 1) 'a' ++ '.' :: name

theorem normalHost_labelledHost (hname : matchedName idna line = some name) (count : ℕ) :
    hostOf (labelledHost count (name ++ ['.'])) = labelledHost count (name ++ ['.']) ∧
      Ascii (labelledHost count (name ++ ['.'])) ∧
      normalHost (labelledHost count (name ++ ['.'])) = labelledHost count name := by
  have hplain := plain_of_matchedName hname
  have hchars : ∀ c ∈ labelledHost count name, PlainChar c ∧ c.isUpper = false := by
    intro c hc
    rcases List.mem_append.mp hc with hlabel | hrest
    · rw [List.eq_of_mem_replicate hlabel]
      decide
    · rcases List.mem_cons.mp hrest with rfl | hmem
      · decide
      · exact hplain c hmem
  have hsplit : labelledHost count (name ++ ['.']) = labelledHost count name ++ ['.'] := by
    simp [labelledHost]
  have hdotted : ∀ c ∈ labelledHost count (name ++ ['.']), PlainChar c := by
    intro c hc
    rw [hsplit] at hc
    rcases List.mem_append.mp hc with hmem | hdot
    · exact (hchars c hmem).1
    · rw [List.mem_singleton.mp hdot]
      decide
  refine ⟨hostOf_of_not_mem fun hcolon ↦ absurd (hdotted _ hcolon) (by decide),
    fun c hc ↦ (hdotted c hc).lt, ?_⟩
  rw [normalHost, hsplit, trimTrailingDot_append]
  exact map_toLower_eq fun c hc ↦ (hchars c hc).2

end

theorem namesKept_of_blocksListed {source : FeedSource} {text : Text} {store : ComplianceStore}
    (hlisted : BlocksListed source text store)
    (hmatched : ∀ address, Ascii (hostOf address) → store.blocked source.tools address =
      .ok (decide (Matched source.tools.cases source.idna text (hostOf address)))) :
    NamesKept source.tools.cases source.idna text := by
  constructor
  · intro line hline hascii
    obtain ⟨hhost, hnormal⟩ := normalHost_listedName hline
    have hname : Ascii (hostOf (listedName line)) := by
      rw [hhost]
      exact fun c hc ↦ hascii c (listedName_subset line hc)
    have hblocked := (hlisted (listedName line) hname).1
      ⟨line, hline, by rw [hhost, hnormal]; exact Covers.refl _ _⟩
    rw [hmatched _ hname] at hblocked
    have hmatch := of_decide_eq_true (Except.ok.inj hblocked)
    rwa [Matched, hhost, hnormal] at hmatch
  · intro other hother name hname hne
    -- a first label that is longer than every listed name does not belong to any of them
    obtain ⟨bound, hbound⟩ : ∃ bound, ∀ line ∈ acceptedLines source.tools.cases source.idna text,
        (listedName line).length < bound := by
      refine ⟨((acceptedLines source.tools.cases source.idna text).map
        fun line ↦ (listedName line).length).sum + 1, fun line hline ↦ ?_⟩
      exact Nat.lt_succ_of_le (List.single_le_sum (by simp) _ (List.mem_map_of_mem hline))
    obtain ⟨hhost, hascii, hnormal⟩ := normalHost_labelledHost hname bound
    rw [← hhost] at hascii
    have hblocked : store.blocked source.tools (labelledHost bound (name ++ ['.'])) =
        .ok true := by
      rw [hmatched _ hascii, decide_eq_true]
      refine ⟨other, hother, name, hname, hne, ?_⟩
      rw [hhost, hnormal]
      exact covers_append _ _ _
    by_contra hnone
    have hopen := (hlisted _ hascii).2 (fun ⟨line, hline, hcovers⟩ ↦ hnone ⟨line, hline, by
      rw [hhost, hnormal] at hcovers
      refine covers_of_label (by simp [List.mem_replicate]) ?_ hcovers
      rw [List.length_replicate]
      exact (hbound line hline).trans (Nat.lt_succ_self bound)⟩) (by
      rw [hhost]
      exact source.tools.networks.parseIp_label bound _)
    rw [hblocked] at hopen
    cases hopen

/-- For every list that is accepted: a node accepts the feed that is published for it while it is
valid, and then blocks what is listed and nothing else if and only if the names that are listed and
those that the node compares with cover one another. -/
theorem listed_blocked_iff (source : FeedSource) (key : String) (store : ComplianceStore)
    {text : Text} {domains : List Text} {published now : ℤ}
    (hparse : parseDomains source.tools.cases source.idna text = .ok domains)
    (hexpires : now < published + 6 * hour) (hdated : published ≤ now + 5 * minute) :
    ∃ feed after, source.Signed key domains published feed ∧
      validateRules source.tools (feed.received source.tools.json).rules = .ok () ∧
      store.apply source.tools (feed.received source.tools.json)
        (source.tools.signatures.publicKey key) now = (after, .ok ()) ∧
      (BlocksListed source text after ↔ NamesKept source.tools.cases source.idna text) := by
  obtain ⟨feed, hfeed⟩ := exists_signed hparse key published
  refine ⟨feed, _, hfeed, hfeed.validateRules, apply_published hfeed store hexpires hdated, ?_⟩
  constructor
  · exact fun hlisted ↦ namesKept_of_blocksListed hlisted fun address hascii ↦
      blocked_published hparse hfeed hascii
  · intro hkept address hascii
    have hiff := listed_iff_matched hkept hascii
    rw [blocked_published hparse hfeed hascii]
    exact ⟨fun hlisted ↦ by rw [decide_eq_true (hiff.mp hlisted)],
      fun hopen _ ↦ by rw [decide_eq_false fun hmatched ↦ hopen (hiff.mpr hmatched)]⟩

theorem listed_blocked_one :
    ∃ feed after, plainSource.Signed "key" ["example.com".toList] 0 feed ∧
      (⟨none, none⟩ : ComplianceStore).apply plainSource.tools
        (feed.received plainSource.tools.json) (plainSource.tools.signatures.publicKey "key") 0 =
          (after, .ok ()) ∧
      BlocksListed plainSource "# domains\n Example.com.\r\n".toList after := by
  have hparse : parseDomains plainSource.tools.cases plainSource.idna
      "# domains\n Example.com.\r\n".toList = .ok ["example.com".toList] := by decide +kernel
  have hexpires : (0 : ℤ) < 0 + 6 * hour := by decide
  have hdated : (0 : ℤ) ≤ 0 + 5 * minute := by decide
  obtain ⟨feed, after, hfeed, -, happly, hiff⟩ :=
    listed_blocked_iff plainSource "key" ⟨none, none⟩ hparse hexpires hdated
  exact ⟨feed, after, hfeed, happly, hiff.mpr (by decide +kernel)⟩

/-- A list with a name that has two dots in front of it is accepted, and the node that applies it
does not block that name. -/
theorem dotted_line_passes :
    parseDomains plainSource.tools.cases plainSource.idna "..example.com\n".toList =
        .ok ["..example.com".toList] ∧
      Listed plainSource.tools.cases plainSource.idna "..example.com\n".toList
        (hostOf "example.com:443".toList) ∧
      ∃ feed after, plainSource.Signed "key" ["..example.com".toList] 0 feed ∧
        (⟨none, none⟩ : ComplianceStore).apply plainSource.tools
          (feed.received plainSource.tools.json) (plainSource.tools.signatures.publicKey "key") 0 =
            (after, .ok ()) ∧
        after.blocked plainSource.tools "example.com:443".toList = .ok false := by
  have hparse : parseDomains plainSource.tools.cases plainSource.idna "..example.com\n".toList =
      .ok ["..example.com".toList] := by decide +kernel
  obtain ⟨feed, hfeed⟩ := exists_signed hparse "key" 0
  refine ⟨hparse, by decide +kernel, feed, _, hfeed,
    apply_published hfeed _ (by decide) (by decide), ?_⟩
  rw [blocked_published hparse hfeed (by decide +kernel)]
  exact congrArg Except.ok (decide_eq_false (by decide +kernel))

end RiseVpn.Fleet
