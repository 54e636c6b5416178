import RiseVpn.Fleet.ComplianceRefresh

/-!
# Runs of the refresh of the compliance feed

`refreshCompliance` compares a new list with the snapshot row that was fetched last, and sends the
`ETag` and `Last-Modified` of that row. A publication adds its row `ON CONFLICT(version) DO
NOTHING`, so that a list that was published before adds none.

`Publishes` says what `refreshFrom` did when it published a list, for any answer of the first query,
whose error the code ignores.

A `FeedRun` is a sequence of refreshes at increasing times, with the last publication beside the
tables. `published_against_last` says that in runs of refreshes that are `Fresh` each publication is
compared with the last one. `shrinks_below_half` is a run that returns to an earlier list and then
publishes a list of a quarter of its size.
-/

set_option autoImplicit false

namespace RiseVpn.Fleet

open Control GuardedRun

/-! ### A refresh -/

/-- The headers of the request that the values of `etag` and `lastModified` give. -/
def headersFor (etag lastModified : String) : List (String × String) :=
  (if etag ≠ "" then [("If-None-Match", etag)] else []) ++
    (if lastModified ≠ "" then [("If-Modified-Since", lastModified)] else [])

def headersOf (seen : Option Snapshot) : List (String × String) :=
  headersFor ((seen.map Snapshot.etag).getD "") ((seen.map Snapshot.lastModified).getD "")

/-! ### What a refresh does -/

section Outcomes

variable {Body : Type} {source : FeedSource} {parse : Body → Except String (List Text)}
variable {privateKey : Option String} {tables after : ComplianceTables} {seen : Option Snapshot}
variable {answer : Answer Body} {now : ℤ}

structure Publishes (source : FeedSource) (parse : Body → Except String (List Text))
    (privateKey : Option String) (tables : ComplianceTables) (seen : Option Snapshot)
    (answer : Answer Body) (now : ℤ) (after : ComplianceTables) (publication : Publication) :
    Prop where
  answer : ∃ body, parse body = .ok publication.domains ∧
    answer = .response 200 publication.etag publication.lastModified body
  nonempty : publication.domains ≠ []
  large : oldCountOf seen / 2 ≤ publication.domains.length
  signed : ∃ key feed, privateKey = some key ∧
    signFeed source.tools key (source.unsignedFeed publication.domains now) = .ok feed ∧
    after = tables.publish source feed publication.etag publication.lastModified
      publication.domains now

theorem refreshFrom_cases (source : FeedSource) (parse : Body → Except String (List Text))
    (privateKey : Option String) (tables : ComplianceTables) (seen : Option Snapshot)
    (answer : Answer Body) (now : ℤ) :
    (∃ publication, (refreshFrom source parse privateKey tables seen answer now).2 =
          .ok (some publication) ∧
        Publishes source parse privateKey tables seen answer now
          (refreshFrom source parse privateKey tables seen answer now).1 publication) ∨
      (∀ publication, (refreshFrom source parse privateKey tables seen answer now).2 ≠
          .ok (some publication)) ∧
        (refreshFrom source parse privateKey tables seen answer now).1.snapshots =
          tables.snapshots := by
  cases privateKey with
  | none => exact .inr ⟨nofun, rfl⟩
  | some key =>
    cases answer with
    | failed message => exact .inr ⟨nofun, rfl⟩
    | response status etag lastModified body =>
      unfold refreshFrom
      dsimp only
      by_cases hunchanged : status = 304
      · rw [if_pos hunchanged]
        exact .inr ⟨nofun, rfl⟩
      rw [if_neg hunchanged]
      by_cases hstatus : status = 200
      · subst hstatus
        rw [if_neg (not_not.mpr rfl)]
        cases hparse : parse body with
        | error message => exact .inr ⟨nofun, rfl⟩
        | ok domains =>
          dsimp only
          by_cases hsize : domains = [] ∨
              0 < oldCountOf seen ∧ domains.length < oldCountOf seen / 2
          · rw [if_pos hsize]
            exact .inr ⟨nofun, rfl⟩
          · rw [if_neg hsize]
            push Not at hsize
            cases hsigned : signFeed source.tools key (source.unsignedFeed domains now) with
            | error message => exact .inr ⟨nofun, rfl⟩
            | ok feed =>
              refine .inl ⟨⟨domains, etag, lastModified⟩, rfl, ⟨body, hparse, rfl⟩, hsize.1, ?_,
                key, feed, rfl, hsigned, rfl⟩
              have hlarge := hsize.2
              dsimp only
              omega
      · rw [if_pos hstatus]
        exact .inr ⟨nofun, rfl⟩

theorem refreshFrom_published {key etag lastModified : String} {body : Body} {domains : List Text}
    (hparse : parse body = .ok domains) (hnonempty : domains ≠ [])
    (hlarge : oldCountOf seen / 2 ≤ domains.length) :
    (refreshFrom source parse (some key) tables seen (.response 200 etag lastModified body) now).2 =
      .ok (some ⟨domains, etag, lastModified⟩) := by
  obtain ⟨feed, hfeed⟩ := signFeed_encode source.tools key (source.unsignedFeed domains now) rfl
  have hsize : ¬ (domains = [] ∨ 0 < oldCountOf seen ∧ domains.length < oldCountOf seen / 2) := by
    rintro (hempty | ⟨-, hsmall⟩)
    · exact hnonempty hempty
    · omega
  simp only [refreshFrom, hparse, if_neg hsize, hfeed]
  rfl

def FeedSource.versionFor (source : FeedSource) (domains : List Text) : String :=
  source.versionOf (source.tools.json.encode ⟨domains, [], []⟩)

theorem Publishes.snapshots {publication : Publication}
    (hpublishes : Publishes source parse privateKey tables seen answer now after publication) :
    ((∃ row ∈ tables.snapshots, row.version = source.versionFor publication.domains) ∧
        after.snapshots = tables.snapshots) ∨
      ∃ signature, after.snapshots = tables.snapshots ++
        [⟨source.versionFor publication.domains, publication.etag, publication.lastModified,
          publication.domains, signature, now⟩] := by
  obtain ⟨key, feed, -, hsigned, rfl⟩ := hpublishes.signed
  obtain ⟨payload, -, rfl⟩ := signFeed_eq hsigned
  unfold ComplianceTables.publish
  dsimp only
  split_ifs with hversion
  · exact .inl ⟨hversion, rfl⟩
  · exact .inr ⟨_, rfl⟩

end Outcomes

/-! ### The newest snapshot -/

def newestOf (newest : Option Snapshot) (rows : List Snapshot) : Option Snapshot :=
  rows.foldl (fun newest snapshot ↦
    if ∃ other ∈ newest, snapshot.fetchedAt ≤ other.fetchedAt then newest else some snapshot) newest

theorem mem_of_newestOf {rows : List Snapshot} {newest : Option Snapshot} {row : Snapshot}
    (hrow : newestOf newest rows = some row) : newest = some row ∨ row ∈ rows := by
  induction rows generalizing newest with
  | nil => exact .inl hrow
  | cons head rows ih =>
    rw [newestOf, List.foldl_cons] at hrow
    rcases ih hrow with hhead | htail
    · split_ifs at hhead with holder
      · exact .inl hhead
      · exact .inr (Option.some.inj hhead ▸ List.mem_cons_self)
    · exact .inr (List.mem_cons_of_mem head htail)

theorem newest_append {tables after : ComplianceTables} {row : Snapshot}
    (hafter : after.snapshots = tables.snapshots ++ [row])
    (hlater : ∀ other ∈ tables.snapshots, other.fetchedAt < row.fetchedAt) :
    after.newest = some row := by
  rw [ComplianceTables.newest, hafter, List.foldl_append, List.foldl_cons, List.foldl_nil, if_neg]
  rintro ⟨other, hother, hle⟩
  rcases mem_of_newestOf hother with hnone | hmem
  · cases hnone
  · exact absurd (hlater other hmem) (not_lt.mpr hle)

theorem newest_congr {tables after : ComplianceTables}
    (hafter : after.snapshots = tables.snapshots) : after.newest = tables.newest := by
  rw [ComplianceTables.newest, hafter]
  rfl

/-! ### Runs -/

/-- A refresh: whether its first query is answered, the answer to its request, and when it runs. -/
structure Refresh (Body : Type) where
  lookup : Bool := true
  answer : Answer Body
  now : ℤ

structure FeedRun where
  tables : ComplianceTables
  clock : ℤ
  last : Option Publication

def FeedRun.initial (nodes : List FeedNode) (clock : ℤ) : FeedRun :=
  ⟨⟨[], nodes, [], []⟩, clock, none⟩

section Runs

variable {Body : Type} (source : FeedSource) (parse : Body → Except String (List Text))
variable (privateKey : Option String)

def Refresh.seen (refresh : Refresh Body) (tables : ComplianceTables) : Option Snapshot :=
  if refresh.lookup then tables.newest else none

def Refresh.outcome (refresh : Refresh Body) (tables : ComplianceTables) :
    ComplianceTables × Except String (Option Publication) :=
  refreshFrom source parse privateKey tables (refresh.seen tables) refresh.answer refresh.now

def FeedRun.step (run : FeedRun) (refresh : Refresh Body) : Option FeedRun :=
  if run.clock < refresh.now then
    some {
      tables := (refresh.outcome source parse privateKey run.tables).1
      clock := refresh.now
      last := match (refresh.outcome source parse privateKey run.tables).2 with
        | .ok (some publication) => some publication
        | _ => run.last }
  else none

/-- The refresh is answered by its first query, and a list that it reads was never published or is
the newest one, with the same `ETag` and `Last-Modified`. -/
def Refresh.Fresh (tables : ComplianceTables) (refresh : Refresh Body) : Prop :=
  refresh.lookup = true ∧ ∀ etag lastModified body domains,
    refresh.answer = .response 200 etag lastModified body → parse body = .ok domains →
    (∀ row ∈ tables.snapshots, row.version ≠ source.versionFor domains) ∨
      ∃ row, tables.newest = some row ∧ row.domains = domains ∧ row.etag = etag ∧
        row.lastModified = lastModified

structure FeedRun.Settled (run : FeedRun) : Prop where
  newest : run.tables.newest.map (fun row ↦ Publication.mk row.domains row.etag row.lastModified) =
    run.last
  fetched : ∀ row ∈ run.tables.snapshots, row.fetchedAt ≤ run.clock

variable {source parse privateKey}

theorem settled_step {run next : FeedRun} {refresh : Refresh Body} (hsettled : run.Settled)
    (hfresh : refresh.Fresh source parse run.tables)
    (hstep : run.step source parse privateKey refresh = some next) : next.Settled := by
  unfold FeedRun.step at hstep
  split_ifs at hstep with hclock
  cases hstep
  rcases refreshFrom_cases source parse privateKey run.tables (refresh.seen run.tables)
    refresh.answer refresh.now with ⟨publication, hanswer, hpublishes⟩ | ⟨hnothing, hsnapshots⟩
  · have hlater : ∀ row ∈ run.tables.snapshots, row.fetchedAt < refresh.now :=
      fun row hrow ↦ (hsettled.fetched row hrow).trans_lt hclock
    obtain ⟨body, hparse, hbody⟩ := hpublishes.answer
    rw [Refresh.outcome, hanswer]
    rcases hpublishes.snapshots with ⟨⟨row, hrow, hversion⟩, hsame⟩ | ⟨signature, hadded⟩
    · -- The version is known, so that the list is that of the newest row.
      rcases hfresh.2 _ _ _ _ hbody hparse with hnew | ⟨newest, hnewest, hdomains, hetag, hmodified⟩
      · exact absurd hversion (hnew row hrow)
      · refine ⟨?_, fun row hrow ↦ ?_⟩
        · rw [newest_congr hsame, hnewest, Option.map_some, hdomains, hetag, hmodified]
        · exact (hlater row (hsame ▸ hrow)).le
    · refine ⟨?_, fun row hrow ↦ ?_⟩
      · rw [newest_append hadded hlater]
        rfl
      · rw [hadded, List.mem_append, List.mem_singleton] at hrow
        rcases hrow with hold | rfl
        · exact (hlater row hold).le
        · exact le_rfl
  · refine ⟨?_, fun row hrow ↦ ?_⟩
    · dsimp only [Refresh.outcome]
      rw [newest_congr hsnapshots, hsettled.newest]
      symm
      split
      · rename_i publication hanswer
        exact absurd hanswer (hnothing publication)
      · rfl
    · exact (hsettled.fetched row (hsnapshots ▸ hrow)).trans hclock.le

end Runs

/-- Assumes: a run of refreshes that are fresh. A refresh that is fresh and publishes a list sends
the `ETag` and `Last-Modified` of the last publication, and its list has at least half as many names
as that one. -/
theorem published_against_last {Body : Type} {source : FeedSource}
    {parse : Body → Except String (List Text)} {privateKey : Option String}
    {nodes : List FeedNode} {start : ℤ} {run : FeedRun} {refresh : Refresh Body}
    {publication last : Publication}
    (hreach : ReachableUnder (FeedRun.step source parse privateKey)
      (fun before refresh _ ↦ refresh.Fresh source parse before.tables)
      (FeedRun.initial nodes start) run)
    (hfresh : refresh.Fresh source parse run.tables)
    (hpublished : (refresh.outcome source parse privateKey run.tables).2 = .ok (some publication))
    (hlast : run.last = some last) :
    last.domains.length / 2 ≤ publication.domains.length ∧
      headersOf (refresh.seen run.tables) = headersFor last.etag last.lastModified := by
  have hsettled : run.Settled := hreach.invariant FeedRun.Settled ⟨rfl, nofun⟩
    fun before refresh after hbefore hfresh hstep ↦ settled_step hbefore hfresh hstep
  have hseen : refresh.seen run.tables = run.tables.newest := if_pos hfresh.1
  have hnewest := hsettled.newest
  rw [hlast, Option.map_eq_some_iff] at hnewest
  obtain ⟨row, hrow, rfl⟩ := hnewest
  rw [Refresh.outcome, hseen] at hpublished
  rw [hseen, hrow]
  rcases refreshFrom_cases source parse privateKey run.tables run.tables.newest refresh.answer
    refresh.now with ⟨other, hother, hpublishes⟩ | ⟨hnothing, -⟩
  · obtain rfl : other = publication := by
      simpa using hother.symm.trans hpublished
    have hlarge := hpublishes.large
    rw [hrow] at hlarge
    exact ⟨hlarge, rfl⟩
  · exact absurd hpublished (hnothing publication)

def listed (etag : String) (names : List String) (now : ℤ) : Refresh Text where
  answer := .response 200 etag "" ("\n".intercalate names).toList
  now := now

abbrev plainStep : FeedRun → Refresh Text → Option FeedRun :=
  FeedRun.step plainSource (parseDomains plainSource.tools.cases plainSource.idna) (some "key")

abbrev plainFresh (before : FeedRun) (refresh : Refresh Text) (_ : FeedRun) : Prop :=
  refresh.Fresh plainSource (parseDomains plainSource.tools.cases plainSource.idna) before.tables

theorem published_against_last_shorter : ∃ run publication last,
    ReachableUnder plainStep plainFresh (FeedRun.initial [] 0) run ∧
      ((listed "second" ["a.x", "b.x"] 2).outcome plainSource
        (parseDomains plainSource.tools.cases plainSource.idna) (some "key") run.tables).2 =
          .ok (some publication) ∧
      run.last = some last ∧ last.domains.length / 2 ≤ publication.domains.length ∧
      headersOf ((listed "second" ["a.x", "b.x"] 2).seen run.tables) =
        headersFor last.etag last.lastModified := by
  have hstep : plainStep (FeedRun.initial [] 0)
      (listed "first" ["a.x", "b.x", "c.x", "d.x"] 1) = some _ := rfl
  have hreach : ReachableUnder plainStep plainFresh (FeedRun.initial [] 0) _ :=
    .next .refl hstep ⟨rfl, fun _ _ _ _ _ _ ↦ .inl fun _ hrow ↦ absurd hrow List.not_mem_nil⟩
  refine ⟨_, _, _, hreach, rfl, rfl, published_against_last hreach ?_ rfl rfl⟩
  refine ⟨rfl, fun etag lastModified body domains hbody hparse ↦ .inl fun row hrow ↦ ?_⟩
  cases hbody
  have hdomains : parseDomains plainSource.tools.cases plainSource.idna
      ("\n".intercalate ["a.x", "b.x"]).toList = .ok ["a.x".toList, "b.x".toList] := rfl
  obtain rfl := Except.ok.inj (hdomains.symm.trans hparse)
  obtain rfl := List.mem_singleton.mp hrow
  decide

def returning : List (Refresh Text) :=
  [listed "first" ["a.x", "b.x", "c.x", "d.x"] 1, listed "second" ["a.x", "b.x"] 2,
    listed "first" ["a.x", "b.x", "c.x", "d.x"] 3]

/-- After the return to four names a list of one name is published, with the `ETag` of the two
names. -/
theorem shrinks_below_half : ∃ run publication last,
    Reachable plainStep (FeedRun.initial [] 0) run ∧
      ((listed "third" ["a.x"] 4).outcome plainSource
        (parseDomains plainSource.tools.cases plainSource.idna) (some "key") run.tables).2 =
          .ok (some publication) ∧
      run.last = some last ∧ publication.domains.length < last.domains.length / 2 ∧
      headersOf ((listed "third" ["a.x"] 4).seen run.tables) = [("If-None-Match", "second")] ∧
      last.etag = "first" := by
  have hrun : run plainStep (FeedRun.initial [] 0) returning = some _ := rfl
  exact ⟨_, _, _, reachable_of_run hrun, rfl, rfl, by decide, rfl, rfl⟩

end RiseVpn.Fleet
