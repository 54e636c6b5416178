import RiseVpn.Control.DomainLists
import RiseVpn.Fleet.CertificateRotation

/-!
# Publication of the compliance feed

`refreshCompliance` on the tables that it uses: it asks for the list of blocked domains and, when it
gets one, signs a feed that is valid for 6 hours and queues it for every node that is not pending.
The answer to the request is an argument. Failures of the database are not part of the model, except
that of the first query, whose error the code ignores: `refreshFrom` is the rest of the function,
with any row that the query may have returned and any reading of a body, and also returns what it
published.

`Refreshed` says what a run that succeeds can do, and `apply_published` that a node accepts what is
published as long as it is valid.
-/

set_option autoImplicit false

namespace RiseVpn.Fleet

open Control

/-! ### Tables -/

/-- A row of `compliance_snapshots`; all of them are valid. -/
structure Snapshot where
  version : String
  etag : String
  lastModified : String
  domains : List Text
  signature : String
  fetchedAt : ℤ

/-- The columns of a row of `nodes` that the feed uses. -/
structure FeedNode where
  id : NodeId
  status : NodeStatus
  complianceFetchedAt : Option ℤ
  complianceVersion : Option String

/-- A row of the controller's `alerts`. -/
structure ControlAlert where
  key : String
  severity : String
  message : String
  active : Bool
  resolvedAt : Option ℤ

/-- The tables that `refreshCompliance` uses, with the `compliance.feed` commands. -/
structure ComplianceTables where
  snapshots : List Snapshot
  nodes : List FeedNode
  commands : List Command
  alerts : List ControlAlert

/-- `INSERT INTO alerts … ON CONFLICT(key) DO UPDATE`. -/
def raiseAlert (key message : String) (alerts : List ControlAlert) : List ControlAlert :=
  if ∃ alert ∈ alerts, alert.key = key then
    alerts.map fun alert ↦
      if alert.key = key then { alert with message := message, active := true, resolvedAt := none }
      else alert
  else alerts ++ [⟨key, "critical", message, true, none⟩]

/-- `UPDATE alerts SET active=false,resolved_at=now()`. -/
def resolveAlerts (keys : List String) (now : ℤ) (alerts : List ControlAlert) :
    List ControlAlert :=
  alerts.map fun alert ↦
    if alert.key ∈ keys then { alert with active := false, resolvedAt := some now } else alert

/-! ### A run -/

/-- What `refreshCompliance` is built on. `versionOf` is the start of the SHA-256 of the rules in
base64. -/
structure FeedSource where
  tools : ComplianceTools
  idna : Idna
  versionOf : String → String
  versionOf_ne : ∀ rules, versionOf rules ≠ ""

def plainSource : FeedSource where
  tools := plainTools
  idna := plainIdna
  versionOf := fun rules ↦ "v" ++ rules
  versionOf_ne := by simp

/-- What comes back for the request: an error of the request or of reading its body, or a response
with the first 32 MiB of its body. -/
inductive Answer (Body : Type)
  | failed (message : String)
  | response (status : ℕ) (etag lastModified : String) (body : Body)

structure Publication where
  domains : List Text
  etag : String
  lastModified : String

def ComplianceTables.newest (tables : ComplianceTables) : Option Snapshot :=
  tables.snapshots.foldl (fun newest snapshot ↦
    if ∃ other ∈ newest, snapshot.fetchedAt ≤ other.fetchedAt then newest else some snapshot) none

/-- `oldCount`, from the row that the first query returned. -/
def oldCountOf (seen : Option Snapshot) : ℕ :=
  (seen.map fun snapshot ↦ snapshot.domains.length).getD 0

def ComplianceTables.complianceFailure (tables : ComplianceTables) (cause : String) :
    ComplianceTables × Except String (Option Publication) :=
  ({ tables with
    alerts := raiseAlert "COMPLIANCE_STALE"
      ("Compliance refresh failed; last-known-good remains active: " ++ cause) tables.alerts },
    .error cause)

def FeedSource.unsignedFeed (source : FeedSource) (domains : List Text) (now : ℤ) : SignedFeed :=
  let rules := source.tools.json.encode ⟨domains, [], []⟩
  ⟨source.versionOf rules, now, now + 6 * hour, rules, ""⟩

/-- The transaction of `refreshCompliance`. -/
def ComplianceTables.publish (tables : ComplianceTables) (source : FeedSource) (feed : SignedFeed)
    (etag lastModified : String) (domains : List Text) (now : ℤ) : ComplianceTables where
  snapshots :=
    if ∃ snapshot ∈ tables.snapshots, snapshot.version = feed.version then tables.snapshots
    else tables.snapshots ++ [⟨feed.version, etag, lastModified, domains, feed.signature, now⟩]
  nodes := tables.nodes
  commands := tables.commands ++
    (tables.nodes.filter fun node ↦ node.status ≠ .pending).mapIdx fun i node ↦
      Database.newCommand now (tables.commands.length + i)
        (node.id, .complianceFeed (feed.received source.tools.json))
  alerts := resolveAlerts ["COMPLIANCE_STALE", "COMPLIANCE_KEY_MISSING"] now tables.alerts

/-- `refreshCompliance` after its first query, with the private key when one is configured. -/
def refreshFrom {Body : Type} (source : FeedSource) (parse : Body → Except String (List Text))
    (privateKey : Option String) (tables : ComplianceTables) (seen : Option Snapshot)
    (answer : Answer Body) (now : ℤ) : ComplianceTables × Except String (Option Publication) :=
  match privateKey with
  | none =>
    ({ tables with
      alerts := raiseAlert "COMPLIANCE_KEY_MISSING" "Compliance signing key is not configured"
        tables.alerts }, .ok none)
  | some key =>
    match answer with
    | .failed message => tables.complianceFailure message
    | .response status etag lastModified body =>
      if status = 304 then
        ({ tables with alerts := resolveAlerts ["COMPLIANCE_STALE"] now tables.alerts }, .ok none)
      else if status ≠ 200 then tables.complianceFailure ("feed HTTP " ++ toString status)
      else match parse body with
      | .error message => tables.complianceFailure message
      | .ok domains =>
        if domains = [] ∨ 0 < oldCountOf seen ∧ domains.length < oldCountOf seen / 2 then
          tables.complianceFailure ("anomalous feed size " ++ toString domains.length ++
            " (previous " ++ toString (oldCountOf seen) ++ ")")
        else match signFeed source.tools key (source.unsignedFeed domains now) with
        | .error message => (tables, .error message)
        | .ok feed =>
          (tables.publish source feed etag lastModified domains now,
            .ok (some ⟨domains, etag, lastModified⟩))

def refreshCompliance (source : FeedSource) (privateKey : Option String)
    (tables : ComplianceTables) (answer : Answer Text) (now : ℤ) :
    ComplianceTables × Except String Unit :=
  let refreshed := refreshFrom source (parseDomains source.tools.cases source.idna) privateKey
    tables tables.newest answer now
  (refreshed.1, refreshed.2.map fun _ ↦ ())

/-- `compliance_fetched_at>now()-interval '6 hours'` of the search for a route. -/
def FeedNode.Selectable (now : ℤ) (node : FeedNode) : Prop :=
  ∃ fetchedAt ∈ node.complianceFetchedAt, now - 6 * hour < fetchedAt

/-- The `UPDATE nodes` when a `compliance.feed` command is acknowledged. -/
def FeedNode.fetched (now : ℤ) (command : Command) (node : FeedNode) : FeedNode :=
  match command.message with
  | .complianceFeed feed =>
    if node.id = command.nodeId then
      { node with complianceFetchedAt := some now, complianceVersion := some feed.version }
    else node
  | _ => node

/-! ### What is published -/

structure FeedSource.Signed (source : FeedSource) (key : String) (domains : List Text) (now : ℤ)
    (feed : SignedFeed) : Prop where
  nonempty : domains ≠ []
  plain : ∀ domain ∈ domains, PlainName domain
  signed : signFeed source.tools key (source.unsignedFeed domains now) = .ok feed

section

variable {source : FeedSource} {key : String} {domains : List Text} {now published : ℤ}
variable {feed : SignedFeed}

theorem exists_signed {text : Text}
    (hparse : parseDomains source.tools.cases source.idna text = .ok domains) (key : String)
    (now : ℤ) : ∃ feed, source.Signed key domains now feed := by
  obtain ⟨feed, hfeed⟩ := signFeed_encode source.tools key (source.unsignedFeed domains now) rfl
  exact ⟨feed, (parseDomains_ok hparse).1, plainName_of_parseDomains hparse, hfeed⟩

section

variable (hfeed : source.Signed key domains published feed)

include hfeed

theorem FeedSource.Signed.received_eq :
    (feed.received source.tools.json).rules =
        source.tools.json.stored (source.tools.json.encode ⟨domains, [], []⟩) ∧
      (feed.received source.tools.json).expiresAt = published + 6 * hour := by
  obtain ⟨payload, -, rfl⟩ := signFeed_eq hfeed.signed
  exact ⟨rfl, rfl⟩

theorem FeedSource.Signed.validateRules :
    validateRules source.tools (feed.received source.tools.json).rules = .ok () := by
  rw [hfeed.received_eq.1]
  exact validateRules_plain source.tools hfeed.nonempty hfeed.plain

theorem apply_published (store : ComplianceStore) (hexpires : now < published + 6 * hour)
    (hdated : published ≤ now + 5 * minute) :
    store.apply source.tools (feed.received source.tools.json)
        (source.tools.signatures.publicKey key) now =
      ((store.save (feed.received source.tools.json)).resolveAlert, .ok ()) := by
  refine apply_signed store hfeed.signed (source.versionOf_ne _) ?_ ?_ hexpires hdated
  · simp only [FeedSource.unsignedFeed, hour, minute, second]
    omega
  · exact validateRules_plain source.tools hfeed.nonempty hfeed.plain

end

inductive Refreshed (source : FeedSource) (key : String) (tables : ComplianceTables) (now : ℤ) :
    Answer Text → ComplianceTables → Prop
  | unchanged (etag lastModified : String) (body : Text) :
    Refreshed source key tables now (.response 304 etag lastModified body)
      { tables with alerts := resolveAlerts ["COMPLIANCE_STALE"] now tables.alerts }
  | published (etag lastModified : String) (body : Text) (domains : List Text) (feed : SignedFeed)
    (hparse : parseDomains source.tools.cases source.idna body = .ok domains)
    (hfeed : source.Signed key domains now feed) :
    Refreshed source key tables now (.response 200 etag lastModified body)
      (tables.publish source feed etag lastModified domains now)

theorem refreshCompliance_ok {tables after : ComplianceTables} {answer : Answer Text}
    (hrun : refreshCompliance source (some key) tables answer now = (after, .ok ())) :
    Refreshed source key tables now answer after := by
  cases answer with
  | failed message => cases hrun
  | response status etag lastModified body =>
    simp only [refreshCompliance, refreshFrom] at hrun
    split_ifs at hrun with hunchanged hstatus
    · subst hunchanged
      cases hrun
      exact .unchanged etag lastModified body
    · cases hrun
    · obtain rfl : status = 200 := not_not.mp hstatus
      cases hparse : parseDomains source.tools.cases source.idna body with
      | error message =>
        rw [hparse] at hrun
        cases hrun
      | ok domains =>
        simp only [hparse] at hrun
        split_ifs at hrun with hsize
        · cases hrun
        · obtain ⟨feed, hfeed⟩ := exists_signed hparse key now
          rw [hfeed.signed] at hrun
          cases hrun
          exact .published etag lastModified body domains feed hparse hfeed

end

end RiseVpn.Fleet
