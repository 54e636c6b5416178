import RiseVpn.Control.Effects
import RiseVpn.Fleet.ServedRoutes
import RiseVpn.Library.UrlEscape
import RiseVpn.Node.Compliance

/-!
# Subscription documents

`subscriptionDocument` from the request to its answer, with the tables it reads and the transactions
it makes: the binding of the device with the start of a trial, the assignment of a node and the
provisioning. What the handler has read with its first query it keeps: the quota and whether the
node can do the fallback transport are not read again after it has started a trial or assigned a
node.

Parameters are the hashes, the decryption of a credential and its VLESS id (`DocumentConfig`). The
query for a new route has several possible results when nodes are equal; which one it returns comes
with the request, and so does whether the assignment is stored, as an error of that is ignored.

`Answered` says what stands behind a document, and what the next request will read. `stable_iff` is
the result for two requests in a row: their documents agree exactly when the first has not started a
trial with another quota and the device had a node. `first_document_differs` is a device whose first
document has the other transport and a quota of 0.
-/

set_option autoImplicit false

namespace RiseVpn.Fleet

open Control UrlEscape

/-! ### The tables -/

/-- What the handler is configured with. `hash`, `hwidHmac` and `decrypt` are `Hash`, `vault.HWID`
and `vault.Decrypt`, and `vlessId` is `vless.IDFromCredential`. -/
structure DocumentConfig where
  environment : Environment
  subject : UserId → String
  hash : String → String
  hwidHmac : String → String
  decrypt : String → DeviceId → Option String
  vlessId : String → String
  hysteriaObfsPassword : String

def currentTermsVersion : String := "2026-08-09"

/-- The tables. `tokens` is the unique index on `subscription_token_hash`. A node has a domain that
is not empty, since `decodeBundle` refuses the others. -/
structure DocumentTables where
  db : Database
  tokens : String → Option DeviceId
  ciphers : DeviceId → String
  active : UserId → Bool
  termsVersions : UserId → Option String
  trialFingerprints : Finset (String × String)
  nodes : RouteNodes
  named : ∀ node ∈ nodes.rows, node.domain ≠ ""

/-- A request, with the times of its statements, the row that the query for a new route returns and
whether the new assignment is stored. -/
structure DocumentRequest where
  token : String
  hwid : String
  bindTx : ℤ
  now : ℤ
  routeTx : ℤ
  chosen : Option RouteNode
  stored : Bool
  provisionTx : ℤ
  provisionNow : ℤ
  leaseId : String

structure DocumentRow where
  deviceId : DeviceId
  userId : UserId
  cipher : String
  storedHwid : Option String
  subscription : Subscription
  assigned : Option RouteNode
  termsAccepted : Bool

def DocumentRow.supportsCdnWebSocket (row : DocumentRow) : Bool :=
  (row.assigned.map RouteNode.fallback).getD false

/-- `plan == "TRIAL" && status == "pending_trial"`. -/
def DocumentRow.pendingTrial (row : DocumentRow) : Bool :=
  row.subscription.planCode = .trial ∧ row.subscription.status = .pendingTrial

/-- `len(storedHWID) == 0`. -/
def DocumentRow.Unbound (row : DocumentRow) : Prop := row.storedHwid.getD "" = ""
  deriving Decidable

def DocumentTables.find (tables : DocumentTables) (config : DocumentConfig) (token : String) :
    Option DocumentRow :=
  match tables.tokens (config.hash token) with
  | none => none
  | some id =>
    match config.environment.directory.owner id, tables.db.devices id with
    | some user, some device =>
      match tables.db.subscriptions user with
      | none => none
      | some subscription =>
        if device.revokedAt = none ∧ tables.active user = true then
          some {
            deviceId := id
            userId := user
            cipher := tables.ciphers id
            storedHwid := device.hwidHmac
            subscription := subscription
            assigned := (tables.db.assignments id).bind tables.nodes.lookup
            termsAccepted := (tables.termsVersions user).getD "" = currentTermsVersion }
        else none
    | _, _ => none

/-! ### The document -/

def hysteriaUri (credential domain obfsPassword : String) : String :=
  let query := (if obfsPassword ≠ "" then
    [("obfs", "salamander"), ("obfs-password", obfsPassword)] else []) ++ [("sni", domain)]
  "hysteria2://" ++ queryEscape credential ++ "@" ++ domain ++ ":443/?" ++ encodeValues query ++
    "#RiseVPN · Защищённый маршрут"

/-- `vlessWebSocketURI`, with the VLESS id of the credential. -/
def vlessWebSocketUri (id domain : String) : String :=
  let query := [("alpn", "http/1.1"), ("encryption", "none"), ("fp", "chrome"), ("host", domain),
    ("path", "/risevpn-v1"), ("security", "tls"), ("sni", domain), ("type", "ws")]
  let label :=
    "RiseVPN · " ++ String.ofList ((id.toList.take 8).map Char.toUpper) ++ " · Chrome TLS"
  "vless://" ++ id ++ "@" ++ domain ++ ":443?" ++ encodeValues query ++ "#" ++ pathEscape label

structure DocumentResponse where
  headers : List (String × String)
  body : String

def DocumentResponse.header (response : DocumentResponse) (name : String) : Option String :=
  (response.headers.find? fun header ↦ header.1 = name).map Prod.snd

/-- The `subscription-userinfo` header. -/
def userInfo (usedBytes quotaBytes periodEnd : ℤ) : String :=
  "upload=0; download=" ++ toString usedBytes ++ "; total=" ++ toString quotaBytes ++ "; expire=" ++
    toString (unix periodEnd)

def documentResponse (config : DocumentConfig) (credential domain : String) (webSocket : Bool)
    (usedBytes quotaBytes : ℤ) (periodEnd : Option ℤ) : DocumentResponse where
  headers :=
    [("Content-Type", "text/plain; charset=utf-8"), ("profile-title", "RiseVPN · Chrome TLS"),
      ("profile-update-interval", "1"), ("update-always", "true"),
      ("X-RiseVPN-Transport", if webSocket then "vless-ws-tls" else "hysteria2")] ++
    (match periodEnd with
      | none => []
      | some ends => [("subscription-userinfo", userInfo usedBytes quotaBytes ends)]) ++
    [("Cache-Control", "no-store")]
  body :=
    (if webSocket then vlessWebSocketUri (config.vlessId credential) domain
      else hysteriaUri credential domain config.hysteriaObfsPassword) ++ "\n"

/-! ### The handler -/

section Handler

variable (config : DocumentConfig)

section

variable (tables : DocumentTables)

/-- `SELECT EXISTS(SELECT 1 FROM trial_fingerprints WHERE telegram_subject=… OR hwid_hmac=…)`. -/
def DocumentTables.reused (subject fingerprint : String) : Bool :=
  ∃ row ∈ tables.trialFingerprints, row.1 = subject ∨ row.2 = fingerprint

structure KnownPeriod where
  status : SubscriptionStatus
  periodEnd : Option ℤ

def DocumentTables.bind (row : DocumentRow) (fingerprint : String) (request : DocumentRequest) :
    Except Failure (DocumentTables × KnownPeriod) :=
  let subject := config.subject row.userId
  if row.Unbound then
    match (bindDevice config.environment.directory ⟨row.deviceId, fingerprint, row.pendingTrial,
      tables.reused subject fingerprint, request.bindTx, request.now⟩).run tables.db with
    | .error failure => .error failure
    | .ok db =>
      if row.pendingTrial then
        .ok ({ tables with
          db := db
          trialFingerprints := insert (subject, fingerprint) tables.trialFingerprints },
          ⟨.active, some (request.now + trialDuration)⟩)
      else .ok ({ tables with db := db }, ⟨row.subscription.status, row.subscription.periodEndsAt⟩)
  else if row.storedHwid ≠ some fingerprint then .error .hwidMismatch
  else .ok (tables, ⟨row.subscription.status, row.subscription.periodEndsAt⟩)

def DocumentTables.assign (device : DeviceId) (node : NodeId) (stored : Bool) : DocumentTables :=
  if stored then
    match (assignNode config.environment.directory ⟨device, node⟩).run tables.db with
    | .error _ => tables
    | .ok db => { tables with db := db }
  else tables

/-- The node and the domain of the document. There is no result when the query for a new route
cannot return the given row. -/
def DocumentTables.route (row : DocumentRow) (request : DocumentRequest) :
    Option (DocumentTables × Except Failure (NodeId × String)) :=
  let assigned := (row.assigned.map fun node ↦ (node.id, node.domain)).getD ("", "")
  if assigned.2 ≠ "" then some (tables, .ok assigned)
  else match request.chosen with
  | none =>
    if tables.nodes.candidates request.routeTx = [] then some (tables, .error .noRoute) else none
  | some node =>
    if tables.nodes.Best request.routeTx node then
      some (tables.assign config row.deviceId node.id request.stored, .ok (node.id, node.domain))
    else none

def DocumentTables.serve (row : DocumentRow) (known : KnownPeriod) (request : DocumentRequest)
    (nodeId : NodeId) (domain : String) : DocumentTables × Except Failure DocumentResponse :=
  match (provisionDevice config.environment ⟨row.deviceId, nodeId, request.provisionTx,
    request.provisionNow, request.leaseId⟩).run tables.db with
  | .error _ => (tables, .error .provisioning)
  | .ok db =>
    match config.decrypt row.cipher row.deviceId with
    | none => ({ tables with db := db }, .error (.problem 500 "credential"
        "Не удалось открыть конфигурацию" ""))
    | some credential =>
      ({ tables with db := db }, .ok (documentResponse config credential domain
        row.supportsCdnWebSocket row.subscription.usedBytes row.subscription.quotaBytes
        known.periodEnd))

def subscriptionDocument (request : DocumentRequest) :
    Option (DocumentTables × Except Failure DocumentResponse) :=
  let hwid := String.ofList (trimSpace request.hwid.toList)
  if hwid = "" then some (tables, .error .hwidRequired)
  else match tables.find config request.token with
  | none => some (tables, .error .subscriptionToken)
  | some row =>
    if row.termsAccepted = false then some (tables, .error .termsRequired)
    else match tables.bind config row (config.hwidHmac hwid) request with
    | .error failure => some (tables, .error failure)
    | .ok (bound, known) =>
      if known.status ≠ .active ∧ known.status ≠ .grace then some (bound, .error .inactive)
      else match bound.route config row request with
      | none => none
      | some (routed, .error failure) => some (routed, .error failure)
      | some (routed, .ok (nodeId, domain)) =>
        some (routed.serve config row known request nodeId domain)

end

end Handler

/-! ### What stands behind a document -/

/-- The subscription after the request: a trial that was pending has started when the device was not
bound. -/
def DocumentRow.activated (row : DocumentRow) (now : ℤ) : Subscription :=
  if row.Unbound ∧ row.pendingTrial then trialRow row.subscription now else row.subscription

def DocumentRow.reassigned (row : DocumentRow) (request : DocumentRequest) : Option RouteNode :=
  row.assigned.or (if request.stored then request.chosen else none)

/-- The domain of the document: that of the assigned node or, without one, that of the node that was
chosen. -/
def DocumentRow.Routes (row : DocumentRow) (nodes : RouteNodes) (request : DocumentRequest)
    (domain : String) : Prop :=
  (∃ node ∈ row.assigned, node.domain = domain) ∨
    row.assigned = none ∧ ∃ node ∈ request.chosen, node.domain = domain ∧ node ∈ nodes.rows ∧
      node.fallback = true

structure Answered (config : DocumentConfig) (tables : DocumentTables) (request : DocumentRequest)
    (after : DocumentTables) (response : DocumentResponse) (row : DocumentRow)
    (credential domain : String) : Prop where
  found : tables.find config request.token = some row
  running : (row.activated request.now).status = .active ∨
    (row.activated request.now).status = .grace
  decrypted : config.decrypt row.cipher row.deviceId = some credential
  routes : row.Routes tables.nodes request domain
  response : response = documentResponse config credential domain row.supportsCdnWebSocket
    row.subscription.usedBytes row.subscription.quotaBytes
    (row.activated request.now).periodEndsAt
  nodes : after.nodes = tables.nodes
  again : ∃ storedHwid, after.find config request.token = some { row with
    storedHwid := storedHwid
    subscription := row.activated request.now
    assigned := row.reassigned request }

section Outcomes

variable {config : DocumentConfig} {tables bound routed after : DocumentTables}
variable {request : DocumentRequest} {row : DocumentRow} {known : KnownPeriod}
variable {device : DeviceRow} {token fingerprint domain : String} {nodeId : NodeId}

structure Reads (config : DocumentConfig) (tables : DocumentTables) (token : String)
    (row : DocumentRow) (device : DeviceRow) : Prop where
  indexed : tables.tokens (config.hash token) = some row.deviceId
  owner : config.environment.directory.owner row.deviceId = some row.userId
  found : tables.db.devices row.deviceId = some device
  subscription : tables.db.subscriptions row.userId = some row.subscription
  live : device.revokedAt = none ∧ tables.active row.userId = true
  cipher : tables.ciphers row.deviceId = row.cipher
  hwid : device.hwidHmac = row.storedHwid
  assigned : (tables.db.assignments row.deviceId).bind tables.nodes.lookup = row.assigned
  terms : decide ((tables.termsVersions row.userId).getD "" = currentTermsVersion) =
    row.termsAccepted

theorem Reads.find (hreads : Reads config tables token row device) :
    tables.find config token = some row := by
  obtain ⟨id, user, cipher, hwid, subscription, assigned, terms⟩ := row
  simp only [DocumentTables.find, hreads.indexed, hreads.owner, hreads.found, hreads.subscription,
    if_pos hreads.live, hreads.cipher, hreads.hwid, hreads.assigned, hreads.terms]

theorem exists_reads (hfind : tables.find config token = some row) :
    ∃ device, Reads config tables token row device := by
  unfold DocumentTables.find at hfind
  split at hfind
  · cases hfind
  · rename_i id hid
    split at hfind
    · rename_i user device howner hdevice
      split at hfind
      · cases hfind
      · rename_i subscription hsubscription
        split_ifs at hfind with hlive
        cases hfind
        exact ⟨device, hid, howner, hdevice, hsubscription, hlive, rfl, rfl, rfl, rfl⟩
    · cases hfind

theorem run_bindDevice_found {directory : Directory} {bind : BindDevice} {db result : Database}
    {user : UserId} {subscription : Subscription}
    (howner : directory.owner bind.deviceId = some user)
    (hdevice : db.devices bind.deviceId = some device)
    (hrow : db.subscriptions user = some subscription)
    (hpending : bind.pendingTrial = true → subscription.status = .pendingTrial)
    (hrun : (bindDevice directory bind).run db = .ok result) :
    result = (if bind.pendingTrial then db.setSubscription user (trialRow subscription bind.now)
      else db).setDevice bind.deviceId { device with
        hwidHmac := some bind.fingerprint, lastBoundAt := some bind.txNow } := by
  unfold bindDevice at hrun
  split_ifs at hrun ⊢ with htrial hreused
  · cases hrun
  · simp only [howner, RowLocking.Txn.run_select, hrow, if_pos (hpending htrial),
      run_updateSubscription, bindHwid, Database.setSubscription, hdevice,
      RowLocking.Txn.run_update, RowLocking.Txn.run_commit] at hrun
    exact (Except.ok.inj hrun).symm
  · simp only [bindHwid, RowLocking.Txn.run_select, hdevice, RowLocking.Txn.run_update,
      RowLocking.Txn.run_commit] at hrun
    exact (Except.ok.inj hrun).symm

theorem Reads.rebound {db : Database} {subscription : Subscription} {fingerprints}
    (hreads : Reads config tables token row device) (device' : DeviceRow)
    (hrevoked : device'.revokedAt = device.revokedAt)
    (hdevice : db.devices row.deviceId = some device')
    (hrow : db.subscriptions row.userId = some subscription)
    (hassignments : db.assignments = tables.db.assignments) :
    Reads config { tables with db := db, trialFingerprints := fingerprints } token
      { row with storedHwid := device'.hwidHmac, subscription } device' where
  indexed := hreads.indexed
  owner := hreads.owner
  found := hdevice
  subscription := hrow
  live := ⟨hrevoked.trans hreads.live.1, hreads.live.2⟩
  cipher := hreads.cipher
  hwid := rfl
  assigned := by
    dsimp only
    rw [hassignments]
    exact hreads.assigned
  terms := hreads.terms

theorem bind_ok (hreads : Reads config tables token row device)
    (hbind : tables.bind config row fingerprint request = .ok (bound, known)) :
    known = ⟨(row.activated request.now).status, (row.activated request.now).periodEndsAt⟩ ∧
      bound.nodes = tables.nodes ∧
      ∃ storedHwid device', Reads config bound token
        { row with storedHwid, subscription := row.activated request.now } device' := by
  unfold DocumentTables.bind at hbind
  dsimp only at hbind
  by_cases hunbound : row.Unbound
  · rw [if_pos hunbound] at hbind
    split at hbind
    · cases hbind
    · rename_i db hrun
      have hpending : row.pendingTrial = true → row.subscription.status = .pendingTrial := by
        intro htrial
        rw [DocumentRow.pendingTrial, decide_eq_true_eq] at htrial
        exact htrial.2
      let device' : DeviceRow :=
        { device with hwidHmac := some fingerprint, lastBoundAt := some request.bindTx }
      have hdb := run_bindDevice_found hreads.owner hreads.found hreads.subscription hpending hrun
      dsimp only at hdb
      by_cases htrial : row.pendingTrial = true
      · rw [if_pos htrial] at hbind hdb
        cases hbind
        rw [DocumentRow.activated, if_pos ⟨hunbound, htrial⟩]
        refine ⟨rfl, rfl, _, device', hreads.rebound device' rfl ?_ ?_ ?_⟩ <;> rw [hdb]
        · exact Function.update_self row.deviceId _ _
        · exact Function.update_self row.userId _ _
        · rfl
      · rw [if_neg htrial] at hbind hdb
        cases hbind
        rw [DocumentRow.activated, if_neg fun hboth ↦ htrial hboth.2]
        refine ⟨rfl, rfl, _, device', hreads.rebound device' rfl ?_ ?_ ?_⟩ <;> rw [hdb]
        · exact Function.update_self row.deviceId _ _
        · exact hreads.subscription
        · rfl
  · rw [if_neg hunbound] at hbind
    split_ifs at hbind
    cases hbind
    rw [DocumentRow.activated, if_neg fun hboth ↦ hunbound hboth.1]
    exact ⟨rfl, rfl, row.storedHwid, device, hreads⟩

theorem route_ok (hreads : Reads config tables token row device)
    (hroute : tables.route config row request = some (routed, .ok (nodeId, domain)))
    (hnode : nodeId ∈ config.environment.directory.nodes) :
    row.Routes tables.nodes request domain ∧ routed.nodes = tables.nodes ∧
      Reads config routed token { row with assigned := row.reassigned request } device := by
  unfold DocumentTables.route at hroute
  dsimp only at hroute
  cases hassigned : row.assigned with
  | some node =>
    have hmem : node ∈ tables.nodes.rows := by
      have hlookup := hreads.assigned.trans hassigned
      obtain ⟨id, -, hid⟩ := Option.bind_eq_some_iff.mp hlookup
      exact KeyedTable.lookup_some_mem hid
    rw [hassigned, Option.map_some, Option.getD_some, if_pos (tables.named node hmem)] at hroute
    cases hroute
    refine ⟨.inl ⟨node, hassigned, rfl⟩, rfl, ?_⟩
    rw [DocumentRow.reassigned, hassigned, Option.some_or, ← hassigned]
    exact hreads
  | none =>
    rw [hassigned, Option.map_none, Option.getD_none, if_neg (not_not.mpr rfl)] at hroute
    cases hchosen : request.chosen with
    | none =>
      simp only [hchosen] at hroute
      split_ifs at hroute
      cases hroute
    | some node =>
      simp only [hchosen] at hroute
      split_ifs at hroute with hbest
      cases hroute
      obtain ⟨hmem, hfilter⟩ := List.mem_filter.mp hbest.1
      have hlookup : tables.nodes.lookup node.id = some node :=
        (KeyedTable.lookup_eq_some_iff tables.nodes.ids).mpr ⟨hmem, rfl⟩
      refine ⟨.inr ⟨hassigned, node, hchosen, rfl, hmem, (of_decide_eq_true hfilter).2⟩, ?_⟩
      rw [DocumentRow.reassigned, hassigned, Option.none_or, hchosen]
      unfold DocumentTables.assign
      by_cases hstored : request.stored = true
      · have hrun : (assignNode config.environment.directory ⟨row.deviceId, node.id⟩).run
            tables.db = .ok (tables.db.assign row.deviceId node.id) := by
          rw [assignNode, if_neg]
          · rfl
          · simp [hreads.owner, hnode]
        simp only [if_pos hstored, hrun]
        refine ⟨trivial, { hreads with assigned := ?_ }⟩
        simp only [Database.assign, Function.update_self, Option.bind_some]
        exact hlookup
      · simp only [if_neg hstored]
        exact ⟨trivial, { hreads with assigned := hreads.assigned.trans hassigned }⟩

theorem provisioned_frame {environment : Environment} {call : ProvisionDevice}
    {db result : Database} (hrun : (provisionDevice environment call).run db = .ok result) :
    call.nodeId ∈ environment.directory.nodes ∧ result.devices = db.devices ∧
      result.subscriptions = db.subscriptions ∧ result.assignments = db.assignments := by
  obtain ⟨key, user, device, row, -, -, -, -, -, hrest⟩ := provisionDevice_found hrun
  refine ⟨(run_provisionRow hrest).2.1, ?_⟩
  cases run_provisionDevice hrun <;> exact ⟨rfl, rfl, rfl⟩

theorem answered_of_document {response : DocumentResponse}
    (hdocument : subscriptionDocument config tables request = some (after, .ok response)) :
    ∃ row credential domain,
      Answered config tables request after response row credential domain := by
  unfold subscriptionDocument at hdocument
  dsimp only at hdocument
  split_ifs at hdocument
  · cases hdocument
  split at hdocument
  · cases hdocument
  rename_i row hfind
  obtain ⟨device, hreads⟩ := exists_reads hfind
  split_ifs at hdocument
  · cases hdocument
  split at hdocument
  · cases hdocument
  rename_i bound known hbind
  obtain ⟨rfl, hbound, storedHwid, device', hagain⟩ := bind_ok hreads hbind
  split_ifs at hdocument with hstatus
  · cases hdocument
  split at hdocument
  · cases hdocument
  · cases hdocument
  rename_i routed nodeId domain hroute
  have hserve := Option.some.inj hdocument
  unfold DocumentTables.serve at hserve
  split at hserve
  · cases hserve
  rename_i db hprovision
  obtain ⟨hnode, hdevices, hsubscriptions, hassignments⟩ := provisioned_frame hprovision
  obtain ⟨hroutes, hrouted, hlast⟩ := route_ok hagain hroute hnode
  cases hdecrypt : config.decrypt row.cipher row.deviceId with
  | none =>
    rw [hdecrypt] at hserve
    cases hserve
  | some credential =>
    rw [hdecrypt] at hserve
    cases hserve
    refine ⟨row, credential, domain, hfind, ?_, hdecrypt, ?_, rfl, hrouted.trans hbound, storedHwid,
      @Reads.find _ _ _ device' _
        { hlast with found := ?_, subscription := ?_, assigned := ?_ }⟩
    · by_contra hneither
      exact hstatus (not_or.mp hneither)
    · rwa [hbound] at hroutes
    · rw [hdevices]
      exact hlast.found
    · rw [hsubscriptions]
      exact hlast.subscription
    · rw [hassignments]
      exact hlast.assigned

end Outcomes

/-! ### Comparing documents -/

def SameDocument (first second : DocumentResponse) : Prop :=
  first.body = second.body ∧
    first.header "X-RiseVPN-Transport" = second.header "X-RiseVPN-Transport" ∧
    first.header "subscription-userinfo" = second.header "subscription-userinfo"

section Texts

variable {front back domain domain' : String} {values values' : List (String × String)}

theorem domain_eq_of_uri {port : String} {rest : List Char} (hport : port.toList = ':' :: rest)
    (hrest : ':' ∉ rest)
    (huri : front ++ domain ++ port ++ encodeValues values ++ back =
      front ++ domain' ++ port ++ encodeValues values' ++ back) : domain = domain' := by
  have hquery : ∀ values, ':' ∉ rest ++ (encodeValues values).toList := by
    intro values
    rw [List.mem_append, not_or]
    exact ⟨hrest, notMem_encodeValues (by decide) (by decide) (by decide) (by decide) (by decide)
      values⟩
  have hlist := congrArg String.toList huri
  simp only [String.toList_append, hport, List.append_assoc] at hlist
  have hmiddle := List.append_cancel_left hlist
  simp only [← List.append_assoc] at hmiddle
  have hcut := List.append_cancel_right hmiddle
  simp only [List.append_assoc, List.cons_append] at hcut
  exact String.toList_inj.mp
    (DecimalText.append_cons_left_inj (hquery values) (hquery values') hcut)

theorem hysteriaUri_injective {credential obfsPassword : String}
    (huri : hysteriaUri credential domain obfsPassword =
      hysteriaUri credential domain' obfsPassword) : domain = domain' := by
  unfold hysteriaUri at huri
  exact domain_eq_of_uri rfl (by decide) huri

theorem vlessWebSocketUri_injective {id : String}
    (huri : vlessWebSocketUri id domain = vlessWebSocketUri id domain') : domain = domain' := by
  unfold vlessWebSocketUri at huri
  dsimp only at huri
  generalize pathEscape _ = label at huri
  exact domain_eq_of_uri rfl (by decide) ((String.append_left_inj label).mp huri)

theorem userInfo_injective {usedBytes quotaBytes quotaBytes' periodEnd : ℤ}
    (htext : userInfo usedBytes quotaBytes periodEnd = userInfo usedBytes quotaBytes' periodEnd) :
    quotaBytes = quotaBytes' := by
  unfold userInfo at htext
  have hexpire := (String.append_left_inj (toString (unix periodEnd))).mp htext
  have htotal := (String.append_left_inj "; expire=").mp hexpire
  exact DecimalText.toString_injective ((String.append_right_inj _).mp htotal)

end Texts

section Comparing

variable {config : DocumentConfig} {credential domain domain' : String}
variable {webSocket webSocket' : Bool}
variable {usedBytes quotaBytes quotaBytes' : ℤ} {periodEnd : Option ℤ}

theorem header_transport :
    (documentResponse config credential domain webSocket usedBytes quotaBytes periodEnd).header
      "X-RiseVPN-Transport" = some (if webSocket then "vless-ws-tls" else "hysteria2") := rfl

theorem header_userInfo :
    (documentResponse config credential domain webSocket usedBytes quotaBytes periodEnd).header
      "subscription-userinfo" = periodEnd.map (userInfo usedBytes quotaBytes) := by
  cases periodEnd <;> rfl

theorem sameDocument_iff :
    SameDocument
        (documentResponse config credential domain webSocket usedBytes quotaBytes periodEnd)
        (documentResponse config credential domain' webSocket' usedBytes quotaBytes' periodEnd) ↔
      (domain = domain' ∧ webSocket = webSocket') ∧
        (periodEnd ≠ none → quotaBytes = quotaBytes') := by
  simp only [SameDocument, header_transport, header_userInfo]
  constructor
  · rintro ⟨hbody, htransport, hinfo⟩
    obtain rfl : webSocket = webSocket' := by
      cases webSocket <;> cases webSocket' <;> first | rfl | (simp at htransport)
    refine ⟨⟨?_, rfl⟩, fun hperiod ↦ ?_⟩
    · have huri := (String.append_left_inj "\n").mp hbody
      cases webSocket with
      | false => exact hysteriaUri_injective huri
      | true => exact vlessWebSocketUri_injective huri
    · obtain ⟨ends, rfl⟩ := Option.ne_none_iff_exists'.mp hperiod
      exact userInfo_injective (Option.some.inj hinfo)
  · rintro ⟨⟨rfl, rfl⟩, hquota⟩
    refine ⟨rfl, rfl, ?_⟩
    cases periodEnd with
    | none => rfl
    | some ends => rw [hquota (Option.some_ne_none ends)]

end Comparing

/-! ### Two requests -/

/-- The first of two requests does not start a trial with another quota than the stored one, and it
finds a node assigned, or chooses one that is not stored and that the second chooses again. -/
structure DocumentSettled (config : DocumentConfig) (tables : DocumentTables)
    (first second : DocumentRequest) (row : DocumentRow) : Prop where
  found : tables.find config first.token = some row
  quota : row.Unbound → row.pendingTrial = true → row.subscription.quotaBytes = 20000000000
  route : row.assigned ≠ none ∨ first.stored = false ∧ second.chosen = first.chosen

section Stable

variable {config : DocumentConfig} {tables middle last : DocumentTables}
variable {first second : DocumentRequest} {answer again : DocumentResponse} {row : DocumentRow}
variable {domain domain' : String}

theorem activated_of_running
    (hrunning : row.subscription.status = .active ∨ row.subscription.status = .grace) (now : ℤ) :
    row.activated now = row.subscription := by
  rw [DocumentRow.activated, if_neg]
  rintro ⟨-, htrial⟩
  rw [DocumentRow.pendingTrial, decide_eq_true_eq] at htrial
  rcases hrunning with hactive | hgrace
  · cases hactive.symm.trans htrial.2
  · cases hgrace.symm.trans htrial.2

theorem quota_activated (now : ℤ) :
    (row.activated now).periodEndsAt ≠ none →
        row.subscription.quotaBytes = (row.activated now).quotaBytes ↔
      (row.Unbound → row.pendingTrial = true → row.subscription.quotaBytes = 20000000000) := by
  unfold DocumentRow.activated
  split_ifs with htrial
  · simp [trialRow, htrial.1, htrial.2]
  · exact ⟨fun _ hunbound hpending ↦ absurd ⟨hunbound, hpending⟩ htrial, fun _ _ ↦ rfl⟩

theorem same_route_iff {nodes : RouteNodes}
    (hfirst : row.Routes nodes first domain)
    (hsecond : ({ row with assigned := row.reassigned first } : DocumentRow).Routes nodes second
      domain') :
    (domain = domain' ∧ row.supportsCdnWebSocket =
        ({ row with assigned := row.reassigned first } : DocumentRow).supportsCdnWebSocket) ↔
      (row.assigned ≠ none ∨ first.stored = false ∧ second.chosen = first.chosen) := by
  rcases hfirst with ⟨node, hnode, rfl⟩ | ⟨hnone, node, hchosen, rfl, hmem, hfallback⟩
  · have hkept : row.reassigned first = some node := by
      rw [DocumentRow.reassigned, hnode, Option.some_or]
    rcases hsecond with ⟨other, hother, rfl⟩ | ⟨hnone, -⟩
    · obtain rfl := Option.mem_unique hkept hother
      simp [DocumentRow.supportsCdnWebSocket, hkept, Option.mem_def.mp hnode]
    · cases hkept.symm.trans hnone
  · by_cases hstored : first.stored = true
    · have hkept : row.reassigned first = some node := by
        rw [DocumentRow.reassigned, hnone, Option.none_or, if_pos hstored, hchosen]
      simp [DocumentRow.supportsCdnWebSocket, hkept, hnone, hfallback, hstored]
    · have hkept : row.reassigned first = none := by
        rw [DocumentRow.reassigned, hnone, Option.none_or, if_neg hstored]
      rcases hsecond with ⟨other, hother, -⟩ | ⟨-, other, hother, rfl, hmem', -⟩
      · cases hkept.symm.trans hother
      · have hsame : node.domain = other.domain ↔ other = node := by
          constructor
          · intro hdomain
            exact (List.inj_on_of_nodup_map nodes.domains hmem hmem' hdomain).symm
          · exact fun hequal ↦ hequal ▸ rfl
        simp [DocumentRow.supportsCdnWebSocket, hkept, hnone, Option.mem_def.mp hchosen,
          Option.mem_def.mp hother, hsame, hstored]

end Stable

/-- Assumes: two requests in a row with one token that are both answered with documents. The URI,
the transport and the user information agree exactly when the first request has not started a trial
with another quota, and has found a node or chosen one that was not stored and that the second chose
too. -/
theorem stable_iff {config : DocumentConfig} {tables middle last : DocumentTables}
    {first second : DocumentRequest} {answer again : DocumentResponse}
    (htoken : second.token = first.token)
    (hfirst : subscriptionDocument config tables first = some (middle, .ok answer))
    (hsecond : subscriptionDocument config middle second = some (last, .ok again)) :
    SameDocument answer again ↔ ∃ row, DocumentSettled config tables first second row := by
  obtain ⟨row, credential, domain, hanswer⟩ := answered_of_document hfirst
  obtain ⟨row', credential', domain', hagain⟩ := answered_of_document hsecond
  obtain ⟨storedHwid, hfound⟩ := hanswer.again
  have hrow := hagain.found
  rw [htoken, hfound] at hrow
  obtain rfl := Option.some.inj hrow
  obtain rfl : credential = credential' :=
    Option.mem_unique hanswer.decrypted hagain.decrypted
  have hkept := @activated_of_running { row with
    storedHwid := storedHwid
    subscription := row.activated first.now
    assigned := row.reassigned first } hanswer.running second.now
  have hused : (row.activated first.now).usedBytes = row.subscription.usedBytes := by
    unfold DocumentRow.activated
    split_ifs <;> rfl
  have hroutes := hagain.routes
  rw [hanswer.nodes] at hroutes
  have hroute := same_route_iff hanswer.routes hroutes
  rw [hanswer.response, hagain.response, hkept, hused, sameDocument_iff, quota_activated]
  constructor
  · rintro ⟨hsame, hquota⟩
    exact ⟨row, hanswer.found, hquota, hroute.mp hsame⟩
  · rintro ⟨other, hsettled⟩
    obtain rfl := Option.mem_unique hanswer.found hsettled.found
    exact ⟨hroute.mpr hsettled.route, hsettled.quota⟩

def soloConfig : DocumentConfig where
  environment := soloEnvironment
  subject := id
  hash := id
  hwidHmac := id
  decrypt := fun cipher _ ↦ some cipher
  vlessId := id
  hysteriaObfsPassword := ""

def soloNode : RouteNode where
  id := "node"
  domain := "node.example"
  status := .healthy
  fallback := true
  loadRatio := 0
  controllerRttMs := none
  complianceFetchedAt := some 0
  lastHeartbeatAt := some 0

def soloTables (db : Database) : DocumentTables where
  db := db
  tokens := fun hash ↦ if hash = "token" then some "device" else none
  ciphers := fun _ ↦ "0123456789abcdef"
  active := fun _ ↦ true
  termsVersions := fun _ ↦ some currentTermsVersion
  trialFingerprints := ∅
  nodes := ⟨[soloNode], by decide, by decide⟩
  named := by decide

def soloFetch (now : ℤ) : DocumentRequest where
  token := "token"
  hwid := "machine"
  bindTx := now
  now := now
  routeTx := now
  chosen := some soloNode
  stored := true
  provisionTx := now
  provisionNow := now
  leaseId := "lease"

theorem stable_bound : ∃ middle last answer again,
    subscriptionDocument soloConfig
        (soloTables (soloDatabase.setSubscription "user" (trialRow .pendingTrial 0)))
        (soloFetch second) = some (middle, .ok answer) ∧
      subscriptionDocument soloConfig middle (soloFetch minute) = some (last, .ok again) ∧
      SameDocument answer again := by
  have hfirst : subscriptionDocument soloConfig
    (soloTables (soloDatabase.setSubscription "user" (trialRow .pendingTrial 0)))
    (soloFetch second) = some (_, .ok _) := rfl
  have hfind : (soloTables (soloDatabase.setSubscription "user" (trialRow .pendingTrial 0))).find
    soloConfig "token" = some _ := rfl
  have hsettled : DocumentSettled soloConfig
      (soloTables (soloDatabase.setSubscription "user" (trialRow .pendingTrial 0)))
      (soloFetch second) (soloFetch minute) _ :=
    ⟨hfind, fun _ hpending ↦ absurd hpending (by decide), .inl (Option.some_ne_none soloNode)⟩
  exact ⟨_, _, _, _, hfirst, rfl,
    (@stable_iff soloConfig _ _ _ (soloFetch second) (soloFetch minute) _ _ rfl hfirst rfl).mpr
      ⟨_, hsettled⟩⟩

/-- A device without a node, of a user whose trial has not started. The first document has the
Hysteria transport and a quota of 0, the second the other transport and the quota of the trial. -/
theorem first_document_differs : ∃ middle last answer again,
    subscriptionDocument soloConfig
        (soloTables { soloDatabase with assignments := fun _ ↦ none }) (soloFetch second) =
          some (middle, .ok answer) ∧
      subscriptionDocument soloConfig middle (soloFetch minute) = some (last, .ok again) ∧
      answer.header "X-RiseVPN-Transport" = some "hysteria2" ∧
      again.header "X-RiseVPN-Transport" = some "vless-ws-tls" ∧
      answer.header "subscription-userinfo" =
        some "upload=0; download=0; total=0; expire=259201" ∧
      again.header "subscription-userinfo" =
        some "upload=0; download=0; total=20000000000; expire=259201" :=
  ⟨_, _, _, _, rfl, rfl, rfl, rfl, by decide, by decide⟩

end RiseVpn.Fleet
