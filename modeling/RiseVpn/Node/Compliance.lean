import RiseVpn.Protocol
import RiseVpn.Library.DecimalText
import RiseVpn.Library.DottedNames
import Mathlib

/-!
# The compliance service of a node

`compliance.Service`: `apply` checks a signed feed and keeps it, and `blocked` matches an address
against the rules of the feed that is kept. Texts that are taken apart are lists of characters; a
byte that is no UTF-8 reads as U+FFFD.

Not part of the repository, and parameters here with the facts the code relies on: Unicode lower
case (`CaseMapping`), JSON texts of rules (`RulesJson`), Ed25519 with its base64 texts
(`FeedSignatures`), and IP addresses and networks (`Networks`). `plainTools` has an instance of
each.

`blocked_domains` says what `blocked` answers when the rules are domains only, and `apply_signed`
when a feed is accepted.
-/

set_option autoImplicit false

namespace RiseVpn

open DottedNames

/-! ### Texts -/

abbrev Text := List Char

def isSpace (c : Char) : Bool :=
  c.toNat ∈ [0x09, 0x0a, 0x0b, 0x0c, 0x0d, 0x20, 0x85, 0xa0, 0x1680, 0x2028, 0x2029, 0x202f,
    0x205f, 0x3000] || (0x2000 ≤ c.toNat && c.toNat ≤ 0x200a)

def trimSpace (text : Text) : Text := (text.dropWhile isSpace).rdropWhile isSpace

theorem trimSpace_subset (text : Text) : trimSpace text ⊆ text := by
  have hfront := List.rdropWhile_prefix isSpace (text.dropWhile isSpace)
  exact List.Subset.trans hfront.subset (List.dropWhile_sublist isSpace).subset

/-- `strings.TrimPrefix` with a dot. -/
def trimLeadingDot (text : Text) : Text :=
  match text with
  | '.' :: rest => rest
  | _ => text

theorem trimLeadingDot_subset (text : Text) : trimLeadingDot text ⊆ text := by
  unfold trimLeadingDot
  split
  · exact List.subset_cons_self _ _
  · exact List.Subset.refl _

/-- `strings.TrimSuffix` with a dot. -/
def trimTrailingDot (text : Text) : Text :=
  if text.getLast? = some '.' then text.dropLast else text

theorem trimTrailingDot_subset (text : Text) : trimTrailingDot text ⊆ text := by
  rw [trimTrailingDot]
  split_ifs
  · exact List.dropLast_subset text
  · exact List.Subset.refl text

theorem trimTrailingDot_append (text : Text) : trimTrailingDot (text ++ ['.']) = text := by
  rw [trimTrailingDot, if_pos List.getLast?_concat, List.dropLast_concat]

def containsAny (text : Text) (chars : String) : Bool := text.any fun c ↦ c ∈ chars.toList

def Ascii (text : Text) : Prop := ∀ c ∈ text, c.toNat < 128

instance (text : Text) : Decidable (Ascii text) :=
  List.decidableBAll (fun c : Char ↦ c.toNat < 128) text

/-- `unicode.ToLower`. Beyond ASCII it may give any character but a capital of ASCII. -/
structure CaseMapping where
  lower : Char → Char
  lower_ascii : ∀ c, c.toNat < 128 → lower c = c.toLower
  lower_isUpper : ∀ c, (lower c).isUpper = false

def asciiCase : CaseMapping where
  lower := Char.toLower
  lower_ascii := fun _ _ ↦ rfl
  lower_isUpper := Char.isUpper_toLower_eq_false

def CaseMapping.toLower (cases : CaseMapping) (text : Text) : Text := text.map cases.lower

/-! ### Rules and feeds -/

structure Rules where
  blockedDomains : List Text
  blockedCidrs : List String
  blockedPorts : List ℤ

def PlainChar (c : Char) : Prop := c.isAlphanum = true ∨ c = '-' ∨ c = '.'
  deriving Decidable

/-- JSON texts of rules. `stored` is a text after its way through a `jsonb` column and another
encoding, `canonical` the text that is signed. Rules of plain domains are read back as they were
written. -/
structure RulesJson where
  encode : Rules → String
  stored : String → String
  decode : String → Except String Rules
  canonical : String → Except String String
  decode_stored : ∀ domains : List Text, domains ≠ [] →
    (∀ domain ∈ domains, ∀ c ∈ domain, PlainChar c) →
    decode (stored (encode ⟨domains, [], []⟩)) = .ok ⟨domains, [], []⟩
  decode_empty : ∃ message, decode "" = .error message
  canonical_stored : ∀ text, canonical (stored text) = canonical text
  canonical_encode : ∀ rules, ∃ text, canonical (encode rules) = .ok text

def plainJson : RulesJson where
  encode := fun rules ↦ String.ofList ('[' :: [','].intercalate rules.blockedDomains)
  stored := id
  decode := fun text ↦
    match text.toList with
    | '[' :: domains => .ok ⟨domains.splitOn ',', [], []⟩
    | _ => .error "unexpected end of JSON input"
  canonical := .ok
  decode_stored := by
    intro domains hne hplain
    have hcomma : ∀ domain ∈ domains, ',' ∉ domain := fun domain hdomain hmem ↦
      absurd (hplain domain hdomain ',' hmem) (by decide)
    simp only [id, String.toList_ofList, List.splitOn_intercalate ',' hcomma hne]
  decode_empty := ⟨_, rfl⟩
  canonical_stored := fun _ ↦ rfl
  canonical_encode := fun _ ↦ ⟨_, rfl⟩

/-- The feed as a node reads it, after the `jsonb` column. -/
def SignedFeed.received (json : RulesJson) (feed : SignedFeed) : SignedFeed :=
  { feed with rules := json.stored feed.rules }

structure FeedPayload where
  version : String
  updatedAt : ℤ
  expiresAt : ℤ
  rules : String

/-- Ed25519 signatures of feeds with the base64 texts around them. -/
structure FeedSignatures where
  publicKey : String → String
  /-- The text decodes to a public key of the right size. -/
  isPublicKey : String → Bool
  decodes : String → Bool
  sign : String → FeedPayload → String
  verify : String → FeedPayload → String → Bool
  isPublicKey_publicKey : ∀ key, isPublicKey (publicKey key) = true
  decodes_sign : ∀ key payload, decodes (sign key payload) = true
  verify_sign : ∀ key payload, verify (publicKey key) payload (sign key payload) = true

def textFeedSignatures : FeedSignatures where
  publicKey := id
  isPublicKey := fun _ ↦ true
  decodes := fun _ ↦ true
  sign := fun key payload ↦ key ++ ":" ++ payload.version
  verify := fun key payload signature ↦ signature = key ++ ":" ++ payload.version
  isPublicKey_publicKey := fun _ ↦ rfl
  decodes_sign := fun _ _ ↦ rfl
  verify_sign := fun _ _ ↦ by simp

/-- `net.ParseIP` and `net.ParseCIDR`. A text whose first label is a letter is no IP address. -/
structure Networks where
  Ip : Type
  Network : Type
  parseIp : Text → Option Ip
  parseCidr : String → Option Network
  contains : Network → Ip → Bool
  parseIp_label : ∀ count rest, parseIp (List.replicate (count + 1) 'a' ++ '.' :: rest) = none

def digitNetworks : Networks where
  Ip := Text
  Network := Text
  parseIp := fun text ↦
    if text.all fun c ↦ c.isDigit || c = '.' || c = ':' then some text else none
  parseCidr := fun text ↦ some text.toList
  contains := fun network ip ↦ network = ip
  parseIp_label := by
    intro count rest
    rw [if_neg]
    simp [List.replicate_succ]

/-- What the service of a node is built on. `quote` is the verb `%q`. -/
structure ComplianceTools where
  cases : CaseMapping
  json : RulesJson
  signatures : FeedSignatures
  networks : Networks
  quote : Text → String

def plainTools : ComplianceTools where
  cases := asciiCase
  json := plainJson
  signatures := textFeedSignatures
  networks := digitNetworks
  quote := fun text ↦ "\"" ++ String.ofList text ++ "\""

def signingPayload (json : RulesJson) (feed : SignedFeed) : Except String FeedPayload :=
  match json.canonical feed.rules with
  | .error message => .error ("canonicalize compliance rules: " ++ message)
  | .ok rules => .ok ⟨feed.version, feed.updatedAt, feed.expiresAt, rules⟩

section

variable (tools : ComplianceTools)

/-- `compliance.Sign`. -/
def signFeed (key : String) (feed : SignedFeed) : Except String SignedFeed :=
  match signingPayload tools.json feed with
  | .error message => .error message
  | .ok payload => .ok { feed with signature := tools.signatures.sign key payload }

/-! ### The store -/

/-- The row of the `compliance` table. -/
structure StoredFeed where
  version : String
  updatedAt : ℤ
  expiresAt : ℤ
  rulesJson : String
  signature : String

structure StaleAlert where
  message : String
  createdAt : ℤ
  active : Bool

structure ComplianceStore where
  feed : Option StoredFeed
  alert : Option StaleAlert

/-- `Store.ResolveAlert` of the stale alert. -/
def ComplianceStore.resolveAlert (store : ComplianceStore) : ComplianceStore :=
  { store with alert := store.alert.map fun alert ↦ { alert with active := false } }

/-- `Store.SaveCompliance`. -/
def ComplianceStore.save (store : ComplianceStore) (feed : SignedFeed) : ComplianceStore :=
  { store with
    feed := some ⟨feed.version, unix feed.updatedAt, unix feed.expiresAt, feed.rules,
      feed.signature⟩ }

/-! ### Applying a feed -/

/-- The check of `validateRules` on a domain. -/
def domainValid (domain : Text) : Bool :=
  trimSpace domain ≠ [] && !containsAny (trimSpace domain) " /:@"

def validateRules (raw : String) : Except String Unit :=
  match tools.json.decode raw with
  | .error message => .error ("invalid compliance rules: " ++ message)
  | .ok rules =>
    match rules.blockedDomains.find? fun domain ↦ !domainValid domain with
    | some domain => .error ("invalid blocked domain " ++ tools.quote (trimSpace domain))
    | none =>
      match rules.blockedCidrs.find? fun cidr ↦ (tools.networks.parseCidr cidr).isNone with
      | some cidr => .error ("invalid compliance CIDR " ++ tools.quote cidr.toList)
      | none =>
        match rules.blockedPorts.find? fun port ↦ port < 1 || 65535 < port with
        | some port => .error ("invalid blocked port " ++ toString port)
        | none => .ok ()

/-- The checks of `Service.Apply`. -/
def checkFeed (feed : SignedFeed) (publicKey : String) (now : ℤ) : Except String Unit :=
  if feed.version = "" ∨ feed.rules = "" ∨ ¬ feed.updatedAt < feed.expiresAt then
    .error "invalid compliance feed metadata"
  else if ¬ now < feed.expiresAt ∨ now + 5 * minute < feed.updatedAt then
    .error "compliance feed is expired or dated too far in the future"
  else match validateRules tools feed.rules with
  | .error message => .error message
  | .ok () =>
    if ¬ tools.signatures.isPublicKey publicKey then .error "invalid controller public key"
    else if ¬ tools.signatures.decodes feed.signature then .error "invalid feed signature encoding"
    else match signingPayload tools.json feed with
    | .error message => .error message
    | .ok payload =>
      if ¬ tools.signatures.verify publicKey payload feed.signature then
        .error "invalid compliance feed signature"
      else .ok ()

def ComplianceStore.apply (store : ComplianceStore) (feed : SignedFeed) (publicKey : String)
    (now : ℤ) : ComplianceStore × Except String Unit :=
  match checkFeed tools feed publicKey now with
  | .error message => (store, .error message)
  | .ok () => ((store.save feed).resolveAlert, .ok ())

/-! ### Matching an address -/

def splitHostPort (address : Text) : Option (Text × Text) :=
  if ':' ∉ address then none
  else
    -- the port starts after the last colon
    let port := address.rtakeWhile (· ≠ ':')
    let front := (address.rdropWhile (· ≠ ':')).dropLast
    if address.head? = some '[' then
      let host := address.tail.takeWhile (· ≠ ']')
      if ']' ∉ address ∨ front ≠ '[' :: host ++ [']'] then none
      else if '[' ∈ address.tail ∨ ']' ∈ port then none
      else some (host, port)
    else if ':' ∈ front ∨ '[' ∈ address ∨ ']' ∈ address then none
    else some (front, port)

/-- The host that `Service.Blocked` looks at: the address itself when it does not split. -/
def hostOf (address : Text) : Text := ((splitHostPort address).map Prod.fst).getD address

/-- The value of `strconv.Atoi`: 0 next to a syntax error, and the end of the range next to a range
error. -/
def atoi (text : Text) : ℤ :=
  match text with
  | '-' :: digits => ((DecimalText.parseDigits digits).map fun n ↦ max (-(n : ℤ)) (-2 ^ 63)).getD 0
  | '+' :: digits => ((DecimalText.parseDigits digits).map fun n ↦ min (n : ℤ) (2 ^ 63 - 1)).getD 0
  | digits => ((DecimalText.parseDigits digits).map fun n ↦ min (n : ℤ) (2 ^ 63 - 1)).getD 0

/-- The number that `Service.Blocked` takes for the port. -/
def portOf (address : Text) : ℤ := atoi (((splitHostPort address).map Prod.snd).getD [])

def CaseMapping.comparedHost (cases : CaseMapping) (host : Text) : Text :=
  cases.toLower (trimTrailingDot host)

def CaseMapping.comparedDomain (cases : CaseMapping) (domain : Text) : Text :=
  cases.toLower (trimLeadingDot (trimSpace domain))

/-- The part of `Service.Blocked` on networks: the first one that does not parse is an error, unless
one before it contains the address. -/
def blockedBy (ip : tools.networks.Ip) : List String → Except String Bool
  | [] => .ok false
  | cidr :: rest =>
    match tools.networks.parseCidr cidr with
    | none => .error ("invalid compliance CIDR " ++ tools.quote cidr.toList)
    | some network =>
      if tools.networks.contains network ip then .ok true else blockedBy ip rest

/-- `Service.Blocked` on decoded rules. -/
def Rules.blocked (rules : Rules) (address : Text) : Except String Bool :=
  let host := tools.cases.comparedHost (hostOf address)
  let domains := rules.blockedDomains.map tools.cases.comparedDomain
  if ∃ domain ∈ domains, domain ≠ [] ∧ Covers '.' domain host then .ok true
  else
    let byPort := decide (portOf address ∈ rules.blockedPorts)
    match tools.networks.parseIp host with
    | none => .ok byPort
    | some ip =>
      match blockedBy tools ip rules.blockedCidrs with
      | .error message => .error message
      | .ok true => .ok true
      | .ok false => .ok byPort

def ComplianceStore.blocked (store : ComplianceStore) (address : Text) : Except String Bool :=
  match store.feed with
  | none => .ok false
  | some feed =>
    match tools.json.decode feed.rulesJson with
    | .error message => .error message
    | .ok rules => rules.blocked tools address

/-! ### Plain names -/

theorem PlainChar.lt {c : Char} (hplain : PlainChar c) : c.toNat < 128 := by
  rcases hplain with halphanum | rfl | rfl
  · simp only [Char.isAlphanum, Char.isAlpha, Char.isUpper, Char.isLower, Char.isDigit,
      Bool.or_eq_true, Bool.and_eq_true, decide_eq_true_eq, UInt32.le_iff_toNat_le, ge_iff_le]
      at halphanum
    have hval : c.toNat = c.val.toNat := rfl
    have hupper : 'Z'.val.toNat = 90 := rfl
    have hlower : 'z'.val.toNat = 122 := rfl
    have hdigit : '9'.val.toNat = 57 := rfl
    omega
  · decide
  · decide

theorem forall_ascii {motive : Char → Prop} (hall : ∀ n < 128, motive (Char.ofNat n)) {c : Char}
    (hc : c.toNat < 128) : motive c := by
  have hchar := hall c.toNat hc
  rwa [Char.ofNat_toNat] at hchar

theorem PlainChar.not_special {c : Char} (hplain : PlainChar c) :
    isSpace c = false ∧ c ∉ " /:@".toList :=
  @forall_ascii (fun c ↦ PlainChar c → isSpace c = false ∧ c ∉ " /:@".toList) (by decide) c
    hplain.lt hplain

theorem PlainChar.toLower {c : Char} (hplain : PlainChar c) : PlainChar c.toLower :=
  @forall_ascii (fun c ↦ PlainChar c → PlainChar c.toLower) (by decide) c hplain.lt hplain

def PlainName (name : Text) : Prop := name ≠ [] ∧ ∀ c ∈ name, PlainChar c

theorem PlainName.trimSpace {name : Text} (hname : PlainName name) : trimSpace name = name := by
  have hspace : ∀ c ∈ name, isSpace c = false := fun c hc ↦ (hname.2 c hc).not_special.1
  have hfront : name.dropWhile isSpace = name := by
    rw [List.dropWhile_eq_self_iff]
    intro hpos
    simp [hspace _ (List.getElem_mem hpos)]
  rw [RiseVpn.trimSpace, hfront, List.rdropWhile_eq_self_iff]
  intro hne
  simp [hspace _ (List.getLast_mem hne)]

theorem PlainName.domainValid {name : Text} (hname : PlainName name) :
    domainValid name = true := by
  have hany : containsAny name " /:@" = false := by
    rw [containsAny, List.any_eq_false]
    intro c hc
    simpa using (hname.2 c hc).not_special.2
  rw [RiseVpn.domainValid, hname.trimSpace, hany]
  simpa using hname.1

/-! ### What is applied -/

theorem validateRules_plain {domains : List Text} (hne : domains ≠ [])
    (hplain : ∀ domain ∈ domains, PlainName domain) :
    validateRules tools (tools.json.stored (tools.json.encode ⟨domains, [], []⟩)) = .ok () := by
  have hdecode := tools.json.decode_stored domains hne fun domain hdomain ↦
    (hplain domain hdomain).2
  have hfind : domains.find? (fun domain ↦ !domainValid domain) = none := by
    rw [List.find?_eq_none]
    intro domain hdomain
    simp [(hplain domain hdomain).domainValid]
  simp only [validateRules, hdecode, hfind, List.find?_nil]

theorem signFeed_encode (key : String) (feed : SignedFeed) {rules : Rules}
    (hrules : feed.rules = tools.json.encode rules) :
    ∃ signed, signFeed tools key feed = .ok signed := by
  obtain ⟨text, htext⟩ := tools.json.canonical_encode rules
  rw [← hrules] at htext
  simp only [signFeed, signingPayload, htext]
  exact ⟨_, rfl⟩

theorem signFeed_eq {tools : ComplianceTools} {key : String} {feed signed : SignedFeed}
    (hsigned : signFeed tools key feed = .ok signed) :
    ∃ payload, signingPayload tools.json feed = .ok payload ∧
      signed = { feed with signature := tools.signatures.sign key payload } := by
  rw [signFeed] at hsigned
  split at hsigned
  · cases hsigned
  · rename_i payload hpayload
    exact ⟨payload, hpayload, (Except.ok.inj hsigned).symm⟩

theorem apply_signed {tools : ComplianceTools} {key : String} {feed signed : SignedFeed} {now : ℤ}
    (store : ComplianceStore) (hsigned : signFeed tools key feed = .ok signed)
    (hversion : feed.version ≠ "") (hspan : feed.updatedAt < feed.expiresAt)
    (hvalid : validateRules tools (tools.json.stored feed.rules) = .ok ())
    (hexpires : now < feed.expiresAt) (hdated : feed.updatedAt ≤ now + 5 * minute) :
    store.apply tools (signed.received tools.json) (tools.signatures.publicKey key) now =
      ((store.save (signed.received tools.json)).resolveAlert, .ok ()) := by
  obtain ⟨payload, hpayload, rfl⟩ := signFeed_eq hsigned
  have hrules : tools.json.stored feed.rules ≠ "" := by
    intro hempty
    obtain ⟨message, hmessage⟩ := tools.json.decode_empty
    rw [hempty, validateRules, hmessage] at hvalid
    cases hvalid
  -- the column changes the text of the rules and not what was signed
  have hreceived : signingPayload tools.json
      (SignedFeed.received tools.json
        { feed with signature := tools.signatures.sign key payload }) = .ok payload := by
    rw [← hpayload]
    simp only [signingPayload, SignedFeed.received, tools.json.canonical_stored]
  have hcheck : checkFeed tools
      (SignedFeed.received tools.json
        { feed with signature := tools.signatures.sign key payload })
      (tools.signatures.publicKey key) now = .ok () := by
    rw [checkFeed, if_neg, if_neg, hreceived]
    · simp only [SignedFeed.received, hvalid, tools.signatures.isPublicKey_publicKey,
        tools.signatures.decodes_sign, tools.signatures.verify_sign, not_true_eq_false, if_false]
    · simp only [SignedFeed.received]
      omega
    · simp only [SignedFeed.received, hversion, hrules, hspan, not_true_eq_false, or_self,
        not_false_eq_true]
  rw [ComplianceStore.apply, hcheck]

/-! ### What is blocked -/

theorem hostOf_of_not_mem {address : Text} (hcolon : ':' ∉ address) : hostOf address = address := by
  rw [hostOf, splitHostPort, if_pos hcolon]
  rfl

theorem comparedHost_ascii (cases : CaseMapping) {host : Text} (hascii : Ascii host) :
    cases.comparedHost host = (trimTrailingDot host).map Char.toLower :=
  List.map_congr_left fun c hc ↦
    cases.lower_ascii c (hascii c (trimTrailingDot_subset host hc))

theorem blocked_domains (domains : List Text) (address : Text) :
    Rules.blocked tools ⟨domains, [], []⟩ address =
      .ok (decide (∃ domain ∈ domains.map tools.cases.comparedDomain, domain ≠ [] ∧
        Covers '.' domain (tools.cases.comparedHost (hostOf address)))) := by
  simp only [Rules.blocked]
  split_ifs with hdomain
  · rw [decide_eq_true hdomain]
  · rw [decide_eq_false hdomain]
    split
    · simp
    · simp [blockedBy]

end

end RiseVpn
