import RiseVpn.Node.FeedsInForce

/-!
# Matching by labels

`Service.Blocked` walks through the domains, the networks and the ports of the stored rules and
returns at the first one that matches. The test on a domain is one of strings: the host is the
domain or ends in a dot and the domain. `Rules.Matches` says what a match is without a walk, and
with the labels of host and domain in place of the strings.

`blocked_iff_matches` says that the two agree, whatever the rules, as long as the networks parse,
which `validateRules` makes sure of. So order and repetition of rules make no difference, and more
rules never block less.
-/

set_option autoImplicit false

namespace RiseVpn

open DottedNames

/-- Some rule matches the address: the labels of a domain are the last ones of the host, the host is
an IP address of a network, or the port is one of the ports. -/
def Rules.Matches (tools : ComplianceTools) (rules : Rules) (address : Text) : Prop :=
  (∃ domain ∈ rules.blockedDomains, tools.cases.comparedDomain domain ≠ [] ∧
    labels '.' (tools.cases.comparedDomain domain) <:+
      labels '.' (tools.cases.comparedHost (hostOf address))) ∨
  (∃ ip ∈ tools.networks.parseIp (tools.cases.comparedHost (hostOf address)),
    ∃ cidr ∈ rules.blockedCidrs, ∃ network ∈ tools.networks.parseCidr cidr,
      tools.networks.contains network ip = true) ∨
  portOf address ∈ rules.blockedPorts
  deriving Decidable

structure Rules.Within (rules more : Rules) : Prop where
  domains : rules.blockedDomains ⊆ more.blockedDomains
  cidrs : rules.blockedCidrs ⊆ more.blockedCidrs
  ports : rules.blockedPorts ⊆ more.blockedPorts

structure StoredRules (tools : ComplianceTools) (store : ComplianceStore) (rules : Rules) :
    Prop where
  decoded : ∃ feed, store.feed = some feed ∧ tools.json.decode feed.rulesJson = .ok rules
  networks : ∀ cidr ∈ rules.blockedCidrs, tools.networks.parseCidr cidr ≠ none

section

variable {tools : ComplianceTools} {rules more : Rules} {address : Text}

theorem domains_iff_labels (domains : List Text) (host : Text) :
    (∃ domain ∈ domains.map tools.cases.comparedDomain, domain ≠ [] ∧ Covers '.' domain host) ↔
      ∃ domain ∈ domains, tools.cases.comparedDomain domain ≠ [] ∧
        labels '.' (tools.cases.comparedDomain domain) <:+ labels '.' host := by
  simp only [List.mem_map, covers_iff_labels]
  constructor
  · rintro ⟨_, ⟨domain, hdomain, rfl⟩, hmatch⟩
    exact ⟨domain, hdomain, hmatch⟩
  · rintro ⟨domain, hdomain, hmatch⟩
    exact ⟨_, ⟨domain, hdomain, rfl⟩, hmatch⟩

def ContainedIn (tools : ComplianceTools) (cidrs : List String) (ip : tools.networks.Ip) : Prop :=
  ∃ cidr ∈ cidrs, ∃ network ∈ tools.networks.parseCidr cidr,
    tools.networks.contains network ip = true

theorem blockedBy_cases {cidrs : List String}
    (hparse : ∀ cidr ∈ cidrs, tools.networks.parseCidr cidr ≠ none) (ip : tools.networks.Ip) :
    (blockedBy tools ip cidrs = .ok true ∧ ContainedIn tools cidrs ip) ∨
      blockedBy tools ip cidrs = .ok false ∧ ¬ ContainedIn tools cidrs ip := by
  induction cidrs with
  | nil => exact .inr ⟨rfl, by simp [ContainedIn]⟩
  | cons cidr rest ih =>
    obtain ⟨hfirst, hrest⟩ := List.forall_mem_cons.mp hparse
    obtain ⟨network, hnetwork⟩ := Option.ne_none_iff_exists'.mp hfirst
    simp only [blockedBy, hnetwork, ContainedIn, List.exists_mem_cons_iff]
    by_cases hcontains : tools.networks.contains network ip = true
    · rw [if_pos hcontains]
      exact .inl ⟨rfl, .inl ⟨network, rfl, hcontains⟩⟩
    · rw [if_neg hcontains]
      have hnot : ¬ ∃ other ∈ some network, tools.networks.contains other ip = true := by
        rintro ⟨_, ⟨⟩, hother⟩
        exact hcontains hother
      simpa only [hnot, false_or, ContainedIn] using ih hrest

theorem blocked_eq_matches
    (hparse : ∀ cidr ∈ rules.blockedCidrs, tools.networks.parseCidr cidr ≠ none) :
    rules.blocked tools address = .ok (decide (rules.Matches tools address)) := by
  have hlabels := @domains_iff_labels tools rules.blockedDomains
    (tools.cases.comparedHost (hostOf address))
  unfold Rules.blocked
  dsimp only
  split_ifs with hdomain
  · have hmatches : rules.Matches tools address := .inl (hlabels.mp hdomain)
    rw [decide_eq_true hmatches]
  · rw [hlabels] at hdomain
    cases hip : tools.networks.parseIp (tools.cases.comparedHost (hostOf address)) with
    | none =>
      have hiff : portOf address ∈ rules.blockedPorts ↔ rules.Matches tools address := by
        simp only [Rules.Matches, hdomain, hip, Option.not_mem_none, false_and, exists_false,
          false_or]
      simp only [decide_eq_decide.mpr hiff]
    | some ip =>
      have hmatches : rules.Matches tools address ↔
          ContainedIn tools rules.blockedCidrs ip ∨ portOf address ∈ rules.blockedPorts := by
        simp only [Rules.Matches, hdomain, hip, Option.mem_some_iff, exists_eq_left', false_or,
          ContainedIn]
      rcases blockedBy_cases hparse ip with ⟨hwalk, hcontained⟩ | ⟨hwalk, hcontained⟩
      · simp only [hwalk]
        rw [decide_eq_true (hmatches.mpr (.inl hcontained))]
      · simp only [hwalk]
        rw [or_iff_right hcontained] at hmatches
        rw [decide_eq_decide.mpr hmatches]

theorem Rules.Matches.mono (hmatches : rules.Matches tools address) (hwithin : rules.Within more) :
    more.Matches tools address := by
  rcases hmatches with ⟨domain, hdomain, hmatch⟩ | ⟨ip, hip, cidr, hcidr, hmatch⟩ | hport
  · exact .inl ⟨domain, hwithin.domains hdomain, hmatch⟩
  · exact .inr (.inl ⟨ip, hip, cidr, hwithin.cidrs hcidr, hmatch⟩)
  · exact .inr (.inr (hwithin.ports hport))

theorem StoredRules.blocked_eq {store : ComplianceStore} (hstored : StoredRules tools store rules)
    (address : Text) :
    store.blocked tools address = .ok (decide (rules.Matches tools address)) := by
  obtain ⟨feed, hfeed, hdecode⟩ := hstored.decoded
  simp only [ComplianceStore.blocked, hfeed, hdecode]
  exact blocked_eq_matches hstored.networks

end

/-- Assumes: stored rules whose networks parse. `Service.Blocked` answers that an address is blocked
if and only if some rule matches it; stored rules that contain these block what these block; and
stored rules that are the same but for order and repetition give the same answer. -/
theorem blocked_iff_matches {tools : ComplianceTools} {store other : ComplianceStore}
    {rules more : Rules} (hstored : StoredRules tools store rules)
    (hother : StoredRules tools other more) (address : Text) :
    store.blocked tools address = .ok (decide (rules.Matches tools address)) ∧
    (rules.Within more → store.blocked tools address = .ok true →
      other.blocked tools address = .ok true) ∧
    (rules.Within more → more.Within rules →
      other.blocked tools address = store.blocked tools address) := by
  rw [hother.blocked_eq, hstored.blocked_eq]
  refine ⟨rfl, fun hwithin hblocked ↦ ?_, fun hwithin hback ↦ ?_⟩
  · have hmatches := of_decide_eq_true (Except.ok.inj hblocked)
    rw [decide_eq_true (hmatches.mono hwithin)]
  · congr 2
    exact propext ⟨fun hmatches ↦ hmatches.mono hback, fun hmatches ↦ hmatches.mono hwithin⟩

def storeWith (rulesJson : String) : ComplianceStore :=
  ⟨some ⟨"version", 0, 0, rulesJson, ""⟩, none⟩

theorem blocked_iff_matches_below :
    (storeWith "[blocked.example,.Other.example").blocked plainTools
        "Sub.blocked.example.:443".toList = .ok true ∧
      (storeWith "[.Other.example,blocked.example").blocked plainTools
        "Sub.blocked.example.:443".toList = .ok true ∧
      (storeWith "[blocked.example,.Other.example").blocked plainTools
        "notblocked.example".toList = .ok false := by
  have hfirst : StoredRules plainTools (storeWith "[blocked.example,.Other.example")
      ⟨["blocked.example".toList, ".Other.example".toList], [], []⟩ :=
    ⟨⟨_, rfl, rfl⟩, by simp⟩
  have hsecond : StoredRules plainTools (storeWith "[.Other.example,blocked.example")
      ⟨[".Other.example".toList, "blocked.example".toList], [], []⟩ :=
    ⟨⟨_, rfl, rfl⟩, by simp⟩
  obtain ⟨hbelow, -, hsame⟩ :=
    blocked_iff_matches hfirst hsecond "Sub.blocked.example.:443".toList
  have hblocked := hbelow.trans (congrArg Except.ok (decide_eq_true (by decide +kernel)))
  refine ⟨hblocked, (hsame ?_ ?_).trans hblocked, ?_⟩
  · exact ⟨by simp, by simp, by simp⟩
  · exact ⟨by simp, by simp, by simp⟩
  · rw [(blocked_iff_matches hfirst hfirst "notblocked.example".toList).1]
    exact congrArg Except.ok (decide_eq_false (by decide +kernel))

end RiseVpn
