import RiseVpn.Node.Enrollment

/-!
# When an enrolment token expires

`Reenroll` issues a token for 24 hours and returns a bundle with the instant of its expiry, to the
nanosecond. The row keeps the whole seconds of that instant. `Store.Claim` compares them with the
whole seconds of its own time, and accepts equality; `Current` and `Ensure` read them back as an
instant and compare that with the time itself, and refuse equality.

The comparisons agree outside one second: `expiry_agrees_iff` says that there is one notion of
expiry at an instant exactly if it does not lie in the second in which the token expires.
`expiry_disagrees` has both halves of that second. In the first the bundle is valid and a claim is
accepted, and yet `Current` calls the token expired and `Ensure` replaces it; in the second a claim
is still accepted with a bundle that has expired.
-/

set_option autoImplicit false

namespace RiseVpn

/-- `Store.Claim` accepts the token of the request at an instant. -/
def ClaimAccepts (service : EnrollmentService) (tables : EnrollmentTables) (request : ClaimRequest)
    (now : ℤ) : Prop :=
  ∃ claimed, tables.claim (service.hash request.claimToken) request.controllerUrl
    request.controllerPublicKey request.nodeCertificatePem request.controllerCaPem now = .ok claimed

def EnrollmentPhase.Offers (token : String) (phase : EnrollmentPhase) : Prop :=
  ∃ expires, phase = .bundleId token expires

def Reveals (service : EnrollmentService) (tables : EnrollmentTables) (phase : EnrollmentPhase)
    (bundle : Bundle) : Prop :=
  ∃ inputs text, (EnrollmentPhase.alone service tables phase inputs).2 = .revealed bundle text

/-- One notion of expiry at an instant, for a token whose row is in the tables and that was issued
by a `Reenroll` which went on, on the tables `issued`, to make a bundle that expires at `expires`.
A claim with the token is accepted exactly if `Current` offers it, exactly if `Ensure` does without
another `Reenroll`, and exactly as long as the bundles of the three have not expired. -/
structure OneExpiry (service : EnrollmentService) (issued tables : EnrollmentTables)
    (token : String) (expires now : ℤ) : Prop where
  current : ∀ request : ClaimRequest, request.claimToken = token →
    (ClaimAccepts service tables request now ↔
      (EnrollmentPhase.currently tables.enrollment now).Offers token)
  ensure : ∀ request : ClaimRequest, request.claimToken = token →
    (ClaimAccepts service tables request now ↔
      (EnrollmentPhase.ensured tables.enrollment now).Offers token)
  offered : ∀ request : ClaimRequest, request.claimToken = token → ∀ bundle,
    Reveals service tables (.currently tables.enrollment now) bundle →
      bundle.claimToken = token ∧ (now < bundle.expiresAt ↔ ClaimAccepts service tables request now)
  kept : ∀ request : ClaimRequest, request.claimToken = token → ∀ bundle,
    (EnrollmentPhase.ensured tables.enrollment now).Offers token →
    Reveals service tables (.ensured tables.enrollment now) bundle →
      bundle.claimToken = token ∧ (now < bundle.expiresAt ↔ ClaimAccepts service tables request now)
  reenrolled : ∀ request : ClaimRequest, request.claimToken = token → ∀ bundle,
    Reveals service issued (.bundleId token expires) bundle →
      bundle.claimToken = token ∧ (now < bundle.expiresAt ↔ ClaimAccepts service tables request now)

section Expiry

variable {service : EnrollmentService} {issued tables : EnrollmentTables} {token : String}
  {bundle : Bundle} {expires now : ℤ}

theorem bundle_of_reveals (hreveals : Reveals service tables (.bundleId token expires) bundle) :
    bundle.claimToken = token ∧ bundle.expiresAt = expires := by
  obtain ⟨inputs, text, hrevealed⟩ := hreveals
  cases inputs with
  | nil => cases hrevealed
  | cons first rest =>
    simp only [EnrollmentPhase.alone, EnrollmentPhase.next] at hrevealed
    split at hrevealed
    · cases rest with
      | nil => cases hrevealed
      | cons second rest =>
        simp only [EnrollmentPhase.alone, EnrollmentPhase.next] at hrevealed
        split at hrevealed
        · rename_i id _ key _
          unfold EnrollmentService.bundle at hrevealed
          dsimp only at hrevealed
          split at hrevealed
          · -- the call has ended, whatever inputs are left
            cases rest <;> cases hrevealed <;> exact ⟨rfl, rfl⟩
          · rw [alone_failed] at hrevealed
            cases hrevealed
        · rw [alone_failed] at hrevealed
          cases hrevealed
    · rw [alone_failed] at hrevealed
      cases hrevealed

/-! The comparisons, for the row that a `Reenroll` leaves. -/

variable (hrow : tables.enrollment = some ⟨token, service.hash token, unix expires, none⟩)

include hrow

theorem claimAccepts_iff {request : ClaimRequest} (htoken : request.claimToken = token) :
    ClaimAccepts service tables request now ↔ unix now ≤ unix expires := by
  rcases claim_cases tables request (service.hash request.claimToken) now with
    ⟨row, hmem, hclaimable, hclaim⟩ | ⟨hnot, hclaim⟩
  · cases hrow.symm.trans hmem
    exact ⟨fun _ ↦ hclaimable.2.2, fun _ ↦ ⟨_, hclaim⟩⟩
  · refine ⟨fun ⟨claimed, hclaimed⟩ ↦ ?_, fun hle ↦ ?_⟩
    · cases hclaim.symm.trans hclaimed
    · exact absurd ⟨htoken ▸ rfl, rfl, hle⟩ (hnot _ hrow)

theorem currently_eq : EnrollmentPhase.currently tables.enrollment now =
    if now < ofUnix (unix expires) then .bundleId token (ofUnix (unix expires))
    else .failed "enrollment token has expired; run reenroll" := by
  rw [hrow, ← ite_not]
  rfl

theorem ensured_eq : EnrollmentPhase.ensured tables.enrollment now =
    if now < ofUnix (unix expires) then .bundleId token (ofUnix (unix expires))
    else .privateKey .reenroll := by
  rw [hrow, ← ite_not]
  rfl

theorem currently_offers_iff :
    (EnrollmentPhase.currently tables.enrollment now).Offers token ↔
      now < ofUnix (unix expires) := by
  rw [currently_eq hrow, EnrollmentPhase.Offers]
  split_ifs with hvalid <;> simp [hvalid]

theorem ensured_offers_iff :
    (EnrollmentPhase.ensured tables.enrollment now).Offers token ↔
      now < ofUnix (unix expires) := by
  rw [ensured_eq hrow, EnrollmentPhase.Offers]
  split_ifs with hvalid <;> simp [hvalid]

theorem bundle_of_currently
    (hreveals : Reveals service tables (.currently tables.enrollment now) bundle) :
    bundle.claimToken = token ∧ bundle.expiresAt = ofUnix (unix expires) ∧
      now < ofUnix (unix expires) := by
  rw [currently_eq hrow] at hreveals
  split_ifs at hreveals with hvalid
  · obtain ⟨htoken, hexpires⟩ := bundle_of_reveals hreveals
    exact ⟨htoken, hexpires, hvalid⟩
  · obtain ⟨inputs, text, hrevealed⟩ := hreveals
    rw [alone_failed] at hrevealed
    cases hrevealed

theorem oneExpiry_iff : OneExpiry service issued tables token expires now ↔
    unix now ≠ unix expires := by
  constructor
  · intro hone hsame
    let request : ClaimRequest := ⟨token, "", "", "", "", "", ""⟩
    have hoffers := (hone.current request rfl).mp ((claimAccepts_iff hrow rfl).mpr hsame.le)
    have hbefore := (currently_offers_iff hrow).mp hoffers
    rw [← hsame] at hbefore
    exact absurd (ofUnix_unix_le now) (not_le.mpr hbefore)
  · intro hne
    have hstored : unix now ≤ unix expires ↔ now < ofUnix (unix expires) := by
      simp only [unix, ofUnix, second] at hne ⊢
      omega
    have hexact : now < expires ↔ unix now ≤ unix expires := by
      simp only [unix, second] at hne ⊢
      omega
    refine ⟨fun request htoken ↦ ?_, fun request htoken ↦ ?_, fun request htoken bundle hshown ↦ ?_,
      fun request htoken bundle hoffers hshown ↦ ?_, fun request htoken bundle hshown ↦ ?_⟩
    · rw [claimAccepts_iff hrow htoken, currently_offers_iff hrow, hstored]
    · rw [claimAccepts_iff hrow htoken, ensured_offers_iff hrow, hstored]
    · obtain ⟨hbundle, hexpires, -⟩ := bundle_of_currently hrow hshown
      rw [claimAccepts_iff hrow htoken, hexpires, hstored]
      exact ⟨hbundle, Iff.rfl⟩
    · rw [ensured_eq hrow, if_pos ((ensured_offers_iff hrow).mp hoffers)] at hshown
      obtain ⟨hbundle, hexpires⟩ := bundle_of_reveals hshown
      rw [claimAccepts_iff hrow htoken, hexpires, hstored]
      exact ⟨hbundle, Iff.rfl⟩
    · obtain ⟨hbundle, hexpires⟩ := bundle_of_reveals hshown
      rw [claimAccepts_iff hrow htoken, hexpires, hexact]
      exact ⟨hbundle, Iff.rfl⟩

end Expiry

/-- Assumes: a `Reenroll` has issued a token, and its row is still in the tables, neither claimed
nor replaced. At an instant there is one notion of its expiry exactly if the instant does not lie in
the second in which the 24 hours end. -/
theorem expiry_agrees_iff {service : EnrollmentService} {before issued tables : EnrollmentTables}
    {input : EnrollmentInput} {token : String} {expires : ℤ}
    (hissued : EnrollmentPhase.next service before input .replace =
      some (issued, .bundleId token expires))
    (hkept : tables.enrollment = issued.enrollment) (now : ℤ) :
    OneExpiry service issued tables token expires now ↔
      unix now ≠ unix (input.now + 24 * hour) := by
  cases hfailure : input.failure with
  | some message => simp [EnrollmentPhase.next, EnrollmentInput.execute, hfailure] at hissued
  | none =>
    simp only [EnrollmentPhase.next, EnrollmentInput.execute, hfailure] at hissued
    cases hissued
    exact oneExpiry_iff hkept

def halfInput : EnrollmentInput := { soloInput "renewed" with now := 500000000 }

def halfTables : EnrollmentTables :=
  startedTables.replaceEnrollment "renewed" "renewed" (halfInput.now + 24 * hour)

theorem expiry_agrees_around :
    OneExpiry soloService halfTables halfTables "renewed" (halfInput.now + 24 * hour)
      (86399 * second) ∧
    OneExpiry soloService halfTables halfTables "renewed" (halfInput.now + 24 * hour)
      (86401 * second) := by
  have hissued : EnrollmentPhase.next soloService startedTables halfInput .replace =
    some (halfTables, .bundleId "renewed" (halfInput.now + 24 * hour)) := rfl
  exact ⟨(expiry_agrees_iff hissued rfl _).mpr (by decide),
    (expiry_agrees_iff hissued rfl _).mpr (by decide)⟩

/-- In the first half of the second a claim is accepted and the bundle of the `Reenroll` is valid,
while `Current` calls the token expired and `Ensure` issues another. In the second half a claim is
accepted with a bundle that has expired. -/
theorem expiry_disagrees :
    EnrollmentPhase.next soloService startedTables halfInput .replace =
      some (halfTables, .bundleId "renewed" (halfInput.now + 24 * hour)) ∧
    (∀ now ∈ [86400 * second + 200000000, 86400 * second + 700000000],
      ClaimAccepts soloService halfTables (soloClaim "first" "renewed" "") now ∧
      EnrollmentPhase.currently halfTables.enrollment now =
        .failed "enrollment token has expired; run reenroll" ∧
      EnrollmentPhase.ensured halfTables.enrollment now = .privateKey .reenroll) ∧
    86400 * second + 200000000 < halfInput.now + 24 * hour ∧
    halfInput.now + 24 * hour < 86400 * second + 700000000 := by
  refine ⟨rfl, fun now hnow ↦ ?_, by decide, by decide⟩
  have hrow : halfTables.enrollment =
    some ⟨"renewed", soloService.hash "renewed", unix (halfInput.now + 24 * hour), none⟩ := rfl
  have hlast : unix now = unix (halfInput.now + 24 * hour) := by
    rcases List.mem_pair.mp hnow with rfl | rfl <;> decide
  have hexpired : ¬ now < ofUnix (unix (halfInput.now + 24 * hour)) := by
    rw [← hlast]
    exact not_lt.mpr (ofUnix_unix_le now)
  refine ⟨(claimAccepts_iff hrow rfl).mpr hlast.le, ?_, ?_⟩
  · rw [currently_eq hrow, if_neg hexpired]
  · rw [ensured_eq hrow, if_neg hexpired]

end RiseVpn
