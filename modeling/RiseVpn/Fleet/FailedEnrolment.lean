import RiseVpn.Fleet.AdminAudit

/-!
# An enrolment that fails

`enrollNode` writes the row of the node, with the serial of the certificate it has just issued,
before it hands the certificate to the node. When the call to the node fails, the answer is an error
and the row stays as it was written. For a node that is enrolled already this replaces the serial
that `NodeHub.Connect` compares with the certificate of the connection, while the node still holds
the old certificate. The rotation of a certificate does not have this gap: it keeps the old serial
until the node has confirmed the new one (`Fleet.CertificateRotation`).

`EnrolmentUndone` says that an error leaves all rows, and the node that is connected under the id
with a certificate that its row accepts. `enrolment_undone_iff` is the exact condition on the
failures, and `enrolment_locks_out` a failed call after which a healthy node is refused.
-/

set_option autoImplicit false

namespace RiseVpn.Fleet

open Control FallibleStatements

/-! ### What a failed enrolment leaves -/

/-- The serial of the certificate that the connected node holds afterwards. The node has the new one
when its claim endpoint is the one of the bundle (`called`) and it carries the claim out, whether or
not its answer arrives. -/
def serialHeld (request : EnrollNode) (faults : AdminPoint → Outcome) (called : Bool) (held : ℕ) :
    ℕ :=
  match Office.checkEnrollment request with
  | .error _ => held
  | .ok (_, serial, _) =>
    if called ∧ faults .insert = .done ∧ faults .claim ≠ .failed then serial else held

/-- The node's next connection passes the check of `NodeHub.Connect`. -/
def Admits (office : OfficeDatabase) (node : NodeId) (serial : ℕ) : Prop :=
  ∃ row ∈ office.nodes node, row.Accepts serial

/-- An error of `enrollNode` leaves the rows of all nodes, and a node that was admitted is admitted
with the certificate it holds then. -/
def EnrolmentUndone (request : EnrollNode) (faults : AdminPoint → Outcome)
    (before : OfficeDatabase) : Prop :=
  ∀ failure, ((Office.enrollNode request).run faults before .none).2 = .error failure →
    ((Office.enrollNode request).run faults before .none).1.nodes = before.nodes ∧
    ∀ bundle, request.bundle = some (.ok bundle) → ∀ called held,
      Admits before bundle.nodeId held →
      Admits ((Office.enrollNode request).run faults before .none).1 bundle.nodeId
        (serialHeld request faults called held)

/-- The condition on the failures: once a row is changed, nothing fails up to the answer of the
node. -/
def ClaimSure (request : EnrollNode) (faults : AdminPoint → Outcome)
    (before : OfficeDatabase) : Prop :=
  ChangesNode before request → faults .insert ≠ .failed →
    faults .insert = .done ∧ faults .claim = .done

section Enrolment

variable {request : EnrollNode} {faults : AdminPoint → Outcome} {before : OfficeDatabase}
  {bundle : NodeBundle} {serial : ℕ} {notAfter : ℤ}

theorem claimNode_succeeds (hclaim : faults .claim = .done) (office : OfficeDatabase) :
    ((Office.claimNode request bundle).run faults office .none).2 = .ok () := by
  rw [Office.claimNode, Handler.run, decide_eq_true hclaim]
  dsimp only
  rw [Handler.run]
  cases faults .audit <;> rfl

theorem claimNode_fails (hclaim : faults .claim ≠ .done) (office : OfficeDatabase) :
    (Office.claimNode request bundle).run faults office .none =
      (office, .error (.problem 502 "node-claim" "Узел не подтвердил подключение"
        request.claimError)) := by
  rw [Office.claimNode, Handler.run, decide_eq_false hclaim]
  rfl

theorem admits_writeNode :
    Admits (Office.writeNode bundle serial notAfter before) bundle.nodeId serial := by
  refine ⟨_, Function.update_self _ _ _, .inl ?_⟩
  cases before.nodes bundle.nodeId <;> rfl

theorem writeNode_nodes_iff :
    (Office.writeNode bundle serial notAfter before).nodes = before.nodes ↔
      before.nodes bundle.nodeId =
        some (Office.enrolledRow bundle serial notAfter (before.nodes bundle.nodeId)) := by
  constructor
  · intro hsame
    exact (congrFun hsame bundle.nodeId).symm.trans (Function.update_self _ _ _)
  · intro hrow
    show Function.update before.nodes bundle.nodeId _ = before.nodes
    rw [← hrow, Function.update_eq_self]

section

variable (hcheck : Office.checkEnrollment request = .ok (bundle, serial, notAfter))

include hcheck

theorem enrollNode_cases :
    (faults .insert = .failed ∧ (Office.enrollNode request).run faults before .none =
      (before, .error (.problem 500 "db" "Не удалось подготовить запись узла" ""))) ∨
    (faults .insert = .lost ∧ (Office.enrollNode request).run faults before .none =
      (Office.writeNode bundle serial notAfter before,
        .error (.problem 500 "db" "Не удалось подготовить запись узла" ""))) ∨
    (faults .insert = .done ∧ (Office.enrollNode request).run faults before .none =
      (Office.claimNode request bundle).run faults
        (Office.writeNode bundle serial notAfter before) .none) := by
  rw [Office.enrollNode, hcheck]
  dsimp only
  rw [Handler.run]
  cases faults .insert with
  | done => exact .inr (.inr ⟨rfl, rfl⟩)
  | failed => exact .inl ⟨rfl, rfl⟩
  | lost => exact .inr (.inl ⟨rfl, rfl⟩)

theorem serialHeld_of_not_called (hinsert : faults .insert ≠ .done) (called : Bool) (held : ℕ) :
    serialHeld request faults called held = held := by
  unfold serialHeld
  rw [hcheck]
  exact if_neg fun hcarried ↦ hinsert hcarried.2.1

theorem serialHeld_cases (called : Bool) (held : ℕ) :
    serialHeld request faults called held = serial ∨
      serialHeld request faults called held = held := by
  unfold serialHeld
  rw [hcheck]
  exact ite_eq_or_eq _ _ _

theorem changesNode_iff : ChangesNode before request ↔
      (Office.writeNode bundle serial notAfter before).nodes ≠ before.nodes := by
  rw [Ne, writeNode_nodes_iff]
  constructor
  · rintro ⟨other, otherSerial, otherEnd, hother, hdiffers⟩
    cases hcheck.symm.trans hother
    exact hdiffers
  · intro hdiffers
    exact ⟨bundle, serial, notAfter, hcheck, hdiffers⟩

theorem admits_of_unchanged {office : OfficeDatabase}
    (hsame : (Office.writeNode bundle serial notAfter before).nodes = before.nodes)
    (hoffice : office.nodes = before.nodes) (called : Bool) {held : ℕ}
    (hadmits : Admits before bundle.nodeId held) :
    Admits office bundle.nodeId (serialHeld request faults called held) := by
  unfold Admits at hadmits ⊢
  rw [hoffice]
  rcases serialHeld_cases hcheck called held with hnew | hold
  · rw [hnew, ← hsame]
    exact admits_writeNode
  · rwa [hold]

theorem nodes_of_error {failure : Failure}
    (herror : ((Office.enrollNode request).run faults before .none).2 = .error failure) :
    (faults .insert = .failed ∧
      ((Office.enrollNode request).run faults before .none).1 = before) ∨
    (faults .insert ≠ .failed ∧ ¬ (faults .insert = .done ∧ faults .claim = .done) ∧
      ((Office.enrollNode request).run faults before .none).1 =
        Office.writeNode bundle serial notAfter before) := by
  rcases enrollNode_cases hcheck with ⟨hinsert, hrun⟩ | ⟨hinsert, hrun⟩ | ⟨hinsert, hrun⟩
  · exact .inl ⟨hinsert, by rw [hrun]⟩
  · exact .inr ⟨by simp [hinsert], by simp [hinsert], by rw [hrun]⟩
  · have hclaim : faults .claim ≠ .done := by
      intro hdone
      rw [hrun, claimNode_succeeds hdone] at herror
      cases herror
    exact .inr ⟨by simp [hinsert], by simp [hclaim], by rw [hrun, claimNode_fails hclaim]⟩

theorem error_of_failure (hfailure : ¬ (faults .insert = .done ∧ faults .claim = .done)) :
    ∃ failure, ((Office.enrollNode request).run faults before .none).2 = .error failure := by
  rcases enrollNode_cases hcheck with ⟨hinsert, hrun⟩ | ⟨hinsert, hrun⟩ | ⟨hinsert, hrun⟩
  · exact ⟨_, by rw [hrun]⟩
  · exact ⟨_, by rw [hrun]⟩
  · have hclaim : faults .claim ≠ .done := fun hdone ↦ hfailure ⟨hinsert, hdone⟩
    exact ⟨_, by rw [hrun, claimNode_fails hclaim]⟩

end

theorem undone_of_refused {failure : Failure}
    (hcheck : Office.checkEnrollment request = .error failure) :
    EnrolmentUndone request faults before := by
  intro other _
  have hrun : ((Office.enrollNode request).run faults before .none).1 = before := by
    rw [Office.enrollNode, hcheck]
    rfl
  refine ⟨by rw [hrun], fun bundle _ called held hadmits ↦ ?_⟩
  rw [hrun, serialHeld, hcheck]
  exact hadmits

end Enrolment

/-- For every bundle and every failure: an error of `enrollNode` leaves the rows of the nodes and
the admission of the connected node, exactly when no failure follows a change of the row, up to the
answer of the node. -/
theorem enrolment_undone_iff (request : EnrollNode) (faults : AdminPoint → Outcome)
    (before : OfficeDatabase) :
    EnrolmentUndone request faults before ↔ ClaimSure request faults before := by
  cases hcheck : Office.checkEnrollment request with
  | error failure =>
    refine iff_of_true (undone_of_refused hcheck) ?_
    rintro ⟨bundle, serial, notAfter, hpasses, -⟩
    cases hcheck.symm.trans hpasses
  | ok passed =>
    obtain ⟨bundle, serial, notAfter⟩ := passed
    constructor
    · intro hundone hchanges hinsert
      by_contra hfailure
      obtain ⟨failure, herror⟩ := error_of_failure hcheck hfailure
      have hnodes := (hundone failure herror).1
      rcases nodes_of_error hcheck herror with ⟨hfailed, -⟩ | ⟨-, -, hwritten⟩
      · exact hinsert hfailed
      · rw [hwritten] at hnodes
        exact (changesNode_iff hcheck).mp hchanges hnodes
    · intro hsure failure herror
      rcases nodes_of_error hcheck herror with ⟨hfailed, hrun⟩ | ⟨hinsert, hfailure, hrun⟩
      · refine ⟨by rw [hrun], fun other hother called held hadmits ↦ ?_⟩
        rw [hrun, serialHeld_of_not_called hcheck (by simp [hfailed])]
        exact hadmits
      · have hsame : (Office.writeNode bundle serial notAfter before).nodes = before.nodes := by
          by_contra hdiffers
          exact hfailure (hsure ((changesNode_iff hcheck).mpr hdiffers) hinsert)
        rw [hrun]
        refine ⟨hsame, fun other hother called held hadmits ↦ ?_⟩
        cases (checkEnrollment_bundle hcheck).symm.trans hother
        exact admits_of_unchanged hcheck hsame hsame called hadmits

/-! ### A node that is locked out -/

def officeWithNode : OfficeDatabase :=
  { smallOffice with
    nodes := fun node ↦ if node = "node" then
      some { toNodeRow := expiringRow, domain := "node.example.com", agentVersion := "0.2.0"
             protocolVersion := 2 } else none }

def enrolAgain : EnrollNode where
  actor := "boss"
  hasIssuer := true
  bundle := some (.ok ⟨"node", "node.example.com", "0.2.0", "public"⟩)
  keyValid := true
  certificate := some (2, 30 * day)
  hasComplianceKey := true
  hasQuotaKey := true
  claimError := "claim returned HTTP 401"

def claimRefused : AdminPoint → Outcome := fun point ↦ if point = .claim then .failed else .done

/-- The administrator is told that the enrolment has failed. The node holds the certificate 1, which
its row accepted before and does not accept any more. -/
theorem enrolment_locks_out :
    ((Office.enrollNode enrolAgain).run claimRefused officeWithNode .none).2 =
        .error (.problem 502 "node-claim" "Узел не подтвердил подключение"
          "claim returned HTTP 401") ∧
      serialHeld enrolAgain claimRefused true 1 = 1 ∧ Admits officeWithNode "node" 1 ∧
      ¬ Admits ((Office.enrollNode enrolAgain).run claimRefused officeWithNode .none).1 "node" 1 ∧
      ¬ EnrolmentUndone enrolAgain claimRefused officeWithNode := by
  have hrefused : ¬ Admits
      ((Office.enrollNode enrolAgain).run claimRefused officeWithNode .none).1 "node" 1 := by
    rintro ⟨row, hrow, haccepts⟩
    cases hrow
    revert haccepts
    decide
  have hadmits : Admits officeWithNode "node" 1 := ⟨_, rfl, .inl rfl⟩
  refine ⟨rfl, rfl, hadmits, hrefused, fun hundone ↦ hrefused ?_⟩
  exact (hundone _ rfl).2 _ rfl true 1 hadmits

end RiseVpn.Fleet
