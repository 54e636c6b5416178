import RiseVpn.Control.Provisioning
import RiseVpn.Library.Threads

/-!
# Binding a device and starting a trial

`subscriptionDocument` and `rebindDevice`, statement by statement on the tables they bind devices
with. A fetch reads the device and the subscription first; where no hardware is bound it opens a
transaction, looks for an earlier trial, activates the subscription, records the fingerprint and
binds the device. A statement that writes a row locks it until the transaction ends, and the
transaction becomes visible at its commit. Any number of fetches and rebindings run at the same
time, next to the other handlers that change the rows (`BindingChange`).

The results are about the documents of one device. The fingerprint that is bound is read before the
transaction that binds one, and a rebinding asks for the time of the last binding, not of the last
document. `OneMachine` is the condition on the steps that makes up for both;
`documents_one_machine` says that then the documents of 24 hours went to one fingerprint, and
`documents_two_machines` is a run of two first fetches outside it.
-/

set_option autoImplicit false

namespace RiseVpn.Control

open Threads GuardedRun

/-! ### The tables and the requests -/

/-- The owners of the devices and the Telegram subjects of the users, which are unique. -/
structure Accounts where
  owner : DeviceId → Option UserId
  subject : UserId → String
  subject_injective : Function.Injective subject

inductive BindingLock
  | subscription (user : UserId)
  | fingerprint (subject fingerprint : String)
  | device (id : DeviceId)
  deriving DecidableEq

structure Document where
  device : DeviceId
  fingerprint : String
  time : ℤ

structure Activation where
  subject : String
  fingerprint : String

/-- The tables. `active` and `terms` are the users that are not blocked and those that have accepted
the current terms. No table holds `documents` and `activations`: they are what binding and trials
are about. -/
structure BindingTables where
  clock : ℤ
  devices : DeviceId → Option DeviceRow
  subscriptions : UserId → Option Subscription
  trialFingerprints : Finset (String × String)
  active : UserId → Bool
  terms : UserId → Bool
  locks : Finset BindingLock
  documents : List Document
  activations : List Activation

/-- `hwid_hmac` of a device. -/
def BindingTables.hwidOf (tables : BindingTables) (device : DeviceId) : Option String :=
  (tables.devices device).bind DeviceRow.hwidHmac

structure Fetch where
  device : DeviceId
  user : UserId
  subject : String
  fingerprint : String
  planCode : PlanCode
  status : SubscriptionStatus

/-- What the transaction of a fetch has written before it binds the device: the trial it has
recorded, with the time at which it has activated the subscription. -/
structure BindingWrites where
  txNow : ℤ
  trial : Option (Option ℤ)

inductive FetchPhase
  | begin
  | check (txNow : ℤ)
  | activate (txNow : ℤ)
  | record (txNow : ℤ) (activatedAt : Option ℤ)
  | bind (writes : BindingWrites)
  | commit (writes : BindingWrites)
  | document (status : SubscriptionStatus)

/-- A call of `rebindDevice`, with the hash of the new credential. -/
structure Rebinding where
  userId : UserId
  deviceId : DeviceId
  credentialHash : String

/-- The next statement of a rebinding. `decide` compares the time that was read with the clock. -/
inductive RebindPhase
  | select
  | decide (last : Option ℤ)
  | commit

inductive BindingThread
  | query (device : DeviceId) (hwid : String)
  | fetch (fetch : Fetch) (phase : FetchPhase)
  | rebind (call : Rebinding) (phase : RebindPhase)
  | finished (answer : Except Failure Unit)

def BindingThread.refused (failure : Failure) : BindingThread := .finished (.error failure)

/-- A fetch of the document of a device with a trimmed `X-HWID`, or a rebinding. -/
inductive BindingRequest
  | fetch (device : DeviceId) (hwid : String)
  | rebind (call : Rebinding)

/-! ### Locks -/

def Fetch.activated (fetch : Fetch) (activatedAt : Option ℤ) : Finset BindingLock :=
  if activatedAt.isSome then {.subscription fetch.user} else ∅

def Fetch.written (fetch : Fetch) (writes : BindingWrites) : Finset BindingLock :=
  match writes.trial with
  | some activatedAt =>
    insert (.fingerprint fetch.subject fetch.fingerprint) (fetch.activated activatedAt)
  | none => ∅

def BindingThread.held : BindingThread → Finset BindingLock
  | .fetch read (.record _ activatedAt) => read.activated activatedAt
  | .fetch read (.bind writes) => read.written writes
  | .fetch read (.commit writes) => insert (.device read.device) (read.written writes)
  | .rebind call (.decide _) => {.device call.deviceId}
  | .rebind call .commit => {.device call.deviceId}
  | _ => ∅

/-! ### The handlers -/

section Handlers

variable (accounts : Accounts) (hwidHmac : String → String)

/-- What a fetch does with the fingerprint that its first query has found. One of no bytes counts as
none. -/
def Fetch.compare (fetch : Fetch) (stored : Option String) : BindingThread :=
  if stored.getD "" = "" then .fetch fetch .begin
  else if stored ≠ some fetch.fingerprint then .refused .hwidMismatch
  else .fetch fetch (.document fetch.status)

section

variable (tables : BindingTables)

/-- The first query of `App.subscriptionDocument` and what it decides. -/
def queryStep (device : DeviceId) (hwid : String) : BindingThread :=
  match tables.devices device, accounts.owner device with
  | some row, some user =>
    match tables.subscriptions user with
    | some subscription =>
      if row.revokedAt.isSome ∨ tables.active user = false then .refused .subscriptionToken
      else if tables.terms user = false then .refused .termsRequired
      else
        Fetch.compare ⟨device, user, accounts.subject user, hwidHmac hwid, subscription.planCode,
          subscription.status⟩ row.hwidHmac
    | none => .refused .subscriptionToken
  | _, _ => .refused .subscriptionToken

/-- `SELECT EXISTS(SELECT 1 FROM trial_fingerprints WHERE telegram_subject=… OR hwid_hmac=…)`. -/
def BindingTables.reused (fetch : Fetch) : Prop :=
  ∃ row ∈ tables.trialFingerprints, row.1 = fetch.subject ∨ row.2 = fetch.fingerprint
  deriving Decidable

def BindingTables.commitFetch (fetch : Fetch) (writes : BindingWrites) : BindingTables :=
  { tables with
    subscriptions := match writes.trial with
      | some (some now) => Function.update tables.subscriptions fetch.user
          ((tables.subscriptions fetch.user).map fun row ↦ trialRow row now)
      | _ => tables.subscriptions
    trialFingerprints := match writes.trial with
      | some _ => insert (fetch.subject, fetch.fingerprint) tables.trialFingerprints
      | none => tables.trialFingerprints
    devices := Function.update tables.devices fetch.device
      ((tables.devices fetch.device).map fun row ↦
        { row with hwidHmac := some fetch.fingerprint, lastBoundAt := some writes.txNow })
    locks := tables.locks \ insert (.device fetch.device) (fetch.written writes)
    activations := match writes.trial with
      | some (some _) => ⟨fetch.subject, fetch.fingerprint⟩ :: tables.activations
      | _ => tables.activations }

/-- The statements of `App.subscriptionDocument` after its first query. A statement that meets a
lock waits. `outcome` is what the choice of a route, the provisioning and the decryption of the
credential come to. -/
def fetchStep (fetch : Fetch) (outcome : Except Failure Unit) :
    FetchPhase → Option (BindingTables × BindingThread)
  | .begin =>
    if fetch.planCode = .trial ∧ fetch.status = .pendingTrial then
      some (tables, .fetch fetch (.check tables.clock))
    else some (tables, .fetch fetch (.bind ⟨tables.clock, none⟩))
  | .check txNow =>
    if tables.reused fetch then some (tables, .refused .trialUsed)
    else some (tables, .fetch fetch (.activate txNow))
  | .activate txNow =>
    if ∃ row ∈ tables.subscriptions fetch.user, row.status = .pendingTrial then
      if .subscription fetch.user ∈ tables.locks then none
      else some ({ tables with locks := insert (.subscription fetch.user) tables.locks },
        .fetch fetch (.record txNow (some tables.clock)))
    else some (tables, .fetch fetch (.record txNow none))
  | .record txNow activatedAt =>
    if .fingerprint fetch.subject fetch.fingerprint ∈ tables.locks then none
    else if (fetch.subject, fetch.fingerprint) ∈ tables.trialFingerprints then
      some ({ tables with locks := tables.locks \ fetch.activated activatedAt },
        .refused (.problem 500 "bind" "Не удалось привязать устройство" ""))
    else
      some ({ tables with
        locks := insert (.fingerprint fetch.subject fetch.fingerprint) tables.locks },
        .fetch fetch (.bind ⟨txNow, some activatedAt⟩))
  | .bind writes =>
    if .device fetch.device ∈ tables.locks then none
    else some ({ tables with locks := insert (.device fetch.device) tables.locks },
      .fetch fetch (.commit writes))
  | .commit writes =>
    some (tables.commitFetch fetch writes,
      .fetch fetch (.document (if writes.trial.isSome then .active else fetch.status)))
  | .document status =>
    if status ≠ .active ∧ status ≠ .grace then some (tables, .refused .inactive)
    else match outcome with
    | .error failure => some (tables, .finished (.error failure))
    | .ok () =>
      some ({ tables with
        documents := ⟨fetch.device, fetch.fingerprint, tables.clock⟩ :: tables.documents },
        .finished (.ok ()))

/-- The statements of `App.rebindDevice` on the row of the device. -/
def rebindStep (call : Rebinding) : RebindPhase → Option (BindingTables × BindingThread)
  | .select =>
    if .device call.deviceId ∈ tables.locks then none
    else match tables.devices call.deviceId with
    | some row =>
      if accounts.owner call.deviceId ≠ some call.userId ∨ row.revokedAt.isSome then
        some (tables, .refused .unknownDevice)
      else some ({ tables with locks := insert (.device call.deviceId) tables.locks },
        .rebind call (.decide row.lastBoundAt))
    | none => some (tables, .refused .unknownDevice)
  | .decide last =>
    if ∃ bound ∈ last, tables.clock < bound + 24 * hour then
      some ({ tables with locks := tables.locks \ {.device call.deviceId} }, .refused .rebindLimit)
    else some (tables, .rebind call .commit)
  | .commit =>
    some ({ tables with
      devices := Function.update tables.devices call.deviceId
        ((tables.devices call.deviceId).map fun row ↦
          { row with credentialHash := call.credentialHash, hwidHmac := none, lastBoundAt := none })
      locks := tables.locks \ {.device call.deviceId} }, .finished (.ok ()))

/-- What other handlers do to the rows: time passes, a user is blocked or unblocked or accepts the
terms, a user logs in for the first time, a subscription moves on, a device is created or revoked.
No handler leads back to a pending trial, and a locked row is not changed. -/
inductive BindingChange
  | tick (elapsed : ℕ)
  | setActive (user : UserId) (active : Bool)
  | acceptTerms (user : UserId)
  | register (user : UserId)
  | subscribe (user : UserId) (row : Subscription)
  | createDevice (device : DeviceId) (credentialHash : String)
  | revokeDevice (device : DeviceId)

def BindingTables.change : BindingChange → Option BindingTables
  | .tick elapsed => some { tables with clock := tables.clock + elapsed }
  | .setActive user active =>
    some { tables with active := Function.update tables.active user active }
  | .acceptTerms user => some { tables with terms := Function.update tables.terms user true }
  | .register user =>
    if tables.subscriptions user = none then
      some { tables with
        subscriptions := Function.update tables.subscriptions user (some .pendingTrial) }
    else none
  | .subscribe user row =>
    if row.status = .pendingTrial ∨ .subscription user ∈ tables.locks then none
    else some { tables with subscriptions := Function.update tables.subscriptions user (some row) }
  | .createDevice device credentialHash =>
    if tables.devices device = none then
      some { tables with
        devices := Function.update tables.devices device (some ⟨credentialHash, none, none, none⟩) }
    else none
  | .revokeDevice device =>
    if .device device ∈ tables.locks then none
    else some { tables with
      devices := Function.update tables.devices device
        ((tables.devices device).map fun row ↦ { row with revokedAt := some tables.clock }) }

end

def bindingMachine :
    Machine BindingTables BindingRequest BindingThread (Except Failure Unit) BindingChange where
  enter := fun _ request ↦
    match request with
    | .fetch device hwid =>
      if hwid = "" then .refused .hwidRequired
      else .query device hwid
    | .rebind call => .rebind call .select
  advance := fun tables thread outcome ↦
    match thread with
    | .query device hwid => some (tables, queryStep accounts hwidHmac tables device hwid)
    | .fetch fetch phase => fetchStep tables fetch outcome phase
    | .rebind call phase => rebindStep accounts tables call phase
    | .finished _ => none
  change := BindingTables.change

end Handlers

abbrev BindingSystem := System ℕ BindingTables BindingThread

abbrev BindingEvent := Event ℕ BindingRequest (Except Failure Unit) BindingChange

/-! ### What a statement does -/

section Statements

variable {accounts : Accounts} {hwidHmac : String → String} {tables tables' : BindingTables}
  {thread thread' : BindingThread} {outcome : Except Failure Unit} {fetch : Fetch}

theorem queryStep_cases (accounts : Accounts) (hwidHmac : String → String) (tables : BindingTables)
    (device : DeviceId) (hwid : String) :
    (∃ answer, queryStep accounts hwidHmac tables device hwid = .finished answer) ∨
    ∃ read phase, queryStep accounts hwidHmac tables device hwid = .fetch read phase ∧
      read.subject = accounts.subject read.user ∧
      (phase = .begin ∨ ∃ status, phase = .document status) := by
  unfold queryStep
  split
  · split
    · split_ifs
      · exact .inl ⟨_, rfl⟩
      · exact .inl ⟨_, rfl⟩
      · unfold Fetch.compare
        split_ifs
        · exact .inr ⟨_, _, rfl, rfl, .inl rfl⟩
        · exact .inl ⟨_, rfl⟩
        · exact .inr ⟨_, _, rfl, rfl, .inr ⟨_, rfl⟩⟩
    · exact .inl ⟨_, rfl⟩
  · exact .inl ⟨_, rfl⟩

variable (accounts : Accounts) (tables : BindingTables) in
inductive BindingStep : BindingThread → BindingTables → BindingThread → Prop
  | read (device : DeviceId) (hwid : String) (read : Fetch) (phase : FetchPhase)
      (hsubject : read.subject = accounts.subject read.user)
      (hphase : phase = .begin ∨ ∃ status, phase = .document status) :
      BindingStep (.query device hwid) tables (.fetch read phase)
  | begun (read : Fetch) (phase : FetchPhase)
      (hphase : phase = .check tables.clock ∨ phase = .bind ⟨tables.clock, none⟩) :
      BindingStep (.fetch read .begin) tables (.fetch read phase)
  | searched (read : Fetch) (txNow : ℤ) (hreused : ¬ tables.reused read) :
      BindingStep (.fetch read (.check txNow)) tables (.fetch read (.activate txNow))
  | activated (read : Fetch) (txNow : ℤ)
      (hpending : ∃ row ∈ tables.subscriptions read.user, row.status = .pendingTrial)
      (hfree : .subscription read.user ∉ tables.locks) : BindingStep (.fetch read (.activate txNow))
        { tables with locks := insert (.subscription read.user) tables.locks }
        (.fetch read (.record txNow (some tables.clock)))
  | skipped (read : Fetch) (txNow : ℤ) : BindingStep (.fetch read (.activate txNow)) tables
        (.fetch read (.record txNow none))
  | recorded (read : Fetch) (txNow : ℤ) (activatedAt : Option ℤ)
      (hfree : .fingerprint read.subject read.fingerprint ∉ tables.locks) :
      BindingStep (.fetch read (.record txNow activatedAt))
        { tables with locks := insert (.fingerprint read.subject read.fingerprint) tables.locks }
        (.fetch read (.bind ⟨txNow, some activatedAt⟩))
  | found (read : Fetch) (writes : BindingWrites) (hfree : .device read.device ∉ tables.locks) :
      BindingStep (.fetch read (.bind writes))
        { tables with locks := insert (.device read.device) tables.locks }
        (.fetch read (.commit writes))
  | bound (read : Fetch) (writes : BindingWrites) (status : SubscriptionStatus) :
      BindingStep (.fetch read (.commit writes)) (tables.commitFetch read writes)
        (.fetch read (.document status))
  | returned (read : Fetch) (status : SubscriptionStatus) :
      BindingStep (.fetch read (.document status)) { tables with
        documents := ⟨read.device, read.fingerprint, tables.clock⟩ :: tables.documents }
        (.finished (.ok ()))
  | selected (call : Rebinding) (last : Option ℤ) (hfree : .device call.deviceId ∉ tables.locks) :
      BindingStep (.rebind call .select)
        { tables with locks := insert (.device call.deviceId) tables.locks }
        (.rebind call (.decide last))
  | decided (call : Rebinding) (last : Option ℤ) :
      BindingStep (.rebind call (.decide last)) tables (.rebind call .commit)
  | rebound (call : Rebinding) (row : Option DeviceRow) :
      BindingStep (.rebind call .commit) { tables with
        devices := Function.update tables.devices call.deviceId row
        locks := tables.locks \ {.device call.deviceId} } (.finished (.ok ()))
  | ended (thread : BindingThread) (answer : Except Failure Unit) :
      BindingStep thread { tables with locks := tables.locks \ thread.held } (.finished answer)

theorem BindingStep.answered {thread : BindingThread} (hheld : thread.held = ∅)
    (answer : Except Failure Unit) :
    BindingStep accounts tables thread tables (.finished answer) := by
  have hended : BindingStep accounts tables thread _ _ := .ended thread answer
  rwa [hheld, Finset.sdiff_empty] at hended

theorem bindingStep_of_fetchStep {phase : FetchPhase}
    (hstep : fetchStep tables fetch outcome phase = some (tables', thread')) :
    BindingStep accounts tables (.fetch fetch phase) tables' thread' := by
  cases phase with
  | begin =>
    simp only [fetchStep] at hstep
    split_ifs at hstep <;> cases hstep
    · exact .begun fetch _ (.inl rfl)
    · exact .begun fetch _ (.inr rfl)
  | check txNow =>
    simp only [fetchStep] at hstep
    split_ifs at hstep with hreused <;> cases hstep
    · exact .answered rfl _
    · exact .searched fetch txNow hreused
  | activate txNow =>
    simp only [fetchStep] at hstep
    split_ifs at hstep with hpending hlocked <;> cases hstep
    · exact .activated fetch txNow hpending hlocked
    · exact .skipped fetch txNow
  | record txNow activatedAt =>
    simp only [fetchStep] at hstep
    split_ifs at hstep with hlocked <;> cases hstep
    · exact .ended _ _
    · exact .recorded fetch txNow activatedAt hlocked
  | bind writes =>
    simp only [fetchStep] at hstep
    split_ifs at hstep with hlocked
    cases hstep
    exact .found fetch writes hlocked
  | commit writes =>
    cases hstep
    exact .bound fetch writes _
  | document status =>
    simp only [fetchStep] at hstep
    split_ifs at hstep
    · cases hstep
      exact .answered rfl _
    · cases outcome <;> cases hstep
      · exact .answered rfl _
      · exact .returned fetch status

theorem bindingStep_of_rebindStep {call : Rebinding} {phase : RebindPhase}
    (hstep : rebindStep accounts tables call phase = some (tables', thread')) :
    BindingStep accounts tables (.rebind call phase) tables' thread' := by
  cases phase with
  | select =>
    simp only [rebindStep] at hstep
    split_ifs at hstep with hlocked
    split at hstep
    · split_ifs at hstep <;> cases hstep
      · exact .answered rfl _
      · exact .selected call _ hlocked
    · cases hstep
      exact .answered rfl _
  | decide last =>
    simp only [rebindStep] at hstep
    split_ifs at hstep <;> cases hstep
    · exact .ended _ _
    · exact .decided call last
  | commit =>
    cases hstep
    exact .rebound call _

theorem bindingStep_of_advance {thread : BindingThread}
    (hstep : (bindingMachine accounts hwidHmac).advance tables thread outcome =
      some (tables', thread')) : BindingStep accounts tables thread tables' thread' := by
  cases thread with
  | query device hwid =>
    cases hstep
    rcases queryStep_cases accounts hwidHmac tables device hwid with
      ⟨answer, hanswer⟩ | ⟨read, phase, hread, hsubject, hphase⟩
    · rw [hanswer]
      exact .answered rfl answer
    · rw [hread]
      exact .read device hwid read phase hsubject hphase
  | fetch read phase => exact bindingStep_of_fetchStep hstep
  | rebind call phase => exact bindingStep_of_rebindStep hstep
  | finished => cases hstep

/-- What other handlers do: they leave the locks and the trials, and the subscription of a user only
moves from a row that is not locked to one that is no pending trial. -/
structure LeavesTrials (tables tables' : BindingTables) : Prop where
  locks : tables'.locks = tables.locks
  trialFingerprints : tables'.trialFingerprints = tables.trialFingerprints
  activations : tables'.activations = tables.activations
  subscriptions : ∀ user, tables.subscriptions user ≠ none →
    tables'.subscriptions user = tables.subscriptions user ∨
    .subscription user ∉ tables.locks ∧
      ∃ row ∈ tables'.subscriptions user, row.status ≠ .pendingTrial

theorem leavesTrials_of_change {change : BindingChange}
    (hchange : tables.change change = some tables') : LeavesTrials tables tables' := by
  cases change with
  | tick | setActive | acceptTerms =>
    cases hchange
    exact ⟨rfl, rfl, rfl, fun _ _ ↦ .inl rfl⟩
  | createDevice | revokeDevice =>
    simp only [BindingTables.change] at hchange
    split_ifs at hchange
    cases hchange
    exact ⟨rfl, rfl, rfl, fun _ _ ↦ .inl rfl⟩
  | register user =>
    simp only [BindingTables.change] at hchange
    split_ifs at hchange with hnone
    cases hchange
    refine ⟨rfl, rfl, rfl, fun other hother ↦ .inl (Function.update_of_ne ?_ _ _)⟩
    rintro rfl
    exact hother hnone
  | subscribe user row =>
    simp only [BindingTables.change] at hchange
    split_ifs at hchange with hrefused
    cases hchange
    refine ⟨rfl, rfl, rfl, fun other _ ↦ ?_⟩
    by_cases huser : other = user
    · subst huser
      exact .inr ⟨fun hlocked ↦ hrefused (.inr hlocked), row, by simp,
        fun hpending ↦ hrefused (.inl hpending)⟩
    · exact .inl (Function.update_of_ne huser _ _)

end Statements

/-! ### The documents of a device -/

/-- What the condition asks of a step of a request. A device is bound only while no other
fingerprint is, a document is returned only while its fingerprint is bound, and a rebinding comes
more than 24 hours after the last document. -/
def BindingThread.KeepsMachine (tables : BindingTables) : BindingThread → Prop
  | .fetch read (.commit _) => tables.hwidOf read.device = none ∨
      tables.hwidOf read.device = some read.fingerprint
  | .fetch read (.document _) => tables.hwidOf read.device = some read.fingerprint
  | .rebind call .commit => ∀ document ∈ tables.documents, document.device = call.deviceId →
      document.time + 24 * hour < tables.clock
  | _ => True

instance (tables : BindingTables) (thread : BindingThread) :
    Decidable (thread.KeepsMachine tables) := by
  unfold BindingThread.KeepsMachine
  split <;> infer_instance

def OneMachine (system : BindingSystem) (event : BindingEvent) (_next : BindingSystem) : Prop :=
  match event with
  | .advance slot _ => ∀ thread ∈ system.threads slot, thread.KeepsMachine system.shared
  | _ => True

instance (system : BindingSystem) (event : BindingEvent) (next : BindingSystem) :
    Decidable (OneMachine system event next) := by
  unfold OneMachine
  split <;> infer_instance

/-- What holds of the documents: the fingerprint of a recent one is still bound, and two that are
not apart went to one fingerprint. -/
structure Delivered (tables : BindingTables) : Prop where
  past : ∀ document ∈ tables.documents, document.time ≤ tables.clock
  recent : ∀ document ∈ tables.documents, tables.clock ≤ document.time + 24 * hour →
    tables.hwidOf document.device = some document.fingerprint
  one : ∀ first ∈ tables.documents, ∀ second ∈ tables.documents, first.device = second.device →
    first.time ≤ second.time → second.time ≤ first.time + 24 * hour →
    first.fingerprint = second.fingerprint

section Documents

variable {accounts : Accounts} {hwidHmac : String → String} {tables tables' : BindingTables}
  {thread thread' : BindingThread} {outcome : Except Failure Unit} {fetch : Fetch}

section

variable (hdelivered : Delivered tables)

include hdelivered

theorem Delivered.of_hwidOf (hclock : tables.clock ≤ tables'.clock)
    (hdocuments : tables'.documents = tables.documents)
    (hhwid : ∀ document ∈ tables.documents, tables.clock ≤ document.time + 24 * hour → tables.hwidOf
      document.device = some document.fingerprint → tables'.hwidOf document.device = some
      document.fingerprint) : Delivered tables' := by
  refine ⟨?_, ?_, ?_⟩
  · rw [hdocuments]
    exact fun document hmem ↦ (hdelivered.past document hmem).trans hclock
  · rw [hdocuments]
    intro document hmem hrecent
    have hbefore : tables.clock ≤ document.time + 24 * hour := hclock.trans hrecent
    exact hhwid document hmem hbefore (hdelivered.recent document hmem hbefore)
  · rw [hdocuments]
    exact hdelivered.one

theorem Delivered.congr (hclock : tables'.clock = tables.clock)
    (hdocuments : tables'.documents = tables.documents)
    (hdevices : tables'.devices = tables.devices) : Delivered tables' := by
  refine hdelivered.of_hwidOf hclock.ge hdocuments fun document _ _ hbound ↦ ?_
  rwa [BindingTables.hwidOf, hdevices]

theorem Delivered.commitFetch {writes : BindingWrites}
    (hfree : tables.hwidOf fetch.device = none ∨ tables.hwidOf fetch.device = some
      fetch.fingerprint) : Delivered (tables.commitFetch fetch writes) := by
  refine hdelivered.of_hwidOf le_rfl rfl fun document _ _ hbound ↦ ?_
  by_cases hdevice : document.device = fetch.device
  · rw [hdevice] at hbound ⊢
    have hsame : some document.fingerprint = some fetch.fingerprint := by
      rcases hfree with hnone | hsome
      · rw [hnone] at hbound
        cases hbound
      · exact hbound.symm.trans hsome
    obtain ⟨row, hrow, -⟩ := Option.bind_eq_some_iff.mp hbound
    rw [hsame]
    simp [BindingTables.hwidOf, BindingTables.commitFetch, hrow]
  · simpa [BindingTables.hwidOf, BindingTables.commitFetch, hdevice] using hbound

theorem Delivered.document (hbound : tables.hwidOf fetch.device = some fetch.fingerprint) :
    Delivered { tables with
      documents := ⟨fetch.device, fetch.fingerprint, tables.clock⟩ :: tables.documents } := by
  have hour_pos : 0 ≤ 24 * hour := by decide
  -- a recent document of the device has the fingerprint that is bound
  have hrecent : ∀ document ∈ tables.documents, document.device = fetch.device →
      tables.clock ≤ document.time + 24 * hour → document.fingerprint = fetch.fingerprint := by
    intro document hmem hdevice htime
    have hold := hdelivered.recent document hmem htime
    rw [hdevice, hbound] at hold
    exact (Option.some.inj hold).symm
  refine ⟨fun document hmem ↦ ?_, fun document hmem htime ↦ ?_,
    fun first hfirst second hsecond hdevice hle hnear ↦ ?_⟩
  · rcases List.mem_cons.mp hmem with rfl | hold
    · exact le_rfl
    · exact hdelivered.past document hold
  · rcases List.mem_cons.mp hmem with rfl | hold
    · exact hbound
    · exact hdelivered.recent document hold htime
  · rcases List.mem_cons.mp hfirst with rfl | hfirst <;>
      rcases List.mem_cons.mp hsecond with rfl | hsecond
    · rfl
    · have hnow : second.time = tables.clock := le_antisymm (hdelivered.past second hsecond) hle
      exact (hrecent second hsecond hdevice.symm (by omega)).symm
    · exact hrecent first hfirst hdevice hnear
    · exact hdelivered.one first hfirst second hsecond hdevice hle hnear

theorem Delivered.setDevice {device : DeviceId}
    (hold : ∀ document ∈ tables.documents, document.device = device → document.time + 24 * hour <
      tables.clock) (row : Option DeviceRow) (locks : Finset BindingLock) :
    Delivered { tables with devices := Function.update tables.devices device row, locks } := by
  refine hdelivered.of_hwidOf le_rfl rfl fun document hmem htime hbound ↦ ?_
  by_cases hdevice : document.device = device
  · exact absurd (hold document hmem hdevice) (not_lt.mpr htime)
  · simpa [BindingTables.hwidOf, hdevice] using hbound

theorem Delivered.advance (hkeeps : thread.KeepsMachine tables)
    (hstep : (bindingMachine accounts hwidHmac).advance tables thread outcome = some (tables',
      thread')) : Delivered tables' := by
  cases bindingStep_of_advance hstep with
  | bound read writes => exact hdelivered.commitFetch hkeeps
  | returned read status => exact hdelivered.document hkeeps
  | rebound call row => exact hdelivered.setDevice hkeeps row _
  | _ => exact hdelivered.congr rfl rfl rfl

theorem Delivered.change {change : BindingChange} (hchange : tables.change change = some tables') :
    Delivered tables' := by
  cases change with
  | tick elapsed =>
    cases hchange
    refine hdelivered.of_hwidOf ?_ rfl fun _ _ _ hbound ↦ hbound
    dsimp only
    omega
  | setActive | acceptTerms =>
    cases hchange
    exact hdelivered.congr rfl rfl rfl
  | register | subscribe =>
    simp only [BindingTables.change] at hchange
    split_ifs at hchange
    cases hchange
    exact hdelivered.congr rfl rfl rfl
  | createDevice device credentialHash =>
    simp only [BindingTables.change] at hchange
    split_ifs at hchange with hnone
    cases hchange
    refine hdelivered.of_hwidOf le_rfl rfl fun document _ _ hbound ↦ ?_
    have hdevice : document.device ≠ device := by
      rintro rfl
      simp [BindingTables.hwidOf, hnone] at hbound
    simpa [BindingTables.hwidOf, hdevice] using hbound
  | revokeDevice device =>
    simp only [BindingTables.change] at hchange
    split_ifs at hchange
    cases hchange
    refine hdelivered.of_hwidOf le_rfl rfl fun document _ _ hbound ↦ ?_
    by_cases hdevice : document.device = device
    · obtain ⟨row, hrow, hhwid⟩ := Option.bind_eq_some_iff.mp hbound
      simp [BindingTables.hwidOf, ← hdevice, hrow, hhwid]
    · simpa [BindingTables.hwidOf, hdevice] using hbound

end

/-- Assumes: a run from no documents, in which a device is bound only while no other fingerprint is,
a document is returned only while its fingerprint is bound, and a rebinding comes more than 24 hours
after the last document. Two documents of a device within 24 hours went to one fingerprint. -/
theorem documents_one_machine {start : BindingTables} (hstart : start.documents = [])
    {system : BindingSystem}
    (hreach : ReachableUnder (bindingMachine accounts hwidHmac).step OneMachine
      (System.idle start) system) {first second : Document}
    (hfirst : first ∈ system.shared.documents) (hsecond : second ∈ system.shared.documents)
    (hdevice : first.device = second.device) (horder : first.time ≤ second.time)
    (hwindow : second.time ≤ first.time + 24 * hour) :
    first.fingerprint = second.fingerprint := by
  have hinvariant := Machine.invariant Delivered (fun _ _ ↦ True) hreach
    ⟨by simp [hstart], by simp [hstart], by simp [hstart]⟩ (fun _ _ _ ↦ trivial)
    (fun _ slot input next thread thread' shared hdelivered hslot _ hkeeps hmove ↦
      ⟨hdelivered.advance (hkeeps thread hslot) hmove, trivial, fun _ _ _ _ _ ↦ trivial⟩)
    (fun _ change next shared hdelivered _ hmove ↦
      ⟨hdelivered.change hmove, fun _ _ _ _ ↦ trivial⟩)
  exact hinvariant.1.one first hfirst second hsecond hdevice horder hwindow

end Documents

/-! ### Two first fetches -/

def threeDevices : Accounts where
  owner := fun device ↦ if device = "third" then some "other" else some "user"
  subject := id
  subject_injective := Function.injective_id

def unboundTables : BindingTables where
  clock := 0
  devices := fun _ ↦ some ⟨"credential", none, none, none⟩
  subscriptions := fun _ ↦ some .pendingTrial
  trialFingerprints := ∅
  active := fun _ ↦ true
  terms := fun _ ↦ true
  locks := ∅
  documents := []
  activations := []

def bindingRun (events : List BindingEvent) : BindingSystem :=
  (run (bindingMachine threeDevices id).step (System.idle unboundTables) events).getD
    (System.idle unboundTables)

def advances (slot count : ℕ) : List BindingEvent :=
  List.replicate count (.advance slot (.ok ()))

def fetchTwice : List BindingEvent :=
  [.start 0 (.fetch "first" "laptop")] ++ advances 0 8 ++ [.change (.tick 5), .start 1
    (.fetch "first" "laptop")] ++ advances 1 2

def fetchAtOnce : List BindingEvent :=
  [.change (.subscribe "user"
      { Subscription.pendingTrial with planCode := .lite, status := .active }),
    .start 0 (.fetch "first" "laptop"), .start 1 (.fetch "first" "phone")] ++ advances 0 1 ++
    advances 1 1 ++ advances 0 4 ++ advances 1 4

theorem documents_one_machine_twice :
    (bindingRun fetchTwice).shared.documents = [⟨"first", "laptop", 5⟩, ⟨"first", "laptop", 0⟩] ∧
    ∀ document ∈ (bindingRun fetchTwice).shared.documents, document.device = "first" →
      0 ≤ document.time → document.time ≤ 24 * hour → "laptop" = document.fingerprint := by
  refine ⟨rfl, fun document hdocument hdevice hpast hnear ↦ ?_⟩
  have hfirst : (⟨"first", "laptop", 0⟩ : Document) ∈ (bindingRun fetchTwice).shared.documents :=
    .tail _ (.head _)
  exact documents_one_machine rfl (reachableUnder_getD rfl) hfirst hdocument
    hdevice.symm hpast (by simpa using hnear)

/-- Two machines have the document of one device. -/
theorem documents_two_machines :
    Reachable (bindingMachine threeDevices id).step (System.idle unboundTables)
      (bindingRun fetchAtOnce) ∧
    (bindingRun fetchAtOnce).shared.documents =
      [⟨"first", "phone", 0⟩, ⟨"first", "laptop", 0⟩] := by
  exact ⟨reachable_getD _, rfl⟩

end RiseVpn.Control
