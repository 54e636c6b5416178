import RiseVpn.Library.GuardedRun
import Mathlib.Data.Fintype.Basic
import Mathlib.Data.List.Basic

/-!
# Transactions under row locks, and their serialization at commit

A transaction is a tree of statements (`Txn`). A statement takes row locks, computes from the state
it sees the write it makes, and goes on with what it read; a transaction ends in a commit or in an
error. `Txn.run` executes a transaction alone. `Txn.select`, `Txn.update` and `Txn.append` are the
usual statements: read what is locked, write what is locked, write where no lock is needed.

A `System` executes transactions of several sessions interleaved statement by statement. A session
sees the committed state with its own pending writes on top, a statement waits until no other
session holds one of its locks, locks are held until the session ends, a commit publishes the
pending writes at once, and a session may be rolled back at any point. Reads that no lock protects
see the committed state of their moment.

What the locks protect is given by `view`, the part of the state behind each key. A transaction is
`Local` when it goes on only with what its locks protect and writes only behind its locks; anything
outside every view (a queue it appends to, a log) it may read and write freely. `local_select`,
`local_update` and `local_append` are the rules for the usual statements.

`commit_serial` is the result: under local transactions, a session that commits leaves, in every
view, what the transaction run alone on the committed state of that moment leaves. So an interleaved
run commits a sequence of transactions each of which took effect at one point, and a property of the
views kept by every transaction run alone holds of every committed state
(`reachable_view_invariant`). `reachable_of_run` is the converse for a transaction that nothing
disturbs.
-/

set_option autoImplicit false

namespace RowLocking

/-! ### Transactions -/

/-- A transaction. A statement first takes its locks; on the state `db` the session then sees it
makes the write `write db` and goes on with `next db`. -/
inductive Txn (Key Db Error : Type*)
  | commit
  | abort (error : Error)
  | stmt (locks : List Key) (write : Db → Db → Db) (next : Db → Txn Key Db Error)

section Alone

variable {Key Db Error : Type*}

def Txn.run : Txn Key Db Error → Db → Except Error Db
  | .commit, db => .ok db
  | .abort error, _ => .error error
  | .stmt _ write next, db => (next db).run (write db db)

@[simp] theorem Txn.run_commit (db : Db) : (Txn.commit : Txn Key Db Error).run db = .ok db := rfl

@[simp] theorem Txn.run_abort (error : Error) (db : Db) :
    (Txn.abort error : Txn Key Db Error).run db = .error error := rfl

/-- A statement that locks rows and reads them. -/
def Txn.select {α : Type*} (locks : List Key) (read : Db → α) (next : α → Txn Key Db Error) :
    Txn Key Db Error := .stmt locks (fun _ db ↦ db) fun db ↦ next (read db)

/-- A statement that locks rows and writes them. -/
def Txn.update (locks : List Key) (write : Db → Db) (rest : Txn Key Db Error) :
    Txn Key Db Error := .stmt locks (fun _ ↦ write) fun _ ↦ rest

/-- A statement that locks nothing. What it writes may depend on all it sees. -/
def Txn.append (write : Db → Db → Db) (rest : Txn Key Db Error) : Txn Key Db Error :=
  .stmt [] write fun _ ↦ rest

@[simp] theorem Txn.run_select {α : Type*} (locks : List Key) (read : Db → α)
    (next : α → Txn Key Db Error) (db : Db) :
    (Txn.select locks read next).run db = (next (read db)).run db := rfl

@[simp] theorem Txn.run_update (locks : List Key) (write : Db → Db) (rest : Txn Key Db Error)
    (db : Db) : (Txn.update locks write rest).run db = rest.run (write db) := rfl

end Alone

/-! ### Interleaved sessions -/

/-- An open transaction: the request it serves, the locks it holds, its pending writes and the
statements it has left. -/
structure Session (Key Db Error Request : Type*) where
  request : Request
  held : List Key
  pending : Db → Db
  rest : Txn Key Db Error

structure System (Slot Key Db Error Request : Type*) where
  db : Db
  sessions : Slot → Option (Session Key Db Error Request)

/-- A session begins, executes its next statement, commits, or is rolled back. -/
inductive Event (Slot Request : Type*)
  | start (slot : Slot) (request : Request)
  | exec (slot : Slot)
  | commit (slot : Slot)
  | rollback (slot : Slot)

section Interleaved

variable {Slot Key Db Error Request : Type*} [Fintype Slot] [DecidableEq Slot] [DecidableEq Key]

def System.set (system : System Slot Key Db Error Request) (slot : Slot)
    (session : Option (Session Key Db Error Request)) : System Slot Key Db Error Request :=
  { system with sessions := Function.update system.sessions slot session }

/-- No session other than that of `slot` holds one of `locks`. -/
def LocksFree (system : System Slot Key Db Error Request) (slot : Slot) (locks : List Key) : Prop :=
  ∀ other, other ≠ slot → ∀ session ∈ system.sessions other, ∀ key ∈ locks, key ∉ session.held

instance (system : System Slot Key Db Error Request) (slot : Slot) (locks : List Key) :
    Decidable (LocksFree system slot locks) := inferInstanceAs (Decidable (∀ _, _))

/-- One event of the interleaved system. A statement whose locks are not free, a commit with
statements left and a start on a busy slot are refused. -/
def step (program : Request → Txn Key Db Error) (system : System Slot Key Db Error Request) :
    Event Slot Request → Option (System Slot Key Db Error Request)
  | .start slot request =>
    match system.sessions slot with
    | none => some (system.set slot (some ⟨request, [], id, program request⟩))
    | some _ => none
  | .exec slot =>
    match system.sessions slot with
    | some ⟨request, held, pending, .stmt locks write next⟩ =>
      if LocksFree system slot locks then
        some (system.set slot (some ⟨request, held ++ locks,
          write (pending system.db) ∘ pending, next (pending system.db)⟩))
      else none
    | _ => none
  | .commit slot =>
    match system.sessions slot with
    | some ⟨_, _, pending, .commit⟩ =>
      some { system.set slot none with db := pending system.db }
    | _ => none
  | .rollback slot =>
    match system.sessions slot with
    | some _ => some (system.set slot none)
    | none => none

end Interleaved

/-! ### What a step can do -/

section Steps

variable {Slot Key Db Error Request : Type*} [DecidableEq Slot]

@[simp] theorem System.set_self (system : System Slot Key Db Error Request) (slot : Slot)
    (session : Option (Session Key Db Error Request)) :
    (system.set slot session).sessions slot = session := by
  simp [System.set]

theorem System.set_of_ne (system : System Slot Key Db Error Request) {slot other : Slot}
    (session : Option (Session Key Db Error Request)) (hne : other ≠ slot) :
    (system.set slot session).sessions other = system.sessions other := by
  simp [System.set, hne]

variable [Fintype Slot] [DecidableEq Key] {program : Request → Txn Key Db Error}
  {system next : System Slot Key Db Error Request} {event : Event Slot Request}

theorem step_cases (hstep : step program system event = some next) :
    (∃ slot request, event = .start slot request ∧ system.sessions slot = none ∧
      next = system.set slot (some ⟨request, [], id, program request⟩)) ∨
    (∃ slot request held pending locks write continue', event = .exec slot ∧
      system.sessions slot = some ⟨request, held, pending, .stmt locks write continue'⟩ ∧
      LocksFree system slot locks ∧
      next = system.set slot (some ⟨request, held ++ locks,
        write (pending system.db) ∘ pending, continue' (pending system.db)⟩)) ∨
    (∃ slot session, event = .commit slot ∧ system.sessions slot = some session ∧
      session.rest = .commit ∧
      next = { system.set slot none with db := session.pending system.db }) ∨
    (∃ slot session, event = .rollback slot ∧ system.sessions slot = some session ∧
      next = system.set slot none) := by
  cases event with
  | start slot request =>
    left
    simp only [step] at hstep
    split at hstep
    · rename_i hslot
      exact ⟨slot, request, rfl, hslot, (Option.some.inj hstep).symm⟩
    · cases hstep
  | exec slot =>
    right; left
    simp only [step] at hstep
    split at hstep
    · rename_i request held pending locks write continue' hslot
      split_ifs at hstep with hfree
      exact ⟨slot, request, held, pending, locks, write, continue', rfl, hslot, hfree,
        (Option.some.inj hstep).symm⟩
    · cases hstep
  | commit slot =>
    right; right; left
    simp only [step] at hstep
    split at hstep
    · rename_i request held pending hslot
      exact ⟨slot, _, rfl, hslot, rfl, (Option.some.inj hstep).symm⟩
    · cases hstep
  | rollback slot =>
    right; right; right
    simp only [step] at hstep
    split at hstep
    · rename_i session hslot
      exact ⟨slot, session, rfl, hslot, (Option.some.inj hstep).symm⟩
    · cases hstep

end Steps

/-! ### Locality -/

section Locality

variable {Key Db Error Row : Type*} (view : Key → Db → Row)

/-- Two states hold the same behind each of `keys`. -/
def Agree (keys : List Key) (db db' : Db) : Prop := ∀ key ∈ keys, view key db = view key db'

/-- Two writes do the same in every view. -/
def SameWrite (write write' : Db → Db) : Prop :=
  ∀ key db db', view key db = view key db' → view key (write db) = view key (write' db')

/-- A write changes no view but those of `keys`. -/
def WritesOnly (keys : List Key) (write : Db → Db) : Prop :=
  ∀ key db, key ∉ keys → view key (write db) = view key db

/-- A write behind `keys`: it changes no other view, and what it makes of these depends on what they
hold only. -/
structure Writes (keys : List Key) (write : Db → Db) : Prop where
  inside : ∀ key ∈ keys, ∀ db db', view key db = view key db' →
    view key (write db) = view key (write db')
  outside : ∀ key ∉ keys, ∀ db, view key (write db) = view key db

/-- A transaction that already holds `held` goes on only with what its locks protect and writes
only behind its locks. -/
def Local : List Key → Txn Key Db Error → Prop
  | _, .commit => True
  | _, .abort _ => True
  | held, .stmt locks write next =>
    (∀ db db', Agree view (held ++ locks) db db' →
      next db = next db' ∧ SameWrite view (write db) (write db')) ∧
    (∀ db, WritesOnly view (held ++ locks) (write db)) ∧
    ∀ db, Local (held ++ locks) (next db)

variable {view}

theorem Writes.sameWrite {keys : List Key} {write : Db → Db} (hwrite : Writes view keys write) :
    SameWrite view write write := by
  intro key db db' hview
  by_cases hkey : key ∈ keys
  · exact hwrite.inside key hkey db db' hview
  · rw [hwrite.outside key hkey, hwrite.outside key hkey, hview]

theorem local_ite {held : List Key} {condition : Prop} [Decidable condition]
    {first second : Txn Key Db Error} (hfirst : Local view held first)
    (hsecond : Local view held second) :
    Local view held (if condition then first else second) := by
  split_ifs
  · exact hfirst
  · exact hsecond

theorem local_select {α : Type*} {held locks : List Key} {read : Db → α}
    {next : α → Txn Key Db Error}
    (hread : ∀ db db', Agree view locks db db' → read db = read db')
    (hnext : ∀ value, Local view (held ++ locks) (next value)) :
    Local view held (Txn.select locks read next) := by
  refine ⟨fun db db' hagree ↦ ⟨?_, fun _ _ _ hview ↦ hview⟩, fun _ _ _ _ ↦ rfl,
    fun db ↦ hnext (read db)⟩
  exact congrArg next (hread db db' fun key hkey ↦ hagree key (List.mem_append_right _ hkey))

theorem local_update {held locks : List Key} {write : Db → Db} {rest : Txn Key Db Error}
    (hwrite : Writes view locks write) (hrest : Local view (held ++ locks) rest) :
    Local view held (Txn.update locks write rest) := by
  refine ⟨fun _ _ _ ↦ ⟨rfl, hwrite.sameWrite⟩, fun _ key db hkey ↦ ?_, fun _ ↦ hrest⟩
  exact hwrite.outside key (fun hmem ↦ hkey (List.mem_append_right _ hmem)) db

theorem local_append {held : List Key} {write : Db → Db → Db} {rest : Txn Key Db Error}
    (hwrite : ∀ seen key db, view key (write seen db) = view key db)
    (hrest : Local view held rest) : Local view held (Txn.append write rest) := by
  refine ⟨fun db db' _ ↦ ⟨rfl, fun key x x' hview ↦ ?_⟩, fun db key x _ ↦ hwrite db key x,
    fun _ ↦ by simpa using hrest⟩
  rw [hwrite, hwrite, hview]

theorem SameWrite.trans {first second third : Db → Db} (hfirst : SameWrite view first second)
    (hsecond : SameWrite view second third) : SameWrite view first third := fun key db _ hview ↦
  (hfirst key db db rfl).trans (hsecond key db _ hview)

/-- The statements a transaction executes on a state that does not change meanwhile: the locks
taken, the writes pending and the statements left. -/
inductive Executed (txn : Txn Key Db Error) (db : Db) :
    List Key → (Db → Db) → Txn Key Db Error → Prop
  | start : Executed txn db [] id txn
  | exec {held : List Key} {pending : Db → Db} {locks : List Key} {write : Db → Db → Db}
      {next : Db → Txn Key Db Error}
      (hexecuted : Executed txn db held pending (.stmt locks write next)) :
      Executed txn db (held ++ locks) (write (pending db) ∘ pending) (next (pending db))

variable {txn rest : Txn Key Db Error} {db db' : Db} {held : List Key} {pending : Db → Db}

theorem Executed.run_eq (hexecuted : Executed txn db held pending rest) :
    txn.run db = rest.run (pending db) := by
  induction hexecuted with
  | start => rfl
  | exec _ ih => rw [ih]; rfl

theorem Executed.local_rest (hlocal : Local view [] txn)
    (hexecuted : Executed txn db held pending rest) : Local view held rest := by
  induction hexecuted with
  | start => exact hlocal
  | exec _ ih => exact ih.2.2 _

/-- Assumes: a local transaction, and two states that hold the same behind its locks. On the second
state it executes the same statements and its pending writes do the same. -/
theorem Executed.transfer (hlocal : Local view [] txn)
    (hexecuted : Executed txn db held pending rest) (hagree : Agree view held db db') :
    ∃ pending', Executed txn db' held pending' rest ∧ SameWrite view pending pending' := by
  induction hexecuted with
  | start => exact ⟨id, .start, fun _ _ _ hview ↦ hview⟩
  | @exec held pending locks write next hexecuted ih =>
    obtain ⟨pending', hexecuted', hsame⟩ := ih fun key hkey ↦
      hagree key (List.mem_append_left _ hkey)
    have hseen : Agree view (held ++ locks) (pending db) (pending' db') := fun key hkey ↦
      hsame key db db' (hagree key hkey)
    obtain ⟨hnext, hwrite⟩ := (hexecuted.local_rest hlocal).1 _ _ hseen
    refine ⟨write (pending' db') ∘ pending', hnext ▸ hexecuted'.exec, fun key x x' hview ↦ ?_⟩
    exact hwrite key _ _ (hsame key x x' hview)

end Locality

/-! ### Serialization -/

section Serialization

variable {Slot Key Db Error Request Row : Type*} (view : Key → Db → Row)
  (program : Request → Txn Key Db Error)

/-- An open session stands where its transaction, run alone on the committed state, would stand
after the same number of statements. -/
def Replays (db : Db) (session : Session Key Db Error Request) : Prop :=
  ∃ pending, Executed (program session.request) db session.held pending session.rest ∧
    SameWrite view session.pending pending ∧ WritesOnly view session.held session.pending

/-- The invariant of the interleaved system: every session replays, and no key is locked twice. -/
structure Serial (system : System Slot Key Db Error Request) : Prop where
  replays : ∀ slot, ∀ session ∈ system.sessions slot, Replays view program system.db session
  disjoint : ∀ slot other, slot ≠ other → ∀ session ∈ system.sessions slot,
    ∀ session' ∈ system.sessions other, ∀ key ∈ session.held, key ∉ session'.held

variable {view program}

theorem serial_idle (db : Db) :
    Serial view program (⟨db, fun _ ↦ none⟩ : System Slot Key Db Error Request) :=
  ⟨fun _ _ hsession ↦ (Option.not_mem_none _ hsession).elim,
    fun _ _ _ _ hsession ↦ (Option.not_mem_none _ hsession).elim⟩

theorem Replays.exec (hlocal : ∀ request, Local view [] (program request)) {db : Db}
    {request : Request} {held locks : List Key} {pending : Db → Db} {write : Db → Db → Db}
    {continue' : Db → Txn Key Db Error}
    (hreplays : Replays view program db ⟨request, held, pending, .stmt locks write continue'⟩) :
    Replays view program db ⟨request, held ++ locks, write (pending db) ∘ pending,
      continue' (pending db)⟩ := by
  obtain ⟨replayed, hexecuted, hsame, hwrites⟩ := hreplays
  have hlocalRest := hexecuted.local_rest (hlocal request)
  have hseen : Agree view (held ++ locks) (pending db) (replayed db) := fun key _ ↦
    hsame key db db rfl
  obtain ⟨hnext, hwrite⟩ := hlocalRest.1 _ _ hseen
  refine ⟨write (replayed db) ∘ replayed, hnext ▸ hexecuted.exec, ?_, ?_⟩
  · intro key x x' hview
    exact hwrite key _ _ (hsame key x x' hview)
  · intro key x hkey
    have houtside : key ∉ held := fun hmem ↦ hkey (List.mem_append_left _ hmem)
    exact (hlocalRest.2.1 _ key _ hkey).trans (hwrites key x houtside)

theorem Replays.transfer (hlocal : ∀ request, Local view [] (program request)) {db db' : Db}
    {session : Session Key Db Error Request} (hreplays : Replays view program db session)
    (hagree : Agree view session.held db db') : Replays view program db' session := by
  obtain ⟨replayed, hexecuted, hsame, hwrites⟩ := hreplays
  obtain ⟨replayed', hexecuted', hsame'⟩ := hexecuted.transfer (hlocal session.request) hagree
  exact ⟨replayed', hexecuted', hsame.trans hsame', hwrites⟩

variable [DecidableEq Slot] {system next : System Slot Key Db Error Request}
  {event : Event Slot Request}

theorem Serial.set (hserial : Serial view program system) (slot : Slot)
    (session : Option (Session Key Db Error Request))
    (hreplays : ∀ new ∈ session, Replays view program system.db new)
    (hfree : ∀ new ∈ session, ∀ other, other ≠ slot → ∀ old ∈ system.sessions other,
      ∀ key ∈ new.held, key ∉ old.held) : Serial view program (system.set slot session) := by
  constructor
  · intro other old hold
    by_cases hslot : other = slot
    · subst hslot
      rw [System.set_self] at hold
      exact hreplays old hold
    · rw [System.set_of_ne system session hslot] at hold
      exact hserial.replays other old hold
  · intro first second hne a ha b hb key hkey hkey'
    by_cases hfirst : first = slot
    · subst hfirst
      rw [System.set_self] at ha
      rw [System.set_of_ne system session hne.symm] at hb
      exact hfree a ha second hne.symm b hb key hkey hkey'
    · rw [System.set_of_ne system session hfirst] at ha
      by_cases hsecond : second = slot
      · subst hsecond
        rw [System.set_self] at hb
        exact hfree b hb first hfirst a ha key hkey' hkey
      · rw [System.set_of_ne system session hsecond] at hb
        exact hserial.disjoint first second hne a ha b hb key hkey hkey'

variable [Fintype Slot] [DecidableEq Key]

theorem serial_step (hlocal : ∀ request, Local view [] (program request))
    (hserial : Serial view program system) (hstep : step program system event = some next) :
    Serial view program next := by
  rcases step_cases hstep with ⟨slot, request, -, -, rfl⟩ |
    ⟨slot, request, held, pending, locks, write, continue', -, hslot, hfree, rfl⟩ |
    ⟨slot, session, -, hslot, -, rfl⟩ | ⟨slot, session, -, -, rfl⟩
  · refine hserial.set slot _ (fun new hnew ↦ ?_) (fun new hnew ↦ ?_)
    · cases hnew
      exact ⟨id, .start, fun _ _ _ hview ↦ hview, fun _ _ _ ↦ rfl⟩
    · cases hnew
      intro _ _ _ _ key hkey
      simp at hkey
  · have hold := hserial.replays slot _ hslot
    refine hserial.set slot _ (fun new hnew ↦ ?_) (fun new hnew ↦ ?_)
    · cases hnew
      exact hold.exec hlocal
    · cases hnew
      intro other hother old hmem key hkey
      rcases List.mem_append.mp hkey with hheld | hlocks
      · exact hserial.disjoint slot other hother.symm _ hslot old hmem key hheld
      · exact hfree other hother old hmem key hlocks
  · -- the committing session writes only behind its own locks, so every other session replays
    -- on the new committed state as well
    have hidle := hserial.set slot none (by simp) (by simp)
    refine ⟨fun other old hmem ↦ ?_, hidle.disjoint⟩
    have hother : other ≠ slot := by
      rintro rfl
      simp at hmem
    have hmem' : old ∈ system.sessions other := by
      simpa [System.set_of_ne system none hother] using hmem
    refine (hserial.replays other old hmem').transfer hlocal fun key hkey ↦ ?_
    obtain ⟨-, -, -, hwrites⟩ := hserial.replays slot session hslot
    exact (hwrites key system.db
      (hserial.disjoint other slot hother old hmem' session hslot key hkey)).symm
  · exact hserial.set slot none (by simp) (by simp)

/-- Serialization. Assumes: the invariant, and a commit. The transaction of the committing session,
run alone on the committed state before, succeeds, and the committed state after holds in every view
what it leaves. -/
theorem commit_serial (hserial : Serial view program system) {slot : Slot}
    (hstep : step program system (.commit slot) = some next) :
    ∃ session result, system.sessions slot = some session ∧
      (program session.request).run system.db = .ok result ∧
      ∀ key, view key next.db = view key result := by
  rcases step_cases hstep with ⟨_, _, h, -⟩ | ⟨_, _, _, _, _, _, _, h, -⟩ |
    ⟨slot', session, h, hslot, hrest, rfl⟩ | ⟨_, _, h, -⟩
  · cases h
  · cases h
  · cases h
    obtain ⟨replayed, hexecuted, hsame, -⟩ := hserial.replays slot session hslot
    refine ⟨session, replayed system.db, hslot, ?_, fun key ↦ hsame key _ _ rfl⟩
    rw [hexecuted.run_eq, hrest, Txn.run_commit]
  · cases h

theorem db_of_not_commit (hstep : step program system event = some next)
    (hevent : ∀ slot, event ≠ .commit slot) : next.db = system.db := by
  rcases step_cases hstep with ⟨_, _, -, -, rfl⟩ | ⟨_, _, _, _, _, _, _, -, -, -, rfl⟩ |
    ⟨slot, _, h, -⟩ | ⟨_, _, -, -, rfl⟩
  · rfl
  · rfl
  · exact absurd h (hevent slot)
  · rfl

/-- A condition on the requests that commit, and on the committed state each of them meets. -/
def CommitMeets (condition : Request → Db → Prop) (system : System Slot Key Db Error Request)
    (event : Event Slot Request) (_next : System Slot Key Db Error Request) : Prop :=
  ∀ slot session, event = .commit slot → system.sessions slot = some session →
    condition session.request system.db

/-- The step lemma for a property of the committed state. Assumes: local transactions, a property
that depends on the views only, and that every request meeting the condition keeps it when its
transaction runs alone. -/
theorem step_view_invariant (property : Db → Prop) (condition : Request → Db → Prop)
    (hview : ∀ db db', (∀ key, view key db = view key db') → property db → property db')
    (hkeeps : ∀ request db result, property db → condition request db →
      (program request).run db = .ok result → property result)
    (hserial : Serial view program system) (hproperty : property system.db)
    (hcondition : CommitMeets condition system event next)
    (hstep : step program system event = some next) : property next.db := by
  by_cases hcommit : ∃ slot, event = .commit slot
  · obtain ⟨slot, rfl⟩ := hcommit
    obtain ⟨session, result, hslot, hrun, hsame⟩ := commit_serial hserial hstep
    exact hview result next.db (fun key ↦ (hsame key).symm)
      (hkeeps session.request system.db result hproperty (hcondition slot session rfl hslot) hrun)
  · rw [db_of_not_commit hstep fun slot hevent ↦ hcommit ⟨slot, hevent⟩]
    exact hproperty

/-- The rule for interleaved runs. Assumes: those of `step_view_invariant`, the property at the
start, and a state reached from no open session by a run whose commits all meet the condition. The
property holds of its committed state. -/
theorem reachable_view_invariant {property : Db → Prop} {condition : Request → Db → Prop}
    (hlocal : ∀ request, Local view [] (program request))
    (hview : ∀ db db', (∀ key, view key db = view key db') → property db → property db')
    (hkeeps : ∀ request db result, property db → condition request db →
      (program request).run db = .ok result → property result)
    {db : Db} (hproperty : property db)
    (hreach : GuardedRun.ReachableUnder (step program) (CommitMeets condition) ⟨db, fun _ ↦ none⟩
      system) :
    property system.db := by
  have hinvariant : Serial view program system ∧ property system.db := by
    refine hreach.invariant (fun system ↦ Serial view program system ∧ property system.db)
      ⟨serial_idle db, hproperty⟩ ?_
    intro state event next hstate hcondition hstep
    exact ⟨serial_step hlocal hstate.1 hstep,
      step_view_invariant property condition hview hkeeps hstate.1 hstate.2 hcondition hstep⟩
  exact hinvariant.2

theorem serial_of_reachable (hlocal : ∀ request, Local view [] (program request)) {db : Db}
    (hreach : GuardedRun.Reachable (step program) ⟨db, fun _ ↦ none⟩ system) :
    Serial view program system :=
  hreach.invariant (Serial view program) (serial_idle db) fun _ _ _ hserial hstep ↦
    serial_step hlocal hserial hstep

end Serialization

/-! ### Undisturbed transactions -/

section Undisturbed

variable {Slot Key Db Error Request : Type*} [DecidableEq Slot] {db result : Db}

def only (db : Db) (slot : Slot) (session : Session Key Db Error Request) :
    System Slot Key Db Error Request := System.set ⟨db, fun _ ↦ none⟩ slot (some session)

theorem locksFree_only (slot : Slot) (session : Session Key Db Error Request) (locks : List Key) :
    LocksFree (only db slot session) slot locks := by
  intro other hother old hold
  rw [only, System.set_of_ne _ _ hother] at hold
  exact (Option.not_mem_none _ hold).elim

variable [Fintype Slot] [DecidableEq Key] {program : Request → Txn Key Db Error}

theorem reachable_commit (condition : Request → Db → Prop) (slot : Slot) (request : Request) :
    ∀ (rest : Txn Key Db Error) (held : List Key) (pending : Db → Db),
      rest.run (pending db) = .ok result → ∃ held' pending', pending' db = result ∧
        GuardedRun.ReachableUnder (step program) (CommitMeets condition)
          (only db slot ⟨request, held, pending, rest⟩)
          (only db slot ⟨request, held', pending', .commit⟩) := by
  intro rest
  induction rest with
  | commit =>
    intro held pending hrun
    exact ⟨held, pending, Except.ok.inj hrun, .refl⟩
  | abort error =>
    intro held pending hrun
    cases hrun
  | stmt locks write next ih =>
    intro held pending hrun
    obtain ⟨held', pending', hresult, hreach⟩ :=
      ih (pending db) (held ++ locks) (write (pending db) ∘ pending) hrun
    have hstep : step program (only db slot ⟨request, held, pending, .stmt locks write next⟩)
        (.exec slot) = some (only db slot ⟨request, held ++ locks, write (pending db) ∘ pending,
          next (pending db)⟩) := by
      have hfree : LocksFree (only db slot ⟨request, held, pending, .stmt locks write next⟩) slot
          locks := locksFree_only slot _ locks
      have hself : (only db slot ⟨request, held, pending, .stmt locks write next⟩).sessions slot =
          some ⟨request, held, pending, .stmt locks write next⟩ := System.set_self _ _ _
      simp only [step, hself, if_pos hfree]
      simp [only, System.set]
    refine ⟨held', pending', hresult, .trans (.next .refl hstep ?_) hreach⟩
    exact fun _ _ hevent ↦ nomatch hevent

/-- Assumes: a transaction that, run alone, succeeds. Started in a system with no other transaction
it reaches its commit, and the commit leaves what the run left. -/
theorem reachable_of_run (condition : Request → Db → Prop) (slot : Slot) {request : Request}
    (hrun : (program request).run db = .ok result) :
    ∃ session, session.request = request ∧
      GuardedRun.ReachableUnder (step program) (CommitMeets condition)
        (⟨db, fun _ ↦ none⟩ : System Slot Key Db Error Request) (only db slot session) ∧
      step program (only db slot session) (.commit slot) = some ⟨result, fun _ ↦ none⟩ := by
  obtain ⟨held, pending, hresult, hreach⟩ : ∃ held' pending', pending' db = result ∧
      GuardedRun.ReachableUnder (step program) (CommitMeets condition)
        (only db slot ⟨request, [], id, program request⟩)
        (only db slot ⟨request, held', pending', .commit⟩) :=
    reachable_commit condition slot request (program request) [] id hrun
  refine ⟨⟨request, held, pending, .commit⟩, rfl, ?_, ?_⟩
  · have hstart : step program (⟨db, fun _ ↦ none⟩ : System Slot Key Db Error Request)
        (.start slot request) = some (only db slot ⟨request, [], id, program request⟩) := rfl
    exact .trans (.next .refl hstart fun _ _ hevent ↦ nomatch hevent) hreach
  · have hself : (only db slot ⟨request, held, pending, (.commit : Txn Key Db Error)⟩).sessions
        slot = some ⟨request, held, pending, .commit⟩ := System.set_self _ _ _
    simp only [step, hself]
    simp [only, System.set, hresult]

end Undisturbed

end RowLocking
