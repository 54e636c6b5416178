import RiseVpn.Library.RowLocking

/-!
# Handlers whose statements may fail

A `Handler` is a program that talks to a database and to other services. Every statement and every
call has a `point`, at which it is executed and reports so, fails, or is executed while the report
is lost (`Outcome`). A failed statement is also one that the database refuses. Outside a transaction
a statement takes effect at once. Inside, it takes effect with the commit, and after a failure the
transaction can only be rolled back.

`Handler.AllOrNothing` says that, whatever fails, a handler leaves the database as it was or in a
state with a property. `Handler.Commits` says that a handler inside a transaction commits only such
states and otherwise gives up, and `AllOrNothing.start` is the rule that joins the two.
`Handler.ofTxn` runs a transaction of `RowLocking` in this way, on a part of the database, and
`commits_ofTxn` reduces it to what the transaction commits alone.
-/

set_option autoImplicit false

namespace FallibleStatements

/-- What happens at a point: the statement is executed, it fails, or it is executed and the report
is lost. -/
inductive Outcome
  | done
  | failed
  | lost
  deriving DecidableEq

/-- A handler. A statement goes on with the state it has seen, or with nothing after a failure; the
other operations go on with their success. -/
inductive Handler (Point Db Answer : Type*)
  | answer (value : Answer)
  | statement (point : Point) (write : Db → Db) (next : Option Db → Handler Point Db Answer)
  | call (point : Point) (next : Bool → Handler Point Db Answer)
  | start (point : Point) (next : Bool → Handler Point Db Answer)
  | commit (point : Point) (next : Bool → Handler Point Db Answer)

inductive Transaction (Db : Type*)
  | none
  | opened (working : Db)
  | aborted

namespace Handler

variable {Point Db Answer : Type*}

/-- Runs a handler: the committed state it leaves and its answer. -/
def run (faults : Point → Outcome) :
    Handler Point Db Answer → Db → Transaction Db → Db × Answer
  | .answer value, db, _ => (db, value)
  | .statement point write next, db, .none =>
    match faults point with
    | .done => (next (some db)).run faults (write db) .none
    | .failed => (next none).run faults db .none
    | .lost => (next none).run faults (write db) .none
  | .statement point write next, db, .opened working =>
    match faults point with
    | .done => (next (some working)).run faults db (.opened (write working))
    | .failed | .lost => (next none).run faults db .aborted
  | .statement _ _ next, db, .aborted => (next none).run faults db .aborted
  | .call point next, db, transaction => (next (faults point = .done)).run faults db transaction
  | .start point next, db, transaction =>
    match faults point with
    | .done => (next true).run faults db (.opened db)
    | .failed | .lost => (next false).run faults db transaction
  | .commit point next, db, .opened working =>
    match faults point with
    | .done => (next true).run faults working .none
    | .failed => (next false).run faults db .none
    | .lost => (next false).run faults working .none
  | .commit _ next, db, _ => (next false).run faults db .none

def query {α : Type*} (point : Point) (read : Db → α) (next : Option α → Handler Point Db Answer) :
    Handler Point Db Answer :=
  .statement point id fun seen ↦ next (seen.map read)

/-- Statements one after the other, up to the first that fails. -/
def statements (failed : Handler Point Db Answer) :
    List (Point × (Db → Db)) → Handler Point Db Answer → Handler Point Db Answer
  | [], rest => rest
  | (point, write) :: more, rest => .statement point write fun
    | none => failed
    | some _ => statements failed more rest

def Answers (handler : Handler Point Db Answer) : Prop := ∃ value, handler = .answer value

/-- Inside a transaction, a handler that commits only states with the property, gives up after a
failure, and is done after the commit. -/
def Commits (property : Db → Prop) : Handler Point Db Answer → Db → Prop
  | .answer _, _ => True
  | .statement _ write next, working =>
    (next none).Answers ∧ (next (some working)).Commits property (write working)
  | .commit _ next, working => property working ∧ (next true).Answers ∧ (next false).Answers
  | .call _ _, _ => False
  | .start _ _, _ => False

variable {faults : Point → Outcome} {db : Db}

theorem Answers.run {handler : Handler Point Db Answer} (hanswers : handler.Answers)
    (faults : Point → Outcome) (db : Db) (transaction : Transaction Db) :
    (handler.run faults db transaction).1 = db := by
  obtain ⟨value, rfl⟩ := hanswers
  cases transaction <;> rfl

theorem run_query {α : Type*} (point : Point) (read : Db → α)
    (next : Option α → Handler Point Db Answer) :
    (query point read next).run faults db .none =
      (next (if faults point = .done then some (read db) else none)).run faults db .none := by
  rw [query, Handler.run]
  cases faults point <;> rfl

theorem run_of_commits {property : Db → Prop} {handler : Handler Point Db Answer} {working : Db}
    (hcommits : handler.Commits property working) :
    (handler.run faults db (.opened working)).1 = db ∨
      property (handler.run faults db (.opened working)).1 := by
  induction handler generalizing working with
  | answer value => exact .inl rfl
  | statement point write next ih =>
    obtain ⟨hgivesUp, hcommits⟩ := hcommits
    rw [run]
    cases faults point with
    | done => exact ih (some working) hcommits
    | failed => exact .inl (hgivesUp.run ..)
    | lost => exact .inl (hgivesUp.run ..)
  | call point next ih => exact hcommits.elim
  | start point next ih => exact hcommits.elim
  | commit point next ih =>
    obtain ⟨hproperty, hdone, hfailed⟩ := hcommits
    rw [run]
    cases faults point with
    | done =>
      right
      rwa [hdone.run]
    | failed => exact .inl (hfailed.run ..)
    | lost =>
      right
      rwa [hfailed.run]

/-- Whatever fails, the handler leaves the database as it was or in a state with the property. -/
def AllOrNothing (property : Db → Prop) (handler : Handler Point Db Answer) (db : Db) : Prop :=
  ∀ faults : Point → Outcome,
    (handler.run faults db .none).1 = db ∨ property (handler.run faults db .none).1

section

variable {property : Db → Prop}

theorem AllOrNothing.answer (value : Answer) :
    (Handler.answer value : Handler Point Db Answer).AllOrNothing property db := fun _ ↦ .inl rfl

theorem AllOrNothing.ite {condition : Prop} [Decidable condition]
    {first second : Handler Point Db Answer} (hfirst : first.AllOrNothing property db)
    (hsecond : second.AllOrNothing property db) :
    (if condition then first else second).AllOrNothing property db := by
  split_ifs
  · exact hfirst
  · exact hsecond

theorem AllOrNothing.query {α : Type*} {point : Point} {read : Db → α}
    {next : Option α → Handler Point Db Answer}
    (hnext : ∀ seen, (next seen).AllOrNothing property db) :
    (Handler.query point read next).AllOrNothing property db := by
  intro faults
  rw [run_query]
  exact hnext _ faults

/-- The rule for a handler that opens a transaction. Assumes: it gives up when it cannot, and then
commits only states with a property. -/
theorem AllOrNothing.start {point : Point} {next : Bool → Handler Point Db Answer}
    (hgivesUp : (next false).Answers) (hcommits : (next true).Commits property db) :
    (Handler.start point next).AllOrNothing property db := by
  intro faults
  rw [run]
  cases faults point with
  | done => exact run_of_commits hcommits
  | failed => exact .inl (hgivesUp.run ..)
  | lost => exact .inl (hgivesUp.run ..)

/-- Statements in a transaction. Assumes: a handler that gives up at a failure, and what comes after
the statements commits only states with a property. -/
theorem commits_statements {failed rest : Handler Point Db Answer} (hfailed : failed.Answers)
    (writes : List (Point × (Db → Db))) {working : Db}
    (hrest : rest.Commits property (writes.foldl (fun db write ↦ write.2 db) working)) :
    (statements failed writes rest).Commits property working := by
  induction writes generalizing working with
  | nil => exact hrest
  | cons write more ih => exact ⟨hfailed, ih hrest⟩

end

end Handler

/-! ### Transactions under row locks -/

structure Part (Whole Db : Type*) where
  get : Whole → Db
  put : Db → Whole → Whole
  get_put : ∀ db whole, get (put db whole) = db
  put_get : ∀ whole, put (get whole) whole = whole
  put_put : ∀ first second whole, put second (put first whole) = put second whole

section OfTxn

variable {Point Whole Db Answer Key Error : Type*}

/-- The statements of a transaction of `RowLocking`, numbered from `count`. `failed` is the answer
to a failure at a statement. -/
def Handler.ofTxn (part : Part Whole Db) (point : ℕ → Point) (last : Point)
    (failed : ℕ → Answer) (succeeded : Answer) (refused : Error → Answer) :
    RowLocking.Txn Key Db Error → ℕ → Handler Point Whole Answer
  | .commit, count => .commit last fun ok ↦ .answer (if ok then succeeded else failed count)
  | .abort error, _ => .answer (refused error)
  | .stmt _ write next, count =>
    .statement (point count)
      (fun whole ↦ part.put (write (part.get whole) (part.get whole)) whole) fun
      | none => .answer (failed count)
      | some whole => ofTxn part point last failed succeeded refused (next (part.get whole))
          (count + 1)

theorem Handler.commits_ofTxn {part : Part Whole Db} {point : ℕ → Point} {last : Point}
    {failed : ℕ → Answer} {succeeded : Answer} {refused : Error → Answer} {property : Whole → Prop}
    (txn : RowLocking.Txn Key Db Error) (count : ℕ) {working : Whole}
    (hproperty : ∀ after, txn.run (part.get working) = .ok after →
      property (part.put after working)) :
    (ofTxn part point last failed succeeded refused txn count).Commits property working := by
  induction txn generalizing count working with
  | commit =>
    refine ⟨?_, ⟨_, rfl⟩, ⟨_, rfl⟩⟩
    have hlast := hproperty (part.get working) rfl
    rwa [part.put_get] at hlast
  | abort error => trivial
  | stmt locks write next ih =>
    rw [ofTxn]
    refine ⟨⟨_, rfl⟩, ih _ _ fun after hafter ↦ ?_⟩
    rw [part.get_put] at hafter
    rw [part.put_put]
    exact hproperty after hafter

end OfTxn

end FallibleStatements
