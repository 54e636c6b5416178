import RiseVpn.Control.Database
import RiseVpn.Library.GuardedRun
import RiseVpn.Node.Compliance

/-!
# The rate limit of the public routes

`rateLimit` counts the requests of a client address in Redis: `INCR` of a key and `EXPIRE NX` of it,
in one transaction. The first request of a window sets the expiry, later ones leave it, and a
request is refused when its count is above the limit. When Redis does not answer, the request
passes, whether or not it was counted. Redis is set up with `noeviction`, so a key is gone only
after its expiry.

A window starts with a request, and two windows next to each other may each let the whole limit
through. `passes_bounded` is what this gives in every run: within the length of a window, wherever
it starts, at most twice the limit of the requests of a key pass on an answer of Redis.
-/

set_option autoImplicit false

namespace RiseVpn.Control

open GuardedRun

/-! ### The counters -/

/-- The arguments of `rateLimit`. -/
structure RateRule where
  scope : String
  limit : ℕ
  window : ℤ
  positive : 0 < window

structure RateCounter where
  count : ℕ
  expiresAt : ℤ

/-- The counters in Redis, and when the requests of a key have passed on an answer of Redis. -/
structure RateStore where
  clock : ℤ
  counters : String → Option RateCounter
  passed : String → List ℤ

/-- What becomes of the transaction: the answer arrives, is lost, or nothing is executed. -/
inductive PipelineOutcome
  | answered
  | lost
  | failed

/-- `clientIP`, of the `X-Forwarded-For` header and the remote address. -/
def clientIp (forwarded remote : Text) : Text :=
  let first := trimSpace (forwarded.takeWhile (· ≠ ','))
  if first ≠ [] then first else hostOf remote

/-- The key of an address. `mac` is the encoded HMAC under the session secret. -/
def RateRule.key (mac : String → String) (rule : RateRule) (ip : Text) : String :=
  "rate:" ++ rule.scope ++ ":" ++ mac (rule.scope ++ "\x00" ++ String.ofList ip)

/-- `INCR` and `EXPIRE NX` of a key, at a time. -/
def RateRule.hit (rule : RateRule) (clock : ℤ) (counter : Option RateCounter) : RateCounter :=
  match counter with
  | none => ⟨1, clock + rule.window⟩
  | some counter =>
    if clock ≤ counter.expiresAt then ⟨counter.count + 1, counter.expiresAt⟩
    else ⟨1, clock + rule.window⟩

/-- The answer to a request over the limit, with its `Retry-After`. -/
def RateRule.refusal (rule : RateRule) : ℤ × Failure :=
  (rule.window / second,
    .problem 429 "rate-limit" "Слишком много запросов" "Повторите попытку позже.")

def RateStore.counted (store : RateStore) (rule : RateRule) (key : String) : RateStore :=
  { store with
    counters := Function.update store.counters key
      (some (rule.hit store.clock (store.counters key))) }

/-- `rateLimit` in front of a handler. -/
def RateStore.rateLimit (store : RateStore) (mac : String → String) (rule : RateRule)
    (forwarded remote : Text) (outcome : PipelineOutcome) :
    RateStore × Except (ℤ × Failure) Unit :=
  let key := rule.key mac (clientIp forwarded remote)
  match outcome with
  | .failed => (store, .ok ())
  | .lost => (store.counted rule key, .ok ())
  | .answered =>
    if rule.limit < (rule.hit store.clock (store.counters key)).count then
      (store.counted rule key, .error rule.refusal)
    else ({ store.counted rule key with
      passed := Function.update store.passed key (store.clock :: store.passed key) }, .ok ())

inductive RateEvent
  | request (forwarded remote : Text) (outcome : PipelineOutcome)
  | wait (duration : ℕ)

def RateStore.step (mac : String → String) (rule : RateRule) (store : RateStore) :
    RateEvent → Option RateStore
  | .request forwarded remote outcome =>
    some (store.rateLimit mac rule forwarded remote outcome).1
  | .wait duration => some { store with clock := store.clock + duration }

def RateStore.fresh (clock : ℤ) : RateStore := ⟨clock, fun _ ↦ none, fun _ ↦ []⟩

/-! ### Windows -/

/-- How many of some times lie between two times. -/
def timesWithin (times : List ℤ) (first last : ℤ) : ℕ :=
  times.countP fun time ↦ first ≤ time ∧ time ≤ last

/-- What holds of a counter and the times at which requests have passed. The window of the counter
ends with its expiry: the times in it are counted and within the limit, and so are those in the
window before. -/
structure Windowed (rule : RateRule) (clock : ℤ) (found : RateCounter) (times : List ℤ) :
    Prop where
  bounded : ∀ first, timesWithin times first (first + rule.window) ≤ 2 * rule.limit
  started : found.expiresAt - rule.window ≤ clock
  past : ∀ time ∈ times, time ≤ found.expiresAt
  current : timesWithin times (found.expiresAt - rule.window) found.expiresAt ≤
    min found.count rule.limit
  before : timesWithin times (found.expiresAt - rule.window - rule.window)
    (found.expiresAt - rule.window - 1) ≤ rule.limit

/-- Nothing has passed before the first request of a key. -/
def KeyWindowed (rule : RateRule) (clock : ℤ) (times : List ℤ) : Option RateCounter → Prop
  | none => times = []
  | some found => Windowed rule clock found times

section Windows

variable {rule : RateRule} {clock : ℤ} {counter : Option RateCounter} {times : List ℤ}

theorem timesWithin_cons (time first last : ℤ) :
    timesWithin (time :: times) first last =
      timesWithin times first last + if first ≤ time ∧ time ≤ last then 1 else 0 := by
  simp [timesWithin, List.countP_cons]

theorem timesWithin_le_of_subset {first last first' last' : ℤ}
    (hsubset : ∀ time ∈ times, first ≤ time → time ≤ last → first' ≤ time ∧ time ≤ last') :
    timesWithin times first last ≤ timesWithin times first' last' := by
  refine List.countP_mono_left fun time htime hwithin ↦ ?_
  rw [decide_eq_true_eq] at hwithin ⊢
  exact hsubset time htime hwithin.1 hwithin.2

theorem timesWithin_le_add (times : List ℤ) (first middle last : ℤ) :
    timesWithin times first last ≤
      timesWithin times first (middle - 1) + timesWithin times middle last := by
  induction times with
  | nil => exact Nat.le_refl 0
  | cons time times ih =>
    simp only [timesWithin_cons]
    split_ifs <;> omega

theorem KeyWindowed.wait (hwindowed : KeyWindowed rule clock times counter) (duration : ℕ) :
    KeyWindowed rule (clock + duration) times counter := by
  cases counter with
  | none => exact hwindowed
  | some found => exact { hwindowed with started := hwindowed.started.trans (by omega) }

/-- A request that is counted leaves room for itself in the count of an open window. -/
theorem KeyWindowed.hit (hwindowed : KeyWindowed rule clock times counter) {found : RateCounter}
    (hfound : rule.hit clock counter = found) :
    Windowed rule clock found times ∧ clock ≤ found.expiresAt ∧
      timesWithin times (found.expiresAt - rule.window) found.expiresAt < found.count := by
  have hpositive := rule.positive
  cases counter with
  | none =>
    cases (show times = [] from hwindowed)
    subst hfound
    exact ⟨⟨fun _ ↦ Nat.zero_le _, by simp [RateRule.hit], by simp, Nat.zero_le _, Nat.zero_le _⟩,
      by simp only [RateRule.hit]; omega, Nat.one_pos⟩
  | some old =>
    obtain ⟨hbounded, hstarted, hpast, hcurrent, hbefore⟩ := hwindowed
    simp only [RateRule.hit] at hfound
    split_ifs at hfound with hopen <;> subst hfound <;> dsimp only
    · exact ⟨⟨hbounded, hstarted, hpast, hcurrent.trans (by dsimp only; omega), hbefore⟩, hopen,
        by omega⟩
    · -- nothing has passed in the new window, and the one before lies in the one that has expired
      have hnone : timesWithin times (clock + rule.window - rule.window) (clock + rule.window) =
          0 := by
        refine List.countP_eq_zero.mpr fun time htime hwithin ↦ ?_
        have := hpast time htime
        rw [decide_eq_true_eq] at hwithin
        omega
      have hexpired : timesWithin times (clock + rule.window - rule.window - rule.window)
          (clock + rule.window - rule.window - 1) ≤ rule.limit := by
        refine (timesWithin_le_of_subset fun time htime hfirst _ ↦ ?_).trans
          (hcurrent.trans (min_le_right _ _))
        exact ⟨by omega, hpast time htime⟩
      refine ⟨⟨hbounded, by dsimp only; omega, fun time htime ↦ ?_, hnone.trans_le (Nat.zero_le _),
        hexpired⟩, by omega, by omega⟩
      have := hpast time htime
      dsimp only
      omega

theorem Windowed.pass {found : RateCounter} (hwindowed : Windowed rule clock found times)
    (hopen : clock ≤ found.expiresAt)
    (hroom : timesWithin times (found.expiresAt - rule.window) found.expiresAt < found.count)
    (hlimit : found.count ≤ rule.limit) : Windowed rule clock found (clock :: times) := by
  obtain ⟨hbounded, hstarted, hpast, -, hbefore⟩ := hwindowed
  have hpast' : ∀ time ∈ clock :: times, time ≤ found.expiresAt :=
    List.forall_mem_cons.mpr ⟨hopen, hpast⟩
  have hcurrent : timesWithin (clock :: times) (found.expiresAt - rule.window) found.expiresAt ≤
      found.count := by
    rw [timesWithin_cons, if_pos ⟨hstarted, hopen⟩]
    exact hroom
  -- the request is in the window, so the times before the window are the old ones
  have hold : ∀ first last, last < found.expiresAt - rule.window →
      timesWithin (clock :: times) first last = timesWithin times first last := by
    intro first last hlast
    rw [timesWithin_cons, if_neg (by omega), Nat.add_zero]
  refine ⟨fun first ↦ ?_, hstarted, hpast', le_min hcurrent (hcurrent.trans hlimit), ?_⟩
  · by_cases hlast : first + rule.window < found.expiresAt - rule.window
    · rw [hold first _ hlast]
      exact hbounded first
    · have hsplit := timesWithin_le_add (clock :: times) first (found.expiresAt - rule.window)
        (first + rule.window)
      have hfirst : timesWithin times first (found.expiresAt - rule.window - 1) ≤ rule.limit :=
        (timesWithin_le_of_subset fun time _ hle hle' ↦ ⟨by omega, hle'⟩).trans hbefore
      have hsecond : timesWithin (clock :: times) (found.expiresAt - rule.window)
          (first + rule.window) ≤ found.count :=
        (timesWithin_le_of_subset fun time htime hle _ ↦ ⟨hle, hpast' time htime⟩).trans hcurrent
      rw [hold first (found.expiresAt - rule.window - 1) (by omega)] at hsplit
      omega
  · rw [hold _ _ (by omega)]
    exact hbefore

theorem RateStore.windowed_rateLimit {mac : String → String} {store : RateStore}
    {forwarded remote : Text} {outcome : PipelineOutcome}
    (hstore : ∀ key, KeyWindowed rule store.clock (store.passed key) (store.counters key))
    (key : String) :
    let next := (store.rateLimit mac rule forwarded remote outcome).1
    KeyWindowed rule next.clock (next.passed key) (next.counters key) := by
  obtain ⟨hhit, hopen, hroom⟩ := (hstore (rule.key mac (clientIp forwarded remote))).hit rfl
  have hcounted : KeyWindowed rule store.clock (store.passed key)
      ((store.counted rule (rule.key mac (clientIp forwarded remote))).counters key) := by
    by_cases hkey : key = rule.key mac (clientIp forwarded remote)
    · subst hkey
      simpa [RateStore.counted, KeyWindowed] using hhit
    · simpa [RateStore.counted, hkey] using hstore key
  cases outcome with
  | failed => exact hstore key
  | lost => exact hcounted
  | answered =>
    simp only [RateStore.rateLimit]
    split_ifs with hlimit
    · exact hcounted
    · by_cases hkey : key = rule.key mac (clientIp forwarded remote)
      · subst hkey
        simpa [RateStore.counted, KeyWindowed] using hhit.pass hopen hroom (by omega)
      · simpa [RateStore.counted, hkey] using hstore key

end Windows

/-- Within the length of a window, at most twice the limit of the requests of a key pass on an
answer of Redis. -/
theorem passes_bounded {mac : String → String} {rule : RateRule} {clock : ℤ} {store : RateStore}
    (hreach : Reachable (RateStore.step mac rule) (.fresh clock) store) (key : String)
    (first : ℤ) :
    timesWithin (store.passed key) first (first + rule.window) ≤ 2 * rule.limit := by
  have hwindowed : ∀ key,
      KeyWindowed rule store.clock (store.passed key) (store.counters key) := by
    refine hreach.invariant (fun store ↦ ∀ key, KeyWindowed rule store.clock (store.passed key)
      (store.counters key)) (fun _ ↦ rfl) fun store event next hstore hstep other ↦ ?_
    cases event with
    | wait duration =>
      cases hstep
      exact (hstore other).wait duration
    | request forwarded remote outcome =>
      cases hstep
      exact RateStore.windowed_rateLimit hstore other
  specialize hwindowed key
  cases hcounter : store.counters key with
  | none =>
    rw [hcounter] at hwindowed
    rw [show store.passed key = [] from hwindowed]
    exact Nat.zero_le _
  | some found =>
    rw [hcounter] at hwindowed
    exact Windowed.bounded hwindowed first

/-- The limit of `adminMFAVerify`. -/
def mfaLimit : RateRule := ⟨"mfa", 10, 5 * minute, by decide⟩

def mfaAttempt : RateEvent := .request [] "10.0.0.1:443".toList .answered

/-- One attempt opens a window, nine come at its end, and eleven right after it. -/
def mfaAttempts : RateStore :=
  (run (RateStore.step id mfaLimit) (.fresh 0) ([mfaAttempt, .wait 300000000000] ++
    List.replicate 9 mfaAttempt ++ [.wait 1] ++ List.replicate 11 mfaAttempt)).getD (.fresh 0)

theorem passes_bounded_mfa :
    timesWithin (mfaAttempts.passed (mfaLimit.key id "10.0.0.1".toList)) (5 * minute)
      (5 * minute + mfaLimit.window) = 19 ∧
    ∀ key first, timesWithin (mfaAttempts.passed key) first (first + mfaLimit.window) ≤ 20 :=
  ⟨by decide +kernel, passes_bounded (reachable_getD _)⟩

end RiseVpn.Control
