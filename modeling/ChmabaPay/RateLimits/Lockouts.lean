import ChmabaPay.RateLimit

/-! # Lockouts of an attack

Each failure past the threshold doubles the lock of the email, up to an hour. The record of the
failures is kept for an hour as well, from the moment the last one was stored. While the locks
are shorter than that the record outlives them; the first lock of an hour ends as its record
does, and the failure that follows counts as the first again.
-/

namespace ChmabaPay

open ExpiringCache

/-! ## Locks -/

section Locks

variable {threshold : ℤ}

theorem lockSeconds_of_long {count : ℕ} (hlong : threshold + 6 ≤ count) :
    lockSeconds threshold count = loginLockMaxSeconds := by
  have hpower : (2 : ℚ) ^ 6 ≤ 2 ^ (count - threshold).toNat :=
    pow_le_pow_right₀ (by norm_num) (by omega)
  rw [lockSeconds, if_pos (by omega), min_eq_right]
  unfold loginLockBaseSeconds loginLockMaxSeconds
  linarith

/-- Before the lock of an hour the longest is the one of 32 minutes. -/
theorem lockSeconds_of_short {count : ℕ} (hshort : (count : ℤ) < threshold + 6) :
    lockSeconds threshold count ≤ 1920 := by
  rw [lockSeconds]
  split
  · have hpower : (2 : ℚ) ^ (count - threshold).toNat ≤ 2 ^ 5 :=
      pow_le_pow_right₀ (by norm_num) (by omega)
    refine (min_le_left _ _).trans ?_
    unfold loginLockBaseSeconds
    linarith
  · norm_num

theorem lockSeconds_nonneg (count : ℕ) : 0 ≤ lockSeconds threshold count := by
  rw [lockSeconds]
  split
  · unfold loginLockBaseSeconds loginLockMaxSeconds
    positivity
  · exact le_rfl

theorem lockSeconds_mono {count later : ℕ} (hlater : count ≤ later) :
    lockSeconds threshold count ≤ lockSeconds threshold later := by
  by_cases hlocked : threshold ≤ count
  · have hpower : (2 : ℚ) ^ (count - threshold).toNat ≤ 2 ^ (later - threshold).toNat :=
      pow_le_pow_right₀ (by norm_num) (by omega)
    rw [lockSeconds, lockSeconds, if_pos hlocked, if_pos (by omega)]
    unfold loginLockBaseSeconds
    exact min_le_min_right _ (by linarith)
  · rw [lockSeconds, if_neg hlocked]
    exact lockSeconds_nonneg later

end Locks

/-! ## An attack -/

/-- The lock that a failure imposes, 0 while its record is under the threshold. -/
def LoginLockout.imposed (threshold : ℤ) (lockout : LoginLockout) (email : List Char)
    (clock : FailureClock) : ℚ :=
  let record := lockout.failed threshold email clock
  if threshold ≤ record.count then record.lockedUntil - clock.now else 0

/-- The locks that one failure of the email after the other imposes. -/
def LoginLockout.imposedLocks (threshold : ℤ) (email : List Char) :
    LoginLockout → List FailureClock → List ℚ
  | _, [] => []
  | lockout, clock :: rest =>
      lockout.imposed threshold email clock ::
        imposedLocks threshold email (lockout.recordFailure threshold email clock).1 rest

/-- The locks as they double, from one failure past this count on. -/
def promisedLocks (threshold : ℤ) (count failures : ℕ) : List ℚ :=
  (List.range failures).map fun failure => lockSeconds threshold (count + failure + 1)

/-- Every failure comes when the lock before it is over, and within a minute of that. -/
def Persists (threshold : ℤ) (email : List Char) :
    LoginLockout → ℚ → ℚ → List FailureClock → Prop
  | _, _, _, [] => True
  | lockout, free, moment, clock :: rest =>
      (free ≤ clock.looked ∧ clock.looked ≤ free + 60) ∧
        (moment ≤ clock.looked ∧ clock.looked ≤ clock.now ∧ clock.now ≤ clock.stored ∧
          clock.stored ≤ clock.asked ∧ clock.asked ≤ clock.read) ∧
        Persists threshold email (lockout.recordFailure threshold email clock).1
          (clock.now + lockout.imposed threshold email clock) clock.read rest

/-- Each failure after a lock of an hour is looked up before the record of the one in front of
it is over. The first of these failures is counted as this one. -/
def FindsRecord (threshold : ℤ) (count : ℕ) (clocks : List FailureClock) : Prop :=
  ∀ before previous next after, clocks = before ++ previous :: next :: after →
    threshold + 6 ≤ (count + before.length : ℕ) →
      next.looked < previous.stored + loginLockMaxSeconds

/-! ## One failure -/

section Failures

variable {threshold : ℤ} {lockout : LoginLockout} {email : List Char} {clock : FailureClock}

theorem fail_count (entry : LoginFailures) (now : ℚ) :
    (entry.fail threshold now).count = entry.count + 1 := by
  rw [LoginFailures.fail]
  split <;> rfl

/-- The lock is the one its count asks for. -/
theorem imposed_eq (lockout : LoginLockout) (email : List Char) (clock : FailureClock) :
    lockout.imposed threshold email clock =
      lockSeconds threshold (lockout.failed threshold email clock).count := by
  have hcount : (lockout.failed threshold email clock).count = _ := fail_count _ clock.now
  by_cases hlocked : threshold ≤ (lockout.failed threshold email clock).count
  · have huntil : (lockout.failed threshold email clock).lockedUntil =
        clock.now + lockSeconds threshold (lockout.failed threshold email clock).count := by
      rw [hcount] at hlocked ⊢
      rw [LoginLockout.failed, LoginFailures.fail, if_pos hlocked]
    rw [LoginLockout.imposed, if_pos hlocked, huntil, add_sub_cancel_left]
  · rw [LoginLockout.imposed, if_neg hlocked, lockSeconds, if_neg hlocked]

theorem failed_of_found {entry : LoginFailures} {expires : ℚ}
    (hentry : lockout email = some (entry, expires)) (hfound : clock.looked < expires) :
    (lockout.failed threshold email clock).count = entry.count + 1 := by
  rw [LoginLockout.failed, Cache.get_of_eq hentry, if_pos hfound, fail_count]
  rfl

theorem failed_of_over {entry : LoginFailures} {expires : ℚ}
    (hentry : lockout email = some (entry, expires)) (hover : expires ≤ clock.looked) :
    (lockout.failed threshold email clock).count = 1 := by
  rw [LoginLockout.failed, Cache.get_of_eq hentry, if_neg (not_lt.mpr hover), fail_count]
  rfl

theorem failed_of_unknown (hunknown : lockout email = none) :
    (lockout.failed threshold email clock).count = 1 := by
  rw [LoginLockout.failed, Cache.get_of_none hunknown, fail_count]
  rfl

theorem recordFailure_self :
    (lockout.recordFailure threshold email clock).1 email =
      some (lockout.failed threshold email clock, clock.stored + loginLockMaxSeconds) :=
  Cache.set_self _ _ _

end Failures

/-! ## The count of an attack -/

section Attack

variable {threshold : ℤ} {email : List Char}

theorem promisedLocks_succ (count failures : ℕ) :
    promisedLocks threshold count (failures + 1) =
      lockSeconds threshold (count + 1) :: promisedLocks threshold (count + 1) failures := by
  rw [promisedLocks, List.range_succ_eq_map, List.map_cons, List.map_map]
  refine congrArg (_ :: ·) (List.map_congr_left fun failure _ => ?_)
  rw [Function.comp_apply, Nat.succ_eq_add_one, Nat.add_right_comm count 1, ← Nat.add_assoc]

theorem promisedLocks_sorted (count failures : ℕ) :
    (promisedLocks threshold count failures).Pairwise (· ≤ ·) :=
  List.pairwise_map.mpr (List.pairwise_lt_range.imp fun hlt => lockSeconds_mono (by omega))

theorem findsRecord_singleton (count : ℕ) (clock : FailureClock) :
    FindsRecord threshold count [clock] := by
  intro before previous next after hsplit
  have hlength := congrArg List.length hsplit
  simp only [List.length_append, List.length_cons, List.length_nil] at hlength
  omega

theorem findsRecord_cons (count : ℕ) (previous next : FailureClock) (rest : List FailureClock) :
    FindsRecord threshold count (previous :: next :: rest) ↔
      (threshold + 6 ≤ count → next.looked < previous.stored + loginLockMaxSeconds) ∧
        FindsRecord threshold (count + 1) (next :: rest) := by
  constructor
  · intro hfinds
    refine ⟨fun hlong => hfinds [] previous next rest rfl hlong, ?_⟩
    intro before first second after hsplit hlong
    refine hfinds (previous :: before) first second after (congrArg (_ :: ·) hsplit) ?_
    rw [List.length_cons]
    omega
  · rintro ⟨hfirst, hrest⟩ before one two after hsplit hlong
    cases before with
    | nil =>
        obtain ⟨rfl, hrest⟩ := List.cons.inj hsplit
        obtain ⟨rfl, -⟩ := List.cons.inj hrest
        exact hfirst hlong
    | cons first before =>
        obtain ⟨-, hbehind⟩ := List.cons.inj hsplit
        refine hrest before one two after hbehind ?_
        rw [List.length_cons] at hlong
        omega

/-- The attack goes on from a record: its locks double while each failure finds the record. -/
theorem imposedLocks_iff (hthreshold : 0 < threshold + 5) {lockout : LoginLockout} {count : ℕ}
    {previous : FailureClock} {entry : LoginFailures} (hcount : entry.count = count)
    (hentry : lockout email = some (entry, previous.stored + loginLockMaxSeconds))
    (hstored : previous.now ≤ previous.stored) {moment : ℚ} {rest : List FailureClock}
    (hattack : Persists threshold email lockout (previous.now + lockSeconds threshold count) moment
      rest) :
    LoginLockout.imposedLocks threshold email lockout rest =
        promisedLocks threshold count rest.length ↔
      FindsRecord threshold count (previous :: rest) := by
  induction rest generalizing lockout count previous entry moment with
  | nil => exact iff_of_true rfl (findsRecord_singleton count previous)
  | cons clock rest ih =>
      obtain ⟨⟨-, hminute⟩, ⟨-, -, hnow, -⟩, hrest⟩ := hattack
      rw [imposed_eq] at hrest
      rw [LoginLockout.imposedLocks, imposed_eq, List.length_cons, promisedLocks_succ,
        List.cons_eq_cons, findsRecord_cons]
      rcases lt_or_ge clock.looked (previous.stored + loginLockMaxSeconds) with hfound | hover
      · have hnext : (lockout.failed threshold email clock).count = count + 1 := by
          rw [failed_of_found hentry hfound, hcount]
        rw [hnext] at hrest ⊢
        have hgoes := ih hnext recordFailure_self hnow hrest
        rw [hgoes]
        exact and_congr_left' (iff_of_true rfl fun _ => hfound)
      · -- the failure came after a lock of an hour, and starts the count anew
        have hlong : threshold + 6 ≤ count := by
          by_contra hshort
          have hlock := lockSeconds_of_short (not_le.mp hshort)
          unfold loginLockMaxSeconds at hover
          linarith
        have hfirst : lockSeconds threshold 1 ≤ 1920 :=
          lockSeconds_of_short (by push_cast; omega)
        have hpromised : lockSeconds threshold (count + 1) = loginLockMaxSeconds :=
          lockSeconds_of_long (by push_cast; omega)
        rw [failed_of_over hentry hover]
        refine iff_of_false (fun hlocks => ?_) fun hfinds => ?_
        · rw [hlocks.1, hpromised] at hfirst
          norm_num [loginLockMaxSeconds] at hfirst
        · exact absurd (hfinds.1 hlong) (not_lt.mpr hover)

/-- A threshold this low makes every lock one of an hour. -/
theorem imposedLocks_of_low (hthreshold : threshold + 5 ≤ 0) (lockout : LoginLockout) (count : ℕ)
    (clocks : List FailureClock) :
    LoginLockout.imposedLocks threshold email lockout clocks =
      promisedLocks threshold count clocks.length := by
  induction clocks generalizing lockout count with
  | nil => rfl
  | cons clock rest ih =>
      have hcount : (lockout.failed threshold email clock).count = _ := fail_count _ clock.now
      have himposed : lockSeconds threshold (lockout.failed threshold email clock).count =
          loginLockMaxSeconds := lockSeconds_of_long (by rw [hcount]; push_cast; omega)
      have hpromised : lockSeconds threshold (count + 1) = loginLockMaxSeconds :=
        lockSeconds_of_long (by push_cast; omega)
      rw [LoginLockout.imposedLocks, imposed_eq, List.length_cons, promisedLocks_succ, himposed,
        hpromised, ih]

/-- Through an attack the locks double up to an hour and never go back exactly when each failure
after a lock of an hour still finds the record of the one in front of it. -/
theorem locks_double_iff {lockout : LoginLockout} (hunknown : lockout email = none)
    {free moment : ℚ} {clocks : List FailureClock}
    (hattack : Persists threshold email lockout free moment clocks) :
    (LoginLockout.imposedLocks threshold email lockout clocks =
          promisedLocks threshold 0 clocks.length ∧
        (LoginLockout.imposedLocks threshold email lockout clocks).Pairwise (· ≤ ·)) ↔
      threshold + 5 ≤ 0 ∨ FindsRecord threshold 1 clocks := by
  have hsorted : LoginLockout.imposedLocks threshold email lockout clocks =
        promisedLocks threshold 0 clocks.length →
      (LoginLockout.imposedLocks threshold email lockout clocks).Pairwise (· ≤ ·) := by
    intro hlocks
    rw [hlocks]
    exact promisedLocks_sorted 0 _
  rw [and_iff_left_of_imp hsorted]
  by_cases hlow : threshold + 5 ≤ 0
  · exact iff_of_true (imposedLocks_of_low hlow lockout 0 clocks) (Or.inl hlow)
  · rw [or_iff_right hlow]
    cases clocks with
    | nil =>
        refine iff_of_true rfl fun before previous next after hsplit => ?_
        exact absurd hsplit.symm (List.append_ne_nil_of_right_ne_nil _ (List.cons_ne_nil _ _))
    | cons clock rest =>
        obtain ⟨-, ⟨-, -, hnow, -⟩, hrest⟩ := hattack
        have hfirst : (lockout.failed threshold email clock).count = 1 := failed_of_unknown hunknown
        rw [imposed_eq, hfirst] at hrest
        rw [LoginLockout.imposedLocks, imposed_eq, hfirst, List.length_cons, promisedLocks_succ,
          List.cons_eq_cons, and_iff_right rfl]
        exact imposedLocks_iff (by omega) hfirst recordFailure_self hnow hrest

end Attack

instance Persists.decidable (threshold : ℤ) (email : List Char) :
    ∀ (lockout : LoginLockout) (free moment : ℚ) (clocks : List FailureClock),
      Decidable (Persists threshold email lockout free moment clocks)
  | _, _, _, [] => inferInstanceAs (Decidable True)
  | lockout, _, _, clock :: rest =>
      haveI := Persists.decidable threshold email
        (lockout.recordFailure threshold email clock).1
        (clock.now + lockout.imposed threshold email clock) clock.read rest
      inferInstanceAs (Decidable (_ ∧ _ ∧ _))

namespace Specimen

/-- A failure in a single moment. -/
def failureAt (moment : ℚ) : FailureClock := ⟨moment, moment, moment, moment, moment⟩

def guessedEmail : List Char := "owner@example.com".toList

/-- Each guess comes at the end of the lock before it. -/
def guesses : List FailureClock :=
  [0, 1, 2, 3, 4, 64, 184, 424, 904, 1864, 3784, 7384].map failureAt

end Specimen

section

open Specimen

/-- The guess after the first lock of an hour imposes none. -/
theorem guesses_forgotten :
    Persists loginFailureThreshold guessedEmail Cache.empty 0 0 guesses ∧
      LoginLockout.imposedLocks loginFailureThreshold guessedEmail Cache.empty guesses =
        [0, 0, 0, 0, 60, 120, 240, 480, 960, 1920, 3600, 0] := by
  decide +kernel

theorem locks_double_twice :
    LoginLockout.imposedLocks loginFailureThreshold guessedEmail Cache.empty
        [failureAt 0, failureAt 1] = promisedLocks loginFailureThreshold 0 2 ∧
      (LoginLockout.imposedLocks loginFailureThreshold guessedEmail Cache.empty
        [failureAt 0, failureAt 1]).Pairwise (· ≤ ·) := by
  have hattack : Persists loginFailureThreshold guessedEmail Cache.empty 0 0
      [failureAt 0, failureAt 1] := by decide +kernel
  have hfinds : FindsRecord loginFailureThreshold 1 [failureAt 0, failureAt 1] :=
    (findsRecord_cons 1 _ _ _).mpr ⟨fun hlong => absurd hlong (by decide),
      findsRecord_singleton 2 _⟩
  exact (locks_double_iff rfl hattack).mpr (Or.inr hfinds)

end

end ChmabaPay
