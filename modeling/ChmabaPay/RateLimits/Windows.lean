import ChmabaPay.RateLimit

/-! # Windows of the limiter

What the limiter keeps for one key is a fixed-window counter, and a call moves the counter of
its own key alone. The rules of the middleware have names of their own without a colon, so a
key is one rule and one caller.
-/

namespace ChmabaPay

open ExpiringCache FixedWindow

/-! ## Keys -/

/-- All the limits of a deployment. -/
def RateLimitSettings.rules (settings : RateLimitSettings) : List Rule :=
  [⟨"payment_create".toList, settings.paymentCreatePerMinute, .key⟩,
    ⟨"khqr".toList, settings.khqrPerMinute, .ip⟩, ⟨"auth".toList, settings.authPerMinute, .ip⟩,
    ⟨"checkout".toList, settings.checkoutPerMinute, .ip⟩,
    ⟨"api".toList, settings.apiPerMinute, .key⟩]

def ruleNames : List (List Char) :=
  ["payment_create".toList, "khqr".toList, "auth".toList, "checkout".toList, "api".toList]

/-- The rules of the calls are those of the middleware. -/
def ByRules (settings : RateLimitSettings) (hits : List Hit) : Prop :=
  ∀ hit ∈ hits, ∃ request, ruleFor settings request = some hit.rule

/-- The call is one of this caller under this rule. -/
def Hit.isOf (rule : Rule) (identity : List Char) (hit : Hit) : Bool :=
  decide (hit.rule = rule ∧ hit.identity = identity)

section Keys

variable {settings : RateLimitSettings}

theorem ruleFor_mem {request : LimitedRequest} {rule : Rule}
    (hrule : ruleFor settings request = some rule) : rule ∈ settings.rules := by
  unfold ruleFor at hrule
  dsimp only at hrule
  split at hrule
  · cases hrule
  repeat' split at hrule
  all_goals cases hrule
  all_goals simp [RateLimitSettings.rules]

theorem rules_names (settings : RateLimitSettings) :
    settings.rules.map Rule.name = ruleNames := rfl

theorem name_of_mem {rule : Rule} (hrule : rule ∈ settings.rules) : ':' ∉ rule.name := by
  have hall : ∀ name ∈ ruleNames, ':' ∉ name := by decide
  exact hall _ (rules_names settings ▸ List.mem_map_of_mem hrule)

theorem rule_eq_of_name {rule other : Rule} (hrule : rule ∈ settings.rules)
    (hother : other ∈ settings.rules) (hname : rule.name = other.name) : rule = other := by
  have hnodup : ruleNames.Nodup := by decide
  rw [← rules_names settings] at hnodup
  exact List.inj_on_of_nodup_map hnodup hrule hother hname

theorem takeWhile_key {hit : Hit} (hname : ':' ∉ hit.rule.name) :
    hit.key.takeWhile (· ≠ ':') = hit.rule.name := by
  have hall : ∀ c ∈ hit.rule.name, decide (c ≠ ':') = true := fun c hc =>
    decide_eq_true fun heq => hname (heq ▸ hc)
  rw [Hit.key, List.append_assoc, List.takeWhile_append_of_pos hall]
  exact List.append_nil _

/-- A key is one rule and one caller. -/
theorem key_eq_iff {hit other : Hit} (hhit : hit.rule ∈ settings.rules)
    (hother : other.rule ∈ settings.rules) :
    hit.key = other.key ↔ hit.rule = other.rule ∧ hit.identity = other.identity := by
  constructor
  · intro hkey
    have hname : hit.rule.name = other.rule.name := by
      rw [← takeWhile_key (name_of_mem hhit), hkey, takeWhile_key (name_of_mem hother)]
    have hrule : hit.rule = other.rule := rule_eq_of_name hhit hother hname
    rw [Hit.key, Hit.key, hrule] at hkey
    exact ⟨hrule, List.append_cancel_left hkey⟩
  · rintro ⟨hrule, hidentity⟩
    rw [Hit.key, Hit.key, hrule, hidentity]

end Keys

/-! ## One call -/

/-- What the limiter keeps under a key, as a counter. -/
def RateLimiter.counter (limiter : RateLimiter) (key : List Char) : Option (Counter ℚ) :=
  (limiter key).map fun entry => ⟨entry.1.started, entry.1.count, entry.2⟩

/-- The answer to a call that was counted. -/
def HitAnswer.ofCounted (entry : Counted Hit ℚ) : HitAnswer where
  hit := entry.arrival
  opened := entry.opened
  verdict := entry.arrival.verdict ⟨entry.counter.started, entry.counter.count⟩

section Calls

variable {limiter : RateLimiter} {hit : Hit}

theorem counter_empty (key : List Char) :
    RateLimiter.counter (Cache.empty : RateLimiter) key = none := rfl

theorem find_of_opens (hopens : opens windowSeconds (limiter.counter hit.key) hit.clock = true) :
    limiter.find hit = none := by
  unfold RateLimiter.find
  cases hentry : limiter hit.key with
  | none => rw [Cache.get_of_none hentry]; rfl
  | some entry =>
      obtain ⟨window, expires⟩ := entry
      have hcounter : limiter.counter hit.key = some ⟨window.started, window.count, expires⟩ := by
        rw [RateLimiter.counter, hentry]
        rfl
      rw [hcounter] at hopens
      rw [Cache.get_of_eq hentry]
      rcases late_of_opens hopens with hexpired | hlong
      · rw [if_neg (not_lt.mpr hexpired)]
        rfl
      · split
        · rw [Option.filter_some, if_neg]
          exact fun hcurrent => absurd (of_decide_eq_true hcurrent) (not_lt.mpr hlong)
        · rfl

theorem find_of_current {counter : Counter ℚ} (hcounter : limiter.counter hit.key = some counter)
    (hcurrent : counter.isCurrent windowSeconds hit.clock = true) :
    limiter.find hit = some ⟨counter.started, counter.count⟩ := by
  obtain ⟨⟨window, expires⟩, hentry, rfl⟩ := Option.map_eq_some_iff.mp hcounter
  rw [Counter.isCurrent, Bool.and_eq_true, decide_eq_true_eq, decide_eq_true_eq] at hcurrent
  rw [RateLimiter.find, Cache.get_of_eq hentry, if_pos hcurrent.1, Option.filter_some, if_pos]
  exact decide_eq_true hcurrent.2

theorem hit_of_opening (hfind : limiter.find hit = none) :
    limiter.hit hit =
      ((limiter.set hit.clock.stored windowSeconds hit.key ⟨hit.clock.now, 0⟩).modify hit.key
        Window.counted, hit.verdict ⟨hit.clock.now, 1⟩) := by
  rw [RateLimiter.hit, hfind]
  rfl

theorem hit_of_window {window : Window} (hfind : limiter.find hit = some window) :
    limiter.hit hit =
      (limiter.modify hit.key Window.counted, hit.verdict window.counted) := by
  rw [RateLimiter.hit, hfind]

/-- A call counts in the counter of its key. -/
theorem hit_eq_tick (limiter : RateLimiter) (hit : Hit) :
    (limiter.find hit).isNone = opens windowSeconds (limiter.counter hit.key) hit.clock ∧
      (limiter.hit hit).1.counter hit.key =
        some (tick windowSeconds (limiter.counter hit.key) hit.clock) ∧
      (limiter.hit hit).2 = hit.verdict
        ⟨(tick windowSeconds (limiter.counter hit.key) hit.clock).started,
          (tick windowSeconds (limiter.counter hit.key) hit.clock).count⟩ := by
  cases hopens : opens windowSeconds (limiter.counter hit.key) hit.clock with
  | true =>
      rw [tick_of_opens hopens, hit_of_opening (find_of_opens hopens), find_of_opens hopens]
      refine ⟨rfl, ?_, rfl⟩
      dsimp only [RateLimiter.counter]
      rw [Cache.modify_self, Cache.set_self]
      rfl
  | false =>
      obtain ⟨current, hcounter, hcurrent⟩ := current_of_not_opens hopens
      have hfind := find_of_current hcounter hcurrent
      obtain ⟨⟨window, expires⟩, hentry, rfl⟩ := Option.map_eq_some_iff.mp hcounter
      rw [hcounter, tick_of_current hcurrent, hit_of_window hfind, hfind]
      refine ⟨rfl, ?_, rfl⟩
      dsimp only [RateLimiter.counter]
      rw [Cache.modify_self, hentry]
      rfl

theorem counter_hit_of_ne {key : List Char} (hne : key ≠ hit.key) :
    (limiter.hit hit).1.counter key = limiter.counter key := by
  cases hfind : limiter.find hit with
  | none =>
      rw [hit_of_opening hfind]
      dsimp only [RateLimiter.counter]
      rw [Cache.modify_of_ne hne, Cache.set_of_ne hne]
  | some window =>
      rw [hit_of_window hfind]
      dsimp only [RateLimiter.counter]
      rw [Cache.modify_of_ne hne]

end Calls

/-! ## A run -/

/-- The answers under one key are those of its counter. -/
theorem answers_of_key (limiter : RateLimiter) (hits : List Hit) (key : List Char) :
    (limiter.answers hits).filter (fun answer => answer.hit.key = key) =
      (counts windowSeconds Hit.clock (limiter.counter key)
        (hits.filter fun hit => hit.key = key)).map HitAnswer.ofCounted := by
  induction hits generalizing limiter with
  | nil => rfl
  | cons hit rest ih =>
      rw [RateLimiter.answers, List.filter_cons, List.filter_cons, ih]
      by_cases hkey : hit.key = key
      · subst hkey
        obtain ⟨hopened, hcounter, hverdict⟩ := hit_eq_tick limiter hit
        rw [if_pos (decide_eq_true rfl), if_pos (decide_eq_true rfl), counts_cons, List.map_cons,
          hcounter, hopened, hverdict]
        rfl
      · rw [if_neg (by simpa using hkey), if_neg (by simpa using hkey),
          counter_hit_of_ne (Ne.symm hkey)]

theorem counter_after (limiter : RateLimiter) (hits : List Hit) (key : List Char) :
    (limiter.after hits).counter key =
      after windowSeconds Hit.clock (limiter.counter key)
        (hits.filter fun hit => hit.key = key) := by
  induction hits generalizing limiter with
  | nil => rfl
  | cons hit rest ih =>
      rw [RateLimiter.after, List.foldl_cons, ← RateLimiter.after, ih, List.filter_cons]
      by_cases hkey : hit.key = key
      · subst hkey
        rw [(hit_eq_tick limiter hit).2.1, if_pos (decide_eq_true rfl)]
        rfl
      · rw [counter_hit_of_ne (Ne.symm hkey), if_neg (by simpa using hkey)]

theorem hit_of_mem_answers {limiter : RateLimiter} {hits : List Hit} {answer : HitAnswer}
    (hanswer : answer ∈ limiter.answers hits) : answer.hit ∈ hits := by
  induction hits generalizing limiter with
  | nil => cases hanswer
  | cons hit rest ih =>
      rcases List.mem_cons.mp hanswer with rfl | hrest
      · exact List.mem_cons_self
      · exact List.mem_cons_of_mem _ (ih hrest)

section Callers

variable {settings : RateLimitSettings} {hits : List Hit}

theorem ByRules.mem (hrules : ByRules settings hits) {hit : Hit} (hhit : hit ∈ hits) :
    hit.rule ∈ settings.rules := by
  obtain ⟨request, hrequest⟩ := hrules hit hhit
  exact ruleFor_mem hrequest

/-- Among the calls, a caller under a rule is known by the key. -/
theorem isOf_iff_key (hrules : ByRules settings hits) {one hit : Hit} (hone : one ∈ hits)
    (hhit : hit ∈ hits) : hit.isOf one.rule one.identity = decide (hit.key = one.key) :=
  decide_eq_decide.mpr (key_eq_iff (hrules.mem hhit) (hrules.mem hone)).symm

end Callers

/-! ## The limits -/

/-- The answers to one caller under one rule. -/
def answersTo (rule : Rule) (identity : List Char) (hits : List Hit) : List HitAnswer :=
  (RateLimiter.answers Cache.empty hits).filter fun answer => answer.hit.isOf rule identity

/-- The calls that were allowed. -/
def allowedCount (answers : List HitAnswer) : ℕ :=
  answers.countP fun answer => answer.verdict.allowed

/-- The call came in the minute that starts here. -/
def HitAnswer.isWithin (start : ℚ) (answer : HitAnswer) : Bool :=
  decide (start ≤ answer.hit.clock.now) && decide (answer.hit.clock.now < start + windowSeconds)

section Limits

variable {settings : RateLimitSettings} {hits : List Hit} {rule : Rule} {identity : List Char}

/-- The calls of one caller are counted apart from all others. -/
theorem answersTo_eq_counts (hrules : ByRules settings hits) (rule : Rule)
    (identity : List Char) :
    answersTo rule identity hits =
      (counts windowSeconds Hit.clock none (hits.filter (Hit.isOf rule identity))).map
        HitAnswer.ofCounted := by
  unfold answersTo
  cases hone : hits.filter (Hit.isOf rule identity) with
  | nil =>
      rw [counts, List.map_nil, List.filter_eq_nil_iff]
      exact fun answer hanswer =>
        List.filter_eq_nil_iff.mp hone answer.hit (hit_of_mem_answers hanswer)
  | cons one rest =>
      obtain ⟨hmem, hof⟩ := List.mem_filter.mp (hone ▸ List.mem_cons_self : one ∈ _)
      obtain ⟨rfl, rfl⟩ := of_decide_eq_true hof
      rw [← hone, List.filter_congr fun hit hhit => isOf_iff_key hrules hmem hhit,
        ← counter_empty one.key, ← answers_of_key]
      exact List.filter_congr fun answer hanswer =>
        isOf_iff_key hrules hmem (hit_of_mem_answers hanswer)

theorem answersTo_filter (hrules : ByRules settings hits) :
    answersTo rule identity hits =
      RateLimiter.answers Cache.empty (hits.filter (Hit.isOf rule identity)) := by
  have hown : ByRules settings (hits.filter (Hit.isOf rule identity)) := fun hit hhit =>
    hrules hit (List.mem_of_mem_filter hhit)
  have hall : answersTo rule identity (hits.filter (Hit.isOf rule identity)) =
      RateLimiter.answers Cache.empty (hits.filter (Hit.isOf rule identity)) :=
    List.filter_eq_self.mpr fun answer hanswer =>
      (List.mem_filter.mp (hit_of_mem_answers hanswer)).2
  rw [← hall, answersTo_eq_counts hrules, answersTo_eq_counts hown, List.filter_filter]
  simp only [Bool.and_self]

/-- An allowed call was counted within the limit. -/
theorem count_le_of_allowed {entry : Counted Hit ℚ} (hrule : entry.arrival.rule = rule)
    (hallowed : (HitAnswer.ofCounted entry).verdict.allowed = true) :
    entry.counter.count ≤ rule.limit.toNat := by
  have hcount : (entry.counter.count : ℤ) ≤ entry.arrival.rule.limit := of_decide_eq_true hallowed
  rw [hrule] at hcount
  omega

theorem rule_of_mem_counts {entry : Counted Hit ℚ}
    (hentry : entry ∈ counts windowSeconds Hit.clock none (hits.filter (Hit.isOf rule identity))) :
    entry.arrival.rule = rule :=
  (of_decide_eq_true (List.mem_filter.mp (arrival_of_mem_counts hentry)).2).1

/-- A minute allows at most twice the limit. -/
theorem allowed_in_minute {moment : ℚ} (hrules : ByRules settings hits)
    (htimely : Timely Hit.clock moment hits) (start : ℚ) :
    allowedCount ((answersTo rule identity hits).filter (HitAnswer.isWithin start)) ≤
      2 * rule.limit.toNat := by
  have hbound : admitted rule.limit.toNat start (start + windowSeconds) Hit.clock
      (counts windowSeconds Hit.clock none (hits.filter (Hit.isOf rule identity))) ≤
      2 * rule.limit.toNat := admitted_le (fun current hcurrent => by cases hcurrent)
    (htimely.filter _)
  refine le_trans ?_ hbound
  rw [answersTo_eq_counts hrules, allowedCount, List.countP_filter, List.countP_map]
  refine List.countP_mono_left fun entry hentry hallowed => ?_
  rw [Function.comp_apply, Bool.and_eq_true] at hallowed
  rw [Bool.and_eq_true, decide_eq_true_eq]
  exact ⟨hallowed.2, count_le_of_allowed (rule_of_mem_counts hentry) hallowed.1⟩

/-- A window allows at most the limit. -/
theorem allowed_in_window (hrules : ByRules settings hits) {before within rest : List HitAnswer}
    {first : HitAnswer}
    (hsplit : answersTo rule identity hits = before ++ first :: (within ++ rest))
    (hwithin : ∀ answer ∈ within, answer.opened = false) :
    allowedCount (first :: within) ≤ rule.limit.toNat := by
  rw [answersTo_eq_counts hrules] at hsplit
  obtain ⟨front, behind, hcounts, -, hbehind⟩ := List.map_eq_append_iff.mp hsplit
  obtain ⟨opening, others, rfl, rfl, hothers⟩ := List.map_eq_cons_iff.mp hbehind
  obtain ⟨own, after, rfl, rfl, -⟩ := List.map_eq_append_iff.mp hothers
  have hgoes : ∀ entry ∈ own, entry.opened = false := fun entry hentry =>
    hwithin _ (List.mem_map_of_mem hentry)
  refine le_trans ?_ (passed_le hcounts hgoes)
  rw [← List.map_cons, allowedCount, List.countP_map, passed]
  refine List.countP_mono_left fun entry hentry hallowed => decide_eq_true ?_
  have hmem : entry ∈
      counts windowSeconds Hit.clock none (hits.filter (Hit.isOf rule identity)) := by
    rw [hcounts, ← List.cons_append]
    exact List.mem_append_right _ (List.mem_append_left _ hentry)
  exact count_le_of_allowed (rule_of_mem_counts hmem) hallowed

/-- From the start of a window to the start of the next one passes a minute. -/
theorem minute_between_windows {moment : ℚ} (hrules : ByRules settings hits)
    (htimely : Timely Hit.clock moment hits) {before within rest : List HitAnswer}
    {first second : HitAnswer}
    (hsplit : answersTo rule identity hits = before ++ first :: (within ++ second :: rest))
    (hfirst : first.opened = true) (hwithin : ∀ answer ∈ within, answer.opened = false)
    (hsecond : second.opened = true) :
    first.hit.clock.now + windowSeconds ≤ second.hit.clock.looked := by
  rw [answersTo_eq_counts hrules] at hsplit
  obtain ⟨front, behind, hcounts, -, hbehind⟩ := List.map_eq_append_iff.mp hsplit
  obtain ⟨opening, others, rfl, rfl, hothers⟩ := List.map_eq_cons_iff.mp hbehind
  obtain ⟨own, after, rfl, rfl, hafter⟩ := List.map_eq_append_iff.mp hothers
  obtain ⟨next, last, rfl, rfl, -⟩ := List.map_eq_cons_iff.mp hafter
  exact opened_apart (htimely.filter _) hcounts hfirst
    (fun entry hentry => hwithin _ (List.mem_map_of_mem hentry)) hsecond

/-- Whatever the callers send and whenever: a minute allows a caller at most twice the limit and
one window at most the limit, other callers change no answer, and a window goes on for a minute
at least. -/
theorem caller_limited {moment : ℚ} (hrules : ByRules settings hits)
    (htimely : Timely Hit.clock moment hits) (rule : Rule) (identity : List Char) :
    (∀ start, allowedCount ((answersTo rule identity hits).filter (HitAnswer.isWithin start)) ≤
        2 * rule.limit.toNat) ∧
      (∀ before first within rest,
        answersTo rule identity hits = before ++ first :: (within ++ rest) →
          (∀ answer ∈ within, answer.opened = false) →
            allowedCount (first :: within) ≤ rule.limit.toNat) ∧
      answersTo rule identity hits =
        RateLimiter.answers Cache.empty (hits.filter (Hit.isOf rule identity)) ∧
      (∀ before first within second rest,
        answersTo rule identity hits = before ++ first :: (within ++ second :: rest) →
          first.opened = true → (∀ answer ∈ within, answer.opened = false) →
            second.opened = true →
              first.hit.clock.now + windowSeconds ≤ second.hit.clock.looked) :=
  ⟨allowed_in_minute hrules htimely, fun _ _ _ _ => allowed_in_window hrules,
    answersTo_filter hrules, fun _ _ _ _ _ => minute_between_windows hrules htimely⟩

end Limits

/-! ## The middleware -/

/-- A request, with the readings of the clock its limit makes. -/
structure Arrival where
  request : LimitedRequest
  clock : HitClock

/-- The call of the limiter that a request makes, if it makes one. -/
def Arrival.hit (settings : RateLimitSettings) (hashKey : List Char → List Char)
    (arrival : Arrival) : Option Hit :=
  if settings.enabled = false then none
  else (ruleFor settings arrival.request).map fun rule =>
    ⟨rule, identityFor hashKey arrival.request rule, arrival.clock⟩

/-- The request goes on to its route. -/
def Dispatched.goesOn : Dispatched → Bool
  | .passed _ => true
  | .refused .. => false

/-- The requests of a run, with what the middleware does with each. -/
def dispatches (settings : RateLimitSettings) (hashKey : List Char → List Char) :
    RateLimiter → List Arrival → List (Arrival × Dispatched)
  | _, [] => []
  | limiter, arrival :: rest =>
      let (counted, dispatched) := dispatch settings hashKey limiter arrival.request arrival.clock
      (arrival, dispatched) :: dispatches settings hashKey counted rest

/-- The request is one of this caller under this rule, in the minute that starts here, and it
goes on to its route. -/
def letThrough (settings : RateLimitSettings) (hashKey : List Char → List Char) (rule : Rule)
    (identity : List Char) (start : ℚ) (served : Arrival × Dispatched) : Bool :=
  (served.1.hit settings hashKey).any fun hit => hit.isOf rule identity &&
    (decide (start ≤ hit.clock.now) && decide (hit.clock.now < start + windowSeconds)) &&
      served.2.goesOn

section Middleware

variable {settings : RateLimitSettings} {hashKey : List Char → List Char}

theorem arrivals_by_rules (arrivals : List Arrival) :
    ByRules settings (arrivals.filterMap (Arrival.hit settings hashKey)) := by
  intro hit hhit
  obtain ⟨arrival, -, harrival⟩ := List.mem_filterMap.mp hhit
  unfold Arrival.hit at harrival
  split at harrival
  · cases harrival
  · obtain ⟨rule, hrule, rfl⟩ := Option.map_eq_some_iff.mp harrival
    exact ⟨arrival.request, hrule⟩

/-- A request without a limit goes on and counts nothing. -/
theorem dispatch_of_none (limiter : RateLimiter) {arrival : Arrival}
    (hnone : arrival.hit settings hashKey = none) :
    dispatch settings hashKey limiter arrival.request arrival.clock =
      (limiter, .passed none) := by
  unfold Arrival.hit at hnone
  unfold dispatch
  split
  · rfl
  · next henabled =>
    rw [if_neg henabled, Option.map_eq_none_iff] at hnone
    rw [hnone]

/-- A limited one makes its call, and goes on when that is allowed. -/
theorem dispatch_of_some (limiter : RateLimiter) {arrival : Arrival} {hit : Hit}
    (hhit : arrival.hit settings hashKey = some hit) :
    (dispatch settings hashKey limiter arrival.request arrival.clock).1 = (limiter.hit hit).1 ∧
      (dispatch settings hashKey limiter arrival.request arrival.clock).2.goesOn =
        (limiter.hit hit).2.allowed := by
  unfold Arrival.hit at hhit
  unfold dispatch
  split at hhit
  · cases hhit
  · next henabled =>
    obtain ⟨rule, hrule, rfl⟩ := Option.map_eq_some_iff.mp hhit
    rw [if_neg henabled, hrule]
    dsimp only
    split
    · next hallowed => exact ⟨rfl, hallowed.symm⟩
    · next hrefused => exact ⟨rfl, (Bool.eq_false_iff.mpr hrefused).symm⟩

/-- The requests let through are the calls that were allowed. -/
theorem countP_letThrough (limiter : RateLimiter) (arrivals : List Arrival) (rule : Rule)
    (identity : List Char) (start : ℚ) :
    (dispatches settings hashKey limiter arrivals).countP
        (letThrough settings hashKey rule identity start) =
      allowedCount (((RateLimiter.answers limiter
        (arrivals.filterMap (Arrival.hit settings hashKey))).filter fun answer =>
          answer.hit.isOf rule identity).filter (HitAnswer.isWithin start)) := by
  induction arrivals generalizing limiter with
  | nil => rfl
  | cons arrival rest ih =>
      rw [dispatches, List.countP_cons, List.filterMap_cons]
      cases hhit : arrival.hit settings hashKey with
      | none =>
          rw [dispatch_of_none limiter hhit]
          simp only [letThrough, hhit, Option.any_none, Bool.false_eq_true, if_false, add_zero]
          exact ih limiter
      | some hit =>
          obtain ⟨hcounted, hgoesOn⟩ := dispatch_of_some limiter hhit
          dsimp only
          rw [hcounted, ih, RateLimiter.answers]
          simp only [letThrough, hhit, Option.any_some, hgoesOn, allowedCount,
            List.countP_filter, List.countP_cons, HitAnswer.isWithin]
          congr 2
          grind

/-- The middleware lets a caller through at most twice the limit in a minute, whatever is
asked of the platform and by whom. -/
theorem letThrough_in_minute {moment : ℚ} {arrivals : List Arrival}
    (htimely : Timely Hit.clock moment (arrivals.filterMap (Arrival.hit settings hashKey)))
    (rule : Rule) (identity : List Char) (start : ℚ) :
    (dispatches settings hashKey Cache.empty arrivals).countP
        (letThrough settings hashKey rule identity start) ≤ 2 * rule.limit.toNat := by
  rw [countP_letThrough]
  exact allowed_in_minute (arrivals_by_rules arrivals) htimely start

end Middleware

namespace Specimen

def onePerMinute : RateLimitSettings := { checkoutPerMinute := 1 }

def checkoutPage : LimitedRequest where
  method := "GET"
  path := "/pay/p1".toList

/-- A call for the checkout page. -/
def visit (moment : ℚ) : Hit where
  rule := ⟨"checkout".toList, 1, .ip⟩
  identity := "ip:10.0.0.1".toList
  clock := ⟨moment, moment, moment⟩

theorem visit_clock (moment : ℚ) : (visit moment).clock = ⟨moment, moment, moment⟩ := rfl

theorem visits_by_rules {hits : List Hit} (hvisits : ∀ hit ∈ hits, ∃ moment, hit = visit moment) :
    ByRules onePerMinute hits := by
  intro hit hhit
  obtain ⟨moment, rfl⟩ := hvisits hit hhit
  have hrule : ruleFor onePerMinute checkoutPage = some (visit 0).rule := by decide
  exact ⟨checkoutPage, hrule⟩

end Specimen

open Specimen in
theorem caller_limited_visits :
    allowedCount ((answersTo (visit 0).rule (visit 0).identity
      [visit 0, visit (1 / 2), visit 60]).filter (HitAnswer.isWithin 0)) ≤
        2 * (visit 0).rule.limit.toNat := by
  have hrules : ByRules onePerMinute [visit 0, visit (1 / 2), visit 60] :=
    visits_by_rules (by simp)
  have htimely : Timely Hit.clock 0 [visit 0, visit (1 / 2), visit 60] := by
    norm_num only [Timely, visit_clock, and_self]
  exact (caller_limited hrules htimely (visit 0).rule (visit 0).identity).1 0

end ChmabaPay
