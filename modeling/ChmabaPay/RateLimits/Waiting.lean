import ChmabaPay.RateLimits.Windows

/-! # Waiting as told

A refused caller is told the seconds until the window is over, with the fraction cut off. The
window itself is measured with its fraction, so who comes back after the seconds told is let
through when nothing was cut off, or when a single second was told for less than one.
-/

namespace ChmabaPay

open ExpiringCache FixedWindow

/-! ## The seconds told -/

/-- The seconds told to a caller this long after the start of the window. -/
def secondsTold (elapsed : ℚ) : ℤ := max 1 (truncate (windowSeconds - elapsed))

/-- The seconds told reach the end of the window when they are whole or the last one runs. -/
theorem windowSeconds_le_told_iff {elapsed : ℚ} (hopen : elapsed < windowSeconds) :
    windowSeconds ≤ elapsed + secondsTold elapsed ↔
      (∃ seconds : ℤ, elapsed = seconds) ∨ windowSeconds - 1 ≤ elapsed := by
  have hleft : 0 ≤ windowSeconds - elapsed := by linarith
  have hfloor : truncate (windowSeconds - elapsed) = ⌊windowSeconds - elapsed⌋ := if_pos hleft
  have hle : (⌊windowSeconds - elapsed⌋ : ℚ) ≤ windowSeconds - elapsed := Int.floor_le _
  rw [secondsTold, hfloor]
  constructor
  · intro hreach
    rcases le_total (⌊windowSeconds - elapsed⌋) 1 with hlast | hlong
    · rw [max_eq_left hlast] at hreach
      push_cast at hreach
      exact Or.inr (by linarith)
    · rw [max_eq_right hlong] at hreach
      refine Or.inl ⟨60 - ⌊windowSeconds - elapsed⌋, ?_⟩
      push_cast
      unfold windowSeconds at *
      linarith
  · rintro (⟨seconds, rfl⟩ | hlast)
    · have hwhole : ⌊windowSeconds - (seconds : ℚ)⌋ = 60 - seconds := by
        rw [windowSeconds, Int.floor_eq_iff]
        push_cast
        constructor <;> linarith
      have htold : ((60 - seconds : ℤ) : ℚ) ≤ ((max 1 (60 - seconds) : ℤ) : ℚ) :=
        Int.cast_le.mpr (le_max_right _ _)
      rw [hwhole]
      push_cast at htold ⊢
      unfold windowSeconds
      linarith
    · have htold : ((1 : ℤ) : ℚ) ≤ ((max 1 ⌊windowSeconds - elapsed⌋ : ℤ) : ℚ) :=
        Int.cast_le.mpr (le_max_left _ _)
      push_cast at htold ⊢
      linarith

/-! ## Coming back -/

section Callers

variable {limiter : RateLimiter} {refused retry : Hit} {counter : Counter ℚ}

/-- Under a limit of one or more only a window that goes on refuses. -/
theorem counter_of_refused (hlimit : 1 ≤ refused.rule.limit)
    (hrefused : (limiter.hit refused).2.allowed = false) :
    ∃ counter, limiter.counter refused.key = some counter ∧
      counter.isCurrent windowSeconds refused.clock = true ∧
      refused.rule.limit < counter.count + 1 := by
  obtain ⟨-, -, hverdict⟩ := hit_eq_tick limiter refused
  rw [hverdict] at hrefused
  have hover := of_decide_eq_false hrefused
  cases hopens : opens windowSeconds (limiter.counter refused.key) refused.clock with
  | true =>
      rw [tick_of_opens hopens] at hover
      exact absurd hlimit hover
  | false =>
      obtain ⟨counter, hcounter, hcurrent⟩ := current_of_not_opens hopens
      rw [hcounter, tick_of_current hcurrent] at hover
      exact ⟨counter, hcounter, hcurrent, by push_cast at hover; omega⟩

/-- Other callers leave the counter alone. -/
theorem counter_after_others {key : List Char} {between : List Hit}
    (hothers : ∀ hit ∈ between, hit.key ≠ key) :
    (limiter.after between).counter key = limiter.counter key := by
  have hnone : between.filter (fun hit => hit.key = key) = [] :=
    List.filter_eq_nil_iff.mpr fun hit hhit => by simpa using hothers hit hhit
  rw [counter_after, hnone]
  rfl

/-- A full counter lets a call through when it opens a window. -/
theorem allowed_iff_opens (hlimit : 1 ≤ retry.rule.limit)
    (hcounter : limiter.counter retry.key = some counter)
    (hfull : retry.rule.limit < counter.count + 1) :
    (limiter.hit retry).2.allowed = true ↔
      counter.expires ≤ retry.clock.looked ∨
        windowSeconds ≤ retry.clock.now - counter.started := by
  obtain ⟨-, -, hverdict⟩ := hit_eq_tick limiter retry
  rw [hverdict, hcounter]
  cases hopens : opens windowSeconds (some counter) retry.clock with
  | true =>
      rw [tick_of_opens hopens]
      exact iff_of_true (decide_eq_true hlimit) (late_of_opens hopens)
  | false =>
      obtain ⟨current, heq, hcurrent⟩ := current_of_not_opens hopens
      obtain rfl := Option.some.inj heq
      rw [tick_of_current hcurrent]
      refine iff_of_false (fun hallowed => ?_) fun hlate => ?_
      · have hcount := of_decide_eq_true hallowed
        push_cast at hcount
        omega
      · rw [opens_of_late hlate] at hopens
        cases hopens

/-- The entry of a window that is counted lasts as long as the window. -/
theorem counter_lasting {moment : ℚ} {hits : List Hit} (htimely : Timely Hit.clock moment hits)
    {key : List Char} (hcounter : (RateLimiter.after Cache.empty hits).counter key = some counter) :
    counter.Lasting windowSeconds := by
  rw [counter_after, counter_empty] at hcounter
  exact after_lasting (fun current hcurrent => by cases hcurrent) (htimely.filter _) counter
    hcounter

end Callers

/-- The calls of a caller who was refused, asked nothing more and comes back after the seconds
told, with what others sent in between. -/
structure ComesBack (settings : RateLimitSettings) (refused : Hit) (told : ℤ) (between : List Hit)
    (retry : Hit) : Prop where
  rules : ByRules settings (between ++ [retry])
  timely : Timely Hit.clock refused.clock.stored (between ++ [retry])
  silent : ∀ hit ∈ between, hit.isOf refused.rule refused.identity = false
  same : retry.isOf refused.rule refused.identity = true
  waited : refused.clock.now + told ≤ retry.clock.now

section Waiting

variable {settings : RateLimitSettings} {limiter : RateLimiter} {refused : Hit}
  {counter : Counter ℚ}

theorem retryAfter_eq (hcounter : limiter.counter refused.key = some counter)
    (hcurrent : counter.isCurrent windowSeconds refused.clock = true) :
    (limiter.hit refused).2.retryAfter = secondsTold (refused.clock.now - counter.started) := by
  rw [(hit_eq_tick limiter refused).2.2, hcounter, tick_of_current hcurrent]
  rfl

/-- The caller who comes back is let through when the window is over by then. -/
theorem retry_allowed_iff (hmem : refused.rule ∈ settings.rules)
    (hlimit : 1 ≤ refused.rule.limit) (hcounter : limiter.counter refused.key = some counter)
    (hcurrent : counter.isCurrent windowSeconds refused.clock = true)
    (hfull : refused.rule.limit < counter.count + 1) {told : ℤ} {between : List Hit} {retry : Hit}
    (hback : ComesBack settings refused told between retry) :
    (((limiter.hit refused).1.after between).hit retry).2.allowed = true ↔
      counter.expires ≤ retry.clock.looked ∨
        windowSeconds ≤ retry.clock.now - counter.started := by
  obtain ⟨hrule, hidentity⟩ := of_decide_eq_true hback.same
  have hkey : retry.key = refused.key := by rw [Hit.key, Hit.key, hrule, hidentity]
  have hothers : ∀ hit ∈ between, hit.key ≠ retry.key := by
    intro hit hhit hsame
    have hhit' : hit.rule ∈ settings.rules := hback.rules.mem (List.mem_append_left _ hhit)
    have hof : hit.isOf refused.rule refused.identity = true :=
      decide_eq_true ((key_eq_iff hhit' hmem).mp (hsame.trans hkey))
    rw [hback.silent hit hhit] at hof
    cases hof
  have hcounted : ((limiter.hit refused).1.after between).counter retry.key =
      some { counter with count := counter.count + 1 } := by
    rw [counter_after_others hothers, hkey, (hit_eq_tick limiter refused).2.1, hcounter,
      tick_of_current hcurrent]
  have hmore : retry.rule.limit < ((counter.count + 1 : ℕ) : ℤ) + 1 := by
    rw [hrule]
    push_cast
    omega
  have hopens := allowed_iff_opens (hrule ▸ hlimit) hcounted hmore
  exact hopens

/-- Nobody may come back sooner than after the seconds told, and somebody does just then. -/
theorem comesBack_at_once (hrules : ByRules settings [refused]) (told : ℤ) {moment : ℚ}
    (htold : refused.clock.now + told ≤ moment) (hstored : refused.clock.stored ≤ moment) :
    ComesBack settings refused told [] { refused with clock := ⟨moment, moment, moment⟩ } where
  rules hit hhit := by
    obtain rfl := List.mem_singleton.mp hhit
    exact hrules refused List.mem_cons_self
  timely := ⟨hstored, le_rfl, le_rfl, trivial⟩
  silent hit hhit := by cases hhit
  same := decide_eq_true ⟨rfl, rfl⟩
  waited := htold

/-- What the refused caller was told suffices when the seconds of the window that are over are
whole, when they are 59 or more, or when the refusal itself took up to the end of the window. -/
theorem told_suffices_iff {moment : ℚ} {before : List Hit}
    (hrules : ByRules settings (before ++ [refused]))
    (htimely : Timely Hit.clock moment (before ++ [refused])) (hlimit : 1 ≤ refused.rule.limit)
    (hlimiter : limiter = RateLimiter.after Cache.empty before)
    (hrefused : (limiter.hit refused).2.allowed = false) :
    ∃ window, limiter.find refused = some window ∧
      ((∀ between retry,
          ComesBack settings refused (limiter.hit refused).2.retryAfter between retry →
            (((limiter.hit refused).1.after between).hit retry).2.allowed = true) ↔
        (∃ seconds : ℤ, refused.clock.now - window.started = seconds) ∨
          windowSeconds - 1 ≤ refused.clock.now - window.started ∨
          window.started + windowSeconds ≤ refused.clock.stored) := by
  have hlast : refused ∈ before ++ [refused] := List.mem_append_right _ List.mem_cons_self
  have hmem : refused.rule ∈ settings.rules := hrules.mem hlast
  have halone : ByRules settings [refused] := fun hit hhit =>
    hrules hit (List.mem_append_right _ hhit)
  obtain ⟨counter, hcounter, hcurrent, hfull⟩ := counter_of_refused hlimit hrefused
  have hlasting : counter.started + windowSeconds ≤ counter.expires := by
    rw [hlimiter] at hcounter
    exact counter_lasting htimely.take hcounter
  have hopen : refused.clock.now - counter.started < windowSeconds := by
    rw [Counter.isCurrent, Bool.and_eq_true] at hcurrent
    exact of_decide_eq_true hcurrent.2
  have hreach := windowSeconds_le_told_iff hopen
  refine ⟨⟨counter.started, counter.count⟩, find_of_current hcounter hcurrent, ?_⟩
  rw [retryAfter_eq hcounter hcurrent, ← or_assoc]
  dsimp only
  rw [← hreach]
  constructor
  · -- the caller comes back at the first moment allowed
    intro hallowed
    by_contra hnever
    rw [not_or, not_le, not_le] at hnever
    obtain ⟨hshort, hquick⟩ := hnever
    have hback := comesBack_at_once halone (secondsTold (refused.clock.now - counter.started))
      (le_max_left _ refused.clock.stored) (le_max_right _ _)
    have hearly : max (refused.clock.now + secondsTold (refused.clock.now - counter.started))
        refused.clock.stored < counter.started + windowSeconds :=
      max_lt (by linarith) hquick
    rcases (retry_allowed_iff hmem hlimit hcounter hcurrent hfull hback).mp
      (hallowed _ _ hback) with hexpired | hlong
    · exact absurd (hlasting.trans hexpired) (not_le.mpr hearly)
    · exact absurd hlong (not_le.mpr (by dsimp only; linarith))
  · intro hlong between retry hback
    refine (retry_allowed_iff hmem hlimit hcounter hcurrent hfull hback).mpr (Or.inr ?_)
    have hwaited := hback.waited
    have hstored : refused.clock.stored ≤ retry.clock.now :=
      hback.timely.le_now (List.mem_append_right _ List.mem_cons_self)
    rcases hlong with htold | hslow <;> linarith

end Waiting

section

open Specimen

/-- Half a second into its window the second visitor is told 59 seconds, and comes back half a
second too soon. -/
theorem told_too_short :
    ∃ retry, ((RateLimiter.after Cache.empty [visit 0]).hit (visit (1 / 2))).2 = ⟨false, 0, 59⟩ ∧
      ComesBack onePerMinute (visit (1 / 2)) 59 [] retry ∧
        (((RateLimiter.after Cache.empty [visit 0]).hit (visit (1 / 2))).1.hit retry).2.allowed =
          false := by
  refine ⟨visit (1 / 2 + 59), by decide +kernel, ?_, by decide +kernel⟩
  have hrules : ByRules onePerMinute [visit (1 / 2)] := visits_by_rules (by simp)
  exact comesBack_at_once hrules 59 (by norm_num only [visit_clock])
    (by norm_num only [visit_clock])

theorem told_suffices_second :
    ∃ window, (RateLimiter.after Cache.empty [visit 0]).find (visit 1) = some window ∧
      (∀ between retry,
        ComesBack onePerMinute (visit 1)
            ((RateLimiter.after Cache.empty [visit 0]).hit (visit 1)).2.retryAfter between retry →
          ((((RateLimiter.after Cache.empty [visit 0]).hit (visit 1)).1.after between).hit
            retry).2.allowed = true) := by
  have hrules : ByRules onePerMinute ([visit 0] ++ [visit 1]) := visits_by_rules (by simp)
  have htimely : Timely Hit.clock 0 ([visit 0] ++ [visit 1]) := by
    norm_num only [List.cons_append, List.nil_append, Timely, visit_clock, and_self]
  obtain ⟨window, hwindow, hiff⟩ :=
    told_suffices_iff hrules htimely (by decide) rfl (by decide +kernel)
  have hfirst : (RateLimiter.after Cache.empty [visit 0]).find (visit 1) = some ⟨0, 1⟩ := by
    decide +kernel
  obtain rfl := Option.some.inj (hfirst.symm.trans hwindow)
  exact ⟨⟨0, 1⟩, hwindow, hiff.mpr (Or.inl ⟨1, by norm_num only [visit_clock]⟩)⟩

end

end ChmabaPay
