import Mathlib.Tactic

/-! # Counting in fixed windows

A counter starts a window with the first arrival and goes on until the window is over. The end
is read off two clocks: the moment of the arrival, against the start of the window, and the
moment the counter is looked up, against the moment it was stored. An arrival may be late for
the second clock and still early for the first, so a window can start before the one in front
of it is over; but whatever comes after such an arrival is late for both.
-/

namespace FixedWindow

/-- The readings of the clock while an arrival is counted. -/
structure Clock (τ : Type) where
  now : τ
  looked : τ
  stored : τ

structure Counter (τ : Type) where
  started : τ
  count : ℕ
  expires : τ
deriving DecidableEq

section Counting

variable {τ β : Type} [Field τ] [LinearOrder τ]

/-- The counter is found, and its window is not over. -/
def Counter.isCurrent (length : τ) (clock : Clock τ) (counter : Counter τ) : Bool :=
  decide (clock.looked < counter.expires) && decide (clock.now - counter.started < length)

/-- A counter of a new window. -/
def opened (length : τ) (clock : Clock τ) : Counter τ where
  started := clock.now
  count := 0
  expires := clock.stored + length

/-- The arrival opens a window. -/
def opens (length : τ) (counter : Option (Counter τ)) (clock : Clock τ) : Bool :=
  (counter.filter (Counter.isCurrent length clock)).isNone

/-- The counter after an arrival. -/
def tick (length : τ) (counter : Option (Counter τ)) (clock : Clock τ) : Counter τ :=
  let current := (counter.filter (Counter.isCurrent length clock)).getD (opened length clock)
  { current with count := current.count + 1 }

/-- An arrival, whether it opened a window, and the counter it left. -/
structure Counted (β τ : Type) where
  arrival : β
  opened : Bool
  counter : Counter τ

/-- The arrivals, each as it was counted. -/
def counts (length : τ) (clock : β → Clock τ) :
    Option (Counter τ) → List β → List (Counted β τ)
  | _, [] => []
  | counter, arrival :: rest =>
      let counted := tick length counter (clock arrival)
      ⟨arrival, opens length counter (clock arrival), counted⟩ ::
        counts length clock (some counted) rest

/-- The counter after all arrivals. -/
def after (length : τ) (clock : β → Clock τ) (counter : Option (Counter τ))
    (arrivals : List β) : Option (Counter τ) :=
  arrivals.foldl (fun counter arrival => some (tick length counter (clock arrival))) counter

/-- No clock runs backwards. -/
def Timely (clock : β → Clock τ) : τ → List β → Prop
  | _, [] => True
  | moment, arrival :: rest =>
      moment ≤ (clock arrival).now ∧ (clock arrival).now ≤ (clock arrival).looked ∧
        (clock arrival).looked ≤ (clock arrival).stored ∧ Timely clock (clock arrival).stored rest

/-- The arrivals in an interval that a limit lets through. -/
def admitted (limit : ℕ) (start finish : τ) (clock : β → Clock τ)
    (counted : List (Counted β τ)) : ℕ :=
  counted.countP fun entry => decide (start ≤ (clock entry.arrival).now) &&
    decide ((clock entry.arrival).now < finish) && decide (entry.counter.count ≤ limit)

end Counting

/-! ## One arrival -/

section Ticks

variable {τ : Type} [Field τ] [LinearOrder τ] {length : τ} {clock : Clock τ}

theorem tick_of_current {counter : Counter τ} (hcurrent : counter.isCurrent length clock = true) :
    tick length (some counter) clock = { counter with count := counter.count + 1 } := by
  rw [tick, Option.filter_some, if_pos hcurrent]
  rfl

theorem tick_of_opens {counter : Option (Counter τ)} (hopens : opens length counter clock = true) :
    tick length counter clock = { opened length clock with count := 1 } := by
  rw [tick, Option.isNone_iff_eq_none.mp hopens]
  rfl

theorem current_of_not_opens {counter : Option (Counter τ)}
    (hopens : opens length counter clock = false) :
    ∃ current, counter = some current ∧ current.isCurrent length clock = true := by
  unfold opens at hopens
  obtain ⟨current, hcurrent⟩ := Option.isSome_iff_exists.mp (Option.isNone_eq_false_iff.mp hopens)
  exact ⟨current, Option.filter_eq_some_iff.mp hcurrent⟩

theorem count_tick_pos (counter : Option (Counter τ)) (clock : Clock τ) :
    0 < (tick length counter clock).count := Nat.succ_pos _

/-- A counter that is no longer current is late for one of its clocks. -/
theorem late_of_opens {counter : Counter τ} (hopens : opens length (some counter) clock = true) :
    counter.expires ≤ clock.looked ∨ length ≤ clock.now - counter.started := by
  rw [opens, Option.filter_some] at hopens
  by_contra hnone
  rw [not_or, not_le, not_le] at hnone
  rw [if_pos] at hopens
  · cases hopens
  · rw [Counter.isCurrent, decide_eq_true hnone.1, decide_eq_true hnone.2]
    rfl

/-- An arrival that is late for one of the clocks opens a window. -/
theorem opens_of_late {counter : Counter τ}
    (hlate : counter.expires ≤ clock.looked ∨ length ≤ clock.now - counter.started) :
    opens length (some counter) clock = true := by
  rw [opens, Option.filter_some, if_neg]
  · rfl
  · rw [Counter.isCurrent, Bool.and_eq_true, decide_eq_true_eq, decide_eq_true_eq]
    rintro ⟨hfound, hopen⟩
    rcases hlate with hexpired | hlong
    · exact not_lt.mpr hexpired hfound
    · exact not_lt.mpr hlong hopen

end Ticks

/-! ## Clocks -/

section Clocks

variable {τ β : Type} [LinearOrder τ] {clock : β → Clock τ}

theorem Timely.drop {moment : τ} {front back : List β}
    (htimely : Timely clock moment (front ++ back)) : ∃ later, Timely clock later back := by
  induction front generalizing moment with
  | nil => exact ⟨moment, htimely⟩
  | cons arrival rest ih => exact ih htimely.2.2.2

theorem Timely.take {moment : τ} {front back : List β}
    (htimely : Timely clock moment (front ++ back)) : Timely clock moment front := by
  induction front generalizing moment with
  | nil => trivial
  | cons arrival rest ih => exact ⟨htimely.1, htimely.2.1, htimely.2.2.1, ih htimely.2.2.2⟩

theorem Timely.earlier {moment earlier : τ} (hearlier : earlier ≤ moment) {arrivals : List β}
    (htimely : Timely clock moment arrivals) : Timely clock earlier arrivals := by
  cases arrivals with
  | nil => trivial
  | cons arrival rest => exact ⟨hearlier.trans htimely.1, htimely.2⟩

/-- Some of the arrivals alone are no less timely. -/
theorem Timely.filter (chosen : β → Bool) {moment : τ} {arrivals : List β}
    (htimely : Timely clock moment arrivals) : Timely clock moment (arrivals.filter chosen) := by
  induction arrivals generalizing moment with
  | nil => trivial
  | cons arrival rest ih =>
      obtain ⟨hnow, hlooked, hstored, hrest⟩ := htimely
      rw [List.filter_cons]
      split
      · exact ⟨hnow, hlooked, hstored, ih hrest⟩
      · exact (ih hrest).earlier (hnow.trans (hlooked.trans hstored))

theorem Timely.le_now {moment : τ} {arrivals : List β} (htimely : Timely clock moment arrivals)
    {arrival : β} (harrival : arrival ∈ arrivals) : moment ≤ (clock arrival).now := by
  induction arrivals generalizing moment with
  | nil => cases harrival
  | cons first rest ih =>
      obtain ⟨hnow, hlooked, hstored, hrest⟩ := htimely
      rcases List.mem_cons.mp harrival with rfl | hmem
      · exact hnow
      · exact (hnow.trans (hlooked.trans hstored)).trans (ih hrest hmem)

end Clocks

/-! ## The bound -/

section Bound

variable {τ β : Type} [Field τ] [LinearOrder τ] {length start : τ} {clock : β → Clock τ}
  {limit : ℕ}

theorem counts_cons (counter : Option (Counter τ)) (arrival : β) (rest : List β) :
    counts length clock counter (arrival :: rest) =
      ⟨arrival, opens length counter (clock arrival), tick length counter (clock arrival)⟩ ::
        counts length clock (some (tick length counter (clock arrival))) rest := rfl

omit [Field τ] in
theorem admitted_cons (finish : τ) (entry : Counted β τ) (counted : List (Counted β τ)) :
    admitted limit start finish clock (entry :: counted) =
      admitted limit start finish clock counted +
        if start ≤ (clock entry.arrival).now ∧ (clock entry.arrival).now < finish ∧
          entry.counter.count ≤ limit then 1 else 0 := by
  rw [admitted, List.countP_cons]
  simp only [Bool.and_eq_true, decide_eq_true_eq, and_assoc]
  rfl

omit [Field τ] in
theorem admitted_cons_le (finish : τ) (entry : Counted β τ) (counted : List (Counted β τ)) :
    admitted limit start finish clock (entry :: counted) ≤
      admitted limit start finish clock counted + 1 := by
  rw [admitted_cons]
  split
  · exact le_rfl
  · exact Nat.le_succ _

omit [Field τ] in
theorem admitted_cons_of_not {finish : τ} {entry : Counted β τ} {counted : List (Counted β τ)}
    (hnot : ¬ (start ≤ (clock entry.arrival).now ∧ (clock entry.arrival).now < finish ∧
      entry.counter.count ≤ limit)) :
    admitted limit start finish clock (entry :: counted) =
      admitted limit start finish clock counted := by
  rw [admitted_cons, if_neg hnot, Nat.add_zero]

/-- After the interval nothing is admitted to it. -/
theorem admitted_of_late {finish moment : τ} (hlate : finish ≤ moment)
    (counter : Option (Counter τ)) {arrivals : List β} (htimely : Timely clock moment arrivals) :
    admitted limit start finish clock (counts length clock counter arrivals) = 0 := by
  induction arrivals generalizing counter moment with
  | nil => rfl
  | cons arrival rest ih =>
      obtain ⟨hnow, hlooked, hstored, hrest⟩ := htimely
      have hover : finish ≤ (clock arrival).now := hlate.trans hnow
      rw [counts_cons, admitted_cons_of_not fun hin => absurd hin.2.1 (not_lt.mpr hover)]
      exact ih (hover.trans (hlooked.trans hstored)) _ hrest

theorem admitted_of_zero {finish : τ} (counter : Option (Counter τ)) (arrivals : List β) :
    admitted 0 start finish clock (counts length clock counter arrivals) = 0 := by
  induction arrivals generalizing counter with
  | nil => rfl
  | cons arrival rest ih =>
      have hpos : 0 < (tick length counter (clock arrival)).count := count_tick_pos _ _
      rw [counts_cons, admitted_cons_of_not fun hin => absurd hin.2.2 (Nat.not_le.mpr hpos)]
      exact ih _

variable [IsStrictOrderedRing τ]

/-- The window ends no later than its entry in the cache. -/
def Counter.Lasting (length : τ) (counter : Counter τ) : Prop :=
  counter.started + length ≤ counter.expires

theorem opened_lasting {clock : Clock τ} (hlooked : clock.now ≤ clock.looked)
    (hstored : clock.looked ≤ clock.stored) (count : ℕ) :
    Counter.Lasting length { opened length clock with count := count } := by
  have hopened : clock.now ≤ clock.stored := hlooked.trans hstored
  exact (add_le_add_iff_right length).mpr hopened

theorem tick_lasting {counter : Option (Counter τ)}
    (hcounter : ∀ current, counter = some current → current.Lasting length) {clock : Clock τ}
    (hlooked : clock.now ≤ clock.looked) (hstored : clock.looked ≤ clock.stored) :
    (tick length counter clock).Lasting length := by
  cases hopens : opens length counter clock with
  | true =>
      rw [tick_of_opens hopens]
      exact opened_lasting hlooked hstored 1
  | false =>
      obtain ⟨current, rfl, hgoes⟩ := current_of_not_opens hopens
      rw [tick_of_current hgoes]
      exact hcounter current rfl

theorem after_lasting {moment : τ} {counter : Option (Counter τ)}
    (hcounter : ∀ current, counter = some current → current.Lasting length) {arrivals : List β}
    (htimely : Timely clock moment arrivals) :
    ∀ current, after length clock counter arrivals = some current → current.Lasting length := by
  induction arrivals generalizing counter moment with
  | nil => exact hcounter
  | cons arrival rest ih =>
      obtain ⟨-, hlooked, hstored, hrest⟩ := htimely
      refine ih (fun current hcurrent => ?_) hrest
      obtain rfl := Option.some.inj hcurrent
      exact tick_lasting hcounter hlooked hstored

/-- A window that starts in the interval fills it, but for one arrival that opens the next
window early. -/
theorem admitted_of_started {moment : τ} {counter : Counter τ} (hstarted : start ≤ counter.started)
    (hlasting : counter.Lasting length) {arrivals : List β}
    (htimely : Timely clock moment arrivals) :
    admitted limit start (start + length) clock (counts length clock (some counter) arrivals) ≤
      (limit - counter.count) + 1 := by
  induction arrivals generalizing counter moment with
  | nil => exact Nat.zero_le _
  | cons arrival rest ih =>
      obtain ⟨-, hlooked, hstored, hrest⟩ := htimely
      have hover : start + length ≤ counter.started + length := by linarith
      rw [counts_cons]
      cases hopens : opens length (some counter) (clock arrival) with
      | false =>
          obtain ⟨current, heq, hcurrent⟩ := current_of_not_opens hopens
          obtain rfl := Option.some.inj heq
          rw [tick_of_current hcurrent]
          have hgoes : admitted limit start (start + length) clock (counts length clock
              (some { counter with count := counter.count + 1 }) rest) ≤
              (limit - (counter.count + 1)) + 1 := ih hstarted hlasting hrest
          by_cases hfull : counter.count + 1 ≤ limit
          · refine (admitted_cons_le _ _ _).trans ?_
            omega
          · rw [admitted_cons_of_not fun hin => hfull hin.2.2]
            omega
      | true =>
          rw [tick_of_opens hopens]
          rcases late_of_opens hopens with hexpired | hlong
          · -- late for the second clock: what follows is behind the interval
            have hlate : start + length ≤ (clock arrival).stored :=
              (hover.trans hlasting).trans (hexpired.trans hstored)
            refine (admitted_cons_le _ _ _).trans ?_
            rw [admitted_of_late hlate _ hrest]
            omega
          · have hlate : start + length ≤ (clock arrival).now := by linarith
            rw [admitted_cons_of_not fun hin => absurd hin.2.1 (not_lt.mpr hlate),
              admitted_of_late (hlate.trans (hlooked.trans hstored)) _ hrest]
            exact Nat.zero_le _

/-- From an arrival in the interval on, the current window and the next one count. -/
theorem admitted_of_current {moment : τ} (hmoment : start ≤ moment) {counter : Counter τ}
    (hlasting : counter.Lasting length) {arrivals : List β}
    (htimely : Timely clock moment arrivals) :
    admitted limit start (start + length) clock (counts length clock (some counter) arrivals) ≤
      (limit - counter.count) + limit + 1 := by
  induction arrivals generalizing counter moment with
  | nil => exact Nat.zero_le _
  | cons arrival rest ih =>
      obtain ⟨hnow, hlooked, hstored, hrest⟩ := htimely
      rw [counts_cons]
      cases hopens : opens length (some counter) (clock arrival) with
      | false =>
          obtain ⟨current, heq, hcurrent⟩ := current_of_not_opens hopens
          obtain rfl := Option.some.inj heq
          rw [tick_of_current hcurrent]
          have hgoes : admitted limit start (start + length) clock (counts length clock
              (some { counter with count := counter.count + 1 }) rest) ≤
              (limit - (counter.count + 1)) + limit + 1 :=
            ih (hmoment.trans (hnow.trans (hlooked.trans hstored))) hlasting hrest
          by_cases hfull : counter.count + 1 ≤ limit
          · refine (admitted_cons_le _ _ _).trans ?_
            omega
          · rw [admitted_cons_of_not fun hin => hfull hin.2.2]
            omega
      | true =>
          rw [tick_of_opens hopens]
          have hnext : admitted limit start (start + length) clock (counts length clock
              (some { opened length (clock arrival) with count := 1 }) rest) ≤ (limit - 1) + 1 :=
            admitted_of_started (hmoment.trans hnow) (opened_lasting hlooked hstored 1) hrest
          by_cases hfull : 1 ≤ limit
          · refine (admitted_cons_le _ _ _).trans ?_
            omega
          · rw [admitted_cons_of_not fun hin => hfull hin.2.2]
            omega

/-- An interval of the length of a window admits at most twice the limit. -/
theorem admitted_le {moment : τ} {counter : Option (Counter τ)}
    (hcounter : ∀ current, counter = some current → 0 < current.count ∧ current.Lasting length)
    {arrivals : List β} (htimely : Timely clock moment arrivals) :
    admitted limit start (start + length) clock (counts length clock counter arrivals) ≤
      2 * limit := by
  rcases Nat.eq_zero_or_pos limit with rfl | hlimit
  · exact (admitted_of_zero counter arrivals).le
  induction arrivals generalizing counter moment with
  | nil => exact Nat.zero_le _
  | cons arrival rest ih =>
      obtain ⟨-, hlooked, hstored, hrest⟩ := htimely
      by_cases hstart : start ≤ (clock arrival).now
      · cases counter with
        | some current =>
            obtain ⟨hcount, hlasting⟩ := hcounter current rfl
            have hhere : Timely clock start (arrival :: rest) := ⟨hstart, hlooked, hstored, hrest⟩
            refine (admitted_of_current le_rfl hlasting hhere).trans ?_
            omega
        | none =>
            have hopens : opens length none (clock arrival) = true := rfl
            rw [counts_cons, tick_of_opens hopens]
            have hnext : admitted limit start (start + length) clock (counts length clock
                (some { opened length (clock arrival) with count := 1 }) rest) ≤ (limit - 1) + 1 :=
              admitted_of_started hstart (opened_lasting hlooked hstored 1) hrest
            refine (admitted_cons_le _ _ _).trans ?_
            omega
      · rw [counts_cons, admitted_cons_of_not fun hin => hstart hin.1]
        refine ih (fun current hcurrent => ?_) hrest
        obtain rfl := Option.some.inj hcurrent
        exact ⟨count_tick_pos _ _,
          tick_lasting (fun old hold => (hcounter old hold).2) hlooked hstored⟩

omit [IsStrictOrderedRing τ] in
theorem arrival_of_mem_counts {counter : Option (Counter τ)} {arrivals : List β}
    {entry : Counted β τ} (hentry : entry ∈ counts length clock counter arrivals) :
    entry.arrival ∈ arrivals := by
  induction arrivals generalizing counter with
  | nil => cases hentry
  | cons arrival rest ih =>
      rcases List.mem_cons.mp hentry with rfl | hrest
      · exact List.mem_cons_self
      · exact List.mem_cons_of_mem _ (ih hrest)

/-! ## One window -/

omit [IsStrictOrderedRing τ] in
/-- A part of the run is counted from what the arrivals in front of it left. -/
theorem counts_eq_append {counter : Option (Counter τ)} {arrivals : List β}
    {front back : List (Counted β τ)}
    (hcounts : counts length clock counter arrivals = front ++ back) :
    ∃ first second, arrivals = first ++ second ∧ counts length clock counter first = front ∧
      counts length clock (after length clock counter first) second = back := by
  induction front generalizing counter arrivals with
  | nil => exact ⟨[], arrivals, rfl, rfl, hcounts⟩
  | cons entry front ih =>
      cases arrivals with
      | nil => cases hcounts
      | cons arrival rest =>
          obtain ⟨rfl, hrest⟩ := List.cons.inj hcounts
          obtain ⟨first, second, rfl, hfirst, hsecond⟩ := ih hrest
          exact ⟨arrival :: first, second, rfl, congrArg (_ :: ·) hfirst, hsecond⟩

/-- The arrivals that a limit lets through. -/
def passed (limit : ℕ) (counted : List (Counted β τ)) : ℕ :=
  counted.countP fun entry => decide (entry.counter.count ≤ limit)

omit [Field τ] [LinearOrder τ] [IsStrictOrderedRing τ] in
theorem passed_cons (entry : Counted β τ) (counted : List (Counted β τ)) :
    passed limit (entry :: counted) =
      passed limit counted + if entry.counter.count ≤ limit then 1 else 0 := by
  rw [passed, List.countP_cons]
  simp only [decide_eq_true_eq]
  rfl

omit [IsStrictOrderedRing τ] in
/-- While no window opens, the current one goes on as it started. -/
theorem after_of_not_opened {counter : Counter τ} {arrivals : List β}
    (hgoes : ∀ entry ∈ counts length clock (some counter) arrivals, entry.opened = false) :
    ∃ last, after length clock (some counter) arrivals = some last ∧
      last.started = counter.started ∧ last.expires = counter.expires := by
  induction arrivals generalizing counter with
  | nil => exact ⟨counter, rfl, rfl, rfl⟩
  | cons arrival rest ih =>
      obtain ⟨hfirst, hrest⟩ := List.forall_mem_cons.mp hgoes
      obtain ⟨current, heq, hcurrent⟩ := current_of_not_opens hfirst
      obtain rfl := Option.some.inj heq
      rw [tick_of_current hcurrent] at hrest
      obtain ⟨last, hlast, hstarted, hexpires⟩ := ih hrest
      refine ⟨last, ?_, hstarted, hexpires⟩
      rw [← hlast, after, List.foldl_cons, tick_of_current hcurrent]
      rfl

omit [IsStrictOrderedRing τ] in
theorem passed_of_not_opened {counter : Counter τ} {arrivals : List β}
    (hgoes : ∀ entry ∈ counts length clock (some counter) arrivals, entry.opened = false) :
    passed limit (counts length clock (some counter) arrivals) ≤ limit - counter.count := by
  induction arrivals generalizing counter with
  | nil => exact Nat.zero_le _
  | cons arrival rest ih =>
      obtain ⟨hfirst, hrest⟩ := List.forall_mem_cons.mp hgoes
      obtain ⟨current, heq, hcurrent⟩ := current_of_not_opens hfirst
      obtain rfl := Option.some.inj heq
      rw [tick_of_current hcurrent] at hrest
      have hnext : passed limit (counts length clock
          (some { counter with count := counter.count + 1 }) rest) ≤ limit - (counter.count + 1) :=
        ih hrest
      rw [counts_cons, tick_of_current hcurrent, passed_cons]
      dsimp only
      split <;> omega

omit [IsStrictOrderedRing τ] in
/-- A window lets through at most the limit. -/
theorem passed_le {counter : Option (Counter τ)} {arrivals : List β}
    {before within rest : List (Counted β τ)} {first : Counted β τ}
    (hcounts : counts length clock counter arrivals = before ++ first :: (within ++ rest))
    (hwithin : ∀ entry ∈ within, entry.opened = false) :
    passed limit (first :: within) ≤ limit := by
  obtain ⟨front, behind, -, -, hbehind⟩ := counts_eq_append hcounts
  cases behind with
  | nil => cases hbehind
  | cons arrival others =>
      obtain ⟨rfl, hothers⟩ := List.cons.inj hbehind
      obtain ⟨own, others, -, rfl, -⟩ := counts_eq_append hothers
      have hgoes : passed limit (counts length clock _ own) ≤ limit - _ :=
        passed_of_not_opened hwithin
      have hpos : 0 < (tick length (after length clock counter front) (clock arrival)).count :=
        count_tick_pos _ _
      rw [passed_cons]
      dsimp only
      split <;> omega

/-- Between two openings lies the length of a window. -/
theorem opened_apart {moment : τ} {counter : Option (Counter τ)} {arrivals : List β}
    (htimely : Timely clock moment arrivals) {before within rest : List (Counted β τ)}
    {first second : Counted β τ}
    (hcounts : counts length clock counter arrivals = before ++ first :: (within ++ second :: rest))
    (hfirst : first.opened = true) (hwithin : ∀ entry ∈ within, entry.opened = false)
    (hsecond : second.opened = true) :
    (clock first.arrival).now + length ≤ (clock second.arrival).looked := by
  obtain ⟨front, behind, rfl, -, hbehind⟩ := counts_eq_append hcounts
  obtain ⟨later, hlater⟩ := htimely.drop
  cases behind with
  | nil => cases hbehind
  | cons arrival others =>
      obtain ⟨rfl, hothers⟩ := List.cons.inj hbehind
      obtain ⟨own, next, rfl, rfl, hnext⟩ := counts_eq_append hothers
      obtain ⟨-, hlooked, hstored, hrest⟩ := hlater
      rw [tick_of_opens hfirst] at hwithin hnext
      obtain ⟨last, hlast, hstarted, hexpires⟩ := after_of_not_opened hwithin
      cases next with
      | nil => cases hnext
      | cons retry others =>
          obtain ⟨rfl, -⟩ := List.cons.inj hnext
          obtain ⟨between, hbetween⟩ := hrest.drop
          rw [hlast] at hsecond
          rcases late_of_opens hsecond with hexpired | hlong
          · rw [hexpires] at hexpired
            exact (opened_lasting hlooked hstored 1).trans hexpired
          · rw [hstarted] at hlong
            have hover : (clock arrival).now + length ≤ (clock retry).now := by
              dsimp only [opened] at hlong
              linarith
            exact hover.trans hbetween.2.1

end Bound

end FixedWindow
