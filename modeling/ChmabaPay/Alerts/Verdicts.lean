import ChmabaPay.Foundation.Edges
import ChmabaPay.Services.AlertWatcher

/-! # Verdicts of the alert watcher

Whatever a check is told, the messages on one condition are of its start and its end in turn.
What fires after a check is what the check came to; that is what it measured itself, but for
conditions that a probe which raised keeps firing although the check has just measured them to
be over.
-/

namespace ChmabaPay

open Calendar Edges

/-! ## What fires -/

namespace FiringTable

def keys (firing : FiringTable) : List String := firing.map Prod.fst

/-- Every condition fires once, under its own key. -/
structure Sound (firing : FiringTable) : Prop where
  distinct : firing.keys.Nodup
  keyed : ∀ entry ∈ firing, entry.2.condition.key = entry.1

theorem sound_nil : Sound [] := ⟨List.nodup_nil, fun _ hentry => by cases hentry⟩

theorem lookup_eq_none_iff {firing : FiringTable} {key : String} :
    firing.lookup key = none ↔ key ∉ firing.keys := by
  rw [List.lookup_eq_none_iff, keys, List.mem_map]
  constructor
  · rintro hnone ⟨entry, hentry, rfl⟩
    simpa using hnone entry hentry
  · intro hnot entry hentry
    simpa using fun heq => hnot ⟨entry, hentry, heq.symm⟩

theorem mem_of_lookup {firing : FiringTable} {key : String} {found : Firing}
    (hfound : firing.lookup key = some found) : (key, found) ∈ firing := by
  induction firing with
  | nil => cases hfound
  | cons entry rest ih =>
      rw [List.lookup_cons] at hfound
      split at hfound
      · obtain rfl := Option.some.inj hfound
        have hkey : key = entry.1 := eq_of_beq ‹_›
        exact hkey ▸ List.mem_cons_self
      · exact List.mem_cons_of_mem _ (ih hfound)

end FiringTable

/-! ## Messages -/

def ConditionMessage.key : ConditionMessage → String
  | .raised condition _ => condition.key
  | .resolved firing _ => firing.condition.key

def ConditionMessage.edge : ConditionMessage → Edge
  | .raised _ _ => .rise
  | .resolved _ _ => .fall

/-- The messages on one condition, as edges. -/
def edgesOf (key : String) (messages : List ConditionMessage) : List Edge :=
  (messages.filter fun message => message.key = key).map ConditionMessage.edge

section Messages

variable {key : String}

theorem edgesOf_append (first second : List ConditionMessage) :
    edgesOf key (first ++ second) = edgesOf key first ++ edgesOf key second := by
  rw [edgesOf, List.filter_append, List.map_append]
  rfl

theorem edgesOf_cons (message : ConditionMessage) (rest : List ConditionMessage) :
    edgesOf key (message :: rest) =
      if message.key = key then message.edge :: edgesOf key rest else edgesOf key rest := by
  rw [edgesOf, List.filter_cons]
  by_cases hkey : message.key = key
  · rw [if_pos (decide_eq_true hkey), if_pos hkey]
    rfl
  · rw [if_neg (mt of_decide_eq_true hkey), if_neg hkey]
    rfl

theorem edgesOf_raised (condition : Condition) (moment : Instant) :
    edgesOf key [.raised condition moment] = if condition.key = key then [.rise] else [] :=
  edgesOf_cons _ _

end Messages

/-! ## One condition observed -/

section Observing

variable {state : FiringTable × List ConditionMessage} {moment : Instant}
  {condition : Condition} {key : String}

theorem keys_observe :
    (FiringTable.observe moment state condition).1.keys =
      if condition.key ∈ state.1.keys then state.1.keys else state.1.keys ++ [condition.key] := by
  unfold FiringTable.observe
  cases hlookup : state.1.lookup condition.key with
  | none =>
      rw [if_neg (FiringTable.lookup_eq_none_iff.mp hlookup)]
      exact List.map_append
  | some found =>
      have hmem : condition.key ∈ state.1.keys :=
        List.mem_map_of_mem (FiringTable.mem_of_lookup hlookup)
      rw [if_pos hmem, FiringTable.keys, List.map_map]
      refine List.map_congr_left fun entry _ => ?_
      rw [Function.comp_apply]
      split <;> rfl

theorem sent_observe :
    (FiringTable.observe moment state condition).2 =
      state.2 ++ if condition.key ∈ state.1.keys then [] else [.raised condition moment] := by
  unfold FiringTable.observe
  cases hlookup : state.1.lookup condition.key with
  | none => rw [if_neg (FiringTable.lookup_eq_none_iff.mp hlookup)]
  | some found =>
      have hmem : condition.key ∈ state.1.keys :=
        List.mem_map_of_mem (FiringTable.mem_of_lookup hlookup)
      rw [if_pos hmem, List.append_nil]

theorem FiringTable.Sound.observe (hsound : state.1.Sound) :
    (FiringTable.observe moment state condition).1.Sound where
  distinct := by
    rw [keys_observe]
    split
    · exact hsound.distinct
    · exact List.nodup_append.mpr ⟨hsound.distinct, List.nodup_singleton _, by
        rintro one hone other hother rfl
        exact ‹condition.key ∉ state.1.keys› (List.mem_singleton.mp hother ▸ hone)⟩
  keyed := by
    intro entry hentry
    unfold FiringTable.observe at hentry
    split at hentry
    · obtain ⟨old, hold, rfl⟩ := List.mem_map.mp hentry
      split
      · exact Eq.symm ‹_›
      · exact hsound.keyed old hold
    · rcases List.mem_append.mp hentry with hold | hnew
      · exact hsound.keyed entry hold
      · obtain rfl := List.mem_singleton.mp hnew
        rfl

theorem mem_keys_observe :
    key ∈ (FiringTable.observe moment state condition).1.keys ↔
      key ∈ state.1.keys ∨ key = condition.key := by
  rw [keys_observe]
  split
  · exact ⟨Or.inl, fun hkey => hkey.elim id fun heq => heq ▸ ‹_›⟩
  · rw [List.mem_append, List.mem_singleton]

/-- What is sent on a condition is the edge of its start. -/
theorem edgesOf_observe :
    edgesOf key (FiringTable.observe moment state condition).2 =
      edgesOf key state.2 ++ between (decide (key ∈ state.1.keys))
        (decide (key ∈ (FiringTable.observe moment state condition).1.keys)) := by
  rw [sent_observe, edgesOf_append, decide_eq_decide.mpr mem_keys_observe]
  refine congrArg (_ ++ ·) ?_
  by_cases hfires : key ∈ state.1.keys
  · rw [decide_eq_true hfires, decide_eq_true (Or.inl hfires)]
    split
    · rfl
    · have hother : condition.key ≠ key := fun heq =>
        ‹condition.key ∉ state.1.keys› (heq ▸ hfires)
      rw [edgesOf_raised, if_neg hother]
      rfl
  · rw [decide_eq_false hfires]
    by_cases hkey : key = condition.key
    · subst hkey
      rw [if_neg hfires, edgesOf_raised, if_pos rfl, decide_eq_true (Or.inr rfl)]
      rfl
    · rw [decide_eq_false (not_or.mpr ⟨hfires, hkey⟩)]
      split
      · rfl
      · rw [edgesOf_raised, if_neg (Ne.symm hkey)]
        rfl

end Observing

/-! ## One check -/

section Checks

variable {state : FiringTable × List ConditionMessage} {moment : Instant}

/-- The conditions of a check: what fires goes on, and a message is sent on what begins. -/
theorem observe_all (conditions : List Condition) (hsound : state.1.Sound) :
    (conditions.foldl (FiringTable.observe moment) state).1.Sound ∧
      (∀ key, key ∈ (conditions.foldl (FiringTable.observe moment) state).1.keys ↔
        key ∈ state.1.keys ∨ key ∈ conditions.map Condition.key) ∧
      ∀ key, edgesOf key (conditions.foldl (FiringTable.observe moment) state).2 =
        edgesOf key state.2 ++ between (decide (key ∈ state.1.keys))
          (decide (key ∈ state.1.keys ∨ key ∈ conditions.map Condition.key)) := by
  induction conditions generalizing state with
  | nil =>
      refine ⟨hsound, fun key => (or_iff_left List.not_mem_nil).symm, fun key => ?_⟩
      rw [List.foldl_nil, List.map_nil, decide_eq_decide.mpr (or_iff_left List.not_mem_nil)]
      cases decide (key ∈ state.1.keys) <;> exact (List.append_nil _).symm
  | cons condition rest ih =>
      obtain ⟨hafter, hkeys, hedges⟩ := ih hsound.observe
      have hmem : ∀ key, key ∈ (FiringTable.observe moment state condition).1.keys ∨
          key ∈ rest.map Condition.key ↔
          key ∈ state.1.keys ∨ key ∈ (condition :: rest).map Condition.key := fun key => by
        rw [mem_keys_observe, List.map_cons, List.mem_cons, or_assoc]
      refine ⟨hafter, fun key => (hkeys key).trans (hmem key), fun key => ?_⟩
      rw [List.foldl_cons, hedges key, edgesOf_observe, List.append_assoc,
        decide_eq_decide.mpr (hmem key)]
      refine congrArg (_ ++ ·) (between_append (fun hfires => ?_) fun hfires => ?_)
      · exact decide_eq_true (mem_keys_observe.mpr (Or.inl (of_decide_eq_true hfires)))
      · exact decide_eq_true ((hmem key).mp (Or.inl (of_decide_eq_true hfires)))

theorem FiringTable.Sound.tail {entry : String × Firing} {rest : FiringTable}
    (hsound : FiringTable.Sound (entry :: rest)) : FiringTable.Sound rest where
  distinct := (List.nodup_cons.mp hsound.distinct).2
  keyed other hother := hsound.keyed other (List.mem_cons_of_mem _ hother)

/-- What fires and is not active is sent one message on. -/
theorem edgesOf_resolved {firing : FiringTable} (hsound : firing.Sound) (active : List String)
    (key : String) :
    edgesOf key ((firing.filter fun entry => entry.1 ∉ active).map fun entry =>
        .resolved entry.2 moment) =
      if key ∈ firing.keys ∧ key ∉ active then [.fall] else [] := by
  induction firing with
  | nil => rfl
  | cons entry rest ih =>
      obtain ⟨hfresh, -⟩ := List.nodup_cons.mp hsound.distinct
      have hkeyed : (ConditionMessage.resolved entry.2 moment).key = entry.1 :=
        hsound.keyed entry List.mem_cons_self
      have hrest := ih hsound.tail
      rw [List.filter_cons]
      by_cases hkey : entry.1 = key
      · -- the entry of this key: no other one is left
        subst hkey
        rw [if_neg (fun hleft => hfresh hleft.1)] at hrest
        have hmem : entry.1 ∈ FiringTable.keys (entry :: rest) := List.mem_cons_self
        by_cases hactive : entry.1 ∈ active
        · rw [if_neg (by simpa using hactive), hrest, if_neg fun hleft => hleft.2 hactive]
        · rw [if_pos (decide_eq_true hactive), List.map_cons, edgesOf_cons, hrest,
            if_pos hkeyed, if_pos ⟨hmem, hactive⟩]
          rfl
      · have hmem : key ∈ FiringTable.keys (entry :: rest) ↔ key ∈ FiringTable.keys rest :=
          List.mem_cons.trans (or_iff_right (Ne.symm hkey))
        simp only [hmem]
        split
        · rw [List.map_cons, edgesOf_cons, hrest, if_neg]
          exact fun heq => hkey (hkeyed ▸ heq)
        · exact hrest

theorem mem_keys_resolve {active : List String} {key : String} :
    key ∈ (FiringTable.resolve moment active state).1.keys ↔
      key ∈ state.1.keys ∧ key ∈ active := by
  have hkeys : (FiringTable.resolve moment active state).1.keys =
      state.1.keys.filter fun key => key ∈ active := by
    rw [FiringTable.keys, FiringTable.keys, List.filter_map]
    rfl
  rw [hkeys, List.mem_filter, decide_eq_true_eq]

theorem FiringTable.Sound.resolve (hsound : state.1.Sound) (active : List String) :
    (FiringTable.resolve moment active state).1.Sound where
  distinct := hsound.distinct.sublist (List.filter_sublist.map _)
  keyed entry hentry := hsound.keyed entry (List.mem_of_mem_filter hentry)

theorem edgesOf_resolve (hsound : state.1.Sound) {active : List String} {key : String} :
    edgesOf key (FiringTable.resolve moment active state).2 =
      edgesOf key state.2 ++ if key ∈ state.1.keys ∧ key ∉ active then [.fall] else [] := by
  rw [FiringTable.resolve, edgesOf_append, edgesOf_resolved hsound]

/-- The table and the messages when all conditions of a check are observed. -/
def AlertWatcher.observed (firing : FiringTable) (reading : WatchReading)
    (conditions : List Condition) : FiringTable × List ConditionMessage :=
  conditions.foldl (FiringTable.observe reading.moment) (firing, [])

theorem observed_spec {firing : FiringTable} (hsound : firing.Sound) (reading : WatchReading)
    (conditions : List Condition) :
    (AlertWatcher.observed firing reading conditions).1.Sound ∧
      (∀ key, key ∈ (AlertWatcher.observed firing reading conditions).1.keys ↔
        key ∈ firing.keys ∨ key ∈ conditions.map Condition.key) ∧
      ∀ key, edgesOf key (AlertWatcher.observed firing reading conditions).2 =
        between (decide (key ∈ firing.keys))
          (decide (key ∈ firing.keys ∨ key ∈ conditions.map Condition.key)) :=
  observe_all conditions hsound

theorem checkOnce_of_ok {watcher : AlertWatcher} {firing : FiringTable} {reading : WatchReading}
    {conditions : List Condition} (hconditions : watcher.evaluate firing reading = .ok conditions) :
    watcher.checkOnce firing reading = .ok (FiringTable.resolve reading.moment
      (conditions.map Condition.key) (AlertWatcher.observed firing reading conditions)) := by
  rw [AlertWatcher.checkOnce, hconditions]
  rfl

/-- A check that goes through: what fires is what was found, and what is sent is the edges. -/
theorem checkOnce_spec {watcher : AlertWatcher} {firing after : FiringTable}
    {reading : WatchReading} {sent : List ConditionMessage} (hsound : firing.Sound)
    (hcheck : watcher.checkOnce firing reading = .ok (after, sent)) :
    ∃ conditions, watcher.evaluate firing reading = .ok conditions ∧ after.Sound ∧
      (∀ key, key ∈ after.keys ↔ key ∈ conditions.map Condition.key) ∧
      ∀ key, edgesOf key sent =
        between (decide (key ∈ firing.keys)) (decide (key ∈ after.keys)) := by
  cases hconditions : watcher.evaluate firing reading with
  | error message =>
      rw [AlertWatcher.checkOnce, hconditions] at hcheck
      cases hcheck
  | ok conditions =>
      obtain ⟨hobserved, hkeys, hedges⟩ := observed_spec hsound reading conditions
      have hresult := Except.ok.inj ((checkOnce_of_ok hconditions).symm.trans hcheck)
      obtain rfl := congrArg Prod.fst hresult
      obtain rfl := congrArg Prod.snd hresult
      have hafter : ∀ key, key ∈ (FiringTable.resolve reading.moment (conditions.map Condition.key)
          (AlertWatcher.observed firing reading conditions)).1.keys ↔
            key ∈ conditions.map Condition.key := fun key =>
        mem_keys_resolve.trans (and_iff_right_of_imp fun hactive =>
          (hkeys key).mpr (Or.inr hactive))
      refine ⟨conditions, rfl, hobserved.resolve _, hafter, fun key => ?_⟩
      rw [edgesOf_resolve hobserved, hedges key, decide_eq_decide.mpr (hafter key)]
      simp only [hkeys key]
      exact between_fall _ _

end Checks

/-! ## A watch -/

section Watches

variable {watcher : AlertWatcher}

theorem watch_of_error {firing : FiringTable} {reading : WatchReading} {message : String}
    (hcheck : watcher.checkOnce firing reading = .error message) (rest : List WatchReading) :
    watcher.watch firing (reading :: rest) = watcher.watch firing rest := by
  rw [AlertWatcher.watch, hcheck]

theorem watch_of_ok {firing after : FiringTable} {reading : WatchReading}
    {sent : List ConditionMessage} (hcheck : watcher.checkOnce firing reading = .ok (after, sent))
    (rest : List WatchReading) :
    watcher.watch firing (reading :: rest) =
      ⟨firing, reading, after, sent⟩ :: watcher.watch after rest := by
  rw [AlertWatcher.watch, hcheck]

/-- Every check of a watch starts from a sound table. -/
theorem watch_spec {firing : FiringTable} (hsound : firing.Sound) {readings : List WatchReading}
    {check : Check} (hcheck : check ∈ watcher.watch firing readings) :
    check.before.Sound ∧
      watcher.checkOnce check.before check.reading = .ok (check.after, check.sent) := by
  induction readings generalizing firing with
  | nil => cases hcheck
  | cons reading rest ih =>
      cases hone : watcher.checkOnce firing reading with
      | error message =>
          rw [watch_of_error hone] at hcheck
          exact ih hsound hcheck
      | ok result =>
          obtain ⟨after, sent⟩ := result
          rw [watch_of_ok hone] at hcheck
          rcases List.mem_cons.mp hcheck with rfl | hrest
          · exact ⟨hsound, hone⟩
          · obtain ⟨-, -, hafter, -⟩ := checkOnce_spec hsound hone
            exact ih hafter hrest

/-- The messages on a condition are the edges of what fires after each check. -/
theorem edgesOf_watch {firing : FiringTable} (hsound : firing.Sound)
    (readings : List WatchReading) (key : String) :
    edgesOf key ((watcher.watch firing readings).flatMap Check.sent) =
      reports (decide (key ∈ firing.keys))
        ((watcher.watch firing readings).map fun check => decide (key ∈ check.after.keys)) := by
  induction readings generalizing firing with
  | nil => rfl
  | cons reading rest ih =>
      cases hone : watcher.checkOnce firing reading with
      | error message =>
          rw [watch_of_error hone]
          exact ih hsound
      | ok result =>
          obtain ⟨after, sent⟩ := result
          obtain ⟨-, -, hafter, -, hedges⟩ := checkOnce_spec hsound hone
          rw [watch_of_ok hone, List.flatMap_cons, edgesOf_append, ih hafter, hedges key]
          rfl

end Watches

/-! ## What a check measures -/

namespace AlertWatcher

/-- The loop has not asked for a job in time, or never. -/
def loopStalled (watcher : AlertWatcher) (reading : WatchReading) (queue : String) : Bool :=
  match reading.heartbeats queue with
  | none => true
  | some last => decide (watcher.stallSeconds < reading.now - last)

/-- Too many of enough deliveries failed. -/
def deliveriesFail (watcher : AlertWatcher) (failed total : ℤ) : Bool :=
  decide (watcher.failureMinSample ≤ total ∧ watcher.failureRate < failed / total)

/-- What a check measures itself of a condition: nothing of one that is not the watcher's own,
and no answer when the measurement raises. -/
def measured (watcher : AlertWatcher) (reading : WatchReading) (key : String) :
    Option (Option Bool) :=
  match watcher.queues.find? fun queue => stalledKey queue = key with
  | some queue => some (some (watcher.loopStalled reading queue))
  | none =>
      if key = backlogKey then some (some (decide (watcher.backlogThreshold < backlog reading)))
      else if key = failureRateKey ∧ watcher.measuresDeliveries then
        some (reading.outcomes.map fun outcomes =>
          watcher.deliveriesFail outcomes.1 outcomes.2)
      else none

/-- What a condition's own measurement says in a check, if it gave an answer. -/
def verdict (watcher : AlertWatcher) (reading : WatchReading) (key : String) : Option Bool :=
  match watcher.measured reading key with
  | some own => own
  | none =>
      if watcher.hasProbe then
        reading.probed.map fun conditions => decide (key ∈ conditions.map Condition.key)
      else none

/-- What a check finds before it asks the probe. -/
def found (watcher : AlertWatcher) (reading : WatchReading) (rate : Option Condition) :
    List Condition :=
  watcher.queues.filterMap (watcher.loopCondition reading) ++
    (watcher.backlogCondition reading).toList ++ rate.toList

end AlertWatcher

section Keys

theorem stalledKey_inj {queue other : String} (hkeys : stalledKey queue = stalledKey other) :
    queue = other := by
  have hlists := congrArg String.toList hkeys
  rw [stalledKey, stalledKey, String.toList_append, String.toList_append] at hlists
  exact String.toList_inj.mp (List.append_cancel_left hlists)

theorem take_stalledKey (queue : String) : (stalledKey queue).toList.take 2 = ['w', 'o'] := by
  rw [stalledKey, String.toList_append, List.take_append_of_le_length (by decide)]
  rfl

theorem stalledKey_ne_backlogKey (queue : String) : stalledKey queue ≠ backlogKey := fun heq =>
  absurd (take_stalledKey queue) (heq ▸ by decide)

theorem stalledKey_ne_failureRateKey (queue : String) : stalledKey queue ≠ failureRateKey :=
  fun heq => absurd (take_stalledKey queue) (heq ▸ by decide)

end Keys

section Measures

variable {watcher : AlertWatcher} {firing : FiringTable} {reading : WatchReading}
  {rate : Option Condition} {key : String}

theorem mem_loops :
    key ∈ (watcher.queues.filterMap (watcher.loopCondition reading)).map Condition.key ↔
      ∃ queue ∈ watcher.queues, stalledKey queue = key ∧
        watcher.loopStalled reading queue = true := by
  have hloop : ∀ queue, (∃ condition, watcher.loopCondition reading queue = some condition ∧
      condition.key = key) ↔ stalledKey queue = key ∧
        watcher.loopStalled reading queue = true := fun queue => by
    rw [AlertWatcher.loopCondition, AlertWatcher.loopStalled]
    cases reading.heartbeats queue with
    | none => simp [neverStarted]
    | some last =>
        by_cases hlong : watcher.stallSeconds < reading.now - last
        · simp [hlong, stalled]
        · simp [hlong]
  simp only [List.mem_map, List.mem_filterMap]
  constructor
  · rintro ⟨condition, ⟨queue, hqueue, hcondition⟩, hkey⟩
    exact ⟨queue, hqueue, (hloop queue).mp ⟨condition, hcondition, hkey⟩⟩
  · rintro ⟨queue, hqueue, hstalled⟩
    obtain ⟨condition, hcondition, hkey⟩ := (hloop queue).mpr hstalled
    exact ⟨condition, ⟨queue, hqueue, hcondition⟩, hkey⟩

theorem mem_backlog :
    key ∈ (watcher.backlogCondition reading).toList.map Condition.key ↔
      key = backlogKey ∧ watcher.backlogThreshold < AlertWatcher.backlog reading := by
  rw [AlertWatcher.backlogCondition]
  split
  · rw [Option.toList_some, List.map_singleton, List.mem_singleton]
    exact (and_iff_left ‹_›).symm
  · exact iff_of_false List.not_mem_nil fun hboth => ‹¬ _› hboth.2

/-- The failure rate is found under its own key, if it is measured. -/
theorem key_of_rate (hsound : firing.Sound)
    (hrate : watcher.rateCondition firing reading = .ok rate)
    (hkey : key ∈ rate.toList.map Condition.key) :
    key = failureRateKey ∧ watcher.measuresDeliveries = true := by
  obtain ⟨condition, hcondition, rfl⟩ := List.mem_map.mp hkey
  obtain rfl := Option.mem_toList.mp hcondition
  unfold AlertWatcher.rateCondition at hrate
  split at hrate
  · cases hrate
  · refine ⟨?_, eq_true_of_ne_false ‹¬watcher.measuresDeliveries = false›⟩
    split at hrate
    · obtain ⟨found, hfound, rfl⟩ := Option.map_eq_some_iff.mp (Except.ok.inj hrate)
      exact hsound.keyed _ (FiringTable.mem_of_lookup hfound)
    · split at hrate
      · cases hrate
      split at hrate
      · cases hrate
      split at hrate
      · obtain rfl := Option.some.inj (Except.ok.inj hrate)
        rfl
      · cases hrate

/-- A measured failure rate is found when too many deliveries failed. -/
theorem rate_of_measured {failed total : ℤ} (hmeasures : watcher.measuresDeliveries = true)
    (houtcomes : reading.outcomes = some (failed, total))
    (hrate : watcher.rateCondition firing reading = .ok rate) :
    failureRateKey ∈ rate.toList.map Condition.key ↔
      watcher.deliveriesFail failed total = true := by
  rw [AlertWatcher.rateCondition, if_neg (by simp [hmeasures]), houtcomes] at hrate
  dsimp only at hrate
  rw [AlertWatcher.deliveriesFail, decide_eq_true_eq]
  split at hrate
  · obtain rfl := Except.ok.inj hrate
    exact iff_of_false List.not_mem_nil fun hboth => absurd hboth.1 (not_le.mpr ‹_›)
  split at hrate
  · cases hrate
  split at hrate
  · obtain rfl := Except.ok.inj hrate
    exact iff_of_true List.mem_cons_self ⟨not_lt.mp ‹_›, ‹_›⟩
  · obtain rfl := Except.ok.inj hrate
    exact iff_of_false List.not_mem_nil fun hboth => ‹¬ _› hboth.2

/-- What is found before the probe is what the check measures. -/
theorem found_of_measured (hsound : firing.Sound)
    (hrate : watcher.rateCondition firing reading = .ok rate) {value : Bool}
    (hmeasured : watcher.measured reading key = some (some value)) :
    key ∈ (watcher.found reading rate).map Condition.key ↔ value = true := by
  rw [AlertWatcher.found, List.map_append, List.map_append, List.mem_append, List.mem_append,
    mem_loops, mem_backlog]
  unfold AlertWatcher.measured at hmeasured
  split at hmeasured
  · -- a drain loop
    obtain rfl := Option.some.inj (Option.some.inj hmeasured)
    rename_i queue hfind
    have hfound := List.find?_some hfind
    have hkey : stalledKey queue = key := of_decide_eq_true hfound
    subst hkey
    have hothers : ¬ (stalledKey queue = backlogKey ∧
        watcher.backlogThreshold < AlertWatcher.backlog reading) := fun hboth =>
      stalledKey_ne_backlogKey queue hboth.1
    have hrates : stalledKey queue ∉ rate.toList.map Condition.key := fun hmem =>
      stalledKey_ne_failureRateKey queue (key_of_rate hsound hrate hmem).1
    rw [or_iff_left hrates, or_iff_left hothers]
    constructor
    · rintro ⟨other, -, hsame, hstalled⟩
      exact stalledKey_inj hsame ▸ hstalled
    · exact fun hstalled => ⟨queue, List.mem_of_find?_eq_some hfind, rfl, hstalled⟩
  · rename_i hnone
    have hloops : ¬ ∃ queue ∈ watcher.queues, stalledKey queue = key ∧
        watcher.loopStalled reading queue = true := by
      rintro ⟨queue, hqueue, rfl, -⟩
      exact absurd (List.find?_eq_none.mp hnone queue hqueue) (by simp)
    rw [or_iff_right hloops]
    split at hmeasured
    · -- the backlog
      subst key
      obtain rfl := Option.some.inj (Option.some.inj hmeasured)
      have hrates : backlogKey ∉ rate.toList.map Condition.key := fun hmem =>
        absurd (key_of_rate hsound hrate hmem).1 (by decide)
      rw [or_iff_left hrates, and_iff_right rfl, decide_eq_true_eq]
    · rename_i hbacklog
      split at hmeasured
      · -- the failure rate
        rename_i hown
        obtain ⟨⟨failed, total⟩, houtcomes, rfl⟩ :=
          Option.map_eq_some_iff.mp (Option.some.inj hmeasured)
        rw [or_iff_right fun hboth => hbacklog hboth.1, hown.1]
        exact rate_of_measured hown.2 houtcomes hrate
      · cases hmeasured

/-- A condition that is not the watcher's own is not found before the probe. -/
theorem found_of_unmeasured (hsound : firing.Sound)
    (hrate : watcher.rateCondition firing reading = .ok rate)
    (hmeasured : watcher.measured reading key = none) :
    key ∉ (watcher.found reading rate).map Condition.key := by
  rw [AlertWatcher.found, List.map_append, List.map_append, List.mem_append, List.mem_append,
    mem_loops, mem_backlog]
  unfold AlertWatcher.measured at hmeasured
  split at hmeasured
  · cases hmeasured
  rename_i hnone
  split at hmeasured
  · cases hmeasured
  rename_i hbacklog
  split at hmeasured
  · cases hmeasured
  rename_i hown
  rintro ((⟨queue, hqueue, rfl, -⟩ | hboth) | hmem)
  · exact absurd (List.find?_eq_none.mp hnone queue hqueue) (by simp)
  · exact hbacklog hboth.1
  · exact hown (key_of_rate hsound hrate hmem)

end Measures

/-! ## Verdicts -/

/-- After the check a condition fires as its own measurement says. -/
def Truthful (watcher : AlertWatcher) (check : Check) : Prop :=
  ∀ key value, watcher.verdict check.reading key = some value →
    (key ∈ check.after.keys ↔ value = true)

/-- Nothing the check has just measured to be over is kept by a probe that raises, or comes
from the probe. -/
def Undisturbed (watcher : AlertWatcher) (check : Check) : Prop :=
  ∀ key, watcher.measured check.reading key = some (some false) → watcher.hasProbe = true →
    match check.reading.probed with
    | none => key ∉ check.before.keys
    | some conditions => key ∉ conditions.map Condition.key

section Verdicts

variable {watcher : AlertWatcher}

theorem evaluate_eq_ok {firing : FiringTable} {reading : WatchReading}
    {conditions : List Condition} (hconditions : watcher.evaluate firing reading = .ok conditions) :
    ∃ rate, watcher.rateCondition firing reading = .ok rate ∧
      conditions = watcher.found reading rate ++
        watcher.probeConditions firing reading (watcher.found reading rate) := by
  unfold AlertWatcher.evaluate at hconditions
  cases hrate : watcher.rateCondition firing reading with
  | error message => rw [hrate] at hconditions; cases hconditions
  | ok rate =>
      rw [hrate] at hconditions
      exact ⟨rate, rfl, (Except.ok.inj hconditions).symm⟩

theorem mem_probe {firing : FiringTable} (hsound : firing.Sound) {reading : WatchReading}
    {found : List Condition} {key : String} :
    key ∈ (watcher.probeConditions firing reading found).map Condition.key ↔
      watcher.hasProbe = true ∧
        match reading.probed with
        | none => key ∈ firing.keys ∧ key ∉ found.map Condition.key
        | some conditions => key ∈ conditions.map Condition.key := by
  rw [AlertWatcher.probeConditions]
  cases hprobe : watcher.hasProbe with
  | false => exact iff_of_false List.not_mem_nil fun hboth => by cases hboth.1
  | true =>
      rw [if_neg (by decide), and_iff_right rfl]
      cases reading.probed with
      | some conditions => rfl
      | none =>
          simp only [List.mem_map, List.mem_filter, decide_eq_true_eq]
          constructor
          · rintro ⟨condition, ⟨⟨entry, hentry, rfl⟩, hfresh⟩, rfl⟩
            exact ⟨hsound.keyed entry hentry ▸ List.mem_map_of_mem hentry, hfresh⟩
          · rintro ⟨hfires, hfresh⟩
            obtain ⟨entry, hentry, rfl⟩ := List.mem_map.mp hfires
            have hkeyed := hsound.keyed entry hentry
            exact ⟨entry.2.condition, ⟨⟨entry, hentry, rfl⟩, hkeyed ▸ hfresh⟩, hkeyed⟩

/-- A check is truthful when nothing disturbs it. -/
theorem truthful_iff {check : Check} (hsound : check.before.Sound)
    (hcheck : watcher.checkOnce check.before check.reading = .ok (check.after, check.sent)) :
    Truthful watcher check ↔ Undisturbed watcher check := by
  obtain ⟨conditions, hconditions, -, hafter, -⟩ := checkOnce_spec hsound hcheck
  obtain ⟨rate, hrate, rfl⟩ := evaluate_eq_ok hconditions
  have hfires : ∀ key, key ∈ check.after.keys ↔
      key ∈ (watcher.found check.reading rate).map Condition.key ∨
        watcher.hasProbe = true ∧
          match check.reading.probed with
          | none => key ∈ check.before.keys ∧
              key ∉ (watcher.found check.reading rate).map Condition.key
          | some conditions => key ∈ conditions.map Condition.key := fun key => by
    rw [hafter, List.map_append, List.mem_append, mem_probe hsound]
  constructor
  · intro htruthful key hmeasured hprobe
    have hverdict : watcher.verdict check.reading key = some false := by
      rw [AlertWatcher.verdict, hmeasured]
    have hnot : key ∉ check.after.keys := fun hmem =>
      absurd ((htruthful key false hverdict).mp hmem) (by decide)
    have hfound : key ∉ (watcher.found check.reading rate).map Condition.key := fun hmem =>
      absurd ((found_of_measured hsound hrate hmeasured).mp hmem) (by decide)
    rw [hfires, or_iff_right hfound, and_iff_right hprobe] at hnot
    cases hprobed : check.reading.probed with
    | none =>
        rw [hprobed] at hnot
        exact fun hbefore => hnot ⟨hbefore, hfound⟩
    | some conditions =>
        rw [hprobed] at hnot
        exact hnot
  · intro hundisturbed key value hverdict
    rw [hfires]
    unfold AlertWatcher.verdict at hverdict
    cases hmeasured : watcher.measured check.reading key with
    | some own =>
        rw [hmeasured] at hverdict
        dsimp only at hverdict
        subst hverdict
        have hfound := found_of_measured hsound hrate hmeasured
        rw [hfound]
        refine or_iff_left_of_imp fun hkept => ?_
        cases value with
        | true => rfl
        | false =>
            have hclear := hundisturbed key hmeasured hkept.1
            cases hprobed : check.reading.probed with
            | none =>
                rw [hprobed] at hclear hkept
                exact absurd hkept.2.1 hclear
            | some conditions =>
                rw [hprobed] at hclear hkept
                exact absurd hkept.2 hclear
    | none =>
        rw [hmeasured] at hverdict
        rw [or_iff_right (found_of_unmeasured hsound hrate hmeasured)]
        dsimp only at hverdict
        split at hverdict
        · obtain ⟨conditions, hprobed, rfl⟩ := Option.map_eq_some_iff.mp hverdict
          rw [and_iff_right ‹_›, hprobed, decide_eq_true_eq]
        · cases hverdict

/-- Through a watch the messages on every condition are of its start and its end in turn, and
each check leaves firing what its measurements say, exactly when a condition just measured to
be over is never kept by a probe that raises and never comes from the probe. -/
theorem watch_truthful_iff (watcher : AlertWatcher) (readings : List WatchReading) :
    ((∀ key, Alternating false
          (edgesOf key ((watcher.watch [] readings).flatMap Check.sent))) ∧
        ∀ check ∈ watcher.watch [] readings, Truthful watcher check) ↔
      ∀ check ∈ watcher.watch [] readings, Undisturbed watcher check := by
  have halternate : ∀ key, Alternating false
      (edgesOf key ((watcher.watch [] readings).flatMap Check.sent)) := fun key => by
    rw [edgesOf_watch FiringTable.sound_nil]
    exact alternating_reports false _
  rw [and_iff_right halternate]
  refine forall₂_congr fun check hmem => ?_
  obtain ⟨hsound, hcheck⟩ := watch_spec FiringTable.sound_nil hmem
  exact truthful_iff hsound hcheck

end Verdicts

namespace Specimen

/-- A watcher of the webhook queue, with a probe. -/
def watcher : AlertWatcher where
  queues := []
  stallSeconds := 60
  backlogThreshold := 50
  hasProbe := true

/-- A check that reads this backlog. -/
def backlogOf (pending : ℤ) (probed : Option (List Condition)) : WatchReading where
  now := 0
  heartbeats _ := none
  metrics _ := some fun _ => some pending
  outcomes := none
  probed := probed
  moment := 0

end Specimen

open Specimen in
/-- The backlog is gone, but the probe raises and keeps it firing. -/
theorem backlog_kept_by_probe :
    ∃ check ∈ watcher.watch [] [backlogOf 51 (some []), backlogOf 0 none],
      watcher.verdict check.reading backlogKey = some false ∧ backlogKey ∈ check.after.keys := by
  refine ⟨_, List.mem_cons_of_mem _ List.mem_cons_self, ?_⟩
  decide +kernel

end ChmabaPay
