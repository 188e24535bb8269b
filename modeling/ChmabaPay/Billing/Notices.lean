import ChmabaPay.Billing.Overdue
import ChmabaPay.Foundation.Months
import ChmabaPay.Services.Notices

/-! # The most urgent notice

The state of an invoice is the number of offsets that have passed since its due date, so an
older debt is never less urgent and time only moves a state on. The oldest invoice comes first
in the loop and nothing outranks it.
-/

namespace ChmabaPay

open Calendar Relational

/-! ## Stages that are passed in order -/

section Stages

variable {σ ι : Type*} {stages : List (σ × ι)}

/-- The last stage that is reached, when the stages are reached in their order. -/
theorem getElem?_countP_reached (reached : ι → Bool) (start : σ)
    (hordered : stages.Pairwise fun first second => reached second.2 → reached first.2) :
    (start :: stages.map Prod.fst)[stages.countP fun stage => reached stage.2]? =
      some (stages.foldl
        (fun state stage => if reached stage.2 then stage.1 else state) start) := by
  induction stages generalizing start with
  | nil => rfl
  | cons head rest ih =>
      obtain ⟨hhead, hrest⟩ := List.pairwise_cons.mp hordered
      have hstage := ih (if reached head.2 then head.1 else start) hrest
      rw [List.foldl_cons, List.map_cons, List.countP_cons]
      cases hreached : reached head.2 with
      | true =>
          rw [hreached] at hstage
          simpa using hstage
      | false =>
          -- Nothing behind a stage that is not reached is reached.
          have hcount : (rest.countP fun stage => reached stage.2) = 0 := by
            refine List.countP_eq_zero.mpr fun stage hstage hlater => ?_
            rw [hhead stage hstage hlater] at hreached
            cases hreached
          rw [hreached, hcount] at hstage
          simpa [hcount] using hstage

end Stages

/-! ## The dunning clock -/

/-- The offsets that have passed since the due date. -/
def passedTiers (dueAt now : Instant) : ℕ :=
  tierOffsets.countP fun tier => decide (dueAt + tier.2 ≤ now)

def dunningState (dueAt now : Instant) : NoticeState :=
  tierOffsets.foldl (fun state tier => if dueAt + tier.2 ≤ now then tier.1 else state) .issuance

section Clock

variable {account : Account} {invoice : PlanInvoice} {dueAt now later : Instant}

theorem passedTiers_mono {earlier : Instant} (hdue : earlier ≤ dueAt) (hnow : now ≤ later) :
    passedTiers dueAt now ≤ passedTiers earlier later := by
  refine List.countP_mono_left fun tier _ hpassed => ?_
  rw [decide_eq_true_eq] at hpassed ⊢
  linarith

/-- The place of a state in the order of urgency. -/
theorem idxOf_dunningState (dueAt now : Instant) :
    noticeOrder.idxOf (dunningState dueAt now) = passedTiers dueAt now := by
  have hordered : tierOffsets.Pairwise fun first second =>
      decide (dueAt + second.2 ≤ now) = true → decide (dueAt + first.2 ≤ now) = true := by
    have hoffsets : tierOffsets.Pairwise fun first second => first.2 ≤ second.2 := by decide
    refine hoffsets.imp fun {first second} hle hpassed => ?_
    rw [decide_eq_true_eq] at hpassed ⊢
    linarith
  have hstage := getElem?_countP_reached (fun offset => decide (dueAt + offset ≤ now))
    NoticeState.issuance hordered
  have hplace : noticeOrder[passedTiers dueAt now]? = some (dunningState dueAt now) := by
    unfold noticeOrder dunningState
    rw [List.getElem?_append_left (by
      have hcount : passedTiers dueAt now ≤ tierOffsets.length := List.countP_le_length
      simpa [tiers] using Nat.lt_succ_of_le hcount)]
    simp only [decide_eq_true_eq] at hstage
    exact hstage
  obtain ⟨hlength, helem⟩ := List.getElem?_eq_some_iff.mp hplace
  have hnodup : noticeOrder.Nodup := by decide
  rw [← helem, hnodup.idxOf_getElem]

theorem derivedState_of_active (hactive : account.status = .active)
    (hunpaid : invoice.isUnpaid = true) (hdue : invoice.dueAt = some dueAt) :
    derivedState (some account) invoice now = some (dunningState dueAt now) := by
  simp [derivedState, hunpaid, hactive, hdue, dunningState]

end Clock

/-! ## The loop over the invoices -/

/-- An unpaid invoice of the account with a due date, on a subscription in force of a plan. -/
structure Noticed (tables : Tables) (accountId invoiceId : ℕ) (invoice : PlanInvoice)
    (dueAt : Instant) : Prop where
  row : tables.invoices.get? invoiceId = some invoice
  account : invoice.accountId = accountId
  unpaid : invoice.isUnpaid = true
  due : invoice.dueAt = some dueAt
  live : ∃ subscriptionId subscription plan, invoice.subscriptionId = some subscriptionId ∧
    tables.subscriptions.get? subscriptionId = some subscription ∧ subscription.isLive = true ∧
    tables.plans.get? subscription.planId = some plan

section Loop

variable {settings : Settings} {wording : Wording} {now : Instant} {tables : Tables}
  {accountId invoiceId : ℕ} {invoice : PlanInvoice} {account : Account} {dueAt : Instant}
  {plan : Plan}

theorem noticed_of_mem_noticeRows
    (hmem : (dueAt, invoiceId, invoice, plan) ∈ noticeRows tables accountId) :
    Noticed tables accountId invoiceId invoice dueAt := by
  unfold noticeRows at hmem
  dsimp only at hmem
  rw [List.mem_insertionSort, List.mem_filterMap] at hmem
  obtain ⟨⟨key, row⟩, hrow, hfound⟩ := hmem
  simp only [Option.bind_eq_bind, Option.bind_eq_some_iff, Option.ite_none_right_eq_some,
    Option.some.injEq, Prod.mk.injEq, Bool.and_eq_true, decide_eq_true_eq] at hfound
  obtain ⟨_, hdue, subscription, ⟨subscriptionId, hnamed, hsubscription⟩, _, hplan,
    ⟨⟨haccount, hunpaid⟩, hlive⟩, rfl, rfl, rfl, rfl⟩ := hfound
  exact ⟨Table.get?_eq_some_iff.mpr hrow, haccount, hunpaid, hdue,
    ⟨subscriptionId, subscription, _, hnamed, hsubscription, hlive, hplan⟩⟩

theorem Noticed.mem_noticeRows (hnoticed : Noticed tables accountId invoiceId invoice dueAt) :
    ∃ plan, (dueAt, invoiceId, invoice, plan) ∈ noticeRows tables accountId := by
  obtain ⟨subscriptionId, subscription, plan, hnamed, hsubscription, hlive, hplan⟩ := hnoticed.live
  refine ⟨plan, ?_⟩
  unfold noticeRows
  dsimp only
  rw [List.mem_insertionSort, List.mem_filterMap]
  refine ⟨(invoiceId, invoice), Table.get?_eq_some_iff.mp hnoticed.row, ?_⟩
  simp [hnoticed.due, hnamed, hsubscription, hplan, hnoticed.account, hnoticed.unpaid, hlive]

/-- The invoice that is due first stands first. -/
theorem noticeRows_pairwise : (noticeRows tables accountId).Pairwise
    fun first second => first.1 ≤ second.1 :=
  List.pairwise_insertionSort (fun first second : Instant × ℕ × PlanInvoice × Plan =>
    first.1 ≤ second.1) _

/-- The notice of one row of the loop. -/
def noticeOf (settings : Settings) (wording : Wording) (now : Instant)
    (row : Instant × ℕ × PlanInvoice × Plan) : Notice :=
  renderNotice settings wording (dunningState row.1 now) (some (row.2.1, row.2.2.1))
    (some row.2.2.2) now

/-- A newer debt does not outrank an older one. -/
theorem noticeOf_not_outranks {first second : Instant × ℕ × PlanInvoice × Plan}
    (hfirst : first.2.2.1.dueAt = some first.1) (hsecond : second.2.2.1.dueAt = some second.1)
    (hle : first.1 ≤ second.1) :
    outranks (noticeRank (noticeOf settings wording now second))
      (noticeRank (noticeOf settings wording now first)) = false := by
  have hrank (row : Instant × ℕ × PlanInvoice × Plan) (hdue : row.2.2.1.dueAt = some row.1) :
      noticeRank (noticeOf settings wording now row) =
        (passedTiers row.1 now, -((row.1 - now) / days 1)) := by
    have hplace := idxOf_dunningState row.1 now
    simp [noticeRank, noticeOf, renderNotice, hdue, hplace]
  have hpassed : passedTiers second.1 now ≤ passedTiers first.1 now :=
    passedTiers_mono hle (le_refl now)
  have hdays : (first.1 - now) / days 1 ≤ (second.1 - now) / days 1 :=
    Int.ediv_le_ediv (by decide) (sub_le_sub_right hle now)
  rw [hrank first hfirst, hrank second hsecond]
  simp only [outranks, Bool.or_eq_false_iff, Bool.and_eq_false_iff, decide_eq_false_iff_not, not_lt]
  exact ⟨hpassed, .inr (neg_le_neg hdays)⟩

/-- A notice that nothing outranks is kept to the end of the loop. -/
theorem foldl_betterNotice_kept {rows : List (Instant × ℕ × PlanInvoice × Plan)} {kept : Notice}
    (hactive : account.status = .active)
    (hrows : ∀ row ∈ rows, row.2.2.1.isUnpaid = true ∧ row.2.2.1.dueAt = some row.1 ∧
      outranks (noticeRank (noticeOf settings wording now row)) (noticeRank kept) = false) :
    rows.foldl (betterNotice settings wording account now) (some kept) = some kept := by
  induction rows with
  | nil => rfl
  | cons head rest ih =>
      obtain ⟨hunpaid, hdue, hbelow⟩ := hrows head List.mem_cons_self
      have hhead : betterNotice settings wording account now (some kept) head = some kept := by
        unfold betterNotice
        rw [derivedState_of_active hactive hunpaid hdue]
        exact if_neg (by rw [noticeOf] at hbelow; simp [hbelow])
      rw [List.foldl_cons, hhead]
      exact ih fun row hrow => hrows row (List.mem_cons_of_mem _ hrow)

/-- The loop answers with the invoice that is due first. -/
theorem deriveNotices_eq (settings : Settings) (wording : Wording)
    (hactive : account.status = .active)
    (hsome : ∃ invoiceId invoice dueAt, Noticed tables accountId invoiceId invoice dueAt) :
    ∃ row ∈ noticeRows tables accountId, (∀ other ∈ noticeRows tables accountId, row.1 ≤ other.1) ∧
      ∀ now, deriveNotices settings wording now tables accountId account =
        [noticeOf settings wording now row] := by
  obtain ⟨_, _, _, hnoticed⟩ := hsome
  obtain ⟨plan, hmem⟩ := hnoticed.mem_noticeRows
  have hpairs : (noticeRows tables accountId).Pairwise fun first second => first.1 ≤ second.1 :=
    noticeRows_pairwise
  have hnoticed' : ∀ row ∈ noticeRows tables accountId, row.2.2.1.isUnpaid = true ∧
      row.2.2.1.dueAt = some row.1 := by
    intro row hrow
    obtain ⟨-, -, hunpaid, hdue, -⟩ := noticed_of_mem_noticeRows hrow
    exact ⟨hunpaid, hdue⟩
  have hloop (now : Instant) : deriveNotices settings wording now tables accountId account =
      ((noticeRows tables accountId).foldl (betterNotice settings wording account now)
        none).toList := by
    simp [deriveNotices, hactive]
  cases hrows : noticeRows tables accountId with
  | nil =>
      rw [hrows] at hmem
      cases hmem
  | cons head rest =>
      rw [hrows] at hpairs hnoticed'
      obtain ⟨hhead, -⟩ := List.pairwise_cons.mp hpairs
      obtain ⟨hunpaid, hdue⟩ := hnoticed' head List.mem_cons_self
      refine ⟨head, List.mem_cons_self, fun other hother => ?_, fun now => ?_⟩
      · rcases List.mem_cons.mp hother with rfl | hrest
        · exact le_refl _
        · exact hhead other hrest
      · have hfirst : betterNotice settings wording account now none head =
            some (noticeOf settings wording now head) := by
          unfold betterNotice
          rw [derivedState_of_active hactive hunpaid hdue]
          rfl
        rw [hloop, hrows, List.foldl_cons, hfirst, foldl_betterNotice_kept hactive]
        · rfl
        · intro row hrow
          obtain ⟨hunpaid', hdue'⟩ := hnoticed' row (List.mem_cons_of_mem _ hrow)
          exact ⟨hunpaid', hdue', noticeOf_not_outranks hdue hdue' (hhead row hrow)⟩

end Loop

/-! ## The recorder -/

section Recorder

variable {now : Instant} {tables : Tables} {row : ℕ × PlanInvoice × Account}
  {sweep : ReminderSummary × List Reminder}

/-- One row adds at most the tier it has reached. -/
theorem mem_recordReminder {reminder : Reminder}
    (hmem : reminder ∈ (recordReminder now sweep row).2) :
    reminder ∈ sweep.2 ∨ (reminder.invoiceId = row.1 ∧
      derivedState (some row.2.2) row.2.1 now = some reminder.tier) := by
  unfold recordReminder at hmem
  dsimp only at hmem
  split at hmem
  · exact .inl hmem
  next state hstate =>
    split at hmem
    · exact .inl hmem
    · split at hmem
      · exact .inl hmem
      · rcases List.mem_append.mp hmem with hold | hnew
        · exact .inl hold
        · rw [List.mem_singleton.mp hnew]
          exact .inr ⟨rfl, hstate⟩

theorem subset_recordReminder : sweep.2 ⊆ (recordReminder now sweep row).2 := by
  intro reminder hmem
  unfold recordReminder
  dsimp only
  split
  · exact hmem
  · split
    · exact hmem
    · split
      · exact hmem
      · exact List.mem_append_left _ hmem

/-- After its row the invoice has a reminder of the tier it has reached. -/
theorem recordReminder_recorded {state : NoticeState}
    (hstate : derivedState (some row.2.2) row.2.1 now = some state) (htier : state ∈ tiers) :
    ∃ reminder ∈ (recordReminder now sweep row).2, reminder.invoiceId = row.1 ∧
      reminder.tier = state ∧ reminder.channel = .inApp := by
  unfold recordReminder
  simp only [hstate, htier, not_true_eq_false, if_false]
  cases hfind : findReminder sweep.2 row.1 state .inApp with
  | some reminder =>
      have hmatches := List.find?_some hfind
      simp only [Bool.and_eq_true, decide_eq_true_eq] at hmatches
      exact ⟨reminder, List.mem_of_find?_eq_some hfind, hmatches.1.1, hmatches.1.2, hmatches.2⟩
  | none => exact ⟨_, List.mem_append_right _ (List.mem_singleton_self _), rfl, rfl, rfl⟩

variable {rows : List (ℕ × PlanInvoice × Account)}

theorem mem_foldl_recordReminder {reminder : Reminder}
    (hmem : reminder ∈ (rows.foldl (recordReminder now) sweep).2) :
    reminder ∈ sweep.2 ∨ ∃ row ∈ rows, reminder.invoiceId = row.1 ∧
      derivedState (some row.2.2) row.2.1 now = some reminder.tier := by
  induction rows generalizing sweep with
  | nil => exact .inl hmem
  | cons head rest ih =>
      rcases ih hmem with hearlier | ⟨row, hrow, hrecorded⟩
      · rcases mem_recordReminder hearlier with hold | hhead
        · exact .inl hold
        · exact .inr ⟨head, List.mem_cons_self, hhead⟩
      · exact .inr ⟨row, List.mem_cons_of_mem _ hrow, hrecorded⟩

theorem subset_foldl_recordReminder : sweep.2 ⊆ (rows.foldl (recordReminder now) sweep).2 := by
  induction rows generalizing sweep with
  | nil => exact fun _ hmem => hmem
  | cons head rest ih => exact fun _ hmem => ih (subset_recordReminder hmem)

theorem foldl_recordReminder_recorded (hrow : row ∈ rows) {state : NoticeState}
    (hstate : derivedState (some row.2.2) row.2.1 now = some state) (htier : state ∈ tiers) :
    ∃ reminder ∈ (rows.foldl (recordReminder now) sweep).2, reminder.invoiceId = row.1 ∧
      reminder.tier = state ∧ reminder.channel = .inApp := by
  induction rows generalizing sweep with
  | nil => cases hrow
  | cons head rest ih =>
      rw [List.foldl_cons]
      rcases List.mem_cons.mp hrow with rfl | hrest
      · obtain ⟨reminder, hmem, hrecorded⟩ : ∃ reminder ∈ (recordReminder now sweep row).2, _ :=
          recordReminder_recorded hstate htier
        exact ⟨reminder, subset_foldl_recordReminder hmem, hrecorded⟩
      · exact ih hrest

end Recorder

/-- The notice of an active merchant with unpaid invoices is about the oldest of them, which
no other outranks. Its state is the tier the reminder worker records for it at that instant,
and it only moves on with time. -/
theorem notice_most_urgent {tables : Tables} {accountId : ℕ} {account : Account}
    (howner : tables.accounts.get? accountId = some account) (hactive : account.status = .active)
    (hsome : ∃ invoiceId invoice dueAt, Noticed tables accountId invoiceId invoice dueAt)
    (settings : Settings) (wording : Wording) (now : Instant) :
    ∃ notice invoiceId invoice dueAt,
      deriveNotices settings wording now tables accountId account = [notice] ∧
      notice.invoiceId = some invoiceId ∧
      Noticed tables accountId invoiceId invoice dueAt ∧
      derivedState (some account) invoice now = some notice.state ∧
      (∀ otherId other otherDue, Noticed tables accountId otherId other otherDue →
        dueAt ≤ otherDue ∧ ∀ state, derivedState (some account) other now = some state →
          noticeOrder.idxOf state ≤ noticeOrder.idxOf notice.state) ∧
      (∀ reminders limit,
        (∀ reminder ∈ (recordDueReminders now tables reminders limit).2,
          reminder.invoiceId = invoiceId → reminder ∈ reminders ∨ reminder.tier = notice.state) ∧
        (notice.state ∈ tiers →
          invoiceId ∈ ((unpaidInvoiceQuery tables false).take limit).map Prod.fst →
          ∃ reminder ∈ (recordDueReminders now tables reminders limit).2,
            reminder.invoiceId = invoiceId ∧ reminder.tier = notice.state ∧
              reminder.channel = .inApp)) ∧
      ∀ later, now ≤ later → ∃ notice',
        deriveNotices settings wording later tables accountId account = [notice'] ∧
          noticeOrder.idxOf notice.state ≤ noticeOrder.idxOf notice'.state := by
  obtain ⟨⟨dueAt, invoiceId, invoice, plan⟩, hmem, hfirst, hnotices⟩ :=
    deriveNotices_eq settings wording hactive hsome
  have hnoticed := noticed_of_mem_noticeRows hmem
  have hstate : derivedState (some account) invoice now = some (dunningState dueAt now) :=
    derivedState_of_active hactive hnoticed.unpaid hnoticed.due
  -- A row of the recorder's query for this invoice is the same invoice and account.
  have hrecorder : ∀ row ∈ unpaidInvoiceQuery tables false, row.1 = invoiceId →
      derivedState (some row.2.2) row.2.1 now = some (dunningState dueAt now) := by
    rintro ⟨key, found, owner⟩ hrow rfl
    obtain ⟨_, hdunned⟩ := mem_unpaidInvoiceQuery_iff.mp hrow
    obtain rfl := Option.some.inj (hnoticed.row.symm.trans hdunned.row)
    have hsame := hdunned.owner
    rw [hnoticed.account, howner] at hsame
    obtain rfl := Option.some.inj hsame
    exact hstate
  refine ⟨noticeOf settings wording now (dueAt, invoiceId, invoice, plan), invoiceId, invoice,
    dueAt, hnotices now, rfl, hnoticed, hstate, ?_, ?_, ?_⟩
  · intro otherId other otherDue hother
    obtain ⟨otherPlan, hotherMem⟩ := hother.mem_noticeRows
    have hle : dueAt ≤ otherDue := hfirst _ hotherMem
    refine ⟨hle, fun state hotherState => ?_⟩
    rw [derivedState_of_active hactive hother.unpaid hother.due] at hotherState
    obtain rfl := Option.some.inj hotherState
    rw [idxOf_dunningState]
    refine (passedTiers_mono hle (le_refl now)).trans ?_
    exact (idxOf_dunningState dueAt now).ge
  · intro reminders limit
    constructor
    · intro reminder hreminder hsame
      rcases mem_foldl_recordReminder hreminder with hold | ⟨row, hrow, hnamed, hrecorded⟩
      · exact .inl hold
      · have hrowState := hrecorder row (List.mem_of_mem_take hrow) (hnamed.symm.trans hsame)
        exact .inr (Option.some.inj (hrecorded.symm.trans hrowState))
    · intro htier hpage
      obtain ⟨row, hrow, hnamed⟩ := List.mem_map.mp hpage
      have hrowState := hrecorder row (List.mem_of_mem_take hrow) hnamed
      obtain ⟨reminder, hreminder, hinvoice, hrest⟩ :
          ∃ reminder ∈ (recordDueReminders now tables reminders limit).2, _ :=
        foldl_recordReminder_recorded hrow hrowState htier
      exact ⟨reminder, hreminder, hinvoice.trans hnamed, hrest⟩
  · intro later hlater
    refine ⟨_, hnotices later, ?_⟩
    refine (idxOf_dunningState dueAt now).le.trans ?_
    refine (passedTiers_mono (le_refl dueAt) hlater).trans ?_
    exact (idxOf_dunningState dueAt later).ge

namespace Specimen

/-- Amounts and days as the shop reads them. -/
def wording : Wording where
  money := fun _ => "$9.99"
  localDate := fun _ => "Feb 8"

/-- What the shop still owes for the month before its renewal. -/
def arrears : PlanInvoice :=
  { unpaidRenewal with
    periodMonth := "1970-01"
    periodStart := some (days 10)
    periodEnd := some (days 40)
    dueAt := some (days 38) }

def owingTwice : Tables := { owing.tables with invoices := .ofList [unpaidRenewal, arrears] }

end Specimen

/-- A renewal was due on the fortieth day and its arrears two days earlier. On the day after, the
shop is told of the arrears, which the other invoice does not outrank. -/
theorem notice_most_urgent_owing :
    ∃ notice, deriveNotices {} Specimen.wording (days 41) Specimen.owingTwice 1
        Specimen.merchant = [notice] ∧ notice.invoiceId = some 1 ∧ notice.state = .overdue3 ∧
      derivedState (some Specimen.merchant) Specimen.unpaidRenewal (days 41) = some .overdue1 ∧
      noticeOrder.idxOf NoticeState.overdue1 ≤ noticeOrder.idxOf notice.state := by
  have hrenewal : Noticed Specimen.owingTwice 1 0 Specimen.unpaidRenewal (days 40) :=
    ⟨rfl, rfl, rfl, rfl, 0, _, _, rfl, rfl, rfl, rfl⟩
  have hsome : ∃ invoiceId invoice dueAt,
      Noticed Specimen.owingTwice 1 invoiceId invoice dueAt := ⟨_, _, _, hrenewal⟩
  obtain ⟨notice, _, _, _, hnotice, -, -, -, hfirst, -⟩ :=
    notice_most_urgent rfl rfl hsome {} Specimen.wording (days 41)
  have hderived : (deriveNotices {} Specimen.wording (days 41) Specimen.owingTwice 1
      Specimen.merchant).map (fun notice => (notice.invoiceId, notice.state)) =
        [(some 1, .overdue3)] := by decide +kernel
  rw [hnotice, List.map_cons, List.map_nil] at hderived
  obtain ⟨hinvoice, hstate⟩ := Prod.mk.inj (List.cons.inj hderived).1
  have hother : derivedState (some Specimen.merchant) Specimen.unpaidRenewal (days 41) =
      some .overdue1 := by decide +kernel
  exact ⟨notice, hnotice, hinvoice, hstate, hother, (hfirst _ _ _ hrenewal).2 _ hother⟩

end ChmabaPay
