import ChmabaPay.Billing.Coverage

/-! # The plan in force, operation by operation

Which operations put another plan in force for an account, and which subscriptions they cancel
on the way, read off the state before them. An operation either replaces what the account has,
and then cancels exactly what was in force, or leaves it alone; only the enforcement sweep
cancels subscriptions that were never in force.
-/

namespace ChmabaPay

open Calendar Relational Execution Fallible

/-! ## Two books, seen by one account -/

namespace Book

/-- The account has the plan in force. -/
def HasInForce (book : Book) (accountId planId : ℕ) : Prop :=
  ∃ key row, book.subscriptions key = some row ∧ row.accountId = accountId ∧
    row.isLive = true ∧ row.planId = planId

/-- A subscription of the account to the plan is canceled between the two books. -/
def Ends (before after : Book) (accountId planId : ℕ) : Prop :=
  ∃ key row, after.subscriptions key = some row ∧ row.accountId = accountId ∧
    row.planId = planId ∧ row.status = .canceled ∧
    ∀ earlier, before.subscriptions key = some earlier → earlier.status ≠ .canceled

/-- What an account sees of an operation: the plans it has in force afterwards, and those of
the subscriptions that end. -/
structure Turns (before after : Book) (accountId : ℕ) (opened ended : ℕ → Prop) : Prop where
  inForce : ∀ planId, after.HasInForce accountId planId ↔ opened planId
  ended : ∀ planId, before.Ends after accountId planId ↔ ended planId

variable {before after : Book} {accountId : ℕ} {now : Instant}

/-- Nothing of the account changes. -/
theorem Turns.of_eq (hafter : after.subscriptions = before.subscriptions) :
    before.Turns after accountId (before.HasInForce accountId) fun _ => False := by
  refine ⟨fun planId => by simp only [HasInForce, hafter], fun planId => iff_of_false ?_ id⟩
  rintro ⟨key, row, hrow, -, -, hcanceled, hrunning⟩
  exact hrunning row (hafter ▸ hrow) hcanceled

section Reopen

variable {keep : ℕ → PlanSubscription → Bool} {new : ℕ} {opened : PlanSubscription}
  (hafter : after.subscriptions =
    ((before.retireWhere now keep).putSubscription new opened).subscriptions)
  (hfresh : before.subscriptions new = none)

include hafter

theorem reopen_cases {key : ℕ} {row : PlanSubscription}
    (hrow : after.subscriptions key = some row) :
    key = new ∧ row = opened ∨ key ≠ new ∧ ∃ earlier, before.subscriptions key = some earlier ∧
      row = if keep key earlier then earlier.cancel now else earlier := by
  rw [hafter, putSubscription_subscriptions] at hrow
  split at hrow
  next hnew => exact .inl ⟨hnew, (Option.some.inj hrow).symm⟩
  next hnew =>
    obtain ⟨earlier, hearlier, rfl⟩ := Option.map_eq_some_iff.mp hrow
    exact .inr ⟨hnew, earlier, hearlier, rfl⟩

include hfresh

theorem reopen_kept {key : ℕ} {row : PlanSubscription}
    (hrow : before.subscriptions key = some row) :
    after.subscriptions key = some (if keep key row then row.cancel now else row) := by
  have hne : key ≠ new := fun heq => by simp [heq, hfresh] at hrow
  rw [hafter, putSubscription_subscriptions, if_neg hne, retireWhere_subscriptions, hrow]
  rfl

/-- All the account has in force is retired, and a subscription of its own is added. -/
theorem Turns.of_reopen (hopened : opened.accountId = accountId)
    (hstatus : opened.status ≠ .canceled)
    (hkeep : ∀ key row, before.subscriptions key = some row →
      (keep key row = true ↔ row.accountId = accountId ∧ row.isLive = true)) :
    before.Turns after accountId (fun planId => opened.isLive = true ∧ opened.planId = planId)
      (before.HasInForce accountId) := by
  constructor
  · intro planId
    constructor
    · rintro ⟨key, row, hrow, haccount, hlive, hplan⟩
      rcases reopen_cases hafter hrow with ⟨-, rfl⟩ | ⟨-, earlier, hearlier, rfl⟩
      · exact ⟨hlive, hplan⟩
      · by_cases hselected : keep key earlier = true
        · rw [if_pos hselected] at hlive
          cases hlive
        · rw [if_neg hselected] at haccount hlive
          exact absurd ((hkeep key earlier hearlier).mpr ⟨haccount, hlive⟩) hselected
    · rintro ⟨hlive, hplan⟩
      exact ⟨new, opened, by rw [hafter, putSubscription_subscriptions, if_pos rfl], hopened,
        hlive, hplan⟩
  · intro planId
    constructor
    · rintro ⟨key, row, hrow, haccount, hplan, hcanceled, hrunning⟩
      rcases reopen_cases hafter hrow with ⟨-, rfl⟩ | ⟨-, earlier, hearlier, rfl⟩
      · exact absurd hcanceled hstatus
      · by_cases hselected : keep key earlier = true
        · obtain ⟨howner, hlive⟩ := (hkeep key earlier hearlier).mp hselected
          rw [if_pos hselected] at hplan
          exact ⟨key, earlier, hearlier, howner, hlive, hplan⟩
        · rw [if_neg hselected] at hcanceled
          exact absurd hcanceled (hrunning earlier hearlier)
    · rintro ⟨key, row, hrow, haccount, hlive, hplan⟩
      refine ⟨key, row.cancel now, ?_, haccount, hplan, rfl, fun earlier hearlier => ?_⟩
      · rw [reopen_kept hafter hfresh hrow, if_pos ((hkeep key row hrow).mpr ⟨haccount, hlive⟩)]
      · obtain rfl := Option.some.inj (hrow.symm.trans hearlier)
        exact PlanSubscription.ne_canceled_of_isLive hlive

/-- Another account's subscriptions are retired, and the added one waits or is not the
account's. -/
theorem Turns.of_reopen_elsewhere (hopened : opened.accountId = accountId →
      opened.isLive = false ∧ opened.status ≠ .canceled)
    (hkeep : ∀ key row, before.subscriptions key = some row → keep key row = true →
      row.accountId ≠ accountId) :
    before.Turns after accountId (before.HasInForce accountId) fun _ => False := by
  constructor
  · intro planId
    constructor
    · rintro ⟨key, row, hrow, haccount, hlive, hplan⟩
      rcases reopen_cases hafter hrow with ⟨-, rfl⟩ | ⟨-, earlier, hearlier, rfl⟩
      · rw [(hopened haccount).1] at hlive
        cases hlive
      · by_cases hselected : keep key earlier = true
        · rw [if_pos hselected] at hlive
          cases hlive
        · rw [if_neg hselected] at haccount hlive hplan
          exact ⟨key, earlier, hearlier, haccount, hlive, hplan⟩
    · rintro ⟨key, row, hrow, haccount, hlive, hplan⟩
      have hselected : ¬ keep key row = true := fun hselected =>
        hkeep key row hrow hselected haccount
      exact ⟨key, row, by rw [reopen_kept hafter hfresh hrow, if_neg hselected], haccount, hlive,
        hplan⟩
  · refine fun planId => iff_of_false ?_ id
    rintro ⟨key, row, hrow, haccount, -, hcanceled, hrunning⟩
    rcases reopen_cases hafter hrow with ⟨-, rfl⟩ | ⟨-, earlier, hearlier, rfl⟩
    · exact (hopened haccount).2 hcanceled
    · by_cases hselected : keep key earlier = true
      · rw [if_pos hselected] at haccount
        exact hkeep key earlier hearlier hselected haccount
      · rw [if_neg hselected] at hcanceled
        exact hrunning earlier hearlier hcanceled

end Reopen

section Cover

variable {key : ℕ} {row : PlanSubscription} {periodEnd : Instant}
  (hafter : after.subscriptions = (before.cover now key row periodEnd).subscriptions)
  (hrow : before.subscriptions key = some row)

include hafter

theorem cover_other {other : ℕ} (hne : other ≠ key) : after.subscriptions other =
    (before.subscriptions other).map fun found =>
      if row.status = .pending ∧ found.accountId = row.accountId ∧ found.isLive then
        found.cancel now
      else found := by
  simp only [hafter, cover_subscriptions, if_neg hne]

include hrow

theorem cover_covered : after.subscriptions key =
    some { activated now row with nextBillingAt := periodEnd } := by
  rw [hafter, cover_subscriptions, hrow, Option.map_some, if_pos rfl]

/-- A parked subscription takes the place of what is in force. -/
theorem Turns.of_cover_pending (hpending : row.status = .pending) :
    before.Turns after row.accountId (row.planId = ·) (before.HasInForce row.accountId) := by
  have hcovered := cover_covered hafter hrow
  simp only [activated, hpending, if_true] at hcovered
  constructor
  · intro planId
    constructor
    · rintro ⟨other, found, hfound, haccount, hlive, hplan⟩
      by_cases heq : other = key
      · rw [heq, hcovered] at hfound
        obtain rfl := Option.some.inj hfound
        exact hplan
      · rw [cover_other hafter heq] at hfound
        obtain ⟨earlier, hearlier, rfl⟩ := Option.map_eq_some_iff.mp hfound
        split at hlive
        · cases hlive
        next hidle =>
          rw [if_neg hidle] at haccount
          exact absurd ⟨hpending, haccount, hlive⟩ hidle
    · exact fun hplan => ⟨key, _, hcovered, rfl, rfl, hplan⟩
  · intro planId
    constructor
    · rintro ⟨other, found, hfound, haccount, hplan, hcanceled, hrunning⟩
      by_cases heq : other = key
      · rw [heq, hcovered] at hfound
        obtain rfl := Option.some.inj hfound
        cases hcanceled
      · rw [cover_other hafter heq] at hfound
        obtain ⟨earlier, hearlier, rfl⟩ := Option.map_eq_some_iff.mp hfound
        split at hcanceled
        next hretired =>
          rw [if_pos hretired] at hplan
          exact ⟨other, earlier, hearlier, hretired.2.1, hretired.2.2, hplan⟩
        next => exact absurd hcanceled (hrunning earlier hearlier)
    · rintro ⟨other, found, hfound, haccount, hlive, hplan⟩
      have hne : other ≠ key := by
        rintro rfl
        obtain rfl := Option.some.inj (hrow.symm.trans hfound)
        simp [PlanSubscription.isLive, hpending] at hlive
      refine ⟨other, found.cancel now, ?_, haccount, hplan, rfl, fun earlier hearlier => ?_⟩
      · rw [cover_other hafter hne, hfound, Option.map_some,
          if_pos ⟨hpending, haccount, hlive⟩]
      · obtain rfl := Option.some.inj (hfound.symm.trans hearlier)
        exact PlanSubscription.ne_canceled_of_isLive hlive

/-- A subscription in force or canceled already, or another account's, is extended. -/
theorem Turns.of_cover_elsewhere (hidle : row.accountId = accountId → row.status ≠ .pending) :
    before.Turns after accountId (before.HasInForce accountId) fun _ => False := by
  -- a row of the account keeps its account, its plan and its status
  have hsame : ∀ other found, after.subscriptions other = some found →
      found.accountId = accountId → ∃ earlier, before.subscriptions other = some earlier ∧
        earlier.accountId = accountId ∧ earlier.planId = found.planId ∧
        earlier.status = found.status := by
    intro other found hfound haccount
    by_cases heq : other = key
    · subst heq
      have hevolves := evolves_activated now row periodEnd
      rw [cover_covered hafter hrow] at hfound
      obtain rfl := Option.some.inj hfound
      have howner := hevolves.account.symm.trans haccount
      exact ⟨row, hrow, howner, hevolves.plan.symm, by simp [activated, hidle howner]⟩
    · rw [cover_other hafter heq] at hfound
      obtain ⟨earlier, hearlier, rfl⟩ := Option.map_eq_some_iff.mp hfound
      have hkept : ¬ (row.status = .pending ∧ earlier.accountId = row.accountId ∧
          earlier.isLive = true) := by
        rintro ⟨hpending, howner, hlive⟩
        rw [if_pos ⟨hpending, howner, hlive⟩] at haccount
        exact hidle (howner.symm.trans haccount) hpending
      rw [if_neg hkept] at haccount ⊢
      exact ⟨earlier, hearlier, haccount, rfl, rfl⟩
  constructor
  · intro planId
    constructor
    · rintro ⟨other, found, hfound, haccount, hlive, hplan⟩
      obtain ⟨earlier, hearlier, howner, hplan', hstatus⟩ := hsame other found hfound haccount
      refine ⟨other, earlier, hearlier, howner, ?_, hplan'.trans hplan⟩
      simpa only [PlanSubscription.isLive, hstatus] using hlive
    · rintro ⟨other, found, hfound, haccount, hlive, hplan⟩
      by_cases heq : other = key
      · subst heq
        obtain rfl := Option.some.inj (hrow.symm.trans hfound)
        have hevolves := evolves_activated now row periodEnd
        refine ⟨other, _, cover_covered hafter hrow, hevolves.account.trans haccount, ?_,
          hevolves.plan.trans hplan⟩
        simpa [activated, hidle haccount, PlanSubscription.isLive] using hlive
      · refine ⟨other, found, ?_, haccount, hlive, hplan⟩
        rw [cover_other hafter heq, hfound, Option.map_some, if_neg]
        rintro ⟨hpending, howner, -⟩
        exact hidle (howner.symm.trans haccount) hpending
  · refine fun planId => iff_of_false ?_ id
    rintro ⟨other, found, hfound, haccount, -, hcanceled, hrunning⟩
    obtain ⟨earlier, hearlier, -, -, hstatus⟩ := hsame other found hfound haccount
    exact hrunning earlier hearlier (hstatus.trans hcanceled)

end Cover

/-- Subscriptions that were not in force are retired. -/
theorem Turns.of_retire_waiting {keep : ℕ → PlanSubscription → Bool}
    (hafter : after.subscriptions = (before.retireWhere now keep).subscriptions)
    (hkeep : ∀ key row, before.subscriptions key = some row → keep key row = true →
      row.status = .pending) :
    before.Turns after accountId (before.HasInForce accountId) fun planId =>
      ∃ key row, before.subscriptions key = some row ∧ keep key row = true ∧
        row.accountId = accountId ∧ row.planId = planId := by
  constructor
  · intro planId
    simp only [HasInForce, hafter, retireWhere_subscriptions, Option.map_eq_some_iff]
    constructor
    · rintro ⟨key, row, ⟨earlier, hearlier, rfl⟩, haccount, hlive, hplan⟩
      split at hlive
      · cases hlive
      next hkept =>
        rw [if_neg hkept] at haccount hplan
        exact ⟨key, earlier, hearlier, haccount, hlive, hplan⟩
    · rintro ⟨key, row, hrow, haccount, hlive, hplan⟩
      have hkept : ¬ keep key row = true := fun hselected => by
        simp [PlanSubscription.isLive, hkeep key row hrow hselected] at hlive
      exact ⟨key, row, ⟨row, hrow, if_neg hkept⟩, haccount, hlive, hplan⟩
  · intro planId
    simp only [Ends, hafter, retireWhere_subscriptions, Option.map_eq_some_iff]
    constructor
    · rintro ⟨key, row, ⟨earlier, hearlier, rfl⟩, haccount, hplan, hcanceled, hrunning⟩
      split at hcanceled
      next hselected =>
        rw [if_pos hselected] at haccount hplan
        exact ⟨key, earlier, hearlier, hselected, haccount, hplan⟩
      next => exact absurd hcanceled (hrunning earlier hearlier)
    · rintro ⟨key, row, hrow, hselected, haccount, hplan⟩
      refine ⟨key, row.cancel now, ⟨row, hrow, if_pos hselected⟩, haccount, hplan, rfl, ?_⟩
      intro earlier hearlier
      obtain rfl := Option.some.inj (hrow.symm.trans hearlier)
      rw [hkeep key row hrow hselected]
      decide

theorem Turns.congr {opened opened' ended ended' : ℕ → Prop}
    (hturns : before.Turns after accountId opened ended)
    (hopened : ∀ planId, opened planId ↔ opened' planId)
    (hended : ∀ planId, ended planId ↔ ended' planId) :
    before.Turns after accountId opened' ended' :=
  ⟨fun planId => (hturns.inForce planId).trans (hopened planId),
    fun planId => (hturns.ended planId).trans (hended planId)⟩

end Book

/-! ## What an operation replaces -/

/-- The parked purchases an enforcement sweep retires. -/
def abandonedPurchases (now : Instant) (tables : Tables) : List (ℕ × PlanSubscription) :=
  (tables.subscriptions.select fun _ row =>
    decide (row.status = .pending) && decide (row.createdAt ≤ now - creditPeriod)).take 500

/-- What an operation that goes through puts in force for an account in the place of what
the account has. -/
inductive Op.Replaces (settings : Settings) (now : Instant) (tables : Tables) (accountId : ℕ) :
    Op → Option ℕ → Prop where
  /-- A new account starts on the free plan. -/
  | opens {email name : String} {renameExisting : Bool} {planId : ℕ} {plan : Plan}
      (hnew : (tables.accounts.find? fun _ account => decide (account.email = email)) = none)
      (hnext : tables.accounts.next = accountId)
      (hfree : findPlanByCode tables "free" = some (planId, plan)) :
      Replaces settings now tables accountId (.signUp email name renameExisting) (some planId)
  | moves {planCode : String} {change : PlanChange}
      (hread : readPlanChange tables accountId planCode = .ok change)
      (hfree : change.plan.monthlyFeeCents ≤ 0) :
      Replaces settings now tables accountId (.changePlan accountId planCode)
        (some change.planId)
  /-- A frozen account gives its plan up with the purchase of another. -/
  | clears {planCode : String} {change : PlanChange}
      (hread : readPlanChange tables accountId planCode = .ok change)
      (hpaid : 0 < change.plan.monthlyFeeCents)
      (howes : (findOpenInvoice tables accountId).isSome = true)
      (hfrozen : change.account.status = .restricted) :
      Replaces settings now tables accountId (.changePlan accountId planCode) none
  /-- An invoice is settled past its grace line. -/
  | reinstates {op : Op} {key : ℕ} {invoice : PlanInvoice} {billed : ℕ} {row : PlanSubscription}
      (hinvoice : tables.invoices.get? key = some invoice)
      (hsettles : op.settles tables key invoice)
      (hbilled : invoice.subscriptionId = some billed)
      (hrow : tables.subscriptions.get? billed = some row) (haccount : row.accountId = accountId)
      (hlapsed : isLapsed settings invoice now = true) :
      Replaces settings now tables accountId op (some row.planId)
  /-- The invoice of a parked purchase is settled in time, or forgiven. -/
  | starts {op : Op} {key : ℕ} {invoice : PlanInvoice} {billed : ℕ} {row : PlanSubscription}
      (hinvoice : tables.invoices.get? key = some invoice)
      (hgrants : op.settles tables key invoice ∨ op.forgives key invoice)
      (hbilled : invoice.subscriptionId = some billed)
      (hrow : tables.subscriptions.get? billed = some row) (haccount : row.accountId = accountId)
      (hpending : row.status = .pending) :
      Replaces settings now tables accountId op (some row.planId)
  | assigns {actorId : ℕ} {planCode reason : String} {planId : ℕ} {plan : Plan}
      (hplan : findPlanByCode tables planCode = some (planId, plan)) :
      Replaces settings now tables accountId
        (.assignAccountPlan actorId accountId planCode reason) (some planId)

/-- The plans of the account's subscriptions that end without having been in force. -/
def Op.Retires (now : Instant) (tables : Tables) (accountId : ℕ) : Op → ℕ → Prop
  | .enforceGrace _, planId => ∃ key row, (key, row) ∈ abandonedPurchases now tables ∧
      row.accountId = accountId ∧ row.planId = planId
  | _, _ => False

/-- An operation gives the account what it puts in the place of its plan, and leaves the
account alone otherwise. -/
def Op.TurnsTo (settings : Settings) (now : Instant) (tables : Tables) (op : Op) (after : Book)
    (accountId : ℕ) : Prop :=
  (∀ target, op.Replaces settings now tables accountId target →
      tables.book.Turns after accountId (fun planId => target = some planId)
        (tables.book.HasInForce accountId)) ∧
    ((∀ target, ¬ op.Replaces settings now tables accountId target) →
      tables.book.Turns after accountId (tables.book.HasInForce accountId)
        (op.Retires now tables accountId))

section Operations

variable {settings : Settings} {now : Instant} {tables tables' : Tables} {accountId : ℕ}

/-- An operation that replaces nothing and leaves every subscription in place. -/
theorem Op.TurnsTo.of_eq {op : Op} {after : Book}
    (hafter : after.subscriptions = tables.book.subscriptions)
    (hnone : ∀ target, ¬ op.Replaces settings now tables accountId target)
    (hretires : ∀ planId, ¬ op.Retires now tables accountId planId) :
    op.TurnsTo settings now tables after accountId :=
  ⟨fun target hreplaces => absurd hreplaces (hnone target), fun _ =>
    (Book.Turns.of_eq hafter).congr (fun _ => Iff.rfl) fun planId =>
      iff_of_false id (hretires planId)⟩

/-! ### Settling and forgiving -/

section Invoices

variable (accountId) {invoiceId key : ℕ} {invoice : PlanInvoice} {row : PlanSubscription}
  {start : Instant}
  (hinvoice : tables.invoices.get? invoiceId = some invoice)
  (hcovers : invoice.Covers key start) (hrow : tables.subscriptions.get? key = some row)

include hrow

/-- An invoice whose window is put in force starts what it was parked for. -/
theorem cover_turns {after : Book} {periodEnd : Instant}
    (hafter : after.subscriptions = (tables.book.cover now key row periodEnd).subscriptions) :
    (row.accountId = accountId ∧ row.status = .pending →
        tables.book.Turns after accountId (row.planId = ·) (tables.book.HasInForce accountId)) ∧
      (¬ (row.accountId = accountId ∧ row.status = .pending) →
        tables.book.Turns after accountId (tables.book.HasInForce accountId) fun _ => False) := by
  constructor
  · rintro ⟨rfl, hpending⟩
    exact .of_cover_pending hafter hrow hpending
  · exact fun helsewhere => .of_cover_elsewhere hafter hrow fun haccount hpending =>
      helsewhere ⟨haccount, hpending⟩

include hinvoice hcovers

/-- A settled invoice puts a plan in force when it is past its grace line or was parked. -/
theorem settleInvoice_turns {recorded : Tables} (hrecorded : recorded.book = tables.book)
    (hunpaid : invoice.status ≠ .paid) (haccount : row.accountId = invoice.accountId)
    {after : Book} {paymentId : Option ℕ} {source : String}
    (hafter : after =
      (settleInvoice settings now recorded invoiceId invoice paymentId now source).book) :
    (row.accountId = accountId ∧ (isLapsed settings invoice now = true ∨ row.status = .pending) →
        tables.book.Turns after accountId (row.planId = ·) (tables.book.HasInForce accountId)) ∧
      (¬ (row.accountId = accountId ∧
          (isLapsed settings invoice now = true ∨ row.status = .pending)) →
        tables.book.Turns after accountId (tables.book.HasInForce accountId) fun _ => False) := by
  have hinvoice' : recorded.invoices.get? invoiceId = some invoice := by
    rw [← Tables.book_invoices, hrecorded]
    exact hinvoice
  have hrow' : recorded.subscriptions.get? key = some row := by
    rw [← Tables.book_subscriptions, hrecorded]
    exact hrow
  have hfresh : tables.book.subscriptions recorded.subscriptions.next = none := by
    rw [← hrecorded]
    exact recorded.subscriptions.get?_next
  -- past the grace line the plan is reinstated, within it a parked window begins
  rcases lt_or_ge (start + gracePeriod settings) now with hlate | hearly
  · rw [settleInvoice_book_of_lapsed hunpaid hcovers hrow' _ _ _ hlate,
      reinstate_book _ _ hinvoice', hrecorded] at hafter
    have hreopened := congrArg Book.subscriptions hafter
    simp only [Book.putInvoice] at hreopened
    have hlapsed := (isLapsed_iff settings hcovers now).mpr hlate
    constructor
    · rintro ⟨rfl, -⟩
      refine (Book.Turns.of_reopen hreopened hfresh haccount.symm nofun ?_).congr (fun planId => ?_)
        fun _ => Iff.rfl
      · intro other found _
        rw [haccount, Bool.and_eq_true, decide_eq_true_eq]
      · exact and_iff_right rfl
    · intro helsewhere
      have hne : invoice.accountId ≠ accountId := fun heq =>
        helsewhere ⟨haccount.trans heq, .inl hlapsed⟩
      refine .of_reopen_elsewhere hreopened hfresh (fun heq => absurd heq hne) ?_
      intro other found _ hselected heq
      obtain ⟨howner, -⟩ := Bool.and_eq_true_iff.mp hselected
      exact hne ((of_decide_eq_true howner).symm.trans heq)
  · rw [settleInvoice_book_of_grace hunpaid hcovers hrow' _ _ _ hearly,
      payInvoice_book _ _ hinvoice' hcovers hrow', hrecorded] at hafter
    have hearly' : ¬ isLapsed settings invoice now = true := by
      rw [isLapsed_iff settings hcovers]
      exact not_lt.mpr hearly
    have hcovered := congrArg Book.subscriptions hafter
    simp only [Book.cover, Book.putInvoice] at hcovered
    simpa only [hearly', Bool.false_eq_true, false_or] using cover_turns accountId hrow hcovered

end Invoices

/-- An operation that puts the window of one invoice in force, and no other. -/
theorem Op.TurnsTo.of_grant {op : Op} {after : Book} {invoiceId key : ℕ} {invoice : PlanInvoice}
    {row : PlanSubscription} (hinvoice : tables.invoices.get? invoiceId = some invoice)
    (hbilled : invoice.subscriptionId = some key)
    (hrow : tables.subscriptions.get? key = some row)
    (hgrants : op.settles tables invoiceId invoice ∨ op.forgives invoiceId invoice)
    (halone : ∀ other found, tables.invoices.get? other = some found →
      op.settles tables other found ∨ op.forgives other found → other = invoiceId)
    (hturns : row.accountId = accountId ∧ (op.settles tables invoiceId invoice ∧
        isLapsed settings invoice now = true ∨ row.status = .pending) →
      tables.book.Turns after accountId (row.planId = ·) (tables.book.HasInForce accountId))
    (hstays : ¬ (row.accountId = accountId ∧ (op.settles tables invoiceId invoice ∧
        isLapsed settings invoice now = true ∨ row.status = .pending)) →
      tables.book.Turns after accountId (tables.book.HasInForce accountId) fun _ => False) :
    op.TurnsTo settings now tables after accountId := by
  have hsame : ∀ {other found billed bought}, tables.invoices.get? other = some found →
      op.settles tables other found ∨ op.forgives other found →
      found.subscriptionId = some billed → tables.subscriptions.get? billed = some bought →
      found = invoice ∧ bought = row ∧ other = invoiceId := by
    intro other found billed bought hfound hgranted hbilled' hbought
    obtain rfl := halone other found hfound hgranted
    obtain rfl := Option.some.inj (hfound.symm.trans hinvoice)
    obtain rfl := Option.some.inj (hbilled'.symm.trans hbilled)
    exact ⟨rfl, Option.some.inj (hbought.symm.trans hrow), rfl⟩
  -- such an operation replaces by the one invoice only
  have hnotOpening : ∀ {target}, op.Replaces settings now tables accountId target →
      target = some row.planId ∧ row.accountId = accountId ∧
        (op.settles tables invoiceId invoice ∧ isLapsed settings invoice now = true ∨
          row.status = .pending) := by
    intro target hreplaces
    cases hreplaces with
    | reinstates hfound hsettles hbilled' hbought haccount hlapsed =>
        obtain ⟨rfl, rfl, rfl⟩ := hsame hfound (.inl hsettles) hbilled' hbought
        exact ⟨rfl, haccount, .inl ⟨hsettles, hlapsed⟩⟩
    | starts hfound hgranted hbilled' hbought haccount hpending =>
        obtain ⟨rfl, rfl, rfl⟩ := hsame hfound hgranted hbilled' hbought
        exact ⟨rfl, haccount, .inr hpending⟩
    | opens | moves | clears | assigns => exact (hgrants.elim id id).elim
  constructor
  · intro target hreplaces
    obtain ⟨rfl, hchosen⟩ := hnotOpening hreplaces
    exact (hturns hchosen).congr (fun planId => (Option.some_inj).symm) fun _ => Iff.rfl
  · intro hnone
    refine (hstays fun ⟨haccount, hchosen⟩ => ?_).congr (fun _ => Iff.rfl) fun planId => ?_
    · rcases hchosen with ⟨hsettles, hlapsed⟩ | hpending
      · exact hnone _ (.reinstates hinvoice hsettles hbilled hrow haccount hlapsed)
      · exact hnone _ (.starts hinvoice hgrants hbilled hrow haccount hpending)
    · refine iff_of_false id fun hretires => ?_
      cases op with
      | enforceGrace => exact hgrants.elim id id
      | _ => exact hretires

/-- An invoice is settled, by whatever operation settles it. -/
theorem Op.TurnsTo.of_settle {op : Op} {after : Book} {recorded : Tables}
    (hbook : tables.book.Wellformed tables.hasAccount tables.hasPlan)
    (hrecorded : recorded.book = tables.book) {invoiceId : ℕ} {invoice : PlanInvoice}
    (hinvoice : tables.invoices.get? invoiceId = some invoice)
    (hsettles : op.settles tables invoiceId invoice)
    (halone : ∀ other found, tables.invoices.get? other = some found →
      op.settles tables other found ∨ op.forgives other found → other = invoiceId)
    {paymentId : Option ℕ} {source : String}
    (hafter : after =
      (settleInvoice settings now recorded invoiceId invoice paymentId now source).book) :
    op.TurnsTo settings now tables after accountId := by
  obtain ⟨key, row, start, hcovers, hrow, haccount⟩ := hbook.backed invoiceId invoice hinvoice
  obtain ⟨hturns, hstays⟩ := settleInvoice_turns accountId hinvoice hcovers hrow hrecorded
    (Op.ne_paid_of_settles hsettles) haccount hafter
  refine .of_grant hinvoice hcovers.subscription hrow (.inl hsettles) halone ?_ ?_
  · simpa only [hsettles, true_and] using hturns
  · simpa only [hsettles, true_and] using hstays

theorem markPaid_turnsTo {publicId : String} {credit : Credit} {settledId : Option ℕ}
    (hbook : tables.book.Wellformed tables.hasAccount tables.hasPlan)
    (hmark : markPaid settings now tables publicId credit = .ok (settledId, tables')) :
    (Op.markPaid publicId credit).TurnsTo settings now tables tables'.book accountId := by
  -- a payment that settles no invoice leaves the book as it is
  have hidle : ∀ {after : Book}, after = tables.book →
      (∀ key invoice, tables.invoices.get? key = some invoice →
        ¬ (Op.markPaid publicId credit).settles tables key invoice) →
      (Op.markPaid publicId credit).TurnsTo settings now tables after accountId := by
    rintro after rfl hnone
    refine .of_eq rfl (fun target hreplaces => ?_) fun _ => id
    cases hreplaces with
    | reinstates hinvoice hsettles => exact hnone _ _ hinvoice hsettles
    | starts hinvoice hgrants => exact hnone _ _ hinvoice (hgrants.resolve_right id)
  unfold markPaid at hmark
  split at hmark
  next hfind =>
    simp only [Except.ok.injEq, Prod.mk.injEq] at hmark
    refine hidle (by rw [← hmark.2]) fun key invoice _ ⟨paymentId, payment, hfound, _⟩ => ?_
    rw [hfind] at hfound
    cases hfound
  next paymentId payment hfind =>
    have hpointer : ∀ key invoice, (Op.markPaid publicId credit).settles tables key invoice →
        payment.status.isTerminal = false ∧ invoice.chmabapayPaymentId = some paymentId ∧
          invoice.status ≠ .paid := by
      rintro key invoice ⟨foundId, found, hfound, hopen, hpointer, hunpaid⟩
      obtain ⟨rfl, rfl⟩ := Prod.mk.inj (Option.some.inj (hfind.symm.trans hfound))
      exact ⟨hopen, hpointer, hunpaid⟩
    split at hmark
    next hterminal =>
      simp only [Except.ok.injEq, Prod.mk.injEq] at hmark
      refine hidle (by rw [← hmark.2]) fun key invoice _ hsettles => ?_
      rw [(hpointer key invoice hsettles).1] at hterminal
      cases hterminal
    next hopen =>
      cases hsettle : settlePayment settings now tables paymentId payment credit with
      | error failure => simp [hsettle, Except.map] at hmark
      | ok settled =>
          simp only [hsettle, Except.map, Except.ok.injEq, Prod.mk.injEq] at hmark
          obtain ⟨-, rfl⟩ := hmark
          rcases settlePayment_book hsettle with
            ⟨hnone, hsame⟩ | ⟨recorded, invoiceId, invoice, hrecorded, hinvoice, hpoints, hunique,
              hafter⟩
          · exact hidle hsame fun key invoice hinvoice hsettles =>
              hnone key invoice hinvoice (hpointer key invoice hsettles).2.1
          -- an invoice that was settled otherwise is not settled again
          · by_cases hpaid : invoice.status = .paid
            · rw [settleInvoice, if_pos hpaid, hrecorded] at hafter
              refine hidle hafter fun key other hother hsettles => ?_
              obtain ⟨-, hpoints', hunpaid⟩ := hpointer key other hsettles
              obtain rfl := hunique key other hother hpoints'
              obtain rfl := Option.some.inj (hother.symm.trans hinvoice)
              exact hunpaid hpaid
            · have hsettles : (Op.markPaid publicId credit).settles tables invoiceId invoice :=
                ⟨paymentId, payment, hfind, by simpa using hopen, hpoints, hpaid⟩
              refine .of_settle hbook hrecorded hinvoice hsettles ?_ hafter
              intro key other hother hgrants
              exact hunique key other hother (hpointer key other (hgrants.resolve_right id)).2.1

theorem resolveInvoice_turnsTo {actorId invoiceId : ℕ} {action : ResolveAction} {reason : String}
    {amountCents : Option Int}
    (hbook : tables.book.Wellformed tables.hasAccount tables.hasPlan)
    (hresolve : resolveInvoice settings now tables actorId invoiceId action reason amountCents =
      .ok tables') :
    (Op.resolveInvoice actorId invoiceId action reason amountCents).TurnsTo settings now tables
      tables'.book accountId := by
  unfold resolveInvoice at hresolve
  split at hresolve
  · cases hresolve
  next invoice hinvoice =>
    split at hresolve
    · cases hresolve
    next hresolved =>
      have hopen : invoice.status.isResolved = false := by simpa using hresolved
      have hafter := (congrArg Tables.book (Except.ok.inj hresolve)).symm
      rw [recordAudit_book] at hafter
      obtain ⟨key, row, start, hcovers, hrow, haccount⟩ := hbook.backed invoiceId invoice hinvoice
      -- a waiver and a credit put the window in force without the grace line
      have hforgiven : ∀ status, tables'.book =
            (forgiveInvoice now tables invoiceId invoice status).book →
          (∀ other found, ¬ (Op.resolveInvoice actorId invoiceId action reason
            amountCents).settles tables other found) →
          (∀ other found, (Op.resolveInvoice actorId invoiceId action reason
            amountCents).forgives other found → other = invoiceId) →
          (Op.resolveInvoice actorId invoiceId action reason amountCents).forgives invoiceId
            invoice →
          (Op.resolveInvoice actorId invoiceId action reason amountCents).TurnsTo settings now
            tables tables'.book accountId := by
        intro status hafter hnone halone hforgives
        rw [forgiveInvoice_book _ _ hinvoice hcovers hrow] at hafter
        have hcovered := congrArg Book.subscriptions hafter
        simp only [Book.cover, Book.putInvoice] at hcovered
        obtain ⟨hturns, hstays⟩ := cover_turns accountId hrow hcovered
        refine .of_grant hinvoice hcovers.subscription hrow (.inr hforgives)
          (fun other found _ hgrants => halone other found (hgrants.resolve_left (hnone _ _))) ?_ ?_
        · simpa only [hnone invoiceId invoice, false_and, false_or] using hturns
        · simpa only [hnone invoiceId invoice, false_and, false_or] using hstays
      cases action with
      | markPaid =>
          exact .of_settle hbook rfl hinvoice ⟨rfl, hopen⟩
            (fun other found _ hgrants => (hgrants.resolve_right id).1) hafter
      | void =>
          have hsame : tables'.book.subscriptions = tables.book.subscriptions := by
            rw [hafter]
            rfl
          refine .of_eq hsame (fun target hreplaces => ?_) fun _ => id
          cases hreplaces with
          | reinstates _ hsettles => exact hsettles
          | starts _ hgrants => exact hgrants.elim id id
      | waive => exact hforgiven _ hafter (fun _ _ => id) (fun _ _ => And.left) ⟨rfl, hopen⟩
      | credit => exact hforgiven _ hafter (fun _ _ => id) (fun _ _ => And.left) ⟨rfl, hopen⟩

/-! ### Opening subscriptions -/

/-- An operation whose only opening is that of one account. -/
theorem Op.TurnsTo.of_reopen {op : Op} {after : Book} (keep : ℕ → PlanSubscription → Bool)
    (opened : PlanSubscription) (target : Option ℕ) {new : ℕ}
    (hafter : after.subscriptions =
      ((tables.book.retireWhere now keep).putSubscription new opened).subscriptions)
    (hfresh : tables.book.subscriptions new = none)
    (hreplaces : ∀ found, op.Replaces settings now tables accountId found ↔
      found = target ∧ opened.accountId = accountId)
    (hretires : ∀ planId, ¬ op.Retires now tables accountId planId)
    (htarget : ∀ planId, opened.isLive = true ∧ opened.planId = planId ↔ target = some planId)
    (hstatus : opened.status ≠ .canceled)
    (hkeep : ∀ key row, tables.book.subscriptions key = some row →
      (keep key row = true ↔ row.accountId = opened.accountId ∧ row.isLive = true)) :
    op.TurnsTo settings now tables after accountId := by
  constructor
  · intro found hfound
    obtain ⟨rfl, hopened⟩ := (hreplaces found).mp hfound
    refine (Book.Turns.of_reopen hafter hfresh hopened hstatus ?_).congr htarget fun _ => Iff.rfl
    exact hopened ▸ hkeep
  · intro hnone
    have hne : opened.accountId ≠ accountId := fun heq =>
      hnone target ((hreplaces target).mpr ⟨rfl, heq⟩)
    refine (Book.Turns.of_reopen_elsewhere hafter hfresh (fun heq => absurd heq hne) ?_).congr
      (fun _ => Iff.rfl) fun planId => iff_of_false id (hretires planId)
    intro key row hrow hselected heq
    exact hne (((hkeep key row hrow).mp hselected).1.symm.trans heq)

/-- Nothing is retired when a subscription is opened for an account without one. -/
theorem insert_subscriptions (now : Instant) (tables : Tables) (row : PlanSubscription) :
    (tables.subscriptions.insert row).get? = ((tables.book.retireWhere now fun _ _ =>
      false).putSubscription tables.subscriptions.next row).subscriptions := by
  funext key
  simp

/-- The one subscription in force is canceled and the next one opened. -/
theorem replace_subscriptions (now : Instant) (tables : Tables) (currentId : ℕ)
    (row : PlanSubscription) :
    ((tables.subscriptions.update currentId (PlanSubscription.cancel now)).insert row).get? =
      ((tables.book.retireWhere now fun key _ => decide (key = currentId)).putSubscription
        tables.subscriptions.next row).subscriptions := by
  funext key
  simp only [Table.get?_insert, Table.get?_update, Table.next_update,
    Book.putSubscription_subscriptions, Book.retireWhere_subscriptions, Tables.book_subscriptions,
    decide_eq_true_eq]
  by_cases heq : key = currentId <;> simp [heq]

theorem signUp_turnsTo (hbook : tables.book.Wellformed tables.hasAccount tables.hasPlan)
    (email name : String) (renameExisting : Bool) :
    (Op.signUp email name renameExisting).TurnsTo settings now tables
      (upsertAccount now tables email name renameExisting).2.book accountId := by
  unfold upsertAccount
  split
  next hnew =>
    unfold ensureFreeSubscription
    dsimp only
    split
    next hplan =>
      change findPlanByCode tables "free" = none at hplan
      refine .of_eq rfl (fun target hreplaces => ?_) fun _ => id
      cases hreplaces with
      | opens _ _ hfree =>
          rw [hplan] at hfree
          cases hfree
      | reinstates _ hsettles => exact hsettles
      | starts _ hgrants => exact hgrants.elim id id
    next planId plan hplan =>
      change findPlanByCode tables "free" = some (planId, plan) at hplan
      refine .of_reopen _ _ (some planId) (insert_subscriptions now tables _) (by simp)
        (fun found => ⟨fun hreplaces => ?_, ?_⟩) (fun _ => id) (fun other => ?_) nofun ?_
      · cases hreplaces with
        | opens _ hnext hfree =>
            rw [hplan] at hfree
            obtain ⟨rfl, -⟩ := Prod.mk.inj (Option.some.inj hfree)
            exact ⟨rfl, hnext⟩
        | reinstates _ hsettles => exact hsettles.elim
        | starts _ hgrants => exact (hgrants.elim id id).elim
      · rintro ⟨rfl, hnext⟩
        exact .opens hnew hnext hplan
      · rw [Option.some_inj]
        exact and_iff_right rfl
      · -- nobody has the key the account is about to take
        refine fun key row hrow => iff_of_false nofun fun ⟨howner, _⟩ => ?_
        obtain ⟨account, haccount⟩ := hbook.account key row hrow
        rw [howner] at haccount
        simp at haccount
  next found existing hexisting =>
    refine .of_eq rfl (fun target hreplaces => ?_) fun _ => id
    cases hreplaces with
    | opens hnew =>
        rw [hexisting] at hnew
        cases hnew
    | reinstates _ hsettles => exact hsettles
    | starts _ hgrants => exact hgrants.elim id id

theorem assignAccountPlan_turnsTo {actorId assigneeId : ℕ} {planCode reason : String}
    {subscriptionId : ℕ} (hbook : tables.book.Wellformed tables.hasAccount tables.hasPlan)
    (hassign : assignAccountPlan now tables actorId assigneeId planCode reason =
      .ok (subscriptionId, tables')) :
    (Op.assignAccountPlan actorId assigneeId planCode reason).TurnsTo settings now tables
      tables'.book accountId := by
  simp only [assignAccountPlan] at hassign
  split at hassign
  · simp [bind_eq_ok] at hassign
  split at hassign
  · simp at hassign
  next planId plan hplan =>
    split at hassign
    · exact absurd hassign throw_bind_ne_ok
    · simp only [pure_eq_ok, Prod.mk.injEq] at hassign
      obtain ⟨-, rfl⟩ := hassign
      set assigned : PlanSubscription :=
        { accountId := assigneeId
          planId := planId
          status := .active
          startedAt := some now
          nextBillingAt := now + creditPeriod
          createdAt := now }
      have hreplaces : ∀ found, (Op.assignAccountPlan actorId assigneeId planCode reason).Replaces
          settings now tables accountId found ↔
            found = some planId ∧ assigned.accountId = accountId := by
        intro found
        constructor
        · intro hreplaces
          cases hreplaces with
          | assigns hfound =>
              obtain ⟨rfl, -⟩ := Prod.mk.inj (Option.some.inj (hplan.symm.trans hfound))
              exact ⟨rfl, rfl⟩
          | reinstates _ hsettles => exact hsettles.elim
          | starts _ hgrants => exact (hgrants.elim id id).elim
        · rintro ⟨rfl, rfl⟩
          exact .assigns hplan
      have htarget : ∀ other, assigned.isLive = true ∧ assigned.planId = other ↔
          some planId = some other := fun other => by
        rw [Option.some_inj]
        exact and_iff_right rfl
      rw [recordAudit_book]
      cases hcurrent : tables.subscriptions.find? fun _ row =>
          decide (row.accountId = assigneeId) && row.isLive with
      | none =>
          refine .of_reopen _ assigned _ (insert_subscriptions now tables _) (by simp) hreplaces
            (fun _ => id) htarget nofun fun key row hrow => iff_of_false nofun ?_
          rintro ⟨howner, hlive⟩
          have hidle := Table.find?_eq_none_iff.mp hcurrent key row hrow
          simp [assigned, howner, hlive] at hidle
      | some found =>
          obtain ⟨currentId, current⟩ := found
          obtain ⟨hcurrentRow, hmatch⟩ := Table.find?_eq_some hcurrent
          simp only [Bool.and_eq_true, decide_eq_true_eq] at hmatch
          refine .of_reopen _ assigned _ (replace_subscriptions now tables currentId _) (by simp)
            hreplaces (fun _ => id) htarget nofun ?_
          intro key row hrow
          rw [decide_eq_true_eq]
          constructor
          · rintro rfl
            obtain rfl := Option.some.inj (hrow.symm.trans hcurrentRow)
            exact hmatch
          · rintro ⟨howner, hlive⟩
            -- an account has one live subscription, so no other row is cancelled
            by_contra hne
            have hidle := hbook.live currentId current hcurrentRow hmatch.2 key row hrow hne
              (howner.trans hmatch.1.symm)
            rw [hlive] at hidle
            cases hidle

/-! ### Changing plan -/

section PlanChange

variable {change : PlanChange} {callerId : ℕ} {planCode : String}

/-- What a change of plan replaces, told from its first reads. -/
theorem changePlan_replaces_iff
    (hread : readPlanChange tables callerId planCode = .ok change) (target : Option ℕ) :
    (Op.changePlan callerId planCode).Replaces settings now tables accountId target ↔
      callerId = accountId ∧ (change.plan.monthlyFeeCents ≤ 0 ∧ target = some change.planId ∨
        0 < change.plan.monthlyFeeCents ∧ (findOpenInvoice tables callerId).isSome = true ∧
          change.account.status = .restricted ∧ target = none) := by
  constructor
  · intro hreplaces
    cases hreplaces with
    | moves hread' hfree =>
        obtain rfl := Except.ok.inj (hread.symm.trans hread')
        exact ⟨rfl, .inl ⟨hfree, rfl⟩⟩
    | clears hread' hpaid howes hfrozen =>
        obtain rfl := Except.ok.inj (hread.symm.trans hread')
        exact ⟨rfl, .inr ⟨hpaid, howes, hfrozen, rfl⟩⟩
    | reinstates _ hsettles => exact hsettles.elim
    | starts _ hgrants => exact (hgrants.elim id id).elim
  · rintro ⟨rfl, ⟨hfree, rfl⟩ | ⟨hpaid, howes, hfrozen, rfl⟩⟩
    · exact .moves hread hfree
    · exact .clears hread hpaid howes hfrozen

variable (hbook : tables.book.Wellformed tables.hasAccount tables.hasPlan)
  (hread : change.ReadFrom tables)

include hbook hread

/-- The rows a move to a free plan cancels are those in force. -/
theorem PlanChange.ReadFrom.old_iff {key : ℕ} {row : PlanSubscription}
    (hrow : tables.subscriptions.get? key = some row) :
    (change.old.any fun found => decide (key = found.1)) = true ↔
      row.accountId = change.accountId ∧ row.isLive = true := by
  obtain ⟨hold, hlive⟩ := getActiveSub_eq_ok hread.old
  constructor
  · intro hfound
    obtain ⟨⟨oldId, old, plan⟩, hchange, hkey⟩ := (Option.any_eq_true _ _).mp hfound
    obtain rfl : key = oldId := of_decide_eq_true hkey
    obtain ⟨hget, haccount, hislive⟩ := hold key old plan hchange
    obtain rfl := Option.some.inj (hrow.symm.trans hget)
    exact ⟨haccount, hislive⟩
  · rintro ⟨haccount, hislive⟩
    obtain ⟨plan, hchange⟩ := hlive key row hrow (hbook.plan key row hrow) haccount hislive
    simp [hchange]

omit hbook hread in
theorem moveToFreePlan_subscriptions :
    (moveToFreePlan now tables change).2.book.subscriptions =
      ((tables.book.retireWhere now fun key _ => change.old.any fun found =>
          decide (key = found.1)).putSubscription tables.subscriptions.next
        (change.subscription now .active (some now))).subscriptions := by
  unfold moveToFreePlan
  simp only [recordAudit_book, applyStoreCap_book]
  cases change.old with
  | none => exact insert_subscriptions now tables _
  | some found => exact replace_subscriptions now tables found.1 _

theorem moveToFreePlan_turnsTo
    (hreplaces : ∀ target, (Op.changePlan callerId planCode).Replaces settings now tables accountId
      target ↔ target = some change.planId ∧ change.accountId = accountId) :
    (Op.changePlan callerId planCode).TurnsTo settings now tables
      (moveToFreePlan now tables change).2.book accountId := by
  refine .of_reopen _ _ _ moveToFreePlan_subscriptions (by simp) hreplaces (fun _ => id)
    (fun planId => ?_) nofun fun key row hrow => hread.old_iff hbook hrow
  rw [Option.some_inj]
  exact and_iff_right rfl

omit hbook hread in
/-- A purchase parks a subscription, and a frozen account gives up what it has in force. -/
theorem purchasePlan_subscriptions {out : ChangePlanOut}
    (hpurchase : purchasePlan now tables change = .ok (out, tables')) :
    ((findOpenInvoice tables change.accountId).isSome = true →
        change.account.status = .restricted) ∧
      tables'.book.subscriptions = ((tables.book.retireWhere now fun _ row =>
          (findOpenInvoice tables change.accountId).isSome &&
            (decide (row.accountId = change.accountId) && row.isLive)).putSubscription
        tables.subscriptions.next (change.subscription now .pending none)).subscriptions := by
  simp only [purchasePlan, bind_eq_ok] at hpurchase
  obtain ⟨cleared, hclear, hpurchase⟩ := hpurchase
  have hraised : tables'.book.subscriptions = (cleared.book.putSubscription
      cleared.subscriptions.next (change.subscription now .pending none)).subscriptions := by
    obtain ⟨invoices, hissue⟩ := issueInvoice_eq now
      { cleared with
        subscriptions := cleared.subscriptions.insert (change.subscription now .pending none) }
      cleared.subscriptions.next (change.subscription now .pending none) change.plan now
      (now + creditPeriod) now
    split at hpurchase
    · simp at hpurchase
    all_goals
      simp only [pure_eq_ok, Prod.mk.injEq] at hpurchase
      obtain ⟨-, rfl⟩ := hpurchase
      rw [hissue]
      funext key
      simp [recordAudit]
  rw [hraised]
  unfold clearOutstanding at hclear
  split at hclear
  next hnone =>
    obtain rfl := Except.ok.inj hclear
    refine ⟨by simp [hnone], ?_⟩
    funext key
    simp [hnone]
  next invoiceId invoice hsome =>
    split at hclear
    · cases hclear
    next hfrozen =>
      obtain rfl := Except.ok.inj hclear
      refine ⟨fun _ => not_not.mp hfrozen, ?_⟩
      rw [retireLiveSubscriptions_book, voidOpenInvoices_book]
      simp only [hsome, Option.isSome_some, Bool.true_and]
      rfl

omit hbook hread in
theorem purchasePlan_turnsTo {out : ChangePlanOut}
    (hpurchase : purchasePlan now tables change = .ok (out, tables'))
    (hreplaces : ∀ target, (Op.changePlan callerId planCode).Replaces settings now tables accountId
      target ↔ change.accountId = accountId ∧
        (findOpenInvoice tables change.accountId).isSome = true ∧ target = none) :
    (Op.changePlan callerId planCode).TurnsTo settings now tables tables'.book accountId := by
  obtain ⟨hfrozen, hafter⟩ := purchasePlan_subscriptions hpurchase
  by_cases howes : (findOpenInvoice tables change.accountId).isSome = true
  · refine .of_reopen _ _ none hafter (by simp) (fun target => ?_) (fun _ => id) (fun planId => ?_)
      nofun fun key row _ => ?_
    · rw [hreplaces]
      tauto
    · exact iff_of_false (fun ⟨hlive, _⟩ => by cases hlive) nofun
    · simp only [howes, Bool.true_and, Bool.and_eq_true, decide_eq_true_eq]
      rfl
  · refine ⟨fun target htarget => absurd ((hreplaces target).mp htarget).2.1 howes, fun _ => ?_⟩
    refine (Book.Turns.of_reopen_elsewhere hafter (by simp) (fun _ => ⟨rfl, nofun⟩) ?_).congr
      (fun _ => Iff.rfl) fun _ => iff_of_false id id
    intro key row _ hselected
    rw [Bool.and_eq_true] at hselected
    exact absurd hselected.1 howes

omit hread in
theorem changePlan_turnsTo {out : ChangePlanOut}
    (hread : readPlanChange tables callerId planCode = .ok change)
    (happly : applyPlanChange now tables change = .ok (out, tables')) :
    (Op.changePlan callerId planCode).TurnsTo settings now tables tables'.book accountId := by
  obtain ⟨rfl, hreadFrom⟩ := readPlanChange_eq_ok hread
  unfold applyPlanChange at happly
  split at happly
  next hfree =>
    simp only [Except.ok.injEq] at happly
    obtain rfl : (moveToFreePlan now tables change).2 = tables' := by rw [happly]
    refine moveToFreePlan_turnsTo hbook hreadFrom fun target => ?_
    rw [changePlan_replaces_iff hread]
    have hunpaid : ¬ 0 < change.plan.monthlyFeeCents := not_lt.mpr hfree
    tauto
  next hpaid =>
    refine purchasePlan_turnsTo happly fun target => ?_
    have hfrozen := (purchasePlan_subscriptions happly).1
    rw [changePlan_replaces_iff hread]
    have hpositive : 0 < change.plan.monthlyFeeCents := not_le.mp hpaid
    tauto

end PlanChange

/-! ### The enforcement sweep -/

/-- Freezing touches no subscription. -/
theorem foldl_freezeAccount_subscriptions (overdue : List (ℕ × PlanInvoice × Account))
    (tables : Tables) : (overdue.foldl (freezeAccount settings) tables).subscriptions =
      tables.subscriptions := by
  induction overdue generalizing tables with
  | nil => rfl
  | cons head rest ih => exact ih (freezeAccount settings tables head)

/-- Retiring parked purchases cancels them, and no other subscription. -/
theorem foldl_expirePurchase_subscriptions (parked : List (ℕ × PlanSubscription))
    (tables : Tables) (key : ℕ) :
    ((parked.foldl (expirePurchase now) tables).subscriptions.get? key) =
      (tables.subscriptions.get? key).map fun row =>
        if key ∈ parked.map Prod.fst then row.cancel now else row := by
  induction parked generalizing tables with
  | nil => simp
  | cons head rest ih =>
      rw [List.foldl_cons, ih, List.map_cons]
      have hhead : (expirePurchase now tables head).subscriptions.get? key =
          if key = head.1 then (tables.subscriptions.get? key).map (PlanSubscription.cancel now)
          else tables.subscriptions.get? key := by
        simp [expirePurchase]
      rw [hhead]
      by_cases heq : key = head.1
      · rw [if_pos heq, Option.map_map]
        refine congrArg (Option.map · _) (funext fun row => ?_)
        -- canceling twice at one instant is canceling once
        rw [if_pos (List.mem_cons.mpr (.inl heq)), Function.comp_apply]
        split <;> rfl
      · simp only [List.mem_cons, heq, if_false, false_or]

theorem enforceGrace_turnsTo (limit : ℕ) :
    (Op.enforceGrace limit).TurnsTo settings now tables
      (enforceGrace settings now tables limit).2.book accountId := by
  -- the freezes of the first half of the sweep touch no subscription
  have hfrozen : ∃ frozen : Tables, frozen.subscriptions = tables.subscriptions ∧
      (enforceGrace settings now tables limit).2 =
        (expireAbandonedPurchases now frozen 500).2 := by
    unfold enforceGrace
    dsimp only
    split
    · exact ⟨_, foldl_freezeAccount_subscriptions _ tables, rfl⟩
    · exact ⟨tables, rfl, rfl⟩
  obtain ⟨frozen, hsame, hafter⟩ := hfrozen
  have hretired : (enforceGrace settings now tables limit).2.book.subscriptions =
      (tables.book.retireWhere now fun key _ =>
        decide (key ∈ (abandonedPurchases now tables).map Prod.fst)).subscriptions := by
    rw [hafter]
    funext key
    simp only [expireAbandonedPurchases, Tables.book_subscriptions, hsame,
      foldl_expirePurchase_subscriptions, Book.retireWhere_subscriptions, decide_eq_true_eq]
    rfl
  have hselected : ∀ key row, tables.subscriptions.get? key = some row →
      (key ∈ (abandonedPurchases now tables).map Prod.fst ↔
        (key, row) ∈ abandonedPurchases now tables) := by
    intro key row hrow
    constructor
    · intro hmem
      obtain ⟨⟨found, parked⟩, hparked, rfl⟩ := List.mem_map.mp hmem
      have hget := (Table.mem_select.mp (List.mem_of_mem_take hparked)).1
      rw [Option.some.inj (hrow.symm.trans hget)]
      exact hparked
    · exact fun hmem => List.mem_map.mpr ⟨(key, row), hmem, rfl⟩
  constructor
  · intro target hreplaces
    cases hreplaces with
    | reinstates _ hsettles => exact hsettles.elim
    | starts _ hgrants => exact (hgrants.elim id id).elim
  · refine fun _ => (Book.Turns.of_retire_waiting hretired fun key row hrow hmem => ?_).congr
      (fun _ => Iff.rfl) fun planId => ?_
    · have hparked := (hselected key row hrow).mp (of_decide_eq_true hmem)
      obtain ⟨-, hkeep⟩ := Table.mem_select.mp (List.mem_of_mem_take hparked)
      exact of_decide_eq_true (Bool.and_eq_true_iff.mp hkeep).1
    · constructor
      · rintro ⟨key, row, hrow, hmem, haccount, hplan⟩
        exact ⟨key, row, (hselected key row hrow).mp (of_decide_eq_true hmem), haccount, hplan⟩
      · rintro ⟨key, row, hmem, haccount, hplan⟩
        have hrow := (Table.mem_select.mp (List.mem_of_mem_take hmem)).1
        exact ⟨key, row, hrow, decide_eq_true ((hselected key row hrow).mpr hmem), haccount, hplan⟩

/-! ### Every operation -/

theorem perform_turnsTo {op : Op} {response : Response}
    (hbook : tables.book.Wellformed tables.hasAccount tables.hasPlan)
    (hperform : perform settings now tables op = .ok (response, tables')) :
    op.TurnsTo settings now tables tables'.book accountId := by
  -- an operation that neither settles nor opens leaves every subscription in place
  have hidle : ∀ {after : Book}, after.subscriptions = tables.book.subscriptions →
      (∀ target, ¬ op.Replaces settings now tables accountId target) →
      (∀ planId, ¬ op.Retires now tables accountId planId) →
      op.TurnsTo settings now tables after accountId := fun hsame => .of_eq hsame
  cases op with
  | signUp email name renameExisting =>
      simp only [perform, Except.ok.injEq, Prod.mk.injEq] at hperform
      obtain ⟨-, rfl⟩ := hperform
      exact signUp_turnsTo hbook email name renameExisting
  | createPayment | reissuePayment | markScanned | reversePayment | expireDuePayments =>
      refine hidle (by rw [(perform_of_isSale rfl hperform).1]) (fun target hreplaces => ?_)
        fun _ => id
      cases hreplaces with
      | reinstates _ hsettles => exact hsettles.elim
      | starts _ hgrants => exact (hgrants.elim id id).elim
  | markPaid publicId credit =>
      simp only [perform, bind_eq_ok, pure_eq_ok, Prod.mk.injEq] at hperform
      obtain ⟨⟨settledId, settled⟩, hmark, -, rfl⟩ := hperform
      exact markPaid_turnsTo hbook hmark
  | changePlan callerId planCode =>
      simp only [perform, changePlan, bind_eq_ok, pure_eq_ok, Prod.mk.injEq] at hperform
      obtain ⟨⟨out, changed⟩, ⟨change, hread, happly⟩, -, rfl⟩ := hperform
      exact changePlan_turnsTo hbook hread happly
  | getInvoiceKhqr rail callerId invoiceId publicId =>
      simp only [perform, bind_eq_ok, pure_eq_ok, Prod.mk.injEq] at hperform
      obtain ⟨⟨paymentId, minted⟩, hkhqr, -, rfl⟩ := hperform
      obtain ⟨invoice, -, -, hafter, -⟩ := getInvoiceKhqr_book hkhqr
      refine hidle (by rw [hafter]; rfl) (fun target hreplaces => ?_) fun _ => id
      cases hreplaces with
      | reinstates _ hsettles => exact hsettles.elim
      | starts _ hgrants => exact (hgrants.elim id id).elim
  | issueDueInvoices limit =>
      simp only [perform, Except.ok.injEq, Prod.mk.injEq] at hperform
      obtain ⟨-, rfl⟩ := hperform
      obtain ⟨invoices, heq⟩ := issueDueInvoices_eq settings now tables limit
      refine hidle (by rw [heq]; rfl) (fun target hreplaces => ?_) fun _ => id
      cases hreplaces with
      | reinstates _ hsettles => exact hsettles.elim
      | starts _ hgrants => exact (hgrants.elim id id).elim
  | enforceGrace limit =>
      simp only [perform, Except.ok.injEq, Prod.mk.injEq] at hperform
      obtain ⟨-, rfl⟩ := hperform
      exact enforceGrace_turnsTo limit
  | resolveInvoice actorId invoiceId action reason amountCents =>
      simp only [perform, bind_eq_ok, pure_eq_ok, Prod.mk.injEq] at hperform
      obtain ⟨resolved, hresolve, -, rfl⟩ := hperform
      exact resolveInvoice_turnsTo hbook hresolve
  | assignAccountPlan actorId assigneeId planCode reason =>
      simp only [perform, bind_eq_ok, pure_eq_ok, Prod.mk.injEq] at hperform
      obtain ⟨⟨subscriptionId, assigned⟩, hassign, -, rfl⟩ := hperform
      exact assignAccountPlan_turnsTo hbook hassign

end Operations

end ChmabaPay
