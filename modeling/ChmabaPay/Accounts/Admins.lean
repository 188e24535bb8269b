import ChmabaPay.Foundation.Fallible
import ChmabaPay.Routers.Accounts
import ChmabaPay.Specimen

/-! # The console stays reachable

The route that changes an account's standing refuses to suspend the last active
platform admin. Freezing takes write access away just as well, and is not refused: the
console stays reachable in exactly the runs that never freeze the last active admin.
-/

namespace ChmabaPay

open Calendar Relational Execution Fallible

/-- Some platform admin is active. -/
def Governed (tables : Tables) : Prop :=
  ∃ accountId account, tables.accounts.get? accountId = some account ∧
    account.isPlatformAdmin = true ∧ account.status = .active

/-- The request is admitted and freezes the last active platform admin. -/
def FreezesLastAdmin (enableDevGateway : Bool) (tables : Tables) (request : AccountRequest) :
    Prop :=
  (hybridAdminContext enableDevGateway tables request.actorId request.authMethod
      request.line).isOk = true ∧
    request.patch.status = some .restricted ∧ (activeAdmins tables).length ≤ 1 ∧
    ∃ account ∈ tables.accounts.get? request.accountId, account.isPlatformAdmin = true ∧
      account.status = .active

instance (enableDevGateway : Bool) (tables : Tables) :
    DecidablePred (FreezesLastAdmin enableDevGateway tables) :=
  fun _ => inferInstanceAs (Decidable (_ ∧ _ ∧ _ ∧ _))

section Step

variable {enableDevGateway : Bool} {tables : Tables}

theorem mem_activeAdmins {accountId : ℕ} {account : Account} :
    (accountId, account) ∈ activeAdmins tables ↔ tables.accounts.get? accountId = some account ∧
      account.isPlatformAdmin = true ∧ account.status = .active := by
  simp [activeAdmins]

/-- Beside one active admin there is another when there is more than one. -/
theorem one_lt_activeAdmins {accountId : ℕ} {account : Account}
    (hadmin : (accountId, account) ∈ activeAdmins tables) :
    1 < (activeAdmins tables).length ↔
      ∃ row ∈ activeAdmins tables, row.1 ≠ accountId := by
  have hsorted : (activeAdmins tables).Pairwise fun first second => first.1 < second.1 :=
    tables.accounts.sorted.filter _
  generalize activeAdmins tables = rows at hadmin hsorted
  match rows with
  | [] => cases hadmin
  | [row] =>
      obtain rfl := List.mem_singleton.mp hadmin
      simp
  | first :: second :: rest =>
      have hlt := (List.pairwise_cons.mp hsorted).1 second List.mem_cons_self
      refine iff_of_true (by simp) ?_
      by_cases hfirst : first.1 = accountId
      · exact ⟨second, by simp, fun hsecond => by omega⟩
      · exact ⟨first, by simp, hfirst⟩

/-- A frozen admin's session may not write to the console. -/
theorem restrictedMayReach_line (request : AccountRequest) :
    restrictedMayReach request.line = false := by
  have hmethod : "PATCH".toUpper = "PATCH" := by decide +kernel
  simp [restrictedMayReach, AccountRequest.line, restrictedAllowedWrites, hmethod]

/-- Where the gate is closed to frozen accounts, it lets active ones pass. -/
theorem currentSessionAccount_eq_ok {accountId : ℕ} {request : HttpRequest}
    (hclosed : restrictedMayReach request = false) {account : Account} :
    currentSessionAccount tables accountId request = .ok account ↔
      tables.accounts.get? accountId = some account ∧ account.status = .active := by
  unfold currentSessionAccount sessionAccount
  rw [hclosed]
  cases tables.accounts.get? accountId with
  | none => simp
  | some found =>
      cases hstatus : found.status with
      | active =>
          simp only [hstatus, reduceCtorEq, if_false, false_and, Except.ok.injEq,
            Option.some.injEq]
          exact ⟨fun hfound => ⟨hfound, hfound ▸ hstatus⟩, And.left⟩
      | suspended =>
          simp only [hstatus, if_true, reduceCtorEq, Option.some.injEq, false_iff]
          rintro ⟨rfl, hactive⟩
          cases hstatus.symm.trans hactive
      | restricted =>
          simp only [hstatus, reduceCtorEq, if_false, and_self, if_true, Option.some.injEq,
            false_iff]
          rintro ⟨rfl, hactive⟩
          cases hstatus.symm.trans hactive

/-- The sessions that may write to the console are those of active admins, opened with
a password (or by the development gateway). -/
theorem hybridAdminContext_eq_ok {request : AccountRequest} {account : Account} :
    hybridAdminContext enableDevGateway tables request.actorId request.authMethod request.line =
        .ok account ↔
      (tables.accounts.get? request.actorId = some account ∧ account.status = .active) ∧
        (request.authMethod = "password" ∨ request.authMethod = "dev" ∧ enableDevGateway = true) ∧
        account.isPlatformAdmin = true := by
  rw [← currentSessionAccount_eq_ok (restrictedMayReach_line request), hybridAdminContext]
  cases currentSessionAccount tables request.actorId request.line with
  | error failure => simp
  | ok found =>
      rw [Except.ok.injEq]
      by_cases hmethod : request.authMethod = "password" ∨
        request.authMethod = "dev" ∧ enableDevGateway = true
      · simp only [hmethod, not_true_eq_false, if_false, true_and]
        cases hadmin : found.isPlatformAdmin with
        | false =>
            simp only [if_true, reduceCtorEq, false_iff]
            rintro ⟨rfl, hyes⟩
            cases hadmin.symm.trans hyes
        | true =>
            simp only [Bool.true_eq_false, if_false, Except.ok.injEq]
            exact ⟨fun hfound => ⟨hfound, hfound ▸ hadmin⟩, And.left⟩
      · simp [hmethod]

/-- A governed console is one that admits a writing request of somebody. -/
theorem governed_iff_admitted (enableDevGateway : Bool) (tables : Tables) :
    Governed tables ↔ ∃ request : AccountRequest, ∃ account, hybridAdminContext enableDevGateway
      tables request.actorId request.authMethod request.line = .ok account := by
  constructor
  · rintro ⟨adminId, admin, hget, hplatform, hactive⟩
    exact ⟨⟨adminId, "password", adminId, {}⟩, admin,
      hybridAdminContext_eq_ok.mpr ⟨⟨hget, hactive⟩, .inl rfl, hplatform⟩⟩
  · rintro ⟨request, account, hadmitted⟩
    obtain ⟨⟨hget, hactive⟩, -, hplatform⟩ := hybridAdminContext_eq_ok.mp hadmitted
    exact ⟨request.actorId, account, hget, hplatform, hactive⟩

/-- What a request that goes through leaves of the accounts. -/
theorem updateAccount_cases (actorId : ℕ) {accountId : ℕ} (patch : AdminAccountPatch)
    {account : Account} (hget : tables.accounts.get? accountId = some account) :
    (∃ failure, updateAccount tables actorId accountId patch = .error failure) ∧
        patch.newStatus account = some .suspended ∨
      updateAccount tables actorId accountId patch = .ok tables ∧
        patch.newStatus account = none ∨
      ∃ changed, updateAccount tables actorId accountId patch = .ok changed ∧
        changed.accounts = tables.accounts.update accountId (Account.patched patch) ∧
        ¬ (patch.newStatus account = some .suspended ∧ account.isPlatformAdmin = true ∧
          (activeAdmins tables).length ≤ 1) := by
  unfold updateAccount
  rw [hget]
  dsimp only
  by_cases hlast : patch.newStatus account = some .suspended ∧ account.isPlatformAdmin = true ∧
    (activeAdmins tables).length ≤ 1
  · rw [if_pos hlast]
    exact .inl ⟨⟨_, rfl⟩, hlast.1⟩
  · rw [if_neg hlast]
    by_cases hidle : patch.whitelabelEnabled = none ∧ patch.newStatus account = none
    · rw [if_pos hidle]
      exact .inr (.inl ⟨rfl, hidle.2⟩)
    · rw [if_neg hidle]
      exact .inr (.inr ⟨_, rfl, rfl, hlast⟩)

/-- After a patch of one account the console is governed by that account or by
another one. -/
theorem governed_update_iff {accountId : ℕ} {account : Account} {patch : AdminAccountPatch}
    {changed : Tables} (hget : tables.accounts.get? accountId = some account)
    (hchanged : changed.accounts = tables.accounts.update accountId (Account.patched patch)) :
    Governed changed ↔
      (account.isPlatformAdmin = true ∧ (account.patched patch).status = .active) ∨
        ∃ row ∈ activeAdmins tables, row.1 ≠ accountId := by
  have hself : changed.accounts.get? accountId = some (account.patched patch) := by
    rw [hchanged, Table.get?_update, if_pos rfl, hget]
    rfl
  have hother : ∀ other, other ≠ accountId →
      changed.accounts.get? other = tables.accounts.get? other := by
    intro other hne
    rw [hchanged, Table.get?_update, if_neg hne]
  constructor
  · rintro ⟨adminId, admin, hadmin, hplatform, hactive⟩
    by_cases hsame : adminId = accountId
    · subst hsame
      obtain rfl := Option.some.inj (hself.symm.trans hadmin)
      exact .inl ⟨hplatform, hactive⟩
    · rw [hother adminId hsame] at hadmin
      exact .inr ⟨(adminId, admin), mem_activeAdmins.mpr ⟨hadmin, hplatform, hactive⟩, hsame⟩
  · rintro (⟨hplatform, hactive⟩ | ⟨⟨adminId, admin⟩, hadmin, hne⟩)
    · exact ⟨accountId, _, hself, hplatform, hactive⟩
    · obtain ⟨hrow, hplatform, hactive⟩ := mem_activeAdmins.mp hadmin
      exact ⟨adminId, admin, (hother adminId hne).trans hrow, hplatform, hactive⟩

theorem AdminAccountPatch.newStatus_eq_some {patch : AdminAccountPatch} {account : Account}
    {status : AccountStatus} :
    patch.newStatus account = some status ↔
      patch.status = some status ∧ status ≠ account.status := by
  simp [AdminAccountPatch.newStatus, Option.filter_eq_some_iff]

/-- A patch that goes through leaves the console governed unless it freezes the last
active admin. -/
theorem governed_patched_iff (hgoverned : Governed tables) {accountId : ℕ} {account : Account}
    {patch : AdminAccountPatch} {changed : Tables}
    (hget : tables.accounts.get? accountId = some account)
    (hchanged : changed.accounts = tables.accounts.update accountId (Account.patched patch))
    (hguard : ¬ (patch.newStatus account = some .suspended ∧ account.isPlatformAdmin = true ∧
      (activeAdmins tables).length ≤ 1)) :
    Governed changed ↔ ¬ (patch.status = some .restricted ∧ (activeAdmins tables).length ≤ 1 ∧
      account.isPlatformAdmin = true ∧ account.status = .active) := by
  rw [governed_update_iff hget hchanged]
  by_cases hadmin : account.isPlatformAdmin = true ∧ account.status = .active
  · obtain ⟨hplatform, hactive⟩ := hadmin
    rw [← one_lt_activeAdmins (mem_activeAdmins.mpr ⟨hget, hplatform, hactive⟩), Account.patched]
    cases hnew : patch.newStatus account with
    | none =>
        refine iff_of_true (.inl ⟨hplatform, hactive⟩) fun ⟨hrestricted, _⟩ => ?_
        have hsome := AdminAccountPatch.newStatus_eq_some.mpr
          ⟨hrestricted, fun hsame => by cases hsame.trans hactive⟩
        cases hnew.symm.trans hsome
    | some status =>
        obtain ⟨hstatus, hne⟩ := AdminAccountPatch.newStatus_eq_some.mp hnew
        rw [hactive] at hne
        cases status with
        | active => exact absurd rfl hne
        | suspended =>
            have hmore : 1 < (activeAdmins tables).length := by
              by_contra hfew
              exact hguard ⟨hnew, hplatform, Nat.le_of_not_lt hfew⟩
            refine iff_of_true (.inr hmore) fun ⟨hrestricted, _⟩ => ?_
            cases hstatus.symm.trans hrestricted
        | restricted =>
            simp [hstatus, hplatform, hactive]
  · -- the admin there is has another account
    refine iff_of_true (.inr ?_) fun ⟨_, _, hboth⟩ => hadmin hboth
    obtain ⟨adminId, admin, hrow, hplatform, hactive⟩ := hgoverned
    refine ⟨(adminId, admin), mem_activeAdmins.mpr ⟨hrow, hplatform, hactive⟩, ?_⟩
    rintro rfl
    obtain rfl := Option.some.inj (hget.symm.trans hrow)
    exact hadmin ⟨hplatform, hactive⟩

/-- A request keeps the console governed unless it freezes the last active admin. -/
theorem governed_step_iff (hgoverned : Governed tables) (request : AccountRequest) :
    Governed (next (accountStep enableDevGateway) tables request) ↔
      ¬ FreezesLastAdmin enableDevGateway tables request := by
  unfold next accountStep AccountRequest.perform FreezesLastAdmin
  cases hybridAdminContext enableDevGateway tables request.actorId request.authMethod
    request.line with
  | error failure => exact iff_of_true hgoverned fun ⟨hadmitted, _⟩ => by cases hadmitted
  | ok actor =>
      cases hget : tables.accounts.get? request.accountId with
      | none =>
          simp only [bind, Except.bind, updateAccount, hget]
          exact iff_of_true hgoverned fun ⟨_, _, _, account, hfound, _⟩ => by cases hfound
      | some account =>
          have hfreezes : (∃ found ∈ some account, found.isPlatformAdmin = true ∧
              found.status = .active) ↔
                account.isPlatformAdmin = true ∧ account.status = .active := by simp
          rw [hfreezes]
          simp only [bind, Except.bind, Except.isOk, Except.toBool, true_and]
          rcases updateAccount_cases request.actorId request.patch hget with
            ⟨⟨failure, hrefused⟩, hnew⟩ | ⟨hsame, hnew⟩ | ⟨changed, hdone, hchanged, hguard⟩
          · rw [hrefused]
            refine iff_of_true hgoverned fun ⟨hrestricted, _⟩ => ?_
            cases hrestricted.symm.trans (AdminAccountPatch.newStatus_eq_some.mp hnew).1
          · rw [hsame]
            refine iff_of_true hgoverned fun ⟨hrestricted, _, _, hactive⟩ => ?_
            have hsome := AdminAccountPatch.newStatus_eq_some.mpr
              ⟨hrestricted, fun hkept => by cases hkept.trans hactive⟩
            cases hnew.symm.trans hsome
          · rw [hdone]
            exact governed_patched_iff hgoverned hget hchanged hguard

end Step

/-- From a governed console on, every state of a run is governed exactly when no
request of it freezes the last active platform admin. -/
theorem console_stays_governed (enableDevGateway : Bool) {tables : Tables}
    (hgoverned : Governed tables) (requests : List AccountRequest) :
    (∀ first, first <+: requests → Governed (run (accountStep enableDevGateway) tables first)) ↔
      Along (accountStep enableDevGateway)
        (fun tables request => ¬ FreezesLastAdmin enableDevGateway tables request) tables
        requests := by
  rw [forall_run_iff_along Governed, and_iff_right hgoverned]
  exact along_congr_of_invariant Governed _ _
    (fun _ request hgoverned => governed_step_iff hgoverned request)
    (fun _ request hgoverned hkept => (governed_step_iff hgoverned request).mpr hkept)
    hgoverned requests

namespace Specimen

/-- Two admins run the console. -/
def console : Tables :=
  { tables with
    accounts := .ofList [operator, { operator with email := "second@chmabapay.com" }, merchant] }

/-- The first admin freezes a merchant, then its colleague. -/
def freezes : List AccountRequest :=
  [⟨0, "password", 2, { status := some .restricted }⟩,
    ⟨0, "password", 1, { status := some .restricted, reason := some "left" }⟩]

/-- It goes on to freeze itself. -/
def freezesAll : List AccountRequest :=
  freezes ++ [⟨0, "password", 0, { status := some .restricted }⟩]

theorem governed_console : Governed console := ⟨0, operator, by decide, rfl, rfl⟩

end Specimen

theorem console_stays_governed_two_admins :
    Governed Specimen.console ∧ ∀ first, first <+: Specimen.freezes →
      Governed (run (accountStep false) Specimen.console first) :=
  ⟨Specimen.governed_console, (console_stays_governed false Specimen.governed_console
    Specimen.freezes).mpr (by decide +kernel)⟩

/-- The console is locked by its own route. -/
theorem console_locked :
    Governed Specimen.console ∧
      ¬ Governed (run (accountStep false) Specimen.console Specimen.freezesAll) := by
  have hnone : ∀ row ∈ (run (accountStep false) Specimen.console
      Specimen.freezesAll).accounts.rows,
      ¬ (row.2.isPlatformAdmin = true ∧ row.2.status = .active) := by decide +kernel
  refine ⟨Specimen.governed_console, ?_⟩
  rintro ⟨adminId, admin, hget, hadmin⟩
  exact hnone (adminId, admin) (Table.get?_eq_some_iff.mp hget) hadmin

end ChmabaPay
