import ChmabaPay.Accounts.Admins
import ChmabaPay.Accounts.Keys
import ChmabaPay.Accounts.Standing
import ChmabaPay.Auth
import ChmabaPay.Routers.Account

/-! # Who makes an admin, and who ends a suspension

Every request that reads or writes who an account is makes one move out of six on the accounts.
An admin is made by a sign-in with a listed address and by nothing else, and no request takes
the mark back. A sign-in with Google has made its admin before the page it lands on is read. A
suspension is ended by the operator and by nothing else, and while it lasts
neither a password, a session nor a key serves the account.
-/

namespace ChmabaPay

open Calendar Relational Execution Fallible

/-! ## What a request does to the accounts -/

/-- The accounts the commits of a sign-in leave. -/
inductive EntryMove (outside : IdentityOutside) (settings : SignInSettings)
    (before after : Table Account) : Except Failure ℕ → Prop
  /-- A sign-in that fails may have created its account. -/
  | failed (failure : Failure) (accounts : AccountsStand before after) :
      EntryMove outside settings before after (.error failure)
  /-- A sign-in creates the account or finds it, and marks a listed address. -/
  | entered (accountId : ℕ) (found : Table Account) (account : Account)
      (accounts : AccountsStand before found) (known : found.get? accountId = some account)
      (marked : after = found.update accountId fun account =>
        if isListed outside settings account then account.promote else account) :
      EntryMove outside settings before after (.ok accountId)

/-- The accounts a request may leave, with its answer and the account that entered by it. -/
inductive AccountMove (outside : IdentityOutside) (settings : SignInSettings)
    (before after : Table Account) :
    DirectoryRequest → Except Failure DirectoryAnswer → Option ℕ → Prop
  | failed {request : DirectoryRequest} (failure : Failure)
      (accounts : AccountsStand before after) :
      AccountMove outside settings before after request (.error failure) none
  | stands {request : DirectoryRequest} (accounts : AccountsStand before after)
      (unpatched : ∀ patch, request ≠ .operator patch) :
      AccountMove outside settings before after request (.ok .done) none
  /-- A sign-in goes through. What it answers may still be a failure. -/
  | signedIn {request : DirectoryRequest} (accountId : ℕ) (landing : Except Failure ℕ)
      (entry : EntryMove outside settings before after (.ok accountId)) :
      AccountMove outside settings before after request (landing.map .signedIn) (some accountId)
  | moved (accountId : ℕ) (email newEmail : String) (currentPassword : Option String)
      (marked : after = before.update accountId fun account => { account with email := newEmail }) :
      AccountMove outside settings before after
        (.self accountId (.changeEmail email currentPassword)) (.ok .done) none
  | erased (accountId : ℕ) (confirmEmail : String) (currentPassword : Option String)
      (marked : after = before.update accountId (Account.erase accountId)) :
      AccountMove outside settings before after
        (.self accountId (.eraseMe confirmEmail currentPassword)) (.ok .done) none
  | patched (request : AccountRequest)
      (marked : after = before.update request.accountId (Account.patched request.patch)) :
      AccountMove outside settings before after (.operator request) (.ok .done) none

section Moves

variable {outside : IdentityOutside} {settings : SignInSettings} {now : Instant}
  {directory changed : Directory} {accountId : ℕ}

theorem Directory.commit_eq_ok (hcommit : directory.commit = .ok changed) :
    changed = directory := by
  unfold Directory.commit at hcommit
  split at hcommit
  · exact (Except.ok.inj hcommit).symm
  · cases hcommit

theorem Directory.valid_of_commit (hcommit : directory.commit = .ok changed) :
    changed.Valid := by
  unfold Directory.commit at hcommit
  split at hcommit
  · next hvalid => exact Except.ok.inj hcommit ▸ hvalid
  · cases hcommit

/-! ### Signing in -/

theorem ensureHqStore_accounts {tables seeded : Tables} {generatedId : String}
    (hensure : ensureHqStore outside settings tables accountId generatedId = .ok seeded) :
    seeded.accounts = tables.accounts := by
  simp only [ensureHqStore] at hensure
  split at hensure
  · obtain rfl := pure_eq_ok.mp hensure
    rfl
  · simp only [bind_eq_ok] at hensure
    obtain ⟨existing, -, hensure⟩ := hensure
    cases existing with
    | none | some =>
        obtain rfl := pure_eq_ok.mp hensure
        rfl

theorem nudgeAdminPlan_accounts (tables : Tables) (accountId : ℕ) :
    (nudgeAdminPlan tables accountId).accounts = tables.accounts := by
  simp only [nudgeAdminPlan]
  split
  · rfl
  · split
    · split <;> rfl
    · rfl

/-- The promotion marks one account, and seeding leaves the accounts alone. -/
theorem maybePromote_accounts {generatedId : String}
    (hpromote : maybePromoteAdminAndSeedHq outside settings directory accountId generatedId =
      .ok changed) : changed.tables.accounts = directory.tables.accounts.update accountId
        fun account => if isListed outside settings account then account.promote else account := by
  simp only [maybePromoteAdminAndSeedHq] at hpromote
  split at hpromote
  · simp only [bind_eq_ok] at hpromote
    obtain ⟨seeded, hseeded, hcommit⟩ := hpromote
    obtain rfl := Directory.commit_eq_ok hcommit
    calc (nudgeAdminPlan seeded accountId).accounts
        = seeded.accounts := nudgeAdminPlan_accounts _ _
      _ = _ := ensureHqStore_accounts hseeded
  · obtain rfl := Directory.commit_eq_ok hpromote
    rfl

theorem maybePromote_keys {generatedId : String}
    (hpromote : maybePromoteAdminAndSeedHq outside settings directory accountId generatedId =
      .ok changed) : changed.workspace.keys = directory.workspace.keys := by
  simp only [maybePromoteAdminAndSeedHq] at hpromote
  split at hpromote
  · simp only [bind_eq_ok] at hpromote
    obtain ⟨seeded, -, hcommit⟩ := hpromote
    obtain rfl := Directory.commit_eq_ok hcommit
    rfl
  · obtain rfl := Directory.commit_eq_ok hpromote
    rfl

theorem upsertAccount_known (now : Instant) (tables : Tables) (email name : String)
    (renameExisting : Bool) : ∃ account,
      (upsertAccount now tables email name renameExisting).2.accounts.get?
        (upsertAccount now tables email name renameExisting).1 = some account := by
  unfold upsertAccount
  split
  · unfold ensureFreeSubscription
    dsimp only
    split <;> exact ⟨_, by rw [Table.get?_insert, if_pos rfl]⟩
  · next key account hfind =>
    have hget : tables.accounts.get? key = some account := (Table.find?_eq_some hfind).1
    exact ⟨_, by rw [Table.get?_update, if_pos rfl, hget, Option.map_some]⟩

theorem upsertLogin_eq_ok {user : GoogleUser} {renameExisting : Bool}
    (hupsert : upsertLogin now directory user renameExisting = .ok (accountId, changed)) :
    AccountsStand directory.tables.accounts changed.tables.accounts ∧
      ∃ account, changed.tables.accounts.get? accountId = some account := by
  simp only [upsertLogin, bind_eq_ok, pure_eq_ok, Prod.mk.injEq] at hupsert
  obtain ⟨committed, hcommit, rfl, rfl⟩ := hupsert
  obtain rfl := Directory.commit_eq_ok hcommit
  exact ⟨upsertAccount_accountsStand _ _ _ _ _, upsertAccount_known _ _ _ _ _⟩

end Moves

section SignIns

variable {outside : IdentityOutside} {settings : SignInSettings} {now : Instant}
  {directory changed : Directory} {request : DirectoryRequest}

/-- What was committed before a failure stands. -/
theorem upsertSignIn_move (user : GoogleUser) (renameExisting : Bool) (generatedId : String) :
    EntryMove outside settings directory.tables.accounts
      (upsertSignIn outside settings now directory user renameExisting
        generatedId).1.tables.accounts
      (upsertSignIn outside settings now directory user renameExisting generatedId).2 := by
  unfold upsertSignIn
  split
  · exact .failed _ (.of_eq rfl)
  · next accountId found hupsert =>
    obtain ⟨hstand, account, hknown⟩ := upsertLogin_eq_ok hupsert
    split
    · exact .failed _ hstand
    · next promoted hpromote =>
      exact .entered accountId _ account hstand hknown (maybePromote_accounts hpromote)

theorem googleAccount_move (user : GoogleUser) (generatedId : String) :
    EntryMove outside settings directory.tables.accounts
      (googleAccount outside settings now directory user generatedId).1.tables.accounts
      (googleAccount outside settings now directory user generatedId).2 := by
  unfold googleAccount
  split
  · exact .failed _ (.of_eq rfl)
  · exact upsertSignIn_move _ _ _

theorem devSignIn_move (email generatedId : String) :
    EntryMove outside settings directory.tables.accounts
      (devSignIn outside settings now directory email generatedId).1.tables.accounts
      (devSignIn outside settings now directory email generatedId).2 := by
  unfold devSignIn
  split
  · exact upsertSignIn_move _ _ _
  · exact .failed _ (.of_eq rfl)

/-- A sign-in that answers with its account. -/
theorem EntryMove.accountMove {before after : Table Account} {answer : Except Failure ℕ}
    (hmove : EntryMove outside settings before after answer) :
    AccountMove outside settings before after request (answer.map .signedIn)
      answer.toOption := by
  cases hmove with
  | failed failure haccounts => exact .failed failure haccounts
  | entered accountId found account haccounts hknown hmarked =>
      exact .signedIn accountId (.ok accountId)
        (.entered accountId found account haccounts hknown hmarked)

/-- What Google's callback has committed does not wait for the page it lands on. -/
theorem googleSignIn_move (user : GoogleUser) (generatedId : String)
    (state : Option (List Char)) :
    AccountMove outside settings directory.tables.accounts
      (googleSignIn outside settings now directory user generatedId state).1.tables.accounts
      request ((googleSignIn outside settings now directory user generatedId state).2.map
        fun landed => .signedIn landed.1)
      (googleAccount outside settings now directory user generatedId).2.toOption := by
  have hmove := @googleAccount_move outside settings now directory user generatedId
  unfold googleSignIn
  generalize googleAccount outside settings now directory user generatedId = account at hmove ⊢
  obtain ⟨left, entered⟩ := account
  cases hmove with
  | failed failure haccounts => exact .failed failure haccounts
  | entered accountId found account haccounts hknown hmarked =>
      have hentry := EntryMove.entered accountId found account haccounts hknown hmarked
      cases hlanding : googleLanding settings.postLoginRedirectUrl.toList state with
      | error failure => exact AccountMove.signedIn accountId (.error failure) hentry
      | ok page => exact AccountMove.signedIn accountId (.ok accountId) hentry

theorem adoptPassword_workspace {adopted : Directory} {email salt : String} {accountId : ℕ}
    (hadopt : adoptPassword outside settings directory email salt accountId = .ok adopted) :
    adopted.workspace = directory.workspace := by
  unfold adoptPassword at hadopt
  dsimp only at hadopt
  split at hadopt
  · split at hadopt
    · cases hadopt
    · obtain rfl := Directory.commit_eq_ok hadopt
      rfl
  · obtain rfl := Except.ok.inj hadopt
    rfl

/-- A password sign-in fails and writes no row, or finds an account that is not suspended and
marks a listed address. -/
inductive PasswordMove (outside : IdentityOutside) (settings : SignInSettings)
    (directory changed : Directory) : Except Failure ℕ → Prop
  | failed (failure : Failure) (workspace : changed.workspace = directory.workspace) :
      PasswordMove outside settings directory changed (.error failure)
  | entered (accountId : ℕ) (account : Account)
      (known : directory.tables.accounts.get? accountId = some account)
      (served : account.status ≠ .suspended)
      (keys : changed.workspace.keys = directory.workspace.keys)
      (marked : changed.tables.accounts = directory.tables.accounts.update accountId
        fun account => if isListed outside settings account then account.promote else account) :
      PasswordMove outside settings directory changed (.ok accountId)

theorem enterPassword_spec {body : PasswordLogin} {email : String} {accountId : ℕ}
    {account : Account} (hget : directory.tables.accounts.get? accountId = some account) :
    PasswordMove outside settings directory
      (enterPassword outside settings directory body email accountId account).1
      (enterPassword outside settings directory body email accountId account).2 := by
  unfold enterPassword
  split
  · exact .failed _ rfl
  · next adopted hadopt =>
    -- what is adopted stays, whether or not the password then fits
    have hsame := adoptPassword_workspace hadopt
    split
    · exact .failed _ hsame
    · split
      · exact .failed _ hsame
      · next hserved =>
        split
        · exact .failed _ hsame
        · next promoted hpromote =>
          have htables : adopted.tables = directory.tables := congrArg Workspace.tables hsame
          have hkeys := maybePromote_keys hpromote
          have hmarked := maybePromote_accounts hpromote
          exact .entered accountId account hget hserved
            (hkeys.trans (congrArg Workspace.keys hsame)) (htables ▸ hmarked)

/-- A query that finds one row names a row of the table. -/
theorem get?_of_oneOrNone {accounts : Table Account} {keep : ℕ → Account → Bool} {key : ℕ}
    {account : Account} (hfound : oneOrNone (accounts.select keep) = .ok (some (key, account))) :
    accounts.get? key = some account := by
  have hmem : (key, account) ∈ accounts.select keep := by
    rw [oneOrNone_eq_some hfound]
    exact List.mem_singleton_self _
  exact (Table.mem_select.mp hmem).1

theorem passwordSignIn_spec (body : PasswordLogin) :
    PasswordMove outside settings directory (passwordSignIn outside settings directory body).1
      (passwordSignIn outside settings directory body).2 := by
  unfold passwordSignIn
  dsimp only
  split
  · exact .failed _ rfl
  · split
    · exact .failed _ rfl
    · exact .failed _ rfl
    · next accountId account hfound => exact enterPassword_spec (get?_of_oneOrNone hfound)

theorem PasswordMove.entryMove {answer : Except Failure ℕ}
    (hmove : PasswordMove outside settings directory changed answer) :
    EntryMove outside settings directory.tables.accounts changed.tables.accounts answer := by
  cases hmove with
  | failed failure hworkspace =>
      exact .failed failure (.of_eq (congrArg (·.tables.accounts) hworkspace))
  | entered accountId account hknown hserved hkeys hmarked =>
      exact .entered accountId _ account (.of_eq rfl) hknown hmarked

theorem PasswordMove.keys_eq {answer : Except Failure ℕ}
    (hmove : PasswordMove outside settings directory changed answer) :
    changed.workspace.keys = directory.workspace.keys := by
  cases hmove with
  | failed failure hworkspace => rw [hworkspace]
  | entered accountId account hknown hserved hkeys hmarked => exact hkeys

end SignIns

/-! ### The account's own requests and the operator's -/

section Requests

variable {outside : IdentityOutside} {settings : SignInSettings} {now : Instant}
  {directory changed : Directory} {accountId : ℕ}

/-- What an account's own request writes: its address, the closing, or nothing that matters to
who it is. -/
inductive SelfMove (accountId : ℕ) (now : Instant) (directory changed : Directory) :
    SelfRequest → Prop
  | stands {request : SelfRequest}
      (unclosed : ∀ confirmEmail currentPassword, request ≠ .eraseMe confirmEmail currentPassword)
      (keys : changed.workspace.keys = directory.workspace.keys)
      (accounts : AccountsStand directory.tables.accounts changed.tables.accounts) :
      SelfMove accountId now directory changed request
  | moved (email newEmail : String) (currentPassword : Option String)
      (keys : changed.workspace.keys = directory.workspace.keys)
      (marked : changed.tables.accounts = directory.tables.accounts.update accountId
        fun account => { account with email := newEmail }) :
      SelfMove accountId now directory changed (.changeEmail email currentPassword)
  | erased (confirmEmail : String) (currentPassword : Option String) (valid : changed.Valid)
      (known : ∃ account, directory.tables.accounts.get? accountId = some account)
      (keys : changed.workspace.keys = erasedKeys now accountId directory.workspace.keys)
      (marked : changed.tables.accounts =
        directory.tables.accounts.update accountId (Account.erase accountId)) :
      SelfMove accountId now directory changed (.eraseMe confirmEmail currentPassword)

theorem ownAccount_known {method path : String} {account : Account}
    (hown : ownAccount directory accountId method path = .ok account) :
    ∃ account, directory.tables.accounts.get? accountId = some account := by
  unfold ownAccount currentSessionAccount sessionAccount at hown
  cases hget : directory.tables.accounts.get? accountId with
  | none => simp [hget] at hown
  | some found => exact ⟨found, rfl⟩

theorem selfRequest_eq_ok {request : SelfRequest}
    (hperform : request.perform outside settings now directory accountId = .ok changed) :
    SelfMove accountId now directory changed request := by
  cases request with
  | patchMe name =>
      simp only [SelfRequest.perform, patchMe, bind_eq_ok] at hperform
      obtain ⟨account, -, hperform⟩ := hperform
      cases name with
      | none =>
          obtain rfl := pure_eq_ok.mp hperform
          exact .stands nofun rfl (.of_eq rfl)
      | some name =>
          dsimp only at hperform
          split at hperform
          · obtain rfl := pure_eq_ok.mp hperform
            exact .stands nofun rfl (.of_eq rfl)
          · obtain rfl := Directory.commit_eq_ok hperform
            exact .stands nofun rfl (.update _ accountId fun account => ⟨rfl, rfl, Iff.rfl⟩)
  | changeEmail email currentPassword =>
      simp only [SelfRequest.perform, changeEmail, bind_eq_ok] at hperform
      obtain ⟨account, -, hperform⟩ := hperform
      split at hperform
      · simp [bind_eq_ok] at hperform
      · simp only [bind_eq_ok] at hperform
        obtain ⟨_, -, hperform⟩ := hperform
        split at hperform
        · obtain rfl := pure_eq_ok.mp hperform
          exact .stands nofun rfl (.of_eq rfl)
        · simp only [bind_eq_ok] at hperform
          obtain ⟨taken, -, hperform⟩ := hperform
          split at hperform
          · simp [bind_eq_ok] at hperform
          · obtain rfl := Directory.commit_eq_ok hperform
            exact .moved email _ currentPassword rfl rfl
  | changePassword currentPassword newPassword salt =>
      simp only [SelfRequest.perform, changePassword, bind_eq_ok] at hperform
      obtain ⟨account, -, hperform⟩ := hperform
      split at hperform
      · simp [bind_eq_ok] at hperform
      simp only [bind_eq_ok] at hperform
      obtain ⟨_, -, hperform⟩ := hperform
      split at hperform
      · simp [bind_eq_ok] at hperform
      split at hperform
      · simp [bind_eq_ok] at hperform
      split at hperform
      · simp at hperform
      · obtain rfl := Directory.commit_eq_ok hperform
        exact .stands nofun rfl (.of_eq rfl)
  | eraseMe confirmEmail currentPassword =>
      simp only [SelfRequest.perform, eraseMe, bind_eq_ok] at hperform
      obtain ⟨account, hown, hperform⟩ := hperform
      split at hperform
      · simp [bind_eq_ok] at hperform
      split at hperform
      · simp [bind_eq_ok] at hperform
      simp only [bind_eq_ok] at hperform
      obtain ⟨_, -, hcommit⟩ := hperform
      have hvalid := Directory.valid_of_commit hcommit
      obtain rfl := Directory.commit_eq_ok hcommit
      exact .erased confirmEmail currentPassword hvalid (ownAccount_known hown) rfl rfl
  | acceptTerms version =>
      simp only [SelfRequest.perform, acceptTerms, bind_eq_ok] at hperform
      obtain ⟨account, -, hperform⟩ := hperform
      split at hperform
      · simp [bind_eq_ok] at hperform
      split at hperform
      · obtain rfl := pure_eq_ok.mp hperform
        exact .stands nofun rfl (.of_eq rfl)
      · obtain rfl := Directory.commit_eq_ok hperform
        exact .stands nofun rfl (.update _ accountId fun account => ⟨rfl, rfl, Iff.rfl⟩)

theorem SelfMove.accountMove {request : SelfRequest}
    (hmove : SelfMove accountId now directory changed request) :
    AccountMove outside settings directory.tables.accounts changed.tables.accounts
      (.self accountId request) (.ok .done) none := by
  cases hmove with
  | stands hunclosed hkeys haccounts => exact .stands haccounts nofun
  | moved email newEmail currentPassword hkeys hmarked =>
      exact .moved accountId email newEmail currentPassword hmarked
  | erased confirmEmail currentPassword hvalid hknown hkeys hmarked =>
      exact .erased accountId confirmEmail currentPassword hmarked

/-- Keys do not touch the accounts. -/
theorem keyRequest_accounts {request : KeyRequest} {workspace kept : Workspace} {keyId : ℕ}
    (hperform : request.perform settings.base accountId now workspace = .ok (keyId, kept)) :
    kept.tables.accounts = workspace.tables.accounts := by
  cases request with
  | create name minted =>
      obtain ⟨-, -, action, htables, -⟩ := createKey_eq_ok hperform
      rw [htables]
      rfl
  | revoke revoked =>
      rcases revokeKey_eq_ok hperform with rfl | ⟨key, -, -, htables⟩
      · rfl
      · rw [htables]
        rfl
  | rotate replacedId minted =>
      obtain ⟨key, -, -, -, htables⟩ := rotateKey_eq_ok hperform
      rw [htables]
      rfl

theorem map_eq_ok {first : Except Failure (ℕ × Workspace)} {kept : Workspace}
    (hmap : first.map Prod.snd = .ok kept) :
    ∃ outcome, first = .ok outcome ∧ outcome.2 = kept := by
  cases first with
  | error failure => cases hmap
  | ok outcome => exact ⟨outcome, rfl, Except.ok.inj hmap⟩

theorem adminKeyRequest_accounts {request : AdminKeyRequest} {workspace kept : Workspace}
    {actorId : ℕ} (hrun : request.run now workspace actorId = .ok kept) :
    kept.tables.accounts = workspace.tables.accounts := by
  cases request with
  | mint owner name minted =>
      simp only [AdminKeyRequest.run] at hrun
      split at hrun
      · cases hrun
      · obtain ⟨⟨keyId, committed⟩, hmint, rfl⟩ := map_eq_ok hrun
        simp only [mintKey, bind_eq_ok, pure_eq_ok, Prod.mk.injEq] at hmint
        obtain ⟨_, hcommit, -, rfl⟩ := hmint
        obtain rfl := Workspace.commit_eq_ok hcommit
        rfl
  | revoke keyId =>
      simp only [AdminKeyRequest.run] at hrun
      split at hrun
      · cases hrun
      · split at hrun
        · obtain rfl := Except.ok.inj hrun
          rfl
        · obtain rfl := Workspace.commit_eq_ok hrun
          rfl
  | rotate keyId minted =>
      simp only [AdminKeyRequest.run] at hrun
      split at hrun
      · cases hrun
      · obtain ⟨⟨newId, committed⟩, hrotate, rfl⟩ := map_eq_ok hrun
        simp only [rotateKeyInstance, bind_eq_ok, pure_eq_ok, Prod.mk.injEq] at hrotate
        obtain ⟨_, hcommit, -, rfl⟩ := hrotate
        obtain rfl := Workspace.commit_eq_ok hcommit
        rfl

/-- A patch that goes through rewrites the account, if only with what it had. -/
theorem updateAccount_accounts {tables patched : Tables} {actorId : ℕ}
    {patch : AdminAccountPatch}
    (hupdate : updateAccount tables actorId accountId patch = .ok patched) :
    patched.accounts = tables.accounts.update accountId (Account.patched patch) := by
  unfold updateAccount at hupdate
  split at hupdate
  · cases hupdate
  next account hget =>
    split at hupdate
    · cases hupdate
    · split at hupdate
      · next hidle =>
        obtain rfl := Except.ok.inj hupdate
        refine Table.ext_get? rfl fun key => ?_
        rw [Table.get?_update]
        split
        · next hkey =>
          rw [hkey, hget]
          simp [Account.patched, hidle.1, hidle.2]
        · rfl
      · obtain rfl := Except.ok.inj hupdate
        rfl

/-- A request with one commit makes its move or leaves the accounts as they were. -/
theorem settle_move {request : DirectoryRequest} {result : Except Failure Directory}
    (hmove : ∀ changed, result = .ok changed →
      AccountMove outside settings directory.tables.accounts changed.tables.accounts request
        (.ok .done) none) :
    AccountMove outside settings directory.tables.accounts
      (settle directory result).1.tables.accounts request (settle directory result).2 none := by
  cases result with
  | error failure => exact .failed _ (.of_eq rfl)
  | ok changed => exact hmove changed rfl

end Requests

/-- Every request makes one of the moves. -/
theorem answer_move (outside : IdentityOutside) (settings : SignInSettings) (now : Instant)
    (directory : Directory) (request : DirectoryRequest) :
    AccountMove outside settings directory.tables.accounts
      (request.answer outside settings now directory).1.tables.accounts request
      (request.answer outside settings now directory).2
      (request.entered outside settings now directory) := by
  cases request with
  | google user generatedId state => exact googleSignIn_move user generatedId state
  | dev email generatedId => exact (devSignIn_move email generatedId).accountMove
  | password body => exact (passwordSignIn_spec body).entryMove.accountMove
  | self accountId request =>
      exact settle_move fun changed hchanged => (selfRequest_eq_ok hchanged).accountMove
  | keys accountId request =>
      apply settle_move
      intro changed hchanged
      simp only [bind_eq_ok] at hchanged
      obtain ⟨⟨keyId, workspace⟩, hperform, hcommit⟩ := hchanged
      obtain rfl := Directory.commit_eq_ok hcommit
      exact .stands (.of_eq (keyRequest_accounts hperform)) nofun
  | operator request =>
      apply settle_move
      intro changed hchanged
      simp only [bind_eq_ok, AccountRequest.perform] at hchanged
      obtain ⟨tables, ⟨actor, -, hupdate⟩, hcommit⟩ := hchanged
      obtain rfl := Directory.commit_eq_ok hcommit
      exact .patched request (updateAccount_accounts hupdate)
  | operatorKeys actorId authMethod request =>
      apply settle_move
      intro changed hchanged
      simp only [bind_eq_ok] at hchanged
      obtain ⟨actor, -, workspace, hrun, hcommit⟩ := hchanged
      obtain rfl := Directory.commit_eq_ok hcommit
      exact .stands (.of_eq (adminKeyRequest_accounts hrun)) nofun
  | platform op =>
      apply settle_move
      intro changed hchanged
      simp only [bind_eq_ok] at hchanged
      obtain ⟨⟨response, tables⟩, hperform, hcommit⟩ := hchanged
      obtain rfl := Directory.commit_eq_ok hcommit
      exact .stands (perform_accountsStand hperform) nofun

/-! ## Admins -/

def IsAdmin (accounts : Table Account) (accountId : ℕ) : Prop :=
  ∃ account, accounts.get? accountId = some account ∧ account.isPlatformAdmin = true

/-- The account is signed in, and its address is on the list of the settings. A callback of
Google's counts as soon as it has committed, whatever comes of its landing. -/
def SignsInListed (outside : IdentityOutside) (settings : SignInSettings) (accountId : ℕ)
    (world : DirectoryWorld) (input : TimedRequest) : Prop :=
  input.request.entered outside settings (input.moment world) world.directory = some accountId ∧
    ∃ account, (next (directoryStep outside settings) world input).directory.tables.accounts.get?
      accountId = some account ∧ isListed outside settings account = true

section Admins

variable {outside : IdentityOutside} {settings : SignInSettings} {before after : Table Account}

theorem AccountsStand.isAdmin_iff (hstand : AccountsStand before after) (accountId : ℕ) :
    IsAdmin after accountId ↔ IsAdmin before accountId := by
  have hat := hstand accountId
  unfold IsAdmin
  cases hbefore : before.get? accountId with
  | none =>
      cases hafter : after.get? accountId with
      | none => simp
      | some created =>
          rw [hbefore, hafter] at hat
          simp [hat.1]
  | some account =>
      cases hafter : after.get? accountId with
      | none =>
          rw [hbefore, hafter] at hat
          exact hat.elim
      | some later =>
          rw [hbefore, hafter] at hat
          simp [hat.isPlatformAdmin]

/-- Where a change leaves the mark alone, the admins are those there were. -/
theorem isAdmin_update_iff (accounts : Table Account) (key : ℕ) {change : Account → Account}
    (hchange : ∀ account, (change account).isPlatformAdmin = account.isPlatformAdmin)
    (accountId : ℕ) : IsAdmin (accounts.update key change) accountId ↔
      IsAdmin accounts accountId := by
  unfold IsAdmin
  rw [Table.get?_update]
  split
  · cases accounts.get? accountId with
    | none => simp
    | some account => simp [hchange]
  · rfl

@[simp] theorem isListed_promote (account : Account) :
    isListed outside settings account.promote = isListed outside settings account := rfl

@[simp] theorem isPlatformAdmin_promote (account : Account) :
    account.promote.isPlatformAdmin = true := rfl

/-- The mark is given with a sign-in under a listed address, and never taken. -/
theorem AccountMove.isAdmin_iff {request : DirectoryRequest}
    {answer : Except Failure DirectoryAnswer} {entered : Option ℕ}
    (hmove : AccountMove outside settings before after request answer entered) (accountId : ℕ) :
    IsAdmin after accountId ↔ IsAdmin before accountId ∨ entered = some accountId ∧
      ∃ account, after.get? accountId = some account ∧
        isListed outside settings account = true := by
  cases hmove with
  | failed failure haccounts => simp [haccounts.isAdmin_iff]
  | stands haccounts hunpatched => simp [haccounts.isAdmin_iff]
  | signedIn key landing hentry =>
      cases hentry with
      | entered _ found account haccounts hknown hmarked =>
          rw [← haccounts.isAdmin_iff accountId, hmarked]
          by_cases hkey : accountId = key
          · subst hkey
            simp only [IsAdmin, Table.get?_update, hknown, if_true, Option.map_some,
              Option.some.injEq, true_and, exists_eq_left']
            split
            · next hlisted => simp [hlisted]
            · next hlisted => simp [hlisted]
          · simp [IsAdmin, Table.get?_update, hkey, Ne.symm hkey]
  | moved | erased | patched =>
      rename_i hmarked
      rw [hmarked, isAdmin_update_iff]
      · simp
      · exact fun _ => rfl

end Admins

/-- In every run an account is a platform admin exactly when it was one at the start or has
since passed a sign-in with an address that the settings list: no operator, no merchant and no
sweep of the platform gives the mark, and nobody takes it. -/
theorem admins_signed_in (outside : IdentityOutside) (settings : SignInSettings)
    (world : DirectoryWorld) (inputs : List TimedRequest) (accountId : ℕ) :
    IsAdmin (run (directoryStep outside settings) world inputs).directory.tables.accounts
        accountId ↔
      IsAdmin world.directory.tables.accounts accountId ∨
        ∃ first input rest, inputs = first ++ input :: rest ∧
          SignsInListed outside settings accountId
            (run (directoryStep outside settings) world first) input := by
  refine run_iff_or_exists
    (fun world : DirectoryWorld => IsAdmin world.directory.tables.accounts accountId)
    (SignsInListed outside settings accountId) (fun world input => ?_) world inputs
  exact (answer_move outside settings (input.moment world) world.directory
    input.request).isAdmin_iff accountId

/-! ## Suspensions -/

def IsSuspended (accounts : Table Account) (accountId : ℕ) : Prop :=
  ∃ account, accounts.get? accountId = some account ∧ account.status = .suspended

/-- An operator's patch goes through that gives the account another standing. -/
def LiftsSuspension (outside : IdentityOutside) (settings : SignInSettings) (accountId : ℕ)
    (world : DirectoryWorld) (input : TimedRequest) : Prop :=
  (directoryStep outside settings world input).2 = .ok .done ∧
    ∃ request status, input.request = .operator request ∧ request.accountId = accountId ∧
      request.patch.status = some status ∧ status ≠ .suspended

/-- Neither a session, a key nor a password serves the account. -/
structure Shut (outside : IdentityOutside) (settings : SignInSettings) (directory : Directory)
    (accountId : ℕ) : Prop where
  session : ∀ request account,
    currentSessionAccount directory.tables accountId request ≠ .ok account
  key : ∀ hashKey authorization key,
    resolveKeyContext hashKey directory.workspace authorization = .ok key →
      key.accountId ≠ accountId
  password : ∀ body, (passwordSignIn outside settings directory body).2 ≠ .ok accountId

section Suspensions

variable {outside : IdentityOutside} {settings : SignInSettings} {before after : Table Account}
  {accountId : ℕ}

theorem AccountsStand.isSuspended (hstand : AccountsStand before after)
    (hsuspended : IsSuspended before accountId) : IsSuspended after accountId := by
  obtain ⟨account, hget, hstatus⟩ := hsuspended
  have hat := hstand accountId
  rw [hget] at hat
  cases hafter : after.get? accountId with
  | none =>
      rw [hafter] at hat
      exact hat.elim
  | some later =>
      rw [hafter] at hat
      exact ⟨later, hafter, hat.suspended.mpr hstatus⟩

theorem IsSuspended.update (hsuspended : IsSuspended before accountId) (key : ℕ)
    {change : Account → Account}
    (hchange : ∀ account : Account, account.status = .suspended →
      (change account).status = .suspended) :
    IsSuspended (before.update key change) accountId := by
  obtain ⟨account, hget, hstatus⟩ := hsuspended
  unfold IsSuspended
  rw [Table.get?_update, hget]
  split
  · exact ⟨_, rfl, hchange account hstatus⟩
  · exact ⟨account, rfl, hstatus⟩

/-- A patch of a suspended account, by what it asks for. -/
theorem patched_status_iff {account : Account} (patch : AdminAccountPatch)
    (hstatus : account.status = .suspended) : (account.patched patch).status = .suspended ↔
      ∀ status, patch.status = some status → status = .suspended := by
  unfold Account.patched AdminAccountPatch.newStatus
  rw [hstatus]
  cases patch.status with
  | none => simp
  | some status => cases status <;> simp [Option.filter]

/-- Only an operator ends a suspension. -/
theorem AccountMove.isSuspended_iff {request : DirectoryRequest}
    {answer : Except Failure DirectoryAnswer} {entered : Option ℕ}
    (hmove : AccountMove outside settings before after request answer entered)
    (hsuspended : IsSuspended before accountId) :
    IsSuspended after accountId ↔ ¬ (answer = .ok .done ∧
      ∃ patched status, request = .operator patched ∧ patched.accountId = accountId ∧
        patched.patch.status = some status ∧ status ≠ .suspended) := by
  cases hmove with
  | failed failure haccounts => simp [haccounts.isSuspended hsuspended]
  | stands haccounts hunpatched =>
      refine iff_of_true (haccounts.isSuspended hsuspended) ?_
      rintro ⟨-, patch, status, heq, -⟩
      exact hunpatched patch heq
  | signedIn key landing hentry =>
      refine iff_of_true ?_ (by cases landing <;> simp [Except.map])
      cases hentry with
      | entered _ found account haccounts hknown hmarked =>
          rw [hmarked]
          refine (haccounts.isSuspended hsuspended).update key fun account hstatus => ?_
          split <;> exact hstatus
  | moved key email newEmail currentPassword hmarked =>
      refine iff_of_true ?_ (by simp)
      rw [hmarked]
      exact hsuspended.update key fun _ hstatus => hstatus
  | erased key confirmEmail currentPassword hmarked =>
      refine iff_of_true ?_ (by simp)
      rw [hmarked]
      exact hsuspended.update key fun _ _ => rfl
  | patched request hmarked =>
      rw [hmarked]
      -- the one move that may end it: a patch of this account that names another status
      by_cases hkey : accountId = request.accountId
      · obtain ⟨account, hget, hstatus⟩ := hsuspended
        unfold IsSuspended
        rw [Table.get?_update, if_pos hkey, hget]
        have hiff := patched_status_iff request.patch hstatus
        constructor
        · rintro ⟨later, hlater, hsuspended⟩ ⟨-, patch, status, heq, -, hpatch, hother⟩
          obtain rfl := Option.some.inj hlater
          obtain rfl := DirectoryRequest.operator.inj heq
          exact hother (hiff.mp hsuspended status hpatch)
        · intro hkept
          refine ⟨_, rfl, hiff.mpr fun status hpatch => ?_⟩
          by_contra hother
          exact hkept ⟨rfl, request, status, rfl, hkey.symm, hpatch, hother⟩
      · refine iff_of_true ?_ ?_
        · obtain ⟨account, hget, hstatus⟩ := hsuspended
          exact ⟨account, by rw [Table.get?_update, if_neg hkey, hget], hstatus⟩
        · rintro ⟨-, patch, status, heq, hsame, -⟩
          obtain rfl := DirectoryRequest.operator.inj heq
          exact hkey hsame.symm

/-- A key that is resolved is an active one with the digest of the token, and its account is
active. -/
theorem resolveKeyContext_eq_ok {hashKey : List Char → String} {workspace : Workspace}
    {authorization : Option String} {key : ApiKey}
    (hresolve : resolveKeyContext hashKey workspace authorization = .ok key) :
    (∃ account, workspace.tables.accounts.get? key.accountId = some account ∧
      account.status = .active) ∧
    ∃ raw keyId, bearerToken authorization = some raw ∧ raw ≠ [] ∧
      workspace.keys.get? keyId = some key ∧ key.keyHash = hashKey raw ∧
      key.status = .active := by
  unfold resolveKeyContext at hresolve
  split at hresolve
  · cases hresolve
  · cases hresolve
  next raw hnonempty hbearer =>
    simp only [bind_eq_ok] at hresolve
    obtain ⟨row, hrow, hresolve⟩ := hresolve
    cases row with
    | none => simp at hresolve
    | some row =>
        obtain ⟨found, owner⟩ := row
        simp only [bind_eq_ok, pure_eq_ok] at hresolve
        obtain ⟨_, hserved, rfl⟩ := hresolve
        -- the row found is the one active key of that digest
        have hmem : (found, owner) ∈ findActiveKey hashKey workspace raw := by
          rw [oneOrNone_eq_some hrow]
          exact List.mem_singleton_self _
        obtain ⟨⟨keyId, stored⟩, hstored, hjoined⟩ := List.mem_filterMap.mp hmem
        obtain ⟨account, haccount, heq⟩ := Option.map_eq_some_iff.mp hjoined
        obtain ⟨rfl, rfl⟩ := Prod.mk.inj heq
        obtain ⟨hget, hkeep⟩ := Table.mem_select.mp hstored
        simp only [Bool.and_eq_true, decide_eq_true_eq] at hkeep
        refine ⟨⟨account, haccount, ?_⟩, raw, keyId, hbearer, ?_, hget, hkeep⟩
        · unfold refuseKeyAccount at hserved
          split at hserved
          · cases hserved
          · split at hserved
            · cases hserved
            · next hactive => exact not_not.mp hactive
        · rintro rfl
          exact hnonempty rfl

/-- While an account is suspended nothing serves it. -/
theorem shut_of_isSuspended (outside : IdentityOutside) (settings : SignInSettings)
    {directory : Directory} (hsuspended : IsSuspended directory.tables.accounts accountId) :
    Shut outside settings directory accountId := by
  obtain ⟨account, hget, hstatus⟩ := hsuspended
  refine ⟨fun request found hfound => ?_, fun hashKey authorization key hkey howned => ?_,
    fun body hanswer => ?_⟩
  · simp [currentSessionAccount, sessionAccount, hget, hstatus] at hfound
  · obtain ⟨⟨owner, howner, hactive⟩, -⟩ := resolveKeyContext_eq_ok hkey
    rw [howned] at howner
    obtain rfl := Option.some.inj (hget.symm.trans howner)
    cases hactive.symm.trans hstatus
  · have hmove := @passwordSignIn_spec outside settings directory body
    rw [hanswer] at hmove
    cases hmove with
    | entered _ signedIn hsignedIn hserved hkeys hmarked =>
        obtain rfl := Option.some.inj (hget.symm.trans hsignedIn)
        exact hserved hstatus

end Suspensions

/-- After every part of a run a suspended account is still suspended, exactly when no operator's
patch that goes through gives it another standing. While it is suspended it is served neither by
a session, nor by a key, nor by a password. -/
theorem suspension_lasts (outside : IdentityOutside) (settings : SignInSettings)
    (world : DirectoryWorld) (inputs : List TimedRequest) (accountId : ℕ) :
    ((∀ first, first <+: inputs → IsSuspended
        (run (directoryStep outside settings) world first).directory.tables.accounts accountId) ↔
      IsSuspended world.directory.tables.accounts accountId ∧
        Along (directoryStep outside settings)
          (fun world input => ¬ LiftsSuspension outside settings accountId world input) world
          inputs) ∧
    ∀ directory : Directory, IsSuspended directory.tables.accounts accountId →
      Shut outside settings directory accountId := by
  refine ⟨?_, fun directory hsuspended => shut_of_isSuspended outside settings hsuspended⟩
  rw [forall_run_iff_along
    fun world : DirectoryWorld => IsSuspended world.directory.tables.accounts accountId]
  refine and_congr_right fun hsuspended => ?_
  have hstep : ∀ (world : DirectoryWorld) (input : TimedRequest),
      IsSuspended world.directory.tables.accounts accountId →
      (IsSuspended (next (directoryStep outside settings) world input).directory.tables.accounts
        accountId ↔ ¬ LiftsSuspension outside settings accountId world input) :=
    fun world input hstanding => (answer_move outside settings (input.moment world)
      world.directory input.request).isSuspended_iff hstanding
  exact along_congr_of_invariant
    (fun world : DirectoryWorld => IsSuspended world.directory.tables.accounts accountId) _ _
    hstep (fun world input hstanding hkept => (hstep world input hstanding).mpr hkept) hsuspended
    inputs

end ChmabaPay
