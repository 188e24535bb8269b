import ChmabaPay.Accounts.Grants

/-! # What becomes of the keys of a closed account

Closing an account dates its keys and leaves their status. While the account is suspended no key
of it is served. Once its status is active again, by an operator's patch or a billing hold that
was lifted, the keys that were active before it was closed are served again.
-/

namespace ChmabaPay

open Calendar Relational Execution Fallible

/-! ## Keys of an account -/

/-- What a key is found by and whether it works, if it belongs to the account. -/
def keyOf (accountId : ℕ) (keys : Table ApiKey) (keyId : ℕ) : Option (String × KeyStatus) :=
  ((keys.get? keyId).filter fun key => decide (key.accountId = accountId)).map fun key =>
    (key.keyHash, key.status)

/-- The keys of the account are found and work as before. -/
def SameKeys (accountId : ℕ) (before after : Table ApiKey) : Prop :=
  ∀ keyId, keyOf accountId after keyId = keyOf accountId before keyId

/-- The request is about a key of the account, or a new one for it. -/
def AdminKeyRequest.About (accountId : ℕ) (keys : Table ApiKey) : AdminKeyRequest → Prop
  | .mint owner _ _ => owner = accountId
  | .revoke keyId | .rotate keyId _ => ∃ key, keys.get? keyId = some key ∧ key.accountId = accountId

/-- The request is about the account's keys. -/
def DirectoryRequest.AboutKeys (accountId : ℕ) (keys : Table ApiKey) : DirectoryRequest → Prop
  | .keys owner _ => owner = accountId
  | .operatorKeys _ _ request => request.About accountId keys
  | .google .. | .dev .. | .password .. | .self .. | .operator .. | .platform .. => False

/-- A request about the account's keys goes through. -/
def TouchesKeys (outside : IdentityOutside) (settings : SignInSettings) (accountId : ℕ)
    (world : DirectoryWorld) (input : TimedRequest) : Prop :=
  (directoryStep outside settings world input).2 = .ok .done ∧
    input.request.AboutKeys accountId world.directory.workspace.keys

section SameKeys

variable {accountId : ℕ} {keys first second third : Table ApiKey}

theorem SameKeys.refl (accountId : ℕ) (keys : Table ApiKey) : SameKeys accountId keys keys :=
  fun _ => rfl

theorem SameKeys.trans (hfirst : SameKeys accountId first second)
    (hsecond : SameKeys accountId second third) : SameKeys accountId first third :=
  fun keyId => (hsecond keyId).trans (hfirst keyId)

/-- A key of another account is written. -/
theorem SameKeys.update (keys : Table ApiKey) {keyId : ℕ} {key : ApiKey}
    (hget : keys.get? keyId = some key) (howned : key.accountId ≠ accountId)
    {change : ApiKey → ApiKey} (hchange : (change key).accountId = key.accountId) :
    SameKeys accountId keys (keys.update keyId change) := by
  intro current
  unfold keyOf
  rw [Table.get?_update]
  split
  · next hkey =>
    rw [hkey, hget, Option.map_some]
    simp [Option.filter, hchange, howned]
  · rfl

theorem SameKeys.insert (keys : Table ApiKey) {key : ApiKey} (howned : key.accountId ≠ accountId) :
    SameKeys accountId keys (keys.insert key) := by
  intro current
  unfold keyOf
  rw [Table.get?_insert]
  split
  · next hkey =>
    rw [hkey, Table.get?_next]
    simp [Option.filter, howned]
  · rfl

/-- Closing the account dates its keys. -/
theorem SameKeys.erased (now : Instant) (closedId : ℕ) (keys : Table ApiKey) :
    SameKeys accountId keys (erasedKeys now closedId keys) := by
  intro current
  unfold keyOf erasedKeys
  rw [Table.get?_updateWhere]
  cases keys.get? current with
  | none => rfl
  | some key =>
      simp only [Option.map_some]
      by_cases howned : key.accountId = accountId <;> split <;>
        simp [Option.filter, ApiKey.erase, howned]

end SameKeys

/-! ## What a request does to the keys -/

/-- Keys stay as they are, or the account's stay apart from their dates, or the request is about
them. Whatever is written has passed the index on digests. -/
def KeysMove (accountId : ℕ) (before after : Table ApiKey) (request : DirectoryRequest)
    (answer : Except Failure DirectoryAnswer) : Prop :=
  after = before ∨ after.Unique sameKeyHash ∧
    (SameKeys accountId before after ∨ answer = .ok .done ∧ request.AboutKeys accountId before)

section Keys

variable {outside : IdentityOutside} {settings : SignInSettings} {now : Instant}
  {directory changed : Directory}

theorem Directory.Valid.uniqueKeys (hvalid : directory.Valid) :
    directory.workspace.keys.Unique sameKeyHash := hvalid.2.2.2.1

theorem upsertSignIn_keys (user : GoogleUser) (renameExisting : Bool) (generatedId : String) :
    (upsertSignIn outside settings now directory user renameExisting
      generatedId).1.workspace.keys = directory.workspace.keys := by
  unfold upsertSignIn
  split
  · rfl
  · next accountId found hupsert =>
    have hfound : found.workspace.keys = directory.workspace.keys := by
      simp only [upsertLogin, bind_eq_ok, pure_eq_ok, Prod.mk.injEq] at hupsert
      obtain ⟨committed, hcommit, -, rfl⟩ := hupsert
      obtain rfl := Directory.commit_eq_ok hcommit
      rfl
    split
    · exact hfound
    · next promoted hpromote => exact (maybePromote_keys hpromote).trans hfound

theorem googleSignIn_keys (user : GoogleUser) (generatedId : String)
    (state : Option (List Char)) :
    (googleSignIn outside settings now directory user generatedId state).1.workspace.keys =
      directory.workspace.keys := by
  have haccount : (googleAccount outside settings now directory user
      generatedId).1.workspace.keys = directory.workspace.keys := by
    unfold googleAccount
    split
    · rfl
    · exact upsertSignIn_keys _ _ _
  unfold googleSignIn
  split <;> simp_all

/-- Of an account's own requests only the closing writes keys. -/
theorem SelfMove.keysMove {ownId accountId : ℕ} {request : SelfRequest}
    (hmove : SelfMove ownId now directory changed request)
    (answer : Except Failure DirectoryAnswer) :
    KeysMove accountId directory.workspace.keys changed.workspace.keys (.self ownId request)
      answer := by
  cases hmove with
  | stands hunclosed hkeys haccounts => exact .inl hkeys
  | moved email newEmail currentPassword hkeys hmarked => exact .inl hkeys
  | erased confirmEmail currentPassword hvalid hknown hkeys hmarked =>
      refine .inr ⟨hvalid.uniqueKeys, .inl ?_⟩
      rw [hkeys]
      exact .erased now ownId _

/-- A request for a key writes keys of the account of its session. -/
theorem keyRequest_keys {owner accountId keyId : ℕ} {request : KeyRequest}
    {workspace kept : Workspace} (howner : owner ≠ accountId)
    (hperform : request.perform settings.base owner now workspace = .ok (keyId, kept)) :
    SameKeys accountId workspace.keys kept.keys := by
  cases request with
  | create name minted =>
      obtain ⟨-, ⟨key, hcounts, hkeys⟩, -⟩ := createKey_eq_ok hperform
      simp only [ApiKey.counts, Bool.and_eq_true, decide_eq_true_eq] at hcounts
      rw [hkeys]
      exact .insert _ (hcounts.1 ▸ howner)
  | revoke revoked =>
      simp only [KeyRequest.perform, revokeKey, bind_eq_ok] at hperform
      obtain ⟨account, -, key, hkey, hperform⟩ := hperform
      obtain ⟨hget, howned⟩ := requireKey_eq_ok hkey
      split at hperform
      · obtain ⟨-, rfl⟩ := Prod.mk.inj (pure_eq_ok.mp hperform)
        exact .refl _ _
      · simp only [bind_eq_ok, pure_eq_ok, Prod.mk.injEq] at hperform
        obtain ⟨committed, hcommit, -, rfl⟩ := hperform
        obtain rfl := Workspace.commit_eq_ok hcommit
        exact .update _ hget (howned ▸ howner) rfl
  | rotate replacedId minted =>
      obtain ⟨key, hget, howned, hkeys, -⟩ := rotateKey_eq_ok hperform
      rw [hkeys]
      exact (SameKeys.update _ hget (howned ▸ howner) rfl).trans (.insert _ (howned ▸ howner))

theorem adminKeyRequest_keys {accountId actorId : ℕ} {request : AdminKeyRequest}
    {workspace kept : Workspace} (hother : ¬ request.About accountId workspace.keys)
    (hrun : request.run now workspace actorId = .ok kept) :
    SameKeys accountId workspace.keys kept.keys := by
  cases request with
  | mint owner name minted =>
      simp only [AdminKeyRequest.run] at hrun
      split at hrun
      · cases hrun
      · obtain ⟨⟨keyId, committed⟩, hmint, rfl⟩ := map_eq_ok hrun
        simp only [mintKey, bind_eq_ok, pure_eq_ok, Prod.mk.injEq] at hmint
        obtain ⟨_, hcommit, -, rfl⟩ := hmint
        obtain rfl := Workspace.commit_eq_ok hcommit
        exact .insert _ hother
  | revoke keyId =>
      simp only [AdminKeyRequest.run] at hrun
      split at hrun
      · cases hrun
      · next key hget =>
        split at hrun
        · obtain rfl := Except.ok.inj hrun
          exact .refl _ _
        · obtain rfl := Workspace.commit_eq_ok hrun
          exact .update _ hget (fun howned => hother ⟨key, hget, howned⟩) rfl
  | rotate keyId minted =>
      simp only [AdminKeyRequest.run] at hrun
      split at hrun
      · cases hrun
      · next key hget =>
        have howned : key.accountId ≠ accountId := fun howned => hother ⟨key, hget, howned⟩
        obtain ⟨⟨newId, committed⟩, hrotate, rfl⟩ := map_eq_ok hrun
        simp only [rotateKeyInstance, bind_eq_ok, pure_eq_ok, Prod.mk.injEq] at hrotate
        obtain ⟨_, hcommit, -, rfl⟩ := hrotate
        obtain rfl := Workspace.commit_eq_ok hcommit
        exact (SameKeys.update _ hget howned rfl).trans (.insert _ howned)

theorem settle_keys {accountId : ℕ} {request : DirectoryRequest}
    {result : Except Failure Directory}
    (hmove : ∀ changed, result = .ok changed →
      KeysMove accountId directory.workspace.keys changed.workspace.keys request (.ok .done)) :
    KeysMove accountId directory.workspace.keys (settle directory result).1.workspace.keys request
      (settle directory result).2 := by
  cases result with
  | error failure => exact .inl rfl
  | ok changed => exact hmove changed rfl

end Keys

theorem answer_keys (outside : IdentityOutside) (settings : SignInSettings) (now : Instant)
    (directory : Directory) (request : DirectoryRequest) (accountId : ℕ) :
    KeysMove accountId directory.workspace.keys
      (request.answer outside settings now directory).1.workspace.keys request
      (request.answer outside settings now directory).2 := by
  cases request with
  | google user generatedId state => exact .inl (googleSignIn_keys user generatedId state)
  | dev email generatedId =>
      left
      simp only [DirectoryRequest.answer, devSignIn]
      split
      · exact upsertSignIn_keys _ _ _
      · rfl
  | password body => exact .inl (passwordSignIn_spec body).keys_eq
  | self ownId request =>
      exact settle_keys fun changed hchanged => (selfRequest_eq_ok hchanged).keysMove _
  | keys owner request =>
      apply settle_keys
      intro changed hchanged
      simp only [bind_eq_ok] at hchanged
      obtain ⟨⟨keyId, workspace⟩, hperform, hcommit⟩ := hchanged
      have hunique := (Directory.valid_of_commit hcommit).uniqueKeys
      obtain rfl := Directory.commit_eq_ok hcommit
      by_cases howner : owner = accountId
      · exact .inr ⟨hunique, .inr ⟨rfl, howner⟩⟩
      · exact .inr ⟨hunique, .inl (keyRequest_keys howner hperform)⟩
  | operator request =>
      apply settle_keys
      intro changed hchanged
      simp only [bind_eq_ok] at hchanged
      obtain ⟨tables, -, hcommit⟩ := hchanged
      obtain rfl := Directory.commit_eq_ok hcommit
      exact .inl rfl
  | operatorKeys actorId authMethod request =>
      apply settle_keys
      intro changed hchanged
      simp only [bind_eq_ok] at hchanged
      obtain ⟨actor, -, workspace, hrun, hcommit⟩ := hchanged
      have hunique := (Directory.valid_of_commit hcommit).uniqueKeys
      obtain rfl := Directory.commit_eq_ok hcommit
      by_cases habout : request.About accountId directory.workspace.keys
      · exact .inr ⟨hunique, .inr ⟨rfl, habout⟩⟩
      · exact .inr ⟨hunique, .inl (adminKeyRequest_keys habout hrun)⟩
  | platform op =>
      apply settle_keys
      intro changed hchanged
      simp only [bind_eq_ok] at hchanged
      obtain ⟨⟨response, tables⟩, -, hcommit⟩ := hchanged
      obtain rfl := Directory.commit_eq_ok hcommit
      exact .inl rfl

/-! ## Keys that are served -/

theorem keyOf_eq_some {accountId keyId : ℕ} {keys : Table ApiKey} {keyHash : String}
    {status : KeyStatus} : keyOf accountId keys keyId = some (keyHash, status) ↔
      ∃ key, keys.get? keyId = some key ∧ key.accountId = accountId ∧ key.keyHash = keyHash ∧
        key.status = status := by
  unfold keyOf
  cases keys.get? keyId with
  | none => simp
  | some key => by_cases howned : key.accountId = accountId <;> simp [Option.filter, howned]

/-- With digests that differ, the key of a digest is the one the query finds. -/
theorem findActiveKey_eq {hashKey : List Char → String} {workspace : Workspace}
    {raw : List Char} (hunique : workspace.keys.Unique sameKeyHash) {keyId : ℕ} {key : ApiKey}
    (hget : workspace.keys.get? keyId = some key) (hhash : key.keyHash = hashKey raw)
    (hactive : key.status = .active) {account : Account}
    (haccount : workspace.tables.accounts.get? key.accountId = some account) :
    findActiveKey hashKey workspace raw = [(key, account)] := by
  have hsymm : ∀ first second, sameKeyHash first second → sameKeyHash second first :=
    fun _ _ => Eq.symm
  have hdistinct := (Table.unique_iff hsymm).mp hunique
  have hmem : (keyId, key) ∈ workspace.keys.select fun _ key =>
      decide (key.keyHash = hashKey raw) && decide (key.status = .active) :=
    Table.mem_select.mpr ⟨hget, by simp [hhash, hactive]⟩
  obtain ⟨found, hfound⟩ := oneOrNone_select workspace.keys
    (fun _ key => decide (key.keyHash = hashKey raw) && decide (key.status = .active))
    fun first second row other hfirst hsecond hrow hother => by
      simp only [Bool.and_eq_true, decide_eq_true_eq] at hrow hother
      exact hdistinct first second row other hfirst hsecond (hrow.1.trans hother.1.symm)
  cases found with
  | none =>
      rw [oneOrNone_eq_none hfound] at hmem
      cases hmem
  | some row =>
      rw [oneOrNone_eq_some hfound, List.mem_singleton] at hmem
      subst hmem
      rw [findActiveKey, oneOrNone_eq_some hfound, List.filterMap_cons, haccount]
      rfl

/-- A header is served a key of the account when the account is active and the key with the
digest of the token works. -/
theorem resolves_iff {hashKey : List Char → String} {workspace : Workspace}
    (hunique : workspace.keys.Unique sameKeyHash) (authorization : Option String)
    (accountId : ℕ) :
    (∃ key, resolveKeyContext hashKey workspace authorization = .ok key ∧
        key.accountId = accountId) ↔
      (∃ account, workspace.tables.accounts.get? accountId = some account ∧
        account.status = .active) ∧
      ∃ raw keyId, bearerToken authorization = some raw ∧ raw ≠ [] ∧
        keyOf accountId workspace.keys keyId = some (hashKey raw, .active) := by
  constructor
  · rintro ⟨key, hresolve, rfl⟩
    obtain ⟨haccount, raw, keyId, hbearer, hraw, hget, hhash, hactive⟩ :=
      resolveKeyContext_eq_ok hresolve
    exact ⟨haccount, raw, keyId, hbearer, hraw,
      keyOf_eq_some.mpr ⟨key, hget, rfl, hhash, hactive⟩⟩
  · rintro ⟨⟨account, haccount, hserved⟩, raw, keyId, hbearer, hraw, hkey⟩
    obtain ⟨key, hget, rfl, hhash, hactive⟩ := keyOf_eq_some.mp hkey
    refine ⟨key, ?_, rfl⟩
    have hfind := findActiveKey_eq hunique hget hhash hactive haccount
    unfold resolveKeyContext
    rw [hbearer]
    cases raw with
    | nil => exact absurd rfl hraw
    | cons first rest =>
        simp [hfind, oneOrNone, refuseKeyAccount, hserved, bind, Except.bind, pure, Except.pure]

/-! ## After an account is closed -/

/-- A closing that goes through suspends the account and keeps its keys, but for their dates. -/
theorem closing_spec {outside : IdentityOutside} {settings : SignInSettings}
    {world : DirectoryWorld} {elapsed accountId : ℕ} {confirmEmail : String}
    {currentPassword : Option String}
    (hclosed : (directoryStep outside settings world
      ⟨elapsed, .self accountId (.eraseMe confirmEmail currentPassword)⟩).2 = .ok .done) :
    let closed := (next (directoryStep outside settings) world
      ⟨elapsed, .self accountId (.eraseMe confirmEmail currentPassword)⟩).directory
    IsSuspended closed.tables.accounts accountId ∧
      SameKeys accountId world.directory.workspace.keys closed.workspace.keys ∧
      closed.workspace.keys.Unique sameKeyHash := by
  intro closed
  cases hperform : SelfRequest.perform outside settings (world.clock + elapsed) world.directory
      accountId (.eraseMe confirmEmail currentPassword) with
  | error failure =>
      simp [directoryStep, DirectoryRequest.answer, TimedRequest.moment, hperform, settle]
        at hclosed
  | ok changed =>
      obtain rfl : closed = changed := by
        simp [closed, next, directoryStep, DirectoryRequest.answer, TimedRequest.moment, hperform,
          settle]
      cases selfRequest_eq_ok hperform with
      | stands hunclosed => exact absurd rfl (hunclosed confirmEmail currentPassword)
      | erased _ _ hvalid hknown hkeys hmarked =>
          refine ⟨?_, ?_, hvalid.uniqueKeys⟩
          · obtain ⟨account, hget⟩ := hknown
            rw [hmarked]
            exact ⟨account.erase accountId, by rw [Table.get?_update, if_pos rfl, hget]; rfl, rfl⟩
          · rw [hkeys]
            exact .erased _ _ _

/-- When an account has been closed, it is suspended, and from then on its keys are the ones it
had. Whatever happens in between, as long as nobody mints, revokes or rotates a key of the
account, a token is served as its key in just those moments in which the status of the account is
active, and just when that key was active before the account was closed. -/
theorem erased_keys_return (outside : IdentityOutside) (settings : SignInSettings)
    (world : DirectoryWorld) (elapsed accountId : ℕ) (confirmEmail : String)
    (currentPassword : Option String) (inputs : List TimedRequest)
    (hclosed : (directoryStep outside settings world
      ⟨elapsed, .self accountId (.eraseMe confirmEmail currentPassword)⟩).2 = .ok .done)
    (huntouched : Along (directoryStep outside settings)
      (fun world input => ¬ TouchesKeys outside settings accountId world input)
      (next (directoryStep outside settings) world
        ⟨elapsed, .self accountId (.eraseMe confirmEmail currentPassword)⟩) inputs) :
    let closed := next (directoryStep outside settings) world
      ⟨elapsed, .self accountId (.eraseMe confirmEmail currentPassword)⟩
    let last := run (directoryStep outside settings) closed inputs
    IsSuspended closed.directory.tables.accounts accountId ∧
    ∀ hashKey authorization,
      (∃ key, resolveKeyContext hashKey last.directory.workspace authorization = .ok key ∧
          key.accountId = accountId) ↔
        (∃ account, last.directory.tables.accounts.get? accountId = some account ∧
          account.status = .active) ∧
        ∃ raw keyId, bearerToken authorization = some raw ∧ raw ≠ [] ∧
          keyOf accountId world.directory.workspace.keys keyId = some (hashKey raw, .active) := by
  intro closed last
  obtain ⟨hsuspended, hsame, hunique⟩ := closing_spec hclosed
  refine ⟨hsuspended, fun hashKey authorization => ?_⟩
  have hkept : SameKeys accountId world.directory.workspace.keys last.directory.workspace.keys ∧
      last.directory.workspace.keys.Unique sameKeyHash := by
    -- the index on digests is kept too: it makes the query find the key
    refine run_invariant_of_along
      (fun later : DirectoryWorld =>
        SameKeys accountId world.directory.workspace.keys later.directory.workspace.keys ∧
          later.directory.workspace.keys.Unique sameKeyHash)
      (fun world input => ¬ TouchesKeys outside settings accountId world input)
      (fun later input hlater hidle => ?_) ⟨hsame, hunique⟩ huntouched
    rcases answer_keys outside settings (input.moment later) later.directory input.request
      accountId with hkeys | ⟨hdistinct, hkeys | htouched⟩
    · have hkeys : (next (directoryStep outside settings) later input).directory.workspace.keys =
          later.directory.workspace.keys := hkeys
      rw [hkeys]
      exact hlater
    · exact ⟨hlater.1.trans hkeys, hdistinct⟩
    · exact absurd htouched hidle
  rw [resolves_iff hkept.2]
  refine and_congr_right fun _ => exists_congr fun raw => exists_congr fun keyId => ?_
  rw [hkept.1 keyId]

namespace Specimen

/-- Passwords and digests that are the texts themselves. -/
def plainIdentity : IdentityOutside where
  lower := id
  sqlLower := id
  hashpw _ raw := raw
  checkpw raw hash := decide (raw = hash)
  hashKey := String.ofList
  payway := ⟨fun _ _ => .unreachable, fun _ => none⟩

/-- The merchant has one key. -/
def keyed : DirectoryWorld where
  clock := 0
  directory :=
    { workspace :=
        { tables := tables
          keys := .ofList
            [{ accountId := 1, keyPrefix := "ck_a", name := none, keyHash := "ck_a", mode := "live",
               createdAt := 0 }] }
      logins := fun _ => {}
      lockout := none
      trail := [] }

def closing : TimedRequest := ⟨0, .self 1 (.eraseMe "shop@example.com" none)⟩

/-- The operator makes the account active again. -/
def reopening : TimedRequest := ⟨0, .operator ⟨0, "password", 1, { status := some .active }⟩⟩

def reopened : Directory :=
  (run (directoryStep plainIdentity {}) (next (directoryStep plainIdentity {}) keyed closing)
    [reopening]).directory

end Specimen

/-- The merchant's key is served again once its closed account is active. -/
theorem erased_keys_return_reopened :
    ∃ key, resolveKeyContext String.ofList Specimen.reopened.workspace (some "Bearer ck_a") =
      .ok key ∧ key.accountId = 1 := by
  have hclosed : (directoryStep Specimen.plainIdentity {} Specimen.keyed Specimen.closing).2 =
      .ok .done := by decide +kernel
  have hactive : (Specimen.reopened.tables.accounts.get? 1).map Account.status =
      some .active := by decide +kernel
  obtain ⟨account, hget, hstatus⟩ := Option.map_eq_some_iff.mp hactive
  have huntouched : Along (directoryStep Specimen.plainIdentity {})
      (fun world input => ¬ TouchesKeys Specimen.plainIdentity {} 1 world input)
      (next (directoryStep Specimen.plainIdentity {}) Specimen.keyed Specimen.closing)
      [Specimen.reopening] := ⟨fun htouched => htouched.2, trivial⟩
  have hserved := erased_keys_return Specimen.plainIdentity {} Specimen.keyed 0 1
    "shop@example.com" none [Specimen.reopening] hclosed huntouched
  refine (hserved.2 String.ofList (some "Bearer ck_a")).mpr
    ⟨⟨account, hget, hstatus⟩, "ck_a".toList, 0, ?_, ?_, ?_⟩
  · decide +kernel
  · decide
  · decide +kernel

end ChmabaPay
