import ChmabaPay.Foundation.Fallible
import ChmabaPay.Routers.Keys
import ChmabaPay.Specimen

/-! # The limit on active keys

Only minting consults the plan's limit. Revoking gives a place up, and rotating takes
one over as long as the key it replaces holds one: the limit stands, and no dead key
comes back, in every run that rotates active keys only.
-/

namespace ChmabaPay

open Calendar Relational Execution Fallible

/-- A key of the account that works. -/
def ApiKey.counts (accountId : ℕ) (key : ApiKey) : Bool :=
  decide (key.accountId = accountId) && decide (key.status = .active)

/-! ## What each route writes -/

section Routes

variable {settings : Settings} {accountId : ℕ} {now : Instant} {workspace changed : Workspace}
  {keyId : ℕ}

theorem Workspace.commit_eq_ok (hcommit : workspace.commit = .ok changed) :
    changed = workspace := by
  unfold Workspace.commit at hcommit
  split at hcommit
  · exact (Except.ok.inj hcommit).symm
  · cases hcommit

theorem requireKey_eq_ok {keys : Table ApiKey} {key : ApiKey}
    (hrequire : requireKey keys accountId keyId = .ok key) :
    keys.get? keyId = some key ∧ key.accountId = accountId := by
  unfold requireKey at hrequire
  split at hrequire
  · cases hrequire
  · next found hfound =>
    obtain rfl := Except.ok.inj hrequire
    obtain ⟨hget, haccount⟩ := Option.filter_eq_some_iff.mp hfound
    exact ⟨hget, by simpa using haccount⟩

/-- Minting a key leaves the account below its limit before, and adds one key. -/
theorem createKey_eq_ok {name : String} {minted : NewKey}
    (hcreate : createKey settings now workspace accountId name minted = .ok (keyId, changed)) :
    (∃ plan, getActivePlan workspace.tables accountId = .ok plan ∧
      ∀ inForce ∈ plan, (activeKeys workspace.keys accountId).length <
        inForce.maxKeysPerAccount) ∧
    (∃ key, key.counts accountId = true ∧ changed.keys = workspace.keys.insert key) ∧
    ∃ action, changed.tables = recordAudit workspace.tables (some accountId)
        workspace.keys.next action ∧ ∀ replacesId name keyPrefix onBehalfOf,
      action ≠ .keyRotated replacesId name keyPrefix onBehalfOf := by
  simp only [createKey, mintKey, bind_eq_ok, pure_eq_ok, Prod.mk.injEq] at hcreate
  obtain ⟨account, -, -, -, plan, hplan, _, hlimit, committed, hcommit, -, rfl⟩ := hcreate
  obtain rfl := Workspace.commit_eq_ok hcommit
  refine ⟨⟨plan, hplan, fun inForce hinForce => ?_⟩, ⟨_, ?_, rfl⟩, _, rfl, ?_⟩
  · obtain rfl := hinForce
    simp only [enforceKeyLimits] at hlimit
    split at hlimit
    · cases hlimit
    · omega
  · simp [ApiKey.counts]
  · intro replacesId name keyPrefix onBehalfOf haction
    cases haction

theorem revokeKey_eq_ok {answered : ℕ}
    (hrevoke : revokeKey now workspace accountId keyId = .ok (answered, changed)) :
    changed = workspace ∨ ∃ key, workspace.keys.get? keyId = some key ∧
      changed.keys = workspace.keys.update keyId (ApiKey.revoke now) ∧
      changed.tables = recordAudit workspace.tables (some accountId) keyId
        (.keyRevoked key.name key.keyPrefix) := by
  simp only [revokeKey, bind_eq_ok] at hrevoke
  obtain ⟨account, -, key, hkey, hrevoke⟩ := hrevoke
  split at hrevoke
  · obtain ⟨-, rfl⟩ := Prod.mk.inj (pure_eq_ok.mp hrevoke)
    exact .inl rfl
  · simp only [bind_eq_ok, pure_eq_ok, Prod.mk.injEq] at hrevoke
    obtain ⟨committed, hcommit, -, rfl⟩ := hrevoke
    obtain rfl := Workspace.commit_eq_ok hcommit
    exact .inr ⟨key, (requireKey_eq_ok hkey).1, rfl, rfl⟩

theorem rotateKey_eq_ok {minted : NewKey} {newId : ℕ}
    (hrotate : rotateKey now workspace accountId keyId minted = .ok (newId, changed)) :
    ∃ key, workspace.keys.get? keyId = some key ∧ key.accountId = accountId ∧
      changed.keys = (workspace.keys.update keyId (ApiKey.supersede now)).insert
        (key.replacement now minted) ∧
      changed.tables = recordAudit workspace.tables (some accountId) workspace.keys.next
        (.keyRotated keyId key.name minted.keyPrefix none) := by
  simp only [rotateKey, rotateKeyInstance, bind_eq_ok, pure_eq_ok, Prod.mk.injEq] at hrotate
  obtain ⟨account, -, key, hkey, committed, hcommit, -, rfl⟩ := hrotate
  obtain rfl := Workspace.commit_eq_ok hcommit
  obtain ⟨hget, haccount⟩ := requireKey_eq_ok hkey
  refine ⟨key, hget, haccount, rfl, ?_⟩
  simp [ApiKey.replacement, onBehalfOf, haccount]

end Routes

/-! ## Counting active keys -/

section Counting

variable {keys : Table ApiKey} {accountId : ℕ}

theorem length_activeKeys (keys : Table ApiKey) (accountId : ℕ) :
    ((activeKeys keys accountId).length : ℤ) =
      keys.total fun _ key => if key.counts accountId then 1 else 0 :=
  Table.length_select _ _

theorem length_activeKeys_insert {key : ApiKey} (hcounts : key.counts accountId = true) :
    (activeKeys (keys.insert key) accountId).length = (activeKeys keys accountId).length + 1 := by
  have htotal := Table.total_insert keys (fun _ key => if key.counts accountId then 1 else 0) key
  rw [← length_activeKeys, ← length_activeKeys, if_pos hcounts] at htotal
  omega

/-- A key that stops working gives its place up, when it held one. -/
theorem length_activeKeys_update (change : ApiKey → ApiKey) {keyId : ℕ} {key : ApiKey}
    (hget : keys.get? keyId = some key) (hchange : (change key).counts accountId = false) :
    (activeKeys (keys.update keyId change) accountId).length +
        (if key.counts accountId then 1 else 0) = (activeKeys keys accountId).length := by
  have htotal :
      (keys.update keyId change).total (fun _ key => if key.counts accountId then 1 else 0) =
      keys.total (fun _ key => if key.counts accountId then 1 else 0) +
        -(if key.counts accountId then 1 else 0) := by
    have hafter : (keys.update keyId change).get? keyId = some (change key) := by
      rw [Table.get?_update, if_pos rfl, hget]
      rfl
    have hshare : (keys.update keyId change).share
        (fun _ key => if key.counts accountId then 1 else 0) keyId =
          keys.share (fun _ key => if key.counts accountId then 1 else 0) keyId +
            -(if key.counts accountId then 1 else 0) := by
      rw [Table.share_of_get? hafter, Table.share_of_get? hget, hchange]
      simp
    refine Table.total_add hshare fun other hother => ?_
    simp [Table.share, hother]
  rw [← length_activeKeys, ← length_activeKeys] at htotal
  cases hcounts : key.counts accountId with
  | false =>
      simp only [hcounts, Bool.false_eq_true, if_false] at htotal ⊢
      omega
  | true =>
      simp only [hcounts, if_true] at htotal ⊢
      omega

end Counting

/-! ## Every run -/

/-- The plan in force allows so many keys, and no more are active. -/
structure KeyLimit (accountId limit : ℕ) (workspace : Workspace) : Prop where
  plan : ∃ plan, getActivePlan workspace.tables accountId = .ok (some plan) ∧
    plan.maxKeysPerAccount = limit
  kept : (activeKeys workspace.keys accountId).length ≤ limit

/-- A key of the account is rotated while it is active. -/
def RotatesActive (accountId : ℕ) (workspace : Workspace) : Instant × KeyRequest → Prop
  | (_, .rotate keyId _) => ∀ key ∈ workspace.keys.get? keyId, key.accountId = accountId →
      key.status = .active
  | (_, .create _ _) | (_, .revoke _) => True

instance (accountId : ℕ) (workspace : Workspace) :
    ∀ input, Decidable (RotatesActive accountId workspace input)
  | (_, .rotate keyId _) => inferInstanceAs (Decidable (∀ key ∈ workspace.keys.get? keyId,
      key.accountId = accountId → key.status = .active))
  | (_, .create _ _) => inferInstanceAs (Decidable True)
  | (_, .revoke _) => inferInstanceAs (Decidable True)

/-- A step makes a new active key out of one that had been revoked or suspended. -/
def Revives (settings : Settings) (accountId : ℕ) (workspace : Workspace)
    (input : Instant × KeyRequest) : Prop :=
  ∃ replacesId replaced auditId row name keyPrefix onBehalfOf,
    workspace.keys.get? replacesId = some replaced ∧ replaced.status ≠ .active ∧
    workspace.tables.audit.get? auditId = none ∧
    (next (keyStep settings accountId) workspace input).tables.audit.get? auditId = some row ∧
    row.action = .keyRotated replacesId name keyPrefix onBehalfOf

section Step

variable {settings : Settings} {accountId limit : ℕ} {workspace : Workspace}

/-- A route leaves the workspace as it was, or writes one audit row. -/
theorem keyStep_cases (settings : Settings) (accountId : ℕ) (workspace : Workspace)
    (input : Instant × KeyRequest) :
    next (keyStep settings accountId) workspace input = workspace ∨
      ∃ keyId, input.2.perform settings accountId input.1 workspace =
        .ok (keyId, next (keyStep settings accountId) workspace input) := by
  unfold next keyStep
  cases input.2.perform settings accountId input.1 workspace with
  | error failure => exact .inl rfl
  | ok outcome => exact .inr ⟨outcome.1, rfl⟩

theorem KeyLimit.of_audit {changed : Workspace} (hlimit : KeyLimit accountId limit workspace)
    {actor : Option ℕ} {targetId : ℕ} {action : AuditAction}
    (htables : changed.tables = recordAudit workspace.tables actor targetId action)
    (hkept : (activeKeys changed.keys accountId).length ≤ limit) :
    KeyLimit accountId limit changed := by
  refine ⟨?_, hkept⟩
  rw [htables]
  exact hlimit.plan

theorem KeyLimit.step (hlimit : KeyLimit accountId limit workspace)
    (input : Instant × KeyRequest) (hrotates : RotatesActive accountId workspace input) :
    KeyLimit accountId limit (next (keyStep settings accountId) workspace input) := by
  rcases keyStep_cases settings accountId workspace input with hsame | ⟨keyId, hperform⟩
  · rw [hsame]
    exact hlimit
  · generalize next (keyStep settings accountId) workspace input = changed at hperform
    obtain ⟨now, request⟩ := input
    cases request with
    | create name minted =>
        obtain ⟨⟨found, hfound, hroom⟩, ⟨key, hcounts, hkeys⟩, action, htables, -⟩ :=
          createKey_eq_ok hperform
        obtain ⟨plan, hplan, hallowed⟩ := hlimit.plan
        obtain rfl := Except.ok.inj (hfound.symm.trans hplan)
        refine hlimit.of_audit htables ?_
        rw [hkeys, length_activeKeys_insert hcounts]
        exact hallowed ▸ hroom plan rfl
    | revoke revokedId =>
        rcases revokeKey_eq_ok hperform with rfl | ⟨key, hget, hkeys, htables⟩
        · exact hlimit
        · have hstops : (key.revoke now).counts accountId = false := by
            simp [ApiKey.counts, ApiKey.revoke]
          have hless := length_activeKeys_update (ApiKey.revoke now) hget hstops
          refine hlimit.of_audit htables (le_trans ?_ hlimit.kept)
          rw [hkeys]
          exact Nat.le.intro hless
    | rotate replacesId minted =>
        obtain ⟨key, hget, haccount, hkeys, htables⟩ := rotateKey_eq_ok hperform
        have hactive := hrotates key hget haccount
        have hstops : (key.supersede now).counts accountId = false := by
          simp [ApiKey.counts, ApiKey.supersede]
        have hless := length_activeKeys_update (ApiKey.supersede now) hget hstops
        refine hlimit.of_audit htables ?_
        -- the replacement takes the place the key it replaces gives up
        rw [hkeys, length_activeKeys_insert (by simp [ApiKey.counts, ApiKey.replacement, haccount])]
        rw [if_pos (by simp [ApiKey.counts, haccount, hactive])] at hless
        exact hless ▸ hlimit.kept

/-- A rotation of an active key revives no dead one. -/
theorem not_revives_of_rotatesActive {input : Instant × KeyRequest}
    (hrotates : RotatesActive accountId workspace input) :
    ¬ Revives settings accountId workspace input := by
  rintro ⟨replacesId, replaced, auditId, row, name, keyPrefix, onBehalfOf, hreplaced, hdead, hnew,
    haudit, haction⟩
  rcases keyStep_cases settings accountId workspace input with hsame | ⟨keyId, hperform⟩
  · rw [hsame, hnew] at haudit
    cases haudit
  · generalize next (keyStep settings accountId) workspace input = changed at hperform haudit
    -- the only new audit row is the one the request writes
    have hrow : ∀ actor targetId action, changed.tables =
        recordAudit workspace.tables actor targetId action → row.action = action := by
      intro actor targetId action htables
      rw [htables, recordAudit, Table.get?_insert] at haudit
      split at haudit
      · exact Option.some.inj haudit ▸ rfl
      · rw [hnew] at haudit
        cases haudit
    obtain ⟨now, request⟩ := input
    cases request with
    | create name minted =>
        obtain ⟨-, -, action, htables, hother⟩ := createKey_eq_ok hperform
        exact hother _ _ _ _ ((hrow _ _ _ htables).symm.trans haction)
    | revoke revokedId =>
        rcases revokeKey_eq_ok hperform with rfl | ⟨key, hget, hkeys, htables⟩
        · rw [hnew] at haudit
          cases haudit
        · cases (hrow _ _ _ htables).symm.trans haction
    | rotate rotatedId minted =>
        obtain ⟨key, hget, haccount, hkeys, htables⟩ := rotateKey_eq_ok hperform
        obtain ⟨rfl, -⟩ := AuditAction.keyRotated.inj ((hrow _ _ _ htables).symm.trans haction)
        rw [hreplaced] at hget
        cases hget
        exact hdead (hrotates replaced hreplaced haccount)

end Step

/-- In every run that rotates active keys only, the account never has more active keys
than its plan allows, and no key that was revoked or suspended comes back. -/
theorem active_keys_within_limit {settings : Settings} {accountId limit : ℕ}
    {workspace : Workspace} (hlimit : KeyLimit accountId limit workspace)
    {inputs : List (Instant × KeyRequest)}
    (hrotates : Along (keyStep settings accountId) (RotatesActive accountId) workspace inputs) :
    (∀ first, first <+: inputs →
      (activeKeys (run (keyStep settings accountId) workspace first).keys accountId).length ≤
        limit) ∧
    Along (keyStep settings accountId)
      (fun workspace input => ¬ Revives settings accountId workspace input) workspace inputs := by
  have halong := along_of_invariant (KeyLimit accountId limit) (RotatesActive accountId)
    (fun workspace input =>
      (activeKeys (next (keyStep settings accountId) workspace input).keys accountId).length ≤
        limit ∧ ¬ Revives settings accountId workspace input)
    (fun _ input hlimit hrotates => hlimit.step input hrotates)
    (fun _ input hlimit hrotates =>
      ⟨(hlimit.step input hrotates).kept, not_revives_of_rotatesActive hrotates⟩) hlimit hrotates
  refine ⟨?_, halong.imp fun _ _ hstep => hstep.2⟩
  exact (forall_run_iff_along (fun workspace =>
    (activeKeys workspace.keys accountId).length ≤ limit) workspace inputs).mpr
      ⟨hlimit.kept, halong.imp fun _ _ hstep => hstep.1⟩

/-! ## A shop with one key -/

namespace Specimen

/-- The shop, on a plan that allows two keys, with the terms accepted and one key. -/
def keyring : Workspace where
  tables := { tables with
    accounts := .ofList [operator, { merchant with termsAcceptedVersion := some "3" }]
    plans := .ofList [{ plan "starter" 999 with maxKeysPerAccount := 2 }]
    subscriptions := .ofList [
      { accountId := 1, planId := 0, status := .active, nextBillingAt := seconds 86400,
        createdAt := 0 }] }
  keys := .ofList [
    { accountId := 1, keyPrefix := "ck_live_aaaa", name := some "till", keyHash := "hash-a",
      mode := "live", createdAt := 0 }]

/-- The shop mints a second key, revokes the first one and rotates the second. -/
def keyUse : List (Instant × KeyRequest) :=
  [(seconds 10, .create "web" ⟨"ck_live_bbbb", "hash-b"⟩), (seconds 20, .revoke 0),
    (seconds 30, .rotate 1 ⟨"ck_live_cccc", "hash-c"⟩)]

/-- The shop goes on to mint a key in the place of the first one, and rotates the one
it had revoked. -/
def keyAbuse : List (Instant × KeyRequest) :=
  keyUse ++ [(seconds 40, .create "spare" ⟨"ck_live_dddd", "hash-d"⟩),
    (seconds 50, .rotate 0 ⟨"ck_live_eeee", "hash-e"⟩)]

theorem keyLimit_keyring : KeyLimit 1 2 keyring :=
  ⟨⟨{ plan "starter" 999 with maxKeysPerAccount := 2 }, by decide +kernel, rfl⟩, by decide +kernel⟩

end Specimen

theorem active_keys_within_limit_one_shop :
    (∀ first, first <+: Specimen.keyUse →
      (activeKeys (run (keyStep {} 1) Specimen.keyring first).keys 1).length ≤ 2) ∧
    Along (keyStep {} 1) (fun workspace input => ¬ Revives {} 1 workspace input)
      Specimen.keyring Specimen.keyUse :=
  active_keys_within_limit Specimen.keyLimit_keyring (by decide +kernel)

/-- Rotating the revoked key makes a third active key. -/
theorem active_keys_over_limit :
    (activeKeys Specimen.keyring.keys 1).length ≤ 2 ∧
      ¬ (activeKeys (run (keyStep {} 1) Specimen.keyring Specimen.keyAbuse).keys 1).length ≤ 2 := by
  decide +kernel

end ChmabaPay
