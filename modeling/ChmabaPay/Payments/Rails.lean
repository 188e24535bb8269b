import ChmabaPay.Payments.Transitions

/-! # The rail of a code

A code is issued by ABA, and then its payment remembers the ABA session, or it is built
here. Which of the two is what the caller says, and the link where the caller says
nothing.
-/

namespace ChmabaPay

open Calendar Relational Fallible

/-- ABA issued the code of the payment. -/
def Payment.isHosted (payment : Payment) : Bool :=
  (payment.gatewayStatusRaw.bind (·.paywayHosted)).isSome

section Minting

variable {settings : Settings} {rail : Rail} {now : Instant} {tables : Tables}
  {store : Store} {link : PaymentLink} {amountCents : Int} {publicId : String}
  {currency : Currency} {hostedQr : Option Bool} {minted : Minted}

/-- The rail of a minted code is the one asked for, or else the one of the link. -/
theorem mintQr_eq_ok
    (hmint : mintQr settings rail store link amountCents publicId now currency hostedQr =
      .ok minted) :
    minted.hostedSession.isSome = hostedQr.getD (isPaywayLink link) := by
  unfold mintQr at hmint
  split at hmint
  next hhosted =>
    split at hmint
    · cases hmint
    · split at hmint
      · cases hmint
      · split at hmint
        · cases hmint
        · obtain rfl := Except.ok.inj hmint
          rw [hhosted]
          rfl
  next hoffline =>
    dsimp only at hmint
    split at hmint
    · cases hmint
    · obtain rfl := Except.ok.inj hmint
      rw [Bool.not_eq_true] at hoffline
      rw [hoffline]
      rfl

theorem gatewayStatusRaw_minted (minted : Minted) :
    (minted.gatewayStatusRaw.bind (·.paywayHosted)).isSome = minted.hostedSession.isSome := by
  unfold Minted.gatewayStatusRaw
  cases minted.hostedSession with
  | none => rfl
  | some hosted => rfl

/-- A payment that `create_payment` inserts, with the link and the code it has. -/
theorem createPayment_minted {storeId : ℕ} {request : PaymentRequest} {tables' : Tables}
    (hcreate : createPayment settings rail now tables storeId store request publicId =
      .ok (tables.payments.next, tables')) :
    ∃ linkId link minted, loadActiveLink tables storeId request.currency = .ok (linkId, link) ∧
      refuseAmount link request.amountCents = .ok () ∧
      mintQr settings rail store link request.amountCents publicId now link.currency
        request.hostedQr = .ok minted ∧
      tables' = { tables with
        payments := tables.payments.insert
          (requestedPayment now storeId linkId link request minted publicId) } := by
  obtain ⟨linkId, link, hlink, hcases⟩ := createPayment_spec hcreate
  rcases hcases with ⟨key, payment, -, hget, -⟩ | ⟨-, minted, hamount, hminted, rfl⟩
  · -- the next key is free, so it is no replayed payment's
    rw [Table.get?_next] at hget
    cases hget
  · exact ⟨linkId, link, minted, hlink, hamount, hminted, rfl⟩

theorem requestedPayment_isHosted {storeId linkId : ℕ} {request : PaymentRequest} :
    (requestedPayment now storeId linkId link request minted publicId).isHosted =
      minted.hostedSession.isSome :=
  gatewayStatusRaw_minted minted

/-- A payment that `reissue_payment` inserts is on the rail its parent remembers. -/
theorem reissuePayment_minted {parentId : ℕ} {parent : Payment} {tables' : Tables}
    (hreissue : reissuePayment settings rail now tables parentId parent publicId =
      .ok (tables.payments.next, tables')) :
    ∃ minted, minted.hostedSession.isSome = parent.isHosted ∧
      tables' = { tables with
        payments := (tables.payments.update parentId
          (Payment.recordReissue publicId now)).insert
            (successorPayment now parentId parent minted publicId) } := by
  simp only [reissuePayment] at hreissue
  split at hreissue
  · simp [bind_eq_ok] at hreissue
  split at hreissue
  · simp [bind_eq_ok] at hreissue
  split at hreissue
  · simp [bind_eq_ok] at hreissue
  split at hreissue
  next live payment hlive =>
    -- the next key is free, so it is no live successor's
    obtain ⟨hlast, -⟩ := Option.filter_eq_some_iff.mp hlive
    have hmem := List.mem_of_getLast? hlast
    simp only [pure_eq_ok, Prod.mk.injEq] at hreissue
    obtain ⟨rfl, -⟩ := hreissue
    have hget := (Table.mem_select.mp hmem).1
    rw [Table.get?_next] at hget
    cases hget
  next =>
    split at hreissue
    · simp at hreissue
    next store hstore =>
      simp only [bind_eq_ok] at hreissue
      obtain ⟨-, -, -, -, hreissue⟩ := hreissue
      split at hreissue
      · simp at hreissue
      · simp only [bind_eq_ok, pure_eq_ok, mintSuccessor, Prod.mk.injEq] at hreissue
        obtain ⟨minted, hmint, -, rfl⟩ := hreissue
        exact ⟨minted, mintQr_eq_ok hmint, rfl⟩

theorem successorPayment_isHosted {parentId : ℕ} {parent : Payment} :
    (successorPayment now parentId parent minted publicId).isHosted =
      minted.hostedSession.isSome :=
  gatewayStatusRaw_minted minted

end Minting

end ChmabaPay
