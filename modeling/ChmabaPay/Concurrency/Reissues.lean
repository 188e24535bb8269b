import ChmabaPay.Concurrency.Parts
import ChmabaPay.Concurrency.Tills
import ChmabaPay.Payments.Lineage

/-! # One payable code for a sale

A call to re-issue looks for a live code among the direct replacements of the payment
it was made on, and mints when it finds none. It does not look at the rest of the
sale, and nothing keeps a second call from looking before the first one commits.
Where every live code of the sale is the one a call looks at, and no other call mints
for the sale meanwhile, a sale never has two payable codes, in any interleaving of
re-issues, new sales and expiry sweeps.
-/

namespace ChmabaPay

open Calendar Relational Execution Interleaving Fallible

/-! ## Live codes -/

/-- The code can be paid: it is offered and has not lapsed. -/
def Payment.isLive (now : Instant) (payment : Payment) : Bool :=
  payment.status.isOpen && decide (now < payment.expiresAt)

/-- No sale has two live codes. -/
def SinglePayable (tables : Tables) (now : Instant) : Prop :=
  ∀ key key' payment payment', tables.payments.get? key = some payment →
    tables.payments.get? key' = some payment' → payment.isLive now = true →
    payment'.isLive now = true → tables.SameSale key key' → key = key'

theorem Payment.isLive_of_later {now later : Instant} {payment : Payment} (hlater : now ≤ later)
    (hlive : payment.isLive later = true) : payment.isLive now = true := by
  simp only [Payment.isLive, Bool.and_eq_true, decide_eq_true_eq] at hlive ⊢
  exact ⟨hlive.1, lt_of_le_of_lt hlater hlive.2⟩

/-- Codes only lapse as time passes. -/
theorem SinglePayable.later {tables : Tables} {now later : Instant}
    (hsingle : SinglePayable tables now) (hlater : now ≤ later) : SinglePayable tables later :=
  fun key key' payment payment' hget hget' hlive hlive' =>
    hsingle key key' payment payment' hget hget' (Payment.isLive_of_later hlater hlive)
      (Payment.isLive_of_later hlater hlive')

theorem Payment.isLive_expire (payment : Payment) (now : Instant) :
    payment.expire.isLive now = false := rfl

theorem isLive_of_payableSuccessor {now : Instant} {tables : Tables} {parentId key : ℕ}
    {payment : Payment} (hnone : payableSuccessor now tables parentId = none)
    (hfound : liveSuccessor tables parentId = some (key, payment)) :
    payment.isLive now = false := by
  rw [payableSuccessor, hfound, Option.filter_eq_none_iff] at hnone
  have hlapsed := hnone (key, payment) rfl
  rw [Payment.isLive, Bool.and_eq_false_iff]
  exact .inr (by simpa using hlapsed)

/-! ## The sessions -/

/-- The call found no live code and goes on to mint one. -/
def ReissueCall.minting (call : ReissueCall) : Bool :=
  match call.phase with
  | .mint _ | .insert _ _ _ => true
  | .begin | .look _ | .returned _ | .failed _ | .refused _ => false

/-- The call mints a code for the sale of the payment. -/
def TillSession.MintsFor (tables : Tables) (session : TillSession) (key : ℕ) : Prop :=
  match session with
  | .reissue call => call.minting = true ∧ tables.SameSale call.parentId key
  | .create _ | .sweep _ => False

/-- What holds of a session by itself. -/
def TillSession.Sound (tables : Tables) : TillSession → Prop
  | .create call => ∀ payment, call.phase = .insert payment → payment.reissuedFromId = none
  | .reissue call =>
      (∀ parent, call.phase = .look parent → tables.payments.get? call.parentId ≠ none) ∧
      (call.minting = true → tables.payments.get? call.parentId ≠ none) ∧
      ∀ parent successor mintedAt, call.phase = .insert parent successor mintedAt →
        successor.reissuedFromId = some call.parentId
  | .sweep session => session.Sweeping

/-- The invariant: no sale has two live codes, a sale that a call mints for has none,
and no two calls mint for one sale. -/
structure Tills.Orderly (pool : Tills) : Prop where
  rooted : pool.shared.db.tables.Rooted
  single : SinglePayable pool.shared.db.tables pool.shared.clock
  apart : pool.Apart (TillSession.MintsFor pool.shared.db.tables)
  barren : ∀ session ∈ pool.sessions, ∀ key payment,
    session.MintsFor pool.shared.db.tables key →
    pool.shared.db.tables.payments.get? key = some payment →
    payment.isLive pool.shared.clock = false
  sound : ∀ session ∈ pool.sessions, session.Sound pool.shared.db.tables

/-! ## What a step adds -/

/-- Rows that were there keep their place in their sale and are not opened again, and
at most one row is new, a code of its own or one for a sale the session mints for. -/
structure TillSession.Offers (before after : Tables) (session : TillSession) : Prop where
  lineage : before.KeepsLineage after
  kept : ∀ key payment', after.payments.get? key = some payment' →
    before.payments.get? key = none ∨ ∃ payment, before.payments.get? key = some payment ∧
      ∀ now, payment'.isLive now = true → payment.isLive now = true
  one : ∀ key key' payment payment', before.payments.get? key = none →
    before.payments.get? key' = none → after.payments.get? key = some payment →
    after.payments.get? key' = some payment' → key = key'
  new : ∀ key payment' parentKey, before.payments.get? key = none →
    after.payments.get? key = some payment' → payment'.reissuedFromId = some parentKey →
    session.MintsFor before parentKey

section Offers

variable {before after : Tables} {session : TillSession}

theorem TillSession.Offers.of_get?
    (hsame : ∀ key, after.payments.get? key = before.payments.get? key) :
    session.Offers before after where
  lineage := by
    refine ⟨fun key payment hget => ⟨payment, (hsame key).trans hget, rfl⟩,
      fun key payment' _ hnone hget _ => ?_⟩
    exact absurd ((hsame key).symm.trans hget) (by simp [hnone])
  kept key payment' hget := .inr ⟨payment', (hsame key).symm.trans hget, fun _ hlive => hlive⟩
  one key key' payment payment' hnone _ hget _ :=
    absurd ((hsame key).symm.trans hget) (by simp [hnone])
  new key payment' _ hnone hget _ := absurd ((hsame key).symm.trans hget) (by simp [hnone])

/-- One new row beside rows that keep their links and their lifetime. -/
theorem TillSession.Offers.insert (change : ℕ → Payment → Payment) (fresh : Payment)
    (hget : ∀ key, after.payments.get? key = if key = before.payments.next then some fresh
      else (before.payments.get? key).map (change key))
    (hlink : ∀ key payment, (change key payment).reissuedFromId = payment.reissuedFromId)
    (hlive : ∀ key payment now, (change key payment).isLive now = payment.isLive now)
    (hfresh : ∀ parentKey, fresh.reissuedFromId = some parentKey →
      session.MintsFor before parentKey ∧ before.payments.get? parentKey ≠ none) :
    session.Offers before after := by
  have hnew : ∀ key payment', before.payments.get? key = none →
      after.payments.get? key = some payment' →
      key = before.payments.next ∧ payment' = fresh := by
    intro key payment' hnone hafter
    rw [hget, hnone] at hafter
    split at hafter
    · next hkey => exact ⟨hkey, (Option.some.inj hafter).symm⟩
    · cases hafter
  have hold : ∀ key payment, before.payments.get? key = some payment →
      after.payments.get? key = some (change key payment) := by
    intro key payment hbefore
    rw [hget, if_neg (Nat.ne_of_lt (Table.lt_next hbefore)), hbefore]
    rfl
  refine ⟨⟨fun key payment hbefore => ⟨_, hold key payment hbefore, hlink key payment⟩,
    fun key payment' parentKey hnone hafter hparent => ?_⟩, fun key payment' hafter => ?_,
    fun key key' payment payment' hnone hnone' hafter hafter' => ?_,
    fun key payment' parentKey hnone hafter hparent => ?_⟩
  · obtain ⟨-, rfl⟩ := hnew key payment' hnone hafter
    exact (hfresh parentKey hparent).2
  · refine (Option.eq_none_or_eq_some _).imp_right ?_
    rintro ⟨payment, hbefore⟩
    obtain rfl := Option.some.inj ((hold key payment hbefore).symm.trans hafter)
    exact ⟨payment, hbefore, fun now hopen => hlive key payment now ▸ hopen⟩
  · exact (hnew key payment hnone hafter).1.trans (hnew key' payment' hnone' hafter').1.symm
  · obtain ⟨-, rfl⟩ := hnew key payment' hnone hafter
    exact (hfresh parentKey hparent).1

/-- A sweep adds no row and opens none again. -/
theorem TillSession.Offers.of_onlyExpires
    (hexpires : OnlyExpires before.payments after.payments) : session.Offers before after := by
  have hknown : ∀ key payment', before.payments.get? key = none →
      after.payments.get? key ≠ some payment' := by
    intro key payment' hnone hget
    rw [hexpires.get?_none hnone] at hget
    cases hget
  refine ⟨⟨fun key payment hget => ?_, fun key payment' _ hnone hget _ => ?_⟩,
    fun key payment' hget => ?_, fun key key' payment payment' hnone _ hget _ => ?_,
    fun key payment' _ hnone hget _ => ?_⟩
  · obtain ⟨payment', hget', rfl | rfl⟩ := hexpires.get? hget
    · exact ⟨_, hget', rfl⟩
    · exact ⟨_, hget', rfl⟩
  · exact (hknown key payment' hnone hget).elim
  · refine (Option.eq_none_or_eq_some _).imp_right ?_
    rintro ⟨payment, hbefore⟩
    obtain ⟨found, hfound, hcase⟩ := hexpires.get? hbefore
    obtain rfl := Option.some.inj (hfound.symm.trans hget)
    refine ⟨payment, hbefore, fun now hlive => ?_⟩
    rcases hcase with rfl | rfl
    · exact hlive
    · rw [Payment.isLive_expire] at hlive
      cases hlive
  · exact (hknown key payment hnone hget).elim
  · exact (hknown key payment' hnone hget).elim

/-- Where the key of a row that is live now belonged before, and what stood there. -/
theorem TillSession.Offers.live (hoffers : session.Offers before after) {now now' : Instant}
    (hclock : now ≤ now') {key : ℕ} {payment' : Payment}
    (hget : after.payments.get? key = some payment') (hlive : payment'.isLive now' = true) :
    before.payments.get? key = none ∨
      ∃ payment, before.payments.get? key = some payment ∧ payment.isLive now = true ∧
        anchor before after key = key := by
  refine (hoffers.kept key payment' hget).imp_right ?_
  rintro ⟨payment, hbefore, hopen⟩
  exact ⟨payment, hbefore, Payment.isLive_of_later hclock (hopen now' hlive),
    anchor_of_known (by simp [hbefore])⟩

/-- A call that has not returned mints for the sale it minted for before. -/
theorem TillSession.MintsFor.anchor (hoffers : session.Offers before after)
    (hrooted : before.Rooted) {other : TillSession} (hsound : other.Sound before) {key : ℕ}
    (hmints : other.MintsFor after key) : other.MintsFor before (anchor before after key) := by
  cases other with
  | reissue call =>
      obtain ⟨hminting, hsale⟩ := hmints
      have hanchored := hoffers.lineage.sameSale hrooted hsale
      rw [anchor_of_known (hsound.2.1 hminting)] at hanchored
      exact ⟨hminting, hanchored⟩
  | create call => exact hmints.elim
  | sweep sweep => exact hmints.elim

theorem TillSession.Sound.mono (hlineage : before.KeepsLineage after) {other : TillSession}
    (hsound : other.Sound before) : other.Sound after := by
  have hknown : ∀ key, before.payments.get? key ≠ none → after.payments.get? key ≠ none := by
    intro key hknown
    obtain ⟨payment, hpayment⟩ := Option.ne_none_iff_exists'.mp hknown
    obtain ⟨payment', hpayment', -⟩ := hlineage.old key payment hpayment
    simp [hpayment']
  cases other with
  | create call => exact hsound
  | reissue call =>
      exact ⟨fun parent hphase => hknown _ (hsound.1 parent hphase),
        fun hminting => hknown _ (hsound.2.1 hminting), hsound.2.2⟩
  | sweep session => exact hsound

end Offers

/-! ## Every step -/

/-- The payment whose replacements the session looks for in its next step. -/
def TillSession.looks : TillSession → Option ℕ
  | .reissue call =>
      match call.phase with
      | .look _ => some call.parentId
      | .begin | .mint _ | .insert _ _ _ | .returned _ | .failed _ | .refused _ => none
  | .create _ | .sweep _ => none

/-- A call is covered when, as it looks, every live code of the sale is the one it
looks at, and no other call mints for the sale. -/
def Tills.Covered (pool : Tills) : Turn TillRequest ℕ → Prop
  | .start _ => True
  | .advance index elapsed => ∀ session ∈ pool.sessions[index]?, ∀ parentId ∈ session.looks,
      (∀ key payment, pool.shared.db.tables.payments.get? key = some payment →
        payment.isLive (pool.shared.clock + elapsed) = true →
        pool.shared.db.tables.SameSale key parentId →
        liveSuccessor pool.shared.db.tables parentId = some (key, payment)) ∧
      ∀ other ∈ pool.sessions.eraseIdx index,
        ¬ other.MintsFor pool.shared.db.tables parentId

section Step

variable {pool : Tills} {index : ℕ} {session : TillSession}

/-- What a session that moved owes the pool. -/
theorem Tills.Orderly.advance (horderly : pool.Orderly)
    (hat : pool.sessions[index]? = some session) {moved : TillSession} {db : Database}
    {clock : Instant} (hclock : pool.shared.clock ≤ clock)
    (hoffers : session.Offers pool.shared.db.tables db.tables)
    (htaken : ∀ key, moved.MintsFor pool.shared.db.tables key →
      session.MintsFor pool.shared.db.tables key ∨
        ∀ other ∈ pool.sessions.eraseIdx index, ¬ other.MintsFor pool.shared.db.tables key)
    (hbarren : ∀ key payment, moved.MintsFor db.tables key →
      db.tables.payments.get? key = some payment → payment.isLive clock = false)
    (hsound : moved.Sound pool.shared.db.tables) :
    Tills.Orderly ⟨⟨clock, db⟩, pool.sessions.set index moved⟩ := by
  have hrooted := horderly.rooted
  have hsounds : ∀ member ∈ pool.sessions.set index moved,
      member.Sound pool.shared.db.tables := by
    intro member hmember
    rcases List.mem_or_eq_of_mem_set hmember with hold | rfl
    · exact horderly.sound member hold
    · exact hsound
  have hanchored : ∀ member ∈ pool.sessions.set index moved, ∀ key,
      member.MintsFor db.tables key →
      member.MintsFor pool.shared.db.tables (anchor pool.shared.db.tables db.tables key) :=
    fun member hmember key hmints => hmints.anchor hoffers hrooted (hsounds member hmember)
  have hapart : Pool.Apart (TillSession.MintsFor pool.shared.db.tables)
      ⟨(⟨clock, db⟩ : World), pool.sessions.set index moved⟩ :=
    horderly.apart.set hat _ htaken
  -- what the session mints for has no live code
  have hempty : ∀ key payment parentKey, session.MintsFor pool.shared.db.tables parentKey →
      pool.shared.db.tables.SameSale key parentKey →
      pool.shared.db.tables.payments.get? key = some payment →
      payment.isLive pool.shared.clock = false := by
    intro key payment parentKey hmints hsale hget
    refine horderly.barren session (List.mem_of_getElem? hat) key payment ?_ hget
    cases session with
    | reissue call => exact ⟨hmints.1, .trans _ _ _ hmints.2 hsale.symm⟩
    | create call => exact hmints.elim
    | sweep sweep => exact hmints.elim
  refine ⟨hoffers.lineage.rooted hrooted, ?_, hapart.map _ hanchored, ?_,
    fun member hmember => (hsounds member hmember).mono hoffers.lineage⟩
  · -- a live code that was there before and a new one are never of one sale
    have hmixed : ∀ key key' payment payment', db.tables.payments.get? key = some payment →
        db.tables.payments.get? key' = some payment' → payment.isLive clock = true →
        db.tables.SameSale key key' → pool.shared.db.tables.payments.get? key ≠ none →
        pool.shared.db.tables.payments.get? key' ≠ none := by
      intro key key' payment payment' hget hget' hlive hsale hold hnew
      have hsale' := hoffers.lineage.sameSale hrooted hsale
      rcases hoffers.live hclock hget hlive with hnone | ⟨before, hbefore, hwas, hanchor⟩
      · exact hold hnone
      · rw [hanchor] at hsale'
        cases hlink : payment'.reissuedFromId with
        | none =>
            rw [anchor_of_original hget' hlink] at hsale'
            have hsame := hrooted.eq_of_unknown hsale' hnew
            exact hold (hsame ▸ hnew)
        | some parentKey =>
            rw [anchor_of_reissued hnew hget' hlink] at hsale'
            have hdead := hempty key before parentKey
              (hoffers.new key' payment' parentKey hnew hget' hlink) hsale' hbefore
            rw [hwas] at hdead
            cases hdead
    intro key key' payment payment' hget hget' hlive hlive' hsale
    rcases hoffers.live hclock hget hlive with hnone | ⟨before, hbefore, hwas, hanchor⟩
    · by_cases hnone' : pool.shared.db.tables.payments.get? key' = none
      · exact hoffers.one key key' payment payment' hnone hnone' hget hget'
      · exact absurd hnone (hmixed key' key payment' payment hget' hget hlive' hsale.symm hnone')
    · rcases hoffers.live hclock hget' hlive' with hnone' | ⟨before', hbefore', hwas', hanchor'⟩
      · exact absurd hnone' (hmixed key key' payment payment' hget hget' hlive hsale
          (by simp [hbefore]))
      · have hsale' := hoffers.lineage.sameSale hrooted hsale
        rw [hanchor, hanchor'] at hsale'
        exact horderly.single key key' before before' hbefore hbefore' hwas hwas' hsale'
  · intro member hmember key payment hmints hget
    rcases List.mem_iff_getElem?.mp hmember with ⟨position, hposition⟩
    rcases Pool.getElem?_set_cases hposition with ⟨-, rfl⟩ | ⟨hne, hold⟩
    · exact hbarren key payment hmints hget
    · by_contra hlive
      rw [Bool.not_eq_false] at hlive
      have hbefore := hanchored member hmember key hmints
      rcases hoffers.live hclock hget hlive with hnone | ⟨row, hrow, hwas, hanchor⟩
      · -- a new code of a sale that somebody else mints for
        cases hlink : payment.reissuedFromId with
        | none =>
            rw [anchor_of_original hget hlink] at hbefore
            cases member with
            | reissue call =>
                have hknown := (horderly.sound _ (List.mem_of_getElem? hold)).2.1 hmints.1
                exact hknown (hrooted.eq_of_unknown hbefore.2 hnone ▸ hnone)
            | create call => exact hmints
            | sweep sweep => exact hmints
        | some parentKey =>
            rw [anchor_of_reissued hnone hget hlink] at hbefore
            exact hne (horderly.apart position index member session hold hat parentKey hbefore
              (hoffers.new key payment parentKey hnone hget hlink))
      · rw [hanchor] at hbefore
        have hdead := horderly.barren member (List.mem_of_getElem? hold) key row hbefore hrow
        rw [hwas] at hdead
        cases hdead

/-- A session that writes nothing keeps or gives up the sale it mints for. -/
theorem Tills.Orderly.still (horderly : pool.Orderly)
    (hat : pool.sessions[index]? = some session) {moved : TillSession} {clock : Instant}
    (hclock : pool.shared.clock ≤ clock)
    (hmints : ∀ key, moved.MintsFor pool.shared.db.tables key →
      session.MintsFor pool.shared.db.tables key)
    (hsound : moved.Sound pool.shared.db.tables) :
    Tills.Orderly ⟨⟨clock, pool.shared.db⟩, pool.sessions.set index moved⟩ := by
  refine horderly.advance hat hclock (.of_get? fun _ => rfl)
    (fun key hkey => .inl (hmints key hkey)) (fun key payment hkey hget => ?_) hsound
  have hdead := horderly.barren session (List.mem_of_getElem? hat) key payment (hmints key hkey)
    hget
  by_contra hlive
  rw [Payment.isLive_of_later hclock (Bool.not_eq_false _ ▸ hlive)] at hdead
  cases hdead

theorem Tills.Orderly.create (settings : Settings) (horderly : pool.Orderly) {call : CreateCall}
    (hat : pool.sessions[index]? = some (.create call)) {now : Instant}
    (hclock : pool.shared.clock ≤ now) :
    Tills.Orderly ⟨⟨now, (call.advance settings now pool.shared.db).1⟩,
      pool.sessions.set index (.create (call.advance settings now pool.shared.db).2)⟩ := by
  have hsound := horderly.sound _ (List.mem_of_getElem? hat)
  have hmoved := call.moved settings now pool.shared.db
  generalize call.advance settings now pool.shared.db = moved at hmoved
  have hstill : ∀ moved : CreateCall, (TillSession.create moved).Sound pool.shared.db.tables →
      Tills.Orderly ⟨⟨now, pool.shared.db⟩, pool.sessions.set index (.create moved)⟩ :=
    fun moved hmoved => horderly.still hat hclock (fun key hmints => hmints.elim) hmoved
  cases hmoved with
  | ended hphase => exact hstill _ hsound
  | failed failure hunderway => exact hstill _ fun payment hinsert => by cases hinsert
  | opened store linkId link hphase => exact hstill _ fun payment hinsert => by cases hinsert
  | replayed paymentId payment hunderway hfound =>
      exact hstill _ fun payment hinsert => by cases hinsert
  | unknown store linkId link hphase hnone =>
      exact hstill _ fun payment hinsert => by cases hinsert
  | minted store linkId link minted hphase =>
      refine hstill _ fun payment hinsert => ?_
      cases hinsert
      rfl
  | refused payment hphase hinvalid => exact hstill _ fun payment hinsert => by cases hinsert
  | inserted payment hphase hvalid =>
      have hlink : payment.reissuedFromId = none := hsound payment hphase
      have hoffers : (TillSession.create call).Offers pool.shared.db.tables
          (insertPayment pool.shared.db.tables payment) := by
        refine .insert (fun _ row => row) payment (fun key => ?_) (fun _ _ => rfl)
          (fun _ _ _ => rfl) fun parentKey hparent => ?_
        · rw [Option.map_id']
          exact Table.get?_insert _ _ _
        · rw [hlink] at hparent
          cases hparent
      exact horderly.advance hat hclock hoffers (fun key hmints => hmints.elim)
        (fun key row hmints => hmints.elim) fun payment hinsert => by cases hinsert

theorem Tills.Orderly.reissue (settings : Settings) (horderly : pool.Orderly)
    {call : ReissueCall} (hat : pool.sessions[index]? = some (.reissue call)) {elapsed : ℕ}
    {now : Instant} (hnow : now = pool.shared.clock + elapsed)
    (hcovered : pool.Covered (.advance index elapsed)) :
    Tills.Orderly ⟨⟨now, (call.advance settings now pool.shared.db).1⟩,
      pool.sessions.set index (.reissue (call.advance settings now pool.shared.db).2)⟩ := by
  have hclock : pool.shared.clock ≤ now := hnow ▸ Int.le_add_of_nonneg_right (Int.natCast_nonneg _)
  obtain ⟨hlook, hminting, hinsert⟩ := horderly.sound _ (List.mem_of_getElem? hat)
  have hmoved := call.moved settings now pool.shared.db
  generalize call.advance settings now pool.shared.db = moved at hmoved
  -- a call that is over mints for no sale
  have hover : ∀ phase, ReissueCall.minting { call with phase := phase } = false →
      (∀ parent, phase ≠ .look parent) →
      Tills.Orderly ⟨⟨now, pool.shared.db⟩,
        pool.sessions.set index (.reissue { call with phase := phase })⟩ := by
    intro phase hnot hnotLook
    refine horderly.still hat hclock (fun key hmints => ?_)
      ⟨fun parent hphase => absurd hphase (hnotLook parent), fun hmints => ?_,
        fun parent successor mintedAt hphase => ?_⟩
    · exact absurd (hnot.symm.trans hmints.1) Bool.false_ne_true
    · exact absurd (hnot.symm.trans hmints) Bool.false_ne_true
    · change phase = _ at hphase
      subst hphase
      cases hnot
  cases hmoved with
  | ended hphase =>
      exact horderly.still hat hclock (fun key hmints => hmints) ⟨hlook, hminting, hinsert⟩
  | failed failure => exact hover _ rfl fun parent hphase => by cases hphase
  | replayed paymentId => exact hover _ rfl fun parent hphase => by cases hphase
  | refused => exact hover _ rfl fun parent hphase => by cases hphase
  | loaded parent hphase hparent =>
      refine horderly.still hat hclock (fun key hmints => ?_)
        ⟨fun _ _ => by simp [hparent], fun hmints => ?_, fun _ _ _ hphase => ?_⟩
      · cases hmints.1
      · cases hmints
      · cases hphase
  | found parent hphase hnone =>
      have hlooks : (TillSession.reissue call).looks = some call.parentId := by
        simp only [TillSession.looks, hphase]
      obtain ⟨hlive, hothers⟩ := hcovered (.reissue call) hat call.parentId hlooks
      refine horderly.advance hat hclock (.of_get? fun _ => rfl) (fun key hmints => .inr ?_)
        (fun key payment hmints hget => ?_)
        ⟨fun _ hlooks => ?_, fun _ => hlook parent hphase, fun _ _ _ hinserts => ?_⟩
      · intro other hother hmintsToo
        refine hothers other hother ?_
        cases other with
        | reissue other => exact ⟨hmintsToo.1, .trans _ _ _ hmintsToo.2 hmints.2.symm⟩
        | create other => exact hmintsToo
        | sweep other => exact hmintsToo
      · by_contra hdead
        have hopen := (Bool.not_eq_false _).mp hdead
        have hfound := hlive key payment hget (hnow ▸ hopen) hmints.2.symm
        exact hdead (isLive_of_payableSuccessor hnone hfound)
      · cases hlooks
      · cases hinserts
  | minted parent minted hphase =>
      have hminted : call.minting = true := by rw [ReissueCall.minting, hphase]
      refine horderly.still hat hclock (fun key hmints => ⟨hminted, hmints.2⟩)
        ⟨fun _ hlooks => ?_, fun _ => hminting hminted, fun _ _ _ hinserts => ?_⟩
      · cases hlooks
      · cases hinserts
        rfl
  | inserted parent successor mintedAt hphase hvalid =>
      have hminted : call.minting = true := by rw [ReissueCall.minting, hphase]
      have hlink := hinsert parent successor mintedAt hphase
      have hoffers : (TillSession.reissue call).Offers pool.shared.db.tables
          (insertSuccessor pool.shared.db.tables call.parentId parent successor mintedAt) := by
        refine .insert (fun key row => if key = call.parentId then
            { row with attemptHistory :=
              (parent.recordReissue successor.publicId mintedAt).attemptHistory }
          else row) successor (get?_insertSuccessor _ _ _ _ _) (fun key row => ?_)
          (fun key row _ => ?_) fun parentKey hparent => ?_
        · split <;> rfl
        · split <;> rfl
        · rw [hlink] at hparent
          obtain rfl := Option.some.inj hparent
          exact ⟨⟨hminted, .refl _⟩, hminting hminted⟩
      refine horderly.advance hat hclock hoffers (fun key hmints => ?_)
        (fun key row hmints => ?_)
        ⟨fun _ hlooks => ?_, fun hmints => ?_, fun _ _ _ hinserts => ?_⟩
      · cases hmints.1
      · cases hmints.1
      · cases hlooks
      · cases hmints
      · cases hinserts

theorem Tills.Orderly.step (settings : Settings) (horderly : pool.Orderly)
    (turn : Turn TillRequest ℕ) (hcovered : pool.Covered turn) :
    Tills.Orderly (next (tills settings).step pool turn) := by
  cases turn with
  | start request =>
      have hidle : ∀ key, ¬ (TillSession.start request).MintsFor pool.shared.db.tables key := by
        cases request with
        | createPayment rail storeId request publicId => exact fun key hmints => hmints
        | reissuePayment rail parentId publicId => exact fun key hmints => by cases hmints.1
        | expireDuePayments => exact fun key hmints => hmints
      have hsound : (TillSession.start request).Sound pool.shared.db.tables := by
        cases request with
        | createPayment rail storeId request publicId =>
            exact fun payment hinsert => by cases hinsert
        | reissuePayment rail parentId publicId =>
            refine ⟨fun parent hlook => ?_, fun hmints => ?_,
              fun parent successor mintedAt hinsert => ?_⟩
            · cases hlook
            · cases hmints
            · cases hinsert
        | expireDuePayments => exact .inl ⟨rfl, rfl, rfl⟩
      refine ⟨horderly.rooted, horderly.single, horderly.apart.append hidle,
        fun session hsession key payment hmints => ?_, fun session hsession => ?_⟩
      · rcases List.mem_append.mp hsession with hold | hnew
        · exact horderly.barren session hold key payment hmints
        · rw [List.mem_singleton.mp hnew] at hmints
          exact (hidle key hmints).elim
      · rcases List.mem_append.mp hsession with hold | hnew
        · exact horderly.sound session hold
        · rw [List.mem_singleton.mp hnew]
          exact hsound
  | advance index elapsed =>
      cases hat : pool.sessions[index]? with
      | none =>
          rw [next_advance_of_none hat]
          exact horderly
      | some session =>
          rw [next_advance_of_some hat]
          have hclock : pool.shared.clock ≤ pool.shared.clock + (elapsed : Int) :=
            Int.le_add_of_nonneg_right (Int.natCast_nonneg _)
          cases session with
          | create call => exact horderly.create settings hat hclock
          | reissue call => exact horderly.reissue settings hat rfl hcovered
          | sweep session =>
              have hsweeping : session.Sweeping := horderly.sound _ (List.mem_of_getElem? hat)
              obtain ⟨hexpires, hsound⟩ := hsweeping.advance settings
                (pool.shared.clock + elapsed) pool.shared.db
              exact horderly.advance hat hclock (.of_onlyExpires hexpires)
                (fun key hmints => hmints.elim) (fun key row hmints => hmints.elim) hsound

end Step

/-! ## Every run -/

/-- In every interleaving of re-issues, new sales and expiry sweeps in which each
re-issue looks at every live code of its sale and mints for it alone, no sale has two
live codes, at any moment. -/
theorem reissued_sale_single_code {settings : Settings} {pool : Tills}
    (hidle : pool.sessions = []) (hrooted : pool.shared.db.tables.Rooted)
    (hsingle : SinglePayable pool.shared.db.tables pool.shared.clock)
    {turns : List (Turn TillRequest ℕ)}
    (hcovered : Along (tills settings).step Tills.Covered pool turns) {moment : Instant}
    (hmoment : (run (tills settings).step pool turns).shared.clock ≤ moment) :
    SinglePayable (run (tills settings).step pool turns).shared.db.tables moment := by
  have hnobody : ∀ session, session ∉ pool.sessions := by
    intro session hsession
    rw [hidle] at hsession
    cases hsession
  have horderly : pool.Orderly := by
    refine ⟨hrooted, hsingle, fun index other session session' hat => ?_,
      fun session hsession => (hnobody session hsession).elim,
      fun session hsession => (hnobody session hsession).elim⟩
    exact (hnobody session (List.mem_of_getElem? hat)).elim
  have hrun := run_invariant_of_along _ _ (fun _ turn hpool => hpool.step settings turn) horderly
    hcovered
  exact hrun.single.later hmoment

/-- Whether a call is past its look. -/
def TillSession.isMinting : TillSession → Bool
  | .reissue call => call.minting
  | .create _ | .sweep _ => false

/-- Covered whatever the sales are: the call looks at every live code there is, and
no other call mints at all. -/
def Tills.Undisputed (pool : Tills) : Turn TillRequest ℕ → Prop
  | .start _ => True
  | .advance index elapsed => ∀ session ∈ pool.sessions[index]?, ∀ parentId ∈ session.looks,
      (∀ row ∈ pool.shared.db.tables.payments.rows,
        row.2.isLive (pool.shared.clock + elapsed) = true →
        liveSuccessor pool.shared.db.tables parentId = some row) ∧
      ∀ other ∈ pool.sessions.eraseIdx index, other.isMinting = false

instance (pool : Tills) : ∀ turn, Decidable (pool.Undisputed turn)
  | .start _ => inferInstanceAs (Decidable True)
  | .advance index elapsed => inferInstanceAs (Decidable
      (∀ session ∈ pool.sessions[index]?, ∀ parentId ∈ session.looks,
        (∀ row ∈ pool.shared.db.tables.payments.rows,
          row.2.isLive (pool.shared.clock + elapsed) = true →
          liveSuccessor pool.shared.db.tables parentId = some row) ∧
        ∀ other ∈ pool.sessions.eraseIdx index, other.isMinting = false))

theorem Tills.Undisputed.covered {pool : Tills} {turn : Turn TillRequest ℕ}
    (hundisputed : pool.Undisputed turn) : pool.Covered turn := by
  cases turn with
  | start request => trivial
  | advance index elapsed =>
      intro session hsession parentId hlooks
      obtain ⟨hlive, hothers⟩ := hundisputed session hsession parentId hlooks
      refine ⟨fun key payment hget hopen _ => hlive (key, payment)
        (Table.get?_eq_some_iff.mp hget) hopen, fun other hother hmints => ?_⟩
      have hnot := hothers other hother
      cases other with
      | reissue call => exact absurd (hnot.symm.trans hmints.1) Bool.false_ne_true
      | create call => exact hmints
      | sweep session => exact hmints

/-- One call from its first step to its last. -/
def Specimen.reissue (index parentId : ℕ) (publicId : String) : List (Turn TillRequest ℕ) :=
  .start (.reissuePayment Specimen.rail parentId publicId) ::
    List.replicate 4 (.advance index 1000000)

/-- A sweep some seconds later. -/
def Specimen.sweep (index elapsed : ℕ) : List (Turn TillRequest ℕ) :=
  [.start .expireDuePayments, .advance index (elapsed * 1000000), .advance index 0]

/-- The code lapses, is re-issued, and is asked for once more. -/
def askedTwice : List (Turn TillRequest ℕ) :=
  Specimen.sweep 0 340 ++ Specimen.reissue 1 0 "pay_2" ++ Specimen.reissue 2 0 "pay_3"

/-- The code lapses, so does its replacement, and both are re-issued. -/
def reissuedBoth : List (Turn TillRequest ℕ) :=
  Specimen.sweep 0 340 ++ Specimen.reissue 1 0 "pay_2" ++ Specimen.sweep 2 340 ++
    Specimen.reissue 3 1 "pay_3" ++ Specimen.reissue 4 0 "pay_4"

theorem Specimen.rooted_sale : Specimen.sale.tables.Rooted := by
  have hroots : ∀ row ∈ Specimen.sale.tables.payments.rows, row.2.reissuedFromId = none := by
    decide +kernel
  intro key payment parentKey hget hlink
  rw [hroots (key, payment) (Table.get?_eq_some_iff.mp hget)] at hlink
  cases hlink

theorem Specimen.single_sale (now : Instant) : SinglePayable Specimen.sale.tables now := by
  have hkeys : ∀ row ∈ Specimen.sale.tables.payments.rows, row.1 = 0 := by decide +kernel
  intro key key' payment payment' hget hget' _ _ _
  exact (hkeys _ (Table.get?_eq_some_iff.mp hget)).trans
    (hkeys _ (Table.get?_eq_some_iff.mp hget')).symm

theorem reissued_sale_single_code_asked_twice :
    (run (ChmabaPay.tills {}).step Specimen.tills askedTwice).shared.db.tables.payments.next = 2 ∧
      SinglePayable (run (ChmabaPay.tills {}).step Specimen.tills askedTwice).shared.db.tables
        (seconds 1000) :=
  ⟨by decide +kernel, reissued_sale_single_code rfl Specimen.rooted_sale (Specimen.single_sale _)
    (Along.imp (fun _ _ hundisputed => Tills.Undisputed.covered hundisputed)
      (by decide +kernel : Along (ChmabaPay.tills {}).step Tills.Undisputed Specimen.tills
        askedTwice)) (by decide +kernel)⟩

theorem reissued_sale_two_codes :
    ¬ SinglePayable (run (ChmabaPay.tills {}).step Specimen.tills reissuedBoth).shared.db.tables
      (run (ChmabaPay.tills {}).step Specimen.tills reissuedBoth).shared.clock := by
  set final := run (ChmabaPay.tills {}).step Specimen.tills reissuedBoth with hfinal
  have hthird : (final.shared.db.tables.payments.get? 2).map
      (Payment.isLive final.shared.clock) = some true := by decide +kernel
  have hfourth : (final.shared.db.tables.payments.get? 3).map
      (Payment.isLive final.shared.clock) = some true := by decide +kernel
  have hlinks : final.shared.db.tables.reissuedFrom 1 = some 0 ∧
      final.shared.db.tables.reissuedFrom 2 = some 1 ∧
      final.shared.db.tables.reissuedFrom 3 = some 0 := by decide +kernel
  obtain ⟨payment, hget, hlive⟩ := Option.map_eq_some_iff.mp hthird
  obtain ⟨payment', hget', hlive'⟩ := Option.map_eq_some_iff.mp hfourth
  obtain ⟨hfirst, hsecond, hlast⟩ := hlinks
  have hsale : final.shared.db.tables.SameSale 2 3 :=
    .trans _ _ _ (.symm _ _ (.rel 1 2 hsecond))
      (.trans _ _ _ (.symm _ _ (.rel 0 1 hfirst)) (.rel 0 3 hlast))
  intro hsingle
  exact absurd (hsingle 2 3 payment payment' hget hget' hlive hlive' hsale) (by decide)

end ChmabaPay
