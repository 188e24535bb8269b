import ChmabaPay.Foundation.Execution
import ChmabaPay.Foundation.Fallible
import ChmabaPay.Services.Provisioning
import ChmabaPay.Specimen

/-! # One link for each currency

What the calls of `services/stores.py` write, construct by construct. A store never holds
two links of a currency, though no call relies on the index that says so, and a call that
fails has committed nothing.
-/

namespace ChmabaPay

open Calendar Relational Staging Execution Fallible

/-- No store holds two links for one currency. -/
def LinkPerCurrency (tables : Tables) : Prop :=
  ∀ key key' link link', tables.links.get? key = some link →
    tables.links.get? key' = some link' → link.storeId = link'.storeId →
    link.currency = link'.currency → key = key'

/-- `uq_store_link_currency`. -/
def sameLinkCurrency (first second : PaymentLink) : Prop :=
  first.storeId = second.storeId ∧ first.currency = second.currency

instance : DecidableRel sameLinkCurrency := fun _ _ => inferInstanceAs (Decidable (_ ∧ _))

theorem linkPerCurrency_iff {tables : Tables} :
    LinkPerCurrency tables ↔ tables.links.Unique sameLinkCurrency := by
  have hsymm : ∀ first second, sameLinkCurrency first second → sameLinkCurrency second first :=
    fun _ _ hsame => ⟨hsame.1.symm, hsame.2.symm⟩
  rw [Table.unique_iff hsymm]
  constructor
  · intro hlinks key key' link link' hget hget' hsame
    exact hlinks key key' link link' hget hget' hsame.1 hsame.2
  · intro hunique key key' link link' hget hget' hstore hcurrency
    exact hunique key key' link link' hget hget' ⟨hstore, hcurrency⟩

instance (tables : Tables) : Decidable (LinkPerCurrency tables) :=
  decidable_of_iff _ linkPerCurrency_iff.symm

/-! ## Writing one destination -/

/-- What PayWay's page makes of a link. -/
def linkAnswer (payway : PayWay) (payload : LinkCreate) : Verification :=
  if (verifyLink payway payload.currency (pythonStrip payload.rawLink.toList)).outcome = .ok
  then .verified else .unverified

theorem resolveLink_eq_ok {settings : Settings} {payway : PayWay} {payload named : LinkCreate}
    {verification : Verification}
    (hresolve : resolveLink settings payway payload = .ok (verification, named)) :
    verification = linkAnswer payway payload ∧ named.currency = payload.currency ∧
      named.rawLink = payload.rawLink := by
  simp only [resolveLink] at hresolve
  split at hresolve
  · cases hresolve
  · split at hresolve
    · cases hresolve
    · split at hresolve
      · cases hresolve
      · split at hresolve
        · next hok =>
          obtain ⟨rfl, rfl⟩ := Prod.mk.inj (Except.ok.inj hresolve)
          refine ⟨by simp [linkAnswer, hok], ?_⟩
          unfold LinkCreate.named
          split <;> exact ⟨rfl, rfl⟩
        · next hok =>
          obtain ⟨rfl, rfl⟩ := Prod.mk.inj (Except.ok.inj hresolve)
          exact ⟨by simp [linkAnswer, hok], rfl, rfl⟩

section Attach

variable {tables attached : Tables} {storeId : ℕ} {payload : LinkCreate}
  {verification : Verification}

/-- A destination is inserted where the store has none for the currency, and replaced
where it has the one. -/
theorem attachLinkToStore_eq_ok
    (hattach : attachLinkToStore tables storeId payload verification = .ok attached) :
    ((∀ key link, tables.links.get? key = some link → link.storeId = storeId →
        link.currency ≠ payload.currency) ∧
      attached = { tables with
        links := tables.links.insert (newLink storeId payload verification) }) ∨
    ∃ linkId link, tables.links.get? linkId = some link ∧ link.storeId = storeId ∧
      link.currency = payload.currency ∧
      (∀ key other, tables.links.get? key = some other → other.storeId = storeId →
        other.currency = payload.currency → key = linkId) ∧
      attached = { tables with
        links := tables.links.update linkId (PaymentLink.replace payload verification) } := by
  simp only [attachLinkToStore, bind_eq_ok] at hattach
  obtain ⟨found, hfound, hattach⟩ := hattach
  have hselected : ∀ key link, tables.links.get? key = some link → link.storeId = storeId →
      link.currency = payload.currency → (key, link) ∈ tables.links.select fun _ link =>
        decide (link.storeId = storeId) && decide (link.currency = payload.currency) :=
    fun key link hget hstore hcurrency =>
      Table.mem_select.mpr ⟨hget, by simp [hstore, hcurrency]⟩
  cases found with
  | none =>
      refine .inl ⟨fun key link hget hstore hcurrency => ?_, (pure_eq_ok.mp hattach).symm⟩
      have hmem := hselected key link hget hstore hcurrency
      rw [oneOrNone_eq_none hfound] at hmem
      cases hmem
  | some row =>
      obtain ⟨linkId, link⟩ := row
      have hmem : (linkId, link) ∈ tables.links.select fun _ link =>
          decide (link.storeId = storeId) && decide (link.currency = payload.currency) := by
        rw [oneOrNone_eq_some hfound]
        exact List.mem_singleton_self _
      obtain ⟨hget, hkeep⟩ := Table.mem_select.mp hmem
      simp only [Bool.and_eq_true, decide_eq_true_eq] at hkeep
      refine .inr ⟨linkId, link, hget, hkeep.1, hkeep.2, fun key other hother hstore hcurrency =>
        ?_, (pure_eq_ok.mp hattach).symm⟩
      have hrow := hselected key other hother hstore hcurrency
      rw [oneOrNone_eq_some hfound] at hrow
      exact congrArg Prod.fst (List.mem_singleton.mp hrow)

/-- The links after a destination was written: the others as they were, and for its
currency the one that was sent. -/
theorem LinkPerCurrency.attach (hlinks : LinkPerCurrency tables)
    (hattach : attachLinkToStore tables storeId payload verification = .ok attached) :
    LinkPerCurrency attached := by
  intro key key' first second hfirst hsecond hstore hcurrency
  rcases attachLinkToStore_eq_ok hattach with
    ⟨hfree, rfl⟩ | ⟨linkId, link, hget, hlinkStore, hlinkCurrency, -, rfl⟩
  · simp only [Table.get?_insert] at hfirst hsecond
    split at hfirst <;> split at hsecond
    · next hkey hkey' => exact hkey.trans hkey'.symm
    · obtain rfl := Option.some.inj hfirst
      exact absurd hcurrency.symm (hfree key' second hsecond hstore.symm)
    · obtain rfl := Option.some.inj hsecond
      exact absurd hcurrency (hfree key first hfirst hstore)
    · exact hlinks key key' first second hfirst hsecond hstore hcurrency
  · -- a replaced link keeps its key, its store and its currency
    have hback : ∀ key row,
        (tables.links.update linkId (PaymentLink.replace payload verification)).get? key =
          some row → ∃ row', tables.links.get? key = some row' ∧ row'.storeId = row.storeId ∧
            row'.currency = row.currency := by
      intro key row hrow
      rw [Table.get?_update] at hrow
      split at hrow
      · next hkey =>
        subst hkey
        rw [hget] at hrow
        obtain rfl := Option.some.inj hrow
        exact ⟨link, hget, rfl, hlinkCurrency⟩
      · exact ⟨row, hrow, rfl, rfl⟩
    obtain ⟨first', hfirst', hfirstStore, hfirstCurrency⟩ := hback key first hfirst
    obtain ⟨second', hsecond', hsecondStore, hsecondCurrency⟩ := hback key' second hsecond
    refine hlinks key key' first' second' hfirst' hsecond' ?_ ?_
    · rw [hfirstStore, hsecondStore, hstore]
    · rw [hfirstCurrency, hsecondCurrency, hcurrency]

end Attach

/-! ## What a call stages and commits -/

/-- A property that every construct of a call keeps. -/
structure Tables.KeptByWrites (kept : Tables → Prop) : Prop where
  stores : ∀ tables stores, kept tables → kept { tables with stores }
  audit : ∀ tables audit, kept tables → kept { tables with audit }
  attach : ∀ tables attached storeId payload verification, kept tables →
    attachLinkToStore tables storeId payload verification = .ok attached → kept attached

section Calls

variable {settings : Settings} {payway : PayWay} {rows : Tables} {storeId actorId : ℕ}
  {nulls : Bool} {promotes : StoreStatus → Bool} {recordsCurrency : Bool}

theorem flushStores_stages {before : Tables → Prop} :
    Stages rows before (flushStores nulls) fun _ => before :=
  Stages.query fun _ _ hbefore _ => hbefore

/-- Writing one destination, with what each step of it leaves. -/
theorem setLink_stages {before : Tables → Prop} {after : PUnit → Tables → Prop}
    {payload : LinkCreate}
    (hafter : ∀ staged verification named attached, before staged →
      resolveLink settings payway payload = .ok (verification, named) →
      attachLinkToStore staged storeId named verification = .ok attached →
      ∀ action, after ⟨⟩ (recordAudit (promoteStore storeId promotes verification attached)
        (some actorId) storeId action)) :
    Stages rows before
      (setLink settings payway actorId storeId nulls promotes recordsCurrency payload) after := by
  refine Stages.query_bind fun answer => ?_
  obtain ⟨verification, named⟩ := answer
  refine Stages.bind flushStores_stages fun _ => Stages.query_bind fun attached => ?_
  refine Stages.stage_bind (Stages.stage_bind (Stages.stage ?_))
  rintro _ ⟨_, ⟨staged, ⟨⟨hbefore, hresolve⟩, hattach⟩, rfl⟩, rfl⟩
  exact hafter staged verification named attached hbefore hresolve hattach _

theorem setLink_keeps {kept : Tables → Prop} (hwrites : Tables.KeptByWrites kept)
    (payload : LinkCreate) :
    Stages rows kept
      (setLink settings payway actorId storeId nulls promotes recordsCurrency payload)
      fun _ => kept := by
  refine setLink_stages fun staged verification named attached hkept _ hattach action => ?_
  exact hwrites.audit _ _ (hwrites.stores _ _ (hwrites.attach _ _ _ _ _ hkept hattach))

/-- Several destinations, one after the other. -/
theorem setLinks_keeps {kept : Tables → Prop} (hwrites : Tables.KeptByWrites kept)
    (links : List LinkCreate) :
    Stages rows kept
      (links.forM (setLink settings payway actorId storeId nulls promotes recordsCurrency))
      fun _ => kept := by
  refine Stages.forM (fun _ => kept) links ?_ fun _ hkept => hkept
  intro _ payload _ _
  exact setLink_keeps hwrites payload

theorem createStore_keeps {kept : Tables → Prop} (hwrites : Tables.KeptByWrites kept)
    {accountId : ℕ} {payload : StoreCreate} {publicId : String} :
    Commits rows kept (createStore settings payway accountId payload publicId) fun _ => kept := by
  refine Commits.query_keeping fun account => Commits.query_keeping fun _ =>
    Commits.query_keeping fun storeId => ?_
  refine Commits.stage_keeping (fun _ hkept => hwrites.stores _ _ hkept) ?_
  refine Commits.bind flushStores_stages fun _ => ?_
  refine Commits.stage_keeping (fun _ hkept => hwrites.audit _ _ hkept) ?_
  refine Commits.query_keeping fun links => Commits.bind (setLinks_keeps hwrites links) fun _ => ?_
  exact Commits.commit fun _ hkept => hkept

theorem attachLink_keeps {kept : Tables → Prop} (hwrites : Tables.KeptByWrites kept)
    {accountId : ℕ} {storePublicId : String} {payload : LinkCreate} :
    Commits rows kept (attachLink settings payway accountId storePublicId payload)
      fun _ => kept := by
  refine Commits.query_keeping fun row => Commits.query_keeping fun _ =>
    Commits.query_keeping fun carried => ?_
  refine Commits.bind (setLink_keeps hwrites carried) fun _ => ?_
  exact Commits.commit fun _ hkept => hkept

theorem patchedLink_stages {before : Tables → Prop} {patch : StorePatch} :
    Stages rows before (patchedLink storeId patch) fun _ => before := by
  unfold patchedLink
  split
  · exact Stages.pure fun _ hbefore => hbefore
  · split
    · exact Stages.pure fun _ hbefore => hbefore
    · refine Stages.bind flushStores_stages fun _ => Stages.bind ?_ fun _ =>
        Stages.pure fun _ hbefore => hbefore
      exact Stages.query fun _ _ hbefore _ => hbefore

theorem updateStore_keeps {kept : Tables → Prop} (hwrites : Tables.KeptByWrites kept)
    {accountId : ℕ} {storePublicId : String} {patch : StorePatch} :
    Commits rows kept (updateStore settings payway accountId storePublicId patch)
      fun _ => kept := by
  refine Commits.query_keeping fun row => Commits.query_keeping fun _ =>
    Commits.query_keeping fun account => Commits.query_keeping fun _ => ?_
  refine Commits.stage_keeping (fun _ hkept => hwrites.stores _ _ hkept) ?_
  refine Commits.stage_keeping (fun _ hkept => ?_) ?_
  · split
    · exact hkept
    · exact hwrites.audit _ _ hkept
  refine Commits.bind patchedLink_stages fun link => Commits.query_keeping fun links => ?_
  refine Commits.bind (setLinks_keeps hwrites links) fun _ => ?_
  refine Commits.bind flushStores_stages fun _ => ?_
  exact Commits.commit fun _ hkept => hkept

theorem disableStore_keeps {kept : Tables → Prop} (hwrites : Tables.KeptByWrites kept)
    {accountId : ℕ} {storePublicId : String} :
    Commits rows kept (disableStore accountId storePublicId) fun _ => kept := by
  refine Commits.query_keeping fun row => ?_
  refine Commits.stage_keeping (fun _ hkept => hwrites.stores _ _ hkept) ?_
  refine Commits.stage_keeping (fun _ hkept => hwrites.audit _ _ hkept) ?_
  exact Commits.commit fun _ hkept => hkept

theorem restoreStore_keeps {kept : Tables → Prop} (hwrites : Tables.KeptByWrites kept)
    (hrows : kept rows) {store : Store} {recordsAccount : Bool} :
    Commits rows kept (restoreStore actorId storeId store recordsAccount) fun _ => kept := by
  unfold restoreStore
  split
  · exact Commits.pure fun _ _ => hrows
  · refine Commits.query_keeping fun restored => ?_
    refine Commits.stage_keeping (fun _ hkept => hwrites.stores _ _ hkept) ?_
    refine Commits.stage_keeping (fun _ hkept => hwrites.audit _ _ hkept) ?_
    exact Commits.commit fun _ hkept => hkept

/-- Whatever the constructs of a call keep, every call keeps. -/
theorem StoreRequest.work_keeps {kept : Tables → Prop} (hwrites : Tables.KeptByWrites kept)
    (hrows : kept rows) (request : StoreRequest) :
    Commits rows kept (request.work settings) fun _ => kept := by
  cases request with
  | create payway accountId payload publicId => exact createStore_keeps hwrites
  | attach payway accountId storePublicId payload => exact attachLink_keeps hwrites
  | update payway accountId storePublicId patch => exact updateStore_keeps hwrites
  | disable accountId storePublicId => exact disableStore_keeps hwrites
  | enable accountId storePublicId =>
      exact Commits.query_keeping fun row => restoreStore_keeps hwrites hrows
  | operatorEnable actorId storePublicId =>
      exact Commits.query_keeping fun row => restoreStore_keeps hwrites hrows

end Calls

/-! ## Every run -/

section Runs

variable {settings : Settings} {tables : Tables}

/-- A call commits rows that keep what its constructs keep, or answers a failure and
commits nothing. -/
theorem provisionStep_cases {kept : Tables → Prop} (hwrites : Tables.KeptByWrites kept)
    (hkept : kept tables) (request : StoreRequest) :
    (∃ storeId, (provisionStep settings tables request).2 = .ok storeId ∧
        kept (provisionStep settings tables request).1) ∨
      ∃ failure, provisionStep settings tables request = (tables, .error failure) := by
  have hcommits : Commits tables kept (request.work settings) fun _ => kept :=
    StoreRequest.work_keeps hwrites hkept request
  refine Commits.call fun staged hstaged => hcommits staged ?_
  exact hstaged ▸ hkept

theorem provisionStep_keeps {kept : Tables → Prop} (hwrites : Tables.KeptByWrites kept)
    (hkept : kept tables) (request : StoreRequest) :
    kept (next (provisionStep settings) tables request) := by
  rcases provisionStep_cases hwrites hkept request with
    ⟨storeId, -, hcommitted⟩ | ⟨failure, hfailed⟩
  · exact hcommitted
  · unfold next
    rw [hfailed]
    exact hkept

theorem linkPerCurrency_keptByWrites : Tables.KeptByWrites LinkPerCurrency where
  stores _ _ hlinks := hlinks
  audit _ _ hlinks := hlinks
  attach _ _ _ _ _ hlinks hattach := hlinks.attach hattach

/-- A call that fails has committed nothing. -/
theorem provisionStep_error (tables : Tables) {request : StoreRequest} {failure : Failure}
    (hfailed : (provisionStep settings tables request).2 = .error failure) :
    (provisionStep settings tables request).1 = tables := by
  have hwrites : Tables.KeptByWrites fun _ => True := ⟨by simp, by simp, by simp⟩
  rcases provisionStep_cases hwrites trivial request with
    ⟨storeId, hanswered, -⟩ | ⟨other, hother⟩
  · rw [hanswered] at hfailed
    cases hfailed
  · rw [hother]

/-- After every run of calls, whichever of them failed, a store holds at most one link
for each currency; and the next call that fails leaves the committed rows as they were. -/
theorem links_kept_apart (settings : Settings) {tables : Tables}
    (hlinks : LinkPerCurrency tables) (requests : List StoreRequest) :
    LinkPerCurrency (run (provisionStep settings) tables requests) ∧
      ∀ request failure,
        (provisionStep settings (run (provisionStep settings) tables requests) request).2 =
          .error failure →
        (provisionStep settings (run (provisionStep settings) tables requests) request).1 =
          run (provisionStep settings) tables requests := by
  constructor
  · refine run_invariant LinkPerCurrency (fun _ => True) ?_ hlinks fun _ _ => trivial
    intro state request hstate _
    exact provisionStep_keeps linkPerCurrency_keptByWrites hstate request
  · intro request failure hfailed
    exact provisionStep_error _ hfailed

end Runs

/-- PayWay has a page for every link. -/
def Specimen.payway : PayWay where
  linkPage := fun _ _ => .page (some "Shop") none
  urlPath := fun _ => none

def Specimen.dollarLink : LinkCreate where
  rawLink := "https://link.payway.com.kh/ABAPAYpe518710Y"
  merchantAccountId := "pe518710Y"

/-- A second shop with a dollar link. -/
def Specimen.secondShop : StoreRequest :=
  .create payway 1 { name := "Second shop", link := some dollarLink } "store_second"

/-- Its name changes and its dollar link is replaced, and then the riel link beside it is
refused. -/
def Specimen.halfRefused : StoreRequest :=
  .update payway 1 "store_second"
    { name := some (some "Renamed"),
      links := some (some [dollarLink, { dollarLink with currency := .khr }]) }

theorem links_kept_apart_half_refused :
    LinkPerCurrency (run (provisionStep {}) Specimen.tables [Specimen.secondShop]) ∧
      (provisionStep {} (run (provisionStep {}) Specimen.tables [Specimen.secondShop])
          Specimen.halfRefused).1 =
        run (provisionStep {}) Specimen.tables [Specimen.secondShop] := by
  have hlinks : LinkPerCurrency Specimen.tables := by decide
  have hkept := links_kept_apart {} hlinks [Specimen.secondShop]
  exact ⟨hkept.1, hkept.2 Specimen.halfRefused (.http 400
    "khr_currency_disabled: KHR stores are not switched on for this deployment yet.") rfl⟩

end ChmabaPay
