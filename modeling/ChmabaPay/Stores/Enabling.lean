import ChmabaPay.Stores.Destinations
import ChmabaPay.Stores.Places

/-! # Bringing a store back

A disabled store comes back through its own account or through an operator, and both
derive its status from the links it holds. The lookup they share takes one row at most,
while a store may hold a link for each currency.
-/

namespace ChmabaPay

open Calendar Relational Staging Execution Fallible

/-! ## Public ids -/

/-- `Store.public_id` is unique among the rows. -/
def PublicIdsUnique (tables : Tables) : Prop := tables.stores.Unique sameStorePublicId

instance (tables : Tables) : Decidable (PublicIdsUnique tables) :=
  inferInstanceAs (Decidable (tables.stores.Unique sameStorePublicId))

section PublicIds

variable {settings : Settings} {payway : PayWay} {tables rows : Tables} {storeId actorId : ℕ}
  {nulls : Bool} {promotes : StoreStatus → Bool} {recordsCurrency : Bool}

theorem publicIdsUnique_iff :
    PublicIdsUnique tables ↔ ∀ key key' store store', tables.stores.get? key = some store →
      tables.stores.get? key' = some store' → store.publicId = store'.publicId → key = key' :=
  Table.unique_iff fun _ _ hsame => hsame.symm

/-- No edit of a call but the creation touches a public id. -/
theorem PublicIdsUnique.update (hunique : PublicIdsUnique tables) {change : Store → Store}
    (hchange : ∀ store, (change store).publicId = store.publicId) :
    PublicIdsUnique { tables with stores := tables.stores.update storeId change } := by
  refine Table.Unique.modify hunique fun key row key' row' _ _ hsame => ?_
  have hrow : ∀ key (row : Store),
      (if key = storeId then change row else row).publicId = row.publicId := by
    intro key row
    split
    · exact hchange row
    · rfl
  exact (hrow key row).symm.trans (hsame.trans (hrow key' row'))

theorem PublicIdsUnique.attach {attached : Tables} {payload : LinkCreate}
    {verification : Verification} (hunique : PublicIdsUnique tables)
    (hattach : attachLinkToStore tables storeId payload verification = .ok attached) :
    PublicIdsUnique attached := by
  rcases attachLinkToStore_eq_ok hattach with ⟨-, rfl⟩ | ⟨_, _, -, -, -, -, rfl⟩
  · exact hunique
  · exact hunique

/-- The database has checked the public ids of what it takes. -/
theorem flushStores_unique {before : Tables → Prop} :
    Stages rows before (flushStores nulls) fun _ => PublicIdsUnique := by
  refine Stages.query fun staged _ _ hflush => ?_
  split at hflush
  · next hchecked => exact hchecked.2.2
  · cases hflush

theorem setLink_unique (payload : LinkCreate) :
    Stages rows PublicIdsUnique
      (setLink settings payway actorId storeId nulls promotes recordsCurrency payload)
      fun _ => PublicIdsUnique := by
  refine setLink_stages fun staged verification named attached hunique _ hattach action => ?_
  exact (hunique.attach hattach).update fun _ => rfl

theorem setLinks_unique (links : List LinkCreate) :
    Stages rows PublicIdsUnique
      (links.forM (setLink settings payway actorId storeId nulls promotes recordsCurrency))
      fun _ => PublicIdsUnique :=
  Stages.forM (fun _ => PublicIdsUnique) links (fun _ payload _ _ => setLink_unique payload)
    fun _ hunique => hunique

theorem restoreStore_unique (hrows : PublicIdsUnique rows) {store : Store}
    {recordsAccount : Bool} :
    Commits rows PublicIdsUnique (restoreStore actorId storeId store recordsAccount)
      fun _ => PublicIdsUnique := by
  unfold restoreStore
  split
  · exact Commits.pure fun _ _ => hrows
  · refine Commits.query_keeping fun restored => ?_
    refine Commits.stage_keeping (fun _ hunique => hunique.update fun _ => rfl) ?_
    refine Commits.stage_keeping (fun _ hunique => hunique) ?_
    exact Commits.commit fun _ hunique => hunique

theorem StoreRequest.work_unique (hrows : PublicIdsUnique rows) (request : StoreRequest) :
    Commits rows PublicIdsUnique (request.work settings) fun _ => PublicIdsUnique := by
  cases request with
  | create payway accountId payload publicId =>
      refine Commits.query_keeping fun account => Commits.query_keeping fun _ =>
        Commits.query_keeping fun storeId => ?_
      -- the new row may repeat a public id until the flush has looked at it
      have hinserted : Stages (ε := Failure) rows PublicIdsUnique
          (stage fun tables => { tables with
            stores := tables.stores.insert (newStore accountId publicId payload) })
          fun _ _ => True := Stages.stage fun _ _ => trivial
      refine Commits.bind hinserted fun _ => Commits.bind flushStores_unique fun _ => ?_
      refine Commits.stage_keeping (fun _ hunique => hunique) ?_
      refine Commits.query_keeping fun links => Commits.bind (setLinks_unique links) fun _ => ?_
      exact Commits.commit fun _ hunique => hunique
  | attach payway accountId storePublicId payload =>
      refine Commits.query_keeping fun row => Commits.query_keeping fun _ =>
        Commits.query_keeping fun carried => ?_
      refine Commits.bind (setLink_unique carried) fun _ => ?_
      exact Commits.commit fun _ hunique => hunique
  | update payway accountId storePublicId patch =>
      refine Commits.query_keeping fun row => Commits.query_keeping fun _ =>
        Commits.query_keeping fun account => Commits.query_keeping fun _ => ?_
      refine Commits.stage_keeping (fun _ hunique => hunique.update fun _ => rfl) ?_
      refine Commits.stage_keeping (fun _ hunique => ?_) ?_
      · split
        · exact hunique
        · exact hunique
      refine Commits.bind patchedLink_stages fun link => Commits.query_keeping fun links => ?_
      refine Commits.bind (setLinks_unique links) fun _ => ?_
      refine Commits.bind flushStores_stages fun _ => ?_
      exact Commits.commit fun _ hunique => hunique
  | disable accountId storePublicId =>
      refine Commits.query_keeping fun row => ?_
      refine Commits.stage_keeping (fun _ hunique => hunique.update fun _ => rfl) ?_
      refine Commits.stage_keeping (fun _ hunique => hunique) ?_
      exact Commits.commit fun _ hunique => hunique
  | enable accountId storePublicId =>
      exact Commits.query_keeping fun row => restoreStore_unique hrows
  | operatorEnable actorId storePublicId =>
      exact Commits.query_keeping fun row => restoreStore_unique hrows

theorem provisionStep_unique (hunique : PublicIdsUnique tables) (request : StoreRequest) :
    PublicIdsUnique (next (provisionStep settings) tables request) := by
  have hcommits : Commits tables PublicIdsUnique (request.work settings)
      fun _ => PublicIdsUnique := StoreRequest.work_unique hunique request
  have hcall := Commits.call fun staged hstaged => hcommits staged (hstaged ▸ hunique)
  rcases hcall with ⟨storeId, -, hcommitted⟩ | ⟨failure, hfailed⟩
  · exact hcommitted
  · unfold next provisionStep
    rw [hfailed]
    exact hunique

end PublicIds

/-! ## The two routes -/

/-- The store has a payment link for the currency. -/
def LinkedIn (tables : Tables) (storeId : ℕ) (currency : Currency) : Prop :=
  ∃ key link, tables.links.get? key = some link ∧ link.storeId = storeId ∧
    link.currency = currency

/-- The call answers for the store and leaves it in the status. -/
def Answers (settings : Settings) (tables : Tables) (request : StoreRequest) (storeId : ℕ)
    (status : StoreStatus) : Prop :=
  (provisionStep settings tables request).2 = .ok storeId ∧
    ∃ store, (provisionStep settings tables request).1.stores.get? storeId = some store ∧
      store.status = status

/-- The account and an operator bring the store back in one status, which is active just
where the store has a link. -/
def EnabledAlike (settings : Settings) (tables : Tables) (storeId : ℕ) (store : Store)
    (actorId : ℕ) : Prop :=
  ∃ status, Answers settings tables (.enable store.accountId store.publicId) storeId status ∧
    Answers settings tables (.operatorEnable actorId store.publicId) storeId status ∧
    (status = .active ↔ ∃ currency, LinkedIn tables storeId currency)

section Routes

variable {settings : Settings} {tables : Tables} {storeId actorId : ℕ} {store : Store}

/-- A filter that one row meets reads that row. -/
theorem oneOrNone_select_eq {keep : ℕ → Store → Bool}
    (hget : tables.stores.get? storeId = some store) (hkeep : keep storeId store = true)
    (hunique : ∀ key row, tables.stores.get? key = some row → keep key row = true →
      key = storeId) :
    oneOrNone (tables.stores.select keep) = .ok (some (storeId, store)) := by
  obtain ⟨found, hfound⟩ := oneOrNone_select tables.stores keep
    fun key key' row row' hrow hrow' hkey hkey' =>
      (hunique key row hrow hkey).trans (hunique key' row' hrow' hkey').symm
  have hmem : (storeId, store) ∈ tables.stores.select keep := Table.mem_select.mpr ⟨hget, hkeep⟩
  cases found with
  | none =>
      rw [oneOrNone_eq_none hfound] at hmem
      cases hmem
  | some row =>
      rw [oneOrNone_eq_some hfound] at hmem
      rw [hfound, List.mem_singleton.mp hmem]

theorem getStore_of_get? (hunique : PublicIdsUnique tables)
    (hget : tables.stores.get? storeId = some store) :
    getStore tables store.accountId store.publicId = .ok (storeId, store) := by
  have hfound : oneOrNone (tables.stores.select fun _ other =>
      decide (other.accountId = store.accountId) && decide (other.publicId = store.publicId)) =
      .ok (some (storeId, store)) := by
    refine oneOrNone_select_eq hget (by simp) fun key row hrow hkeep => ?_
    simp only [Bool.and_eq_true, decide_eq_true_eq] at hkeep
    exact publicIdsUnique_iff.mp hunique key storeId row store hrow hget hkeep.2
  rw [getStore, hfound]
  rfl

theorem findStore_of_get? (hunique : PublicIdsUnique tables)
    (hget : tables.stores.get? storeId = some store) :
    findStore tables store.publicId = .ok (storeId, store) := by
  have hfound : oneOrNone (tables.stores.select fun _ other =>
      decide (other.publicId = store.publicId)) = .ok (some (storeId, store)) := by
    refine oneOrNone_select_eq hget (by simp) fun key row hrow hkeep => ?_
    exact publicIdsUnique_iff.mp hunique key storeId row store hrow hget (of_decide_eq_true hkeep)
  rw [findStore, hfound]
  rfl

theorem mem_loadLinks_iff {key : ℕ} {link : PaymentLink} :
    (key, link) ∈ loadLinks tables storeId ↔
      tables.links.get? key = some link ∧ link.storeId = storeId := by
  unfold loadLinks
  rw [Table.mem_select, decide_eq_true_eq]

/-- The links of a store are too many for the lookup when it has both currencies, and
only then. -/
theorem restoredStatus_cases (hlinks : LinkPerCurrency tables) (storeId : ℕ) :
    (¬ (LinkedIn tables storeId .usd ∧ LinkedIn tables storeId .khr) ∧
      ∃ status, restoredStatus tables storeId = .ok status ∧
        (status = .active ↔ ∃ currency, LinkedIn tables storeId currency)) ∨
    (LinkedIn tables storeId .usd ∧ LinkedIn tables storeId .khr) ∧
      restoredStatus tables storeId = .error .multipleResults := by
  have hmem : ∀ key link, (key, link) ∈ loadLinks tables storeId ↔
      tables.links.get? key = some link ∧ link.storeId = storeId :=
    fun _ _ => mem_loadLinks_iff
  have hsorted : (loadLinks tables storeId).Pairwise fun first second => first.1 < second.1 :=
    tables.links.sorted.filter _
  rcases hrows : loadLinks tables storeId with _ | ⟨first, _ | ⟨second, rest⟩⟩
  · have hnone : ∀ currency, ¬ LinkedIn tables storeId currency := by
      rintro currency ⟨key, link, hget, hstore, -⟩
      have hrow := (hmem key link).mpr ⟨hget, hstore⟩
      rw [hrows] at hrow
      cases hrow
    refine .inl ⟨fun hboth => hnone .usd hboth.1, .draft, by simp [restoredStatus, hrows,
      oneOrNone, Except.map], ?_⟩
    simp [hnone]
  · -- two links would be one row, so one currency
    have honly : ∀ currency, LinkedIn tables storeId currency → currency = first.2.currency := by
      rintro currency ⟨key, link, hget, hstore, rfl⟩
      have hrow := (hmem key link).mpr ⟨hget, hstore⟩
      rw [hrows, List.mem_singleton] at hrow
      rw [← hrow]
    have hfirst : (first.1, first.2) ∈ loadLinks tables storeId := by
      rw [hrows]
      exact List.mem_singleton_self _
    obtain ⟨hget, hstore⟩ := (hmem _ _).mp hfirst
    refine .inl ⟨fun hboth => ?_, .active, by simp [restoredStatus, hrows, oneOrNone, Except.map],
      fun _ => ⟨first.2.currency, first.1, first.2, hget, hstore, rfl⟩, fun _ => rfl⟩
    have husd := honly .usd hboth.1
    rw [← honly .khr hboth.2] at husd
    cases husd
  · rw [hrows] at hsorted
    have hlt := (List.pairwise_cons.mp hsorted).1 second List.mem_cons_self
    obtain ⟨hget, hstore⟩ := (hmem first.1 first.2).mp (by rw [hrows]; exact List.mem_cons_self)
    obtain ⟨hget', hstore'⟩ := (hmem second.1 second.2).mp
      (by rw [hrows]; exact List.mem_cons_of_mem _ List.mem_cons_self)
    have hdistinct : first.2.currency ≠ second.2.currency := fun hcurrency =>
      (Nat.ne_of_lt hlt) (hlinks _ _ _ _ hget hget' (hstore.trans hstore'.symm) hcurrency)
    have hfirst : LinkedIn tables storeId first.2.currency := ⟨_, _, hget, hstore, rfl⟩
    have hsecond : LinkedIn tables storeId second.2.currency := ⟨_, _, hget', hstore', rfl⟩
    refine .inr ⟨?_, by simp [restoredStatus, hrows, oneOrNone, Except.map]⟩
    cases husd : first.2.currency <;> cases hkhr : second.2.currency
    all_goals rw [husd] at hfirst hdistinct; rw [hkhr] at hsecond hdistinct
    · exact absurd rfl hdistinct
    · exact ⟨hfirst, hsecond⟩
    · exact ⟨hsecond, hfirst⟩
    · exact absurd rfl hdistinct

/-- The store a route has found is answered in the status its links give, or the lookup
of its links fails the call. -/
theorem call_restoreStore (reader : Tables → Except Failure (ℕ × Store)) (actorId : ℕ)
    (recordsAccount : Bool) (hread : reader tables = .ok (storeId, store))
    (hdisabled : store.status = .disabled) :
    call (query reader >>= fun row => restoreStore actorId row.1 row.2 recordsAccount) tables =
      match restoredStatus tables storeId with
      | .ok restored => (recordAudit (setStatus storeId restored tables) (some actorId) storeId
          (.storeEnabled (if recordsAccount then some store.accountId else none) store.name
            restored), .ok storeId)
      | .error failure => (tables, .error failure) := by
  have hfound : query reader ⟨tables, tables⟩ = .ok (storeId, store) ⟨tables, tables⟩ := by
    simp only [query, hread]
  simp only [call, bind, EStateM.bind, hfound, restoreStore, hdisabled, ne_eq, not_true_eq_false,
    if_false]
  cases hrestored : restoredStatus tables storeId with
  | ok restored =>
      simp only [query, hrestored]
      rfl
  | error failure => simp only [query, hrestored]

/-- Where the lookup takes the links of the store, a route answers in the status they
give. -/
theorem answers_restored {request : StoreRequest} {restored status : StoreStatus}
    {action : AuditAction} (hget : tables.stores.get? storeId = some store)
    (hcall : provisionStep settings tables request =
      (recordAudit (setStatus storeId restored tables) (some actorId) storeId action,
        .ok storeId)) :
    Answers settings tables request storeId status ↔ status = restored := by
  have hafter : (provisionStep settings tables request).1.stores.get? storeId =
      some (Store.withStatus restored store) := by
    rw [hcall]
    change (tables.stores.update storeId (Store.withStatus restored)).get? storeId = _
    rw [Table.get?_update, if_pos rfl, hget]
    rfl
  constructor
  · rintro ⟨-, row, hrow, rfl⟩
    rw [hafter] at hrow
    rw [← Option.some.inj hrow]
    rfl
  · rintro rfl
    exact ⟨by rw [hcall], _, hafter, rfl⟩

theorem enabledAlike_iff (hlinks : LinkPerCurrency tables) (hunique : PublicIdsUnique tables)
    (hget : tables.stores.get? storeId = some store) (hdisabled : store.status = .disabled) :
    EnabledAlike settings tables storeId store actorId ↔
      ¬ (LinkedIn tables storeId .usd ∧ LinkedIn tables storeId .khr) := by
  have henable := call_restoreStore (getStore · store.accountId store.publicId) store.accountId
    false (getStore_of_get? hunique hget) hdisabled
  have hoperator := call_restoreStore (findStore · store.publicId) actorId true
    (findStore_of_get? hunique hget) hdisabled
  change provisionStep settings tables (.enable store.accountId store.publicId) = _ at henable
  change provisionStep settings tables (.operatorEnable actorId store.publicId) = _ at hoperator
  rcases restoredStatus_cases hlinks storeId with
    ⟨hcurrency, restored, hrestored, hactive⟩ | ⟨hboth, hrestored⟩
  · rw [hrestored] at henable hoperator
    refine iff_of_true ⟨restored, ?_, ?_, hactive⟩ hcurrency
    · exact (answers_restored hget henable).mpr rfl
    · exact (answers_restored hget hoperator).mpr rfl
  · rw [hrestored] at henable
    refine iff_of_false ?_ (not_not_intro hboth)
    rintro ⟨status, ⟨hanswer, -⟩, -⟩
    have hfailed : (provisionStep settings tables
        (.enable store.accountId store.publicId)).2 = .error .multipleResults :=
      congrArg Prod.snd henable
    rw [hfailed] at hanswer
    cases hanswer

end Routes

/-! ## Every run -/

/-- After every run of calls, a disabled store is brought back alike by both routes, just
where it does not hold a link for each currency. -/
theorem enabled_alike_iff (settings : Settings) {tables : Tables}
    (hlinks : LinkPerCurrency tables) (hunique : PublicIdsUnique tables)
    (requests : List StoreRequest) {storeId : ℕ} {store : Store} (actorId : ℕ)
    (hget : (run (provisionStep settings) tables requests).stores.get? storeId = some store)
    (hdisabled : store.status = .disabled) :
    EnabledAlike settings (run (provisionStep settings) tables requests) storeId store actorId ↔
      ¬ (LinkedIn (run (provisionStep settings) tables requests) storeId .usd ∧
        LinkedIn (run (provisionStep settings) tables requests) storeId .khr) := by
  have hreached : LinkPerCurrency (run (provisionStep settings) tables requests) ∧
      PublicIdsUnique (run (provisionStep settings) tables requests) := by
    refine run_invariant (fun tables => LinkPerCurrency tables ∧ PublicIdsUnique tables)
      (fun _ => True) ?_ ⟨hlinks, hunique⟩ fun _ _ => trivial
    intro state request hstate _
    exact ⟨provisionStep_keeps linkPerCurrency_keptByWrites hstate.1 request,
      provisionStep_unique hstate.2 request⟩
  exact enabledAlike_iff hreached.1 hreached.2 hget hdisabled

/-- PayWay names the currency a link settles in. -/
def Specimen.currencyPayway : PayWay where
  linkPage := fun currency _ => .page (some "Shop") (some currency.name)
  urlPath := fun _ => none

def Specimen.rielLink : LinkCreate := { dollarLink with currency := .khr, currencySet := true }

/-- A shop that takes both currencies, one destination after the other. -/
def Specimen.bothCurrencies : List StoreRequest :=
  [secondShop, .attach currencyPayway 1 "store_second" rielLink, .disable 1 "store_second"]

/-- The shop as it was created. -/
def Specimen.shop : Store := newStore 1 "store_second" { name := "Second shop" }

/-- The shop as it was disabled. -/
def Specimen.disabledShop : Store :=
  { shop with status := .disabled }

theorem enabled_alike_one_link :
    EnabledAlike {} (run (provisionStep {}) Specimen.tables
      [Specimen.secondShop, .disable 1 "store_second"]) 2 Specimen.disabledShop 0 := by
  have hlinks : LinkPerCurrency Specimen.tables := by decide
  have hunique : PublicIdsUnique Specimen.tables := by decide
  refine (enabled_alike_iff {} hlinks hunique [Specimen.secondShop, .disable 1 "store_second"] 0
    rfl rfl).mpr ?_
  rintro ⟨-, key, link, hget, hstore, hcurrency⟩
  have hrows : ∀ row ∈ (run (provisionStep {}) Specimen.tables
      [Specimen.secondShop, .disable 1 "store_second"]).links.rows, row.2.currency = .usd := by
    decide +kernel
  have hdollar := hrows _ (Table.get?_eq_some_iff.mp hget)
  rw [hdollar] at hcurrency
  cases hcurrency

/-- With a dollar and a riel link the lookup fails, and the shop stays disabled. -/
theorem enabled_alike_fails :
    LinkPerCurrency Specimen.tables ∧ PublicIdsUnique Specimen.tables ∧
      (run (provisionStep { enableKhrCurrency := true }) Specimen.tables
        Specimen.bothCurrencies).stores.get? 2 = some Specimen.disabledShop ∧
      ¬ EnabledAlike { enableKhrCurrency := true }
        (run (provisionStep { enableKhrCurrency := true }) Specimen.tables
          Specimen.bothCurrencies) 2 Specimen.disabledShop 0 := by
  refine ⟨by decide, by decide, by decide +kernel, ?_⟩
  rintro ⟨status, ⟨hanswer, -⟩, -⟩
  have hfailed : (provisionStep { enableKhrCurrency := true }
      (run (provisionStep { enableKhrCurrency := true }) Specimen.tables Specimen.bothCurrencies)
      (.enable 1 "store_second")).2 = .error .multipleResults := by decide +kernel
  change (provisionStep { enableKhrCurrency := true }
      (run (provisionStep { enableKhrCurrency := true }) Specimen.tables Specimen.bothCurrencies)
      (.enable 1 "store_second")).2 = _ at hanswer
  rw [hfailed] at hanswer
  cases hanswer

end ChmabaPay
