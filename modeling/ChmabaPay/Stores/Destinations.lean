import ChmabaPay.Stores.Links
import ChmabaPay.Stores.Places

/-! # What an active store advertises

A store is `active` to say that PayWay has confirmed where its money goes. Creating a
store keeps to that. Replacing the confirmed link of an active store by one PayWay did not
answer for does not, and neither does bringing a store back, which asks for a link and not
for a confirmed one. The runs in which no store is active without a verified link are those
without these two steps.
-/

namespace ChmabaPay

open Calendar Relational Staging Execution Fallible

/-! ## Boards -/

/-- What a store says of itself: its status, and the currencies its verified links
settle in. -/
structure Board where
  status : StoreStatus
  verified : Currency → Prop

namespace Board

/-- An active board shows a verified link. -/
def Sound (board : Board) : Prop := board.status = .active → ∃ currency, board.verified currency

/-- One link is written, verified or not, in the place of the one of its currency. -/
def write (promotes : StoreStatus → Bool) (board : Board)
    (written : Currency × Verification) : Board where
  status := if written.2 = .verified ∧ promotes board.status = true then .active
    else board.status
  verified := fun currency => if currency = written.1 then written.2 = .verified
    else board.verified currency

def writeAll (promotes : StoreStatus → Bool) (board : Board)
    (writes : List (Currency × Verification)) : Board :=
  writes.foldl (write promotes) board

variable {promotes : StoreStatus → Bool} {writes : List (Currency × Verification)}

/-- Links of different currencies do not displace one another. -/
theorem verified_writeAll (promotes : StoreStatus → Bool)
    (hnodup : (writes.map Prod.fst).Nodup) (board : Board) (currency : Currency) :
    (board.writeAll promotes writes).verified currency ↔
      (currency, .verified) ∈ writes ∨
        board.verified currency ∧ currency ∉ writes.map Prod.fst := by
  induction writes generalizing board with
  | nil => simp [writeAll]
  | cons written rest ih =>
      obtain ⟨hfresh, hrest⟩ := List.nodup_cons.mp hnodup
      have hstep := ih hrest (board.write promotes written)
      refine hstep.trans ?_
      by_cases hcurrency : currency = written.1
      · -- the later links are of other currencies
        subst hcurrency
        have hlater : (written.1, Verification.verified) ∉ rest := fun hmem =>
          hfresh (List.mem_map.mpr ⟨_, hmem, rfl⟩)
        have hwritten : (written.1, Verification.verified) = written ↔ written.2 = .verified :=
          ⟨fun hsame => (congrArg Prod.snd hsame).symm, fun hverified =>
            Prod.ext rfl hverified.symm⟩
        simp [write, hlater, hfresh, hwritten]
      · have hother : (currency, Verification.verified) ≠ written := fun hwritten =>
          hcurrency (congrArg Prod.fst hwritten)
        simp [write, hcurrency, hother]

/-- Only a verified link makes a board active. -/
theorem status_writeAll (board : Board)
    (hactive : (board.writeAll promotes writes).status = .active) :
    board.status = .active ∨ ∃ currency, (currency, .verified) ∈ writes := by
  induction writes generalizing board with
  | nil => exact .inl hactive
  | cons written rest ih =>
      rcases ih (board.write promotes written) hactive with hwritten | ⟨currency, hmem⟩
      · by_cases hverified : written.2 = .verified
        · refine .inr ⟨written.1, ?_⟩
          rw [← hverified]
          exact List.mem_cons_self
        · refine .inl ?_
          simpa [write, hverified] using hwritten
      · exact .inr ⟨currency, List.mem_cons_of_mem _ hmem⟩

theorem writeAll_of_active (board : Board) (hactive : board.status = .active) :
    (board.writeAll promotes writes).status = .active := by
  induction writes generalizing board with
  | nil => exact hactive
  | cons written rest ih =>
      refine ih (board.write promotes written) ?_
      simp only [write]
      split
      · rfl
      · exact hactive

/-- The writes leave a sound board exactly when one that was active keeps or gets a
verified link. -/
theorem sound_writeAll_iff (hnodup : (writes.map Prod.fst).Nodup) (board : Board) :
    (board.writeAll promotes writes).Sound ↔ (board.status = .active →
      (∃ currency, (currency, .verified) ∈ writes) ∨
        ∃ currency, board.verified currency ∧ currency ∉ writes.map Prod.fst) := by
  have hmem := verified_writeAll promotes hnodup board
  constructor
  · intro hsound hactive
    obtain ⟨currency, hverified⟩ := hsound (writeAll_of_active board hactive)
    rcases (hmem currency).mp hverified with hwritten | ⟨hkept, hother⟩
    · exact .inl ⟨currency, hwritten⟩
    · exact .inr ⟨currency, hkept, hother⟩
  · intro hkeeps hactive
    have hverified : (∃ currency, (currency, .verified) ∈ writes) ∨
        ∃ currency, board.verified currency ∧ currency ∉ writes.map Prod.fst := by
      rcases status_writeAll board hactive with hbefore | hwritten
      · exact hkeeps hbefore
      · exact .inl hwritten
    rcases hverified with ⟨currency, hwritten⟩ | ⟨currency, hkept, hother⟩
    · exact ⟨currency, (hmem currency).mpr (.inl hwritten)⟩
    · exact ⟨currency, (hmem currency).mpr (.inr ⟨hkept, hother⟩)⟩

end Board

/-! ## The boards of the stores -/

/-- The store holds a verified link for the currency. -/
def VerifiedFor (tables : Tables) (storeId : ℕ) (currency : Currency) : Prop :=
  ∃ key link, tables.links.get? key = some link ∧ link.storeId = storeId ∧
    link.currency = currency ∧ link.verification = .verified

/-- The board a store of the tables shows. -/
def boardOf (tables : Tables) (storeId : ℕ) : Option Board :=
  (tables.stores.get? storeId).map fun store =>
    ⟨store.status, VerifiedFor tables storeId⟩

/-- No store is active without a verified link. -/
def Advertised (tables : Tables) : Prop :=
  ∀ storeId board, boardOf tables storeId = some board → board.Sound

/-- The links of a call as they are written. -/
def writesOf (payway : PayWay) (links : List LinkCreate) : List (Currency × Verification) :=
  links.map fun payload => (payload.currency, linkAnswer payway payload)

theorem refuseDuplicateCurrency_eq_ok {seen : List Currency} {links : List LinkCreate}
    (hrefuse : refuseDuplicateCurrency seen links = .ok ()) :
    (links.map LinkCreate.currency).Nodup ∧
      ∀ payload ∈ links, payload.currency ∉ seen := by
  induction links generalizing seen with
  | nil => simp
  | cons candidate rest ih =>
      simp only [refuseDuplicateCurrency] at hrefuse
      split at hrefuse
      · cases hrefuse
      · next hfresh =>
        obtain ⟨hnodup, hunseen⟩ := ih hrefuse
        refine ⟨List.nodup_cons.mpr ⟨?_, hnodup⟩, ?_⟩
        · intro hmem
          obtain ⟨later, hlater, hsame⟩ := List.mem_map.mp hmem
          exact hunseen later hlater (by simp [hsame])
        · intro payload hpayload
          rcases List.mem_cons.mp hpayload with rfl | hlater
          · exact hfresh
          · exact fun hseen => hunseen payload hlater (List.mem_cons_of_mem _ hseen)

/-- The links of one call are of different currencies. -/
theorem linksFrom_eq_ok {single : Option LinkCreate} {many : Option (List LinkCreate)}
    {links : List LinkCreate} (hlinks : linksFrom single many = .ok links) :
    (links.map LinkCreate.currency).Nodup := by
  simp only [linksFrom] at hlinks
  generalize (if many.getD [] ≠ [] then many.getD [] else single.toList) = candidates at hlinks
  split at hlinks
  · cases hlinks
  · split at hlinks
    · cases hlinks
    · split at hlinks
      · cases hlinks
      · next hrefuse =>
        obtain rfl := Except.ok.inj hlinks
        exact (refuseDuplicateCurrency_eq_ok hrefuse).1

section Boards

variable {tables attached : Tables} {storeId : ℕ} {payload : LinkCreate}
  {verification : Verification}

theorem verifiedFor_attach
    (hattach : attachLinkToStore tables storeId payload verification = .ok attached)
    (other : ℕ) (currency : Currency) :
    VerifiedFor attached other currency ↔
      if other = storeId ∧ currency = payload.currency then verification = .verified
      else VerifiedFor tables other currency := by
  rcases attachLinkToStore_eq_ok hattach with
    ⟨hfree, rfl⟩ | ⟨linkId, link, hget, hstore, hcurrency, honly, rfl⟩
  · unfold VerifiedFor
    rw [Table.exists_get?_insert]
    split
    · next hwritten =>
      -- the store had no link for the currency
      obtain ⟨rfl, rfl⟩ := hwritten
      constructor
      · rintro (hnew | ⟨key, link, hget, hstore, hcurrency, -⟩)
        · exact hnew.2.2
        · exact absurd hcurrency (hfree key link hget hstore)
      · exact fun hverified => .inl ⟨rfl, rfl, hverified⟩
    · next hother =>
      refine or_iff_right ?_
      rintro ⟨hstore, hcurrency, -⟩
      exact hother ⟨hstore.symm, hcurrency.symm⟩
  · unfold VerifiedFor
    rw [Table.exists_get?_update hget]
    split
    · next hwritten =>
      -- the one link of the currency is the one replaced
      obtain ⟨rfl, rfl⟩ := hwritten
      constructor
      · rintro (hnew | ⟨key, found, hkey, hfound, hfoundStore, hfoundCurrency, -⟩)
        · exact hnew.2.2
        · exact absurd (honly key found hfound hfoundStore hfoundCurrency) hkey
      · exact fun hverified => .inl ⟨hstore, rfl, hverified⟩
    · next hother =>
      constructor
      · rintro (hnew | ⟨key, found, hkey, hfound, hholds⟩)
        · exact absurd ⟨hnew.1.symm.trans hstore, hnew.2.1.symm⟩ hother
        · exact ⟨key, found, hfound, hholds⟩
      · rintro ⟨key, found, hfound, hholds⟩
        refine .inr ⟨key, found, ?_, hfound, hholds⟩
        rintro rfl
        obtain rfl := Option.some.inj (hget.symm.trans hfound)
        exact hother ⟨hholds.1.symm.trans hstore, hholds.2.1.symm.trans hcurrency⟩

theorem attachLinkToStore_stores
    (hattach : attachLinkToStore tables storeId payload verification = .ok attached) :
    attached.stores = tables.stores := by
  rcases attachLinkToStore_eq_ok hattach with ⟨-, rfl⟩ | ⟨linkId, link, -, -, -, -, rfl⟩
  · rfl
  · rfl

/-- One destination is one write on the board of its store, and no other store's board
changes. -/
theorem boardOf_setLink
    (hattach : attachLinkToStore tables storeId payload verification = .ok attached)
    (promotes : StoreStatus → Bool) (actorId : Option ℕ) (action : AuditAction) (other : ℕ) :
    boardOf (recordAudit (promoteStore storeId promotes verification attached) actorId storeId
        action) other =
      if other = storeId then
        (boardOf tables storeId).map fun board =>
          board.write promotes (payload.currency, verification)
      else boardOf tables other := by
  have hverified := verifiedFor_attach hattach
  simp only [boardOf, recordAudit, promoteStore, attachLinkToStore_stores hattach,
    Table.get?_update]
  by_cases hother : other = storeId
  · subst hother
    rw [if_pos rfl, if_pos rfl, Option.map_map, Option.map_map]
    refine Option.map_congr fun store _ => ?_
    refine congrArg₂ Board.mk rfl (funext fun currency => propext ?_)
    refine (hverified other currency).trans ?_
    simp
  · rw [if_neg hother, if_neg hother]
    refine Option.map_congr fun store _ => ?_
    refine congrArg₂ Board.mk rfl (funext fun currency => propext ?_)
    exact (hverified other currency).trans (by rw [if_neg fun hboth => hother hboth.1])

theorem setLink_boards {settings : Settings} {payway : PayWay} {rows : Tables}
    {actorId : ℕ} {nulls : Bool} {promotes : StoreStatus → Bool} {recordsCurrency : Bool}
    (boards : ℕ → Option Board) (payload : LinkCreate) :
    Stages rows (fun staged => ∀ other, boardOf staged other = boards other)
      (setLink settings payway actorId storeId nulls promotes recordsCurrency payload)
      fun _ staged => ∀ other, boardOf staged other =
        if other = storeId then (boards other).map fun board =>
          board.write promotes (payload.currency, linkAnswer payway payload)
        else boards other := by
  refine setLink_stages fun staged verification named attached hstaged hresolve hattach action => ?_
  obtain ⟨rfl, hcurrency, -⟩ := resolveLink_eq_ok hresolve
  intro other
  rw [boardOf_setLink hattach, hcurrency]
  split
  · next hother => rw [hother, hstaged]
  · exact hstaged other

/-- The destinations of a call are so many writes on the board of its store. -/
theorem setLinks_boards {settings : Settings} {payway : PayWay} {rows : Tables}
    {actorId : ℕ} {nulls : Bool} {promotes : StoreStatus → Bool} {recordsCurrency : Bool}
    (boards : ℕ → Option Board) (links : List LinkCreate) :
    Stages rows (fun staged => ∀ other, boardOf staged other = boards other)
      (links.forM (setLink settings payway actorId storeId nulls promotes recordsCurrency))
      fun _ staged => ∀ other, boardOf staged other =
        if other = storeId then
          (boards other).map fun board => board.writeAll promotes (writesOf payway links)
        else boards other := by
  refine Stages.forM (fun done staged => ∀ other, boardOf staged other =
    if other = storeId then
      (boards other).map fun board => board.writeAll promotes (writesOf payway done)
    else boards other) links ?_ ?_
  · intro done payload rest _
    refine Stages.imp (setLink_boards _ payload) (fun _ hstaged => hstaged) ?_
    intro _ staged hboards other
    refine (hboards other).trans ?_
    split
    · rw [Option.map_map]
      refine Option.map_congr fun board _ => ?_
      simp [Board.writeAll, writesOf]
    · rfl
  · intro staged hstaged other
    rw [hstaged other]
    split
    · simp [Board.writeAll, writesOf]
    · rfl

/-- Boards that are sound where a call did not write are all sound after it exactly when
the one it wrote is. -/
theorem advertised_of_writes_iff {promotes : StoreStatus → Bool}
    {writes : List (Currency × Verification)} {boards : ℕ → Option Board}
    (hothers : ∀ other board, other ≠ storeId → boards other = some board → board.Sound)
    (hboards : ∀ other, boardOf tables other = if other = storeId then
      (boards other).map fun board => board.writeAll promotes writes else boards other) :
    Advertised tables ↔
      ∀ board, boards storeId = some board → (board.writeAll promotes writes).Sound := by
  constructor
  · intro hadvertised board hboard
    refine hadvertised storeId _ ?_
    rw [hboards, if_pos rfl, hboard]
    rfl
  · intro hwritten other board hboard
    rw [hboards] at hboard
    split at hboard
    · next hother =>
      subst hother
      obtain ⟨earlier, hearlier, rfl⟩ := Option.map_eq_some_iff.mp hboard
      exact hwritten earlier hearlier
    · next hother => exact hothers other board hother hboard

end Boards

theorem advertised_iff {tables : Tables} : Advertised tables ↔
    ∀ row ∈ tables.stores.select (fun _ store => decide (store.status = .active)),
      tables.links.select (fun _ link => decide (link.storeId = row.1) &&
        decide (link.verification = .verified)) ≠ [] := by
  constructor
  · rintro hadvertised ⟨storeId, store⟩ hrow hnone
    obtain ⟨hget, hactive⟩ := Table.mem_select.mp hrow
    have hboard : boardOf tables storeId = some ⟨store.status, VerifiedFor tables storeId⟩ := by
      rw [boardOf, hget]
      rfl
    obtain ⟨currency, key, link, hlink, hstore, -, hverified⟩ :=
      hadvertised storeId _ hboard (by simpa using hactive)
    have hmem : (key, link) ∈ tables.links.select fun _ link =>
        decide (link.storeId = storeId) && decide (link.verification = .verified) :=
      Table.mem_select.mpr ⟨hlink, by simp [hstore, hverified]⟩
    rw [hnone] at hmem
    cases hmem
  · intro hrows storeId board hboard hactive
    obtain ⟨store, hget, rfl⟩ := Option.map_eq_some_iff.mp hboard
    have hrow : (storeId, store) ∈ tables.stores.select fun _ store =>
        decide (store.status = .active) := Table.mem_select.mpr ⟨hget, by simpa using hactive⟩
    obtain ⟨⟨key, link⟩, hmem⟩ := List.exists_mem_of_ne_nil _ (hrows _ hrow)
    obtain ⟨hlink, hkeep⟩ := Table.mem_select.mp hmem
    simp only [Bool.and_eq_true, decide_eq_true_eq] at hkeep
    exact ⟨link.currency, key, link, hlink, hkeep.1, rfl, hkeep.2⟩

instance (tables : Tables) : Decidable (Advertised tables) :=
  decidable_of_iff _ advertised_iff.symm

/-! ## Calls -/

/-- A call that writes these links of an active store has one of them confirmed, or leaves
a verified link of another currency in place. -/
def KeepsVerified (payway : PayWay) (tables : Tables) (storeId : ℕ) (store : Store)
    (links : List LinkCreate) : Prop :=
  store.status = .active →
    (∃ payload ∈ links, linkAnswer payway payload = .verified) ∨
      ∃ key link, tables.links.get? key = some link ∧ link.storeId = storeId ∧
        link.verification = .verified ∧ ∀ payload ∈ links, payload.currency ≠ link.currency

/-- The one link a disabled store comes back with is verified. -/
def ReturnsVerified (tables : Tables) (storeId : ℕ) (store : Store) : Prop :=
  store.status = .disabled → ∀ row, loadLinks tables storeId = [row] →
    row.2.verification = .verified

/-- The links a patch writes. -/
def patchLinks (tables : Tables) (storeId : ℕ) (patch : StorePatch) :
    Except Failure (List LinkCreate) :=
  match patch.link.getD none with
  | none => linksFrom none (patch.links.getD none)
  | some link =>
      match carryForwardCurrency tables storeId link with
      | .error failure => .error failure
      | .ok carried => linksFrom (some carried) (patch.links.getD none)

/-- What a call writes leaves no active store without a verified link. -/
def WritesDestination (tables : Tables) : StoreRequest → Prop
  | .create _ _ _ _ | .disable _ _ => True
  | .attach payway accountId storePublicId payload => ∀ storeId store carried,
      getStore tables accountId storePublicId = .ok (storeId, store) →
      carryForwardCurrency tables storeId payload = .ok carried →
      KeepsVerified payway tables storeId store [carried]
  | .update payway accountId storePublicId patch => ∀ storeId store links,
      getStore tables accountId storePublicId = .ok (storeId, store) →
      patchLinks tables storeId patch = .ok links →
      KeepsVerified payway tables storeId store links
  | .enable accountId storePublicId => ∀ storeId store,
      getStore tables accountId storePublicId = .ok (storeId, store) →
      ReturnsVerified tables storeId store
  | .operatorEnable _ storePublicId => ∀ storeId store,
      findStore tables storePublicId = .ok (storeId, store) →
      ReturnsVerified tables storeId store

/-- A call that goes through leaves no active store without a verified link. One that is
refused, for a link PayWay does not know as for anything else, writes nothing. -/
def KeepsDestination (settings : Settings) (tables : Tables) (request : StoreRequest) : Prop :=
  (∃ storeId, (provisionStep settings tables request).2 = .ok storeId) →
    WritesDestination tables request

section Calls

variable {settings : Settings} {payway : PayWay} {rows : Tables} {storeId : ℕ} {store : Store}

theorem boardOf_of_get? {tables : Tables} (hget : tables.stores.get? storeId = some store) :
    boardOf tables storeId = some ⟨store.status, VerifiedFor tables storeId⟩ := by
  rw [boardOf, hget]
  rfl

/-- The condition on a call is the one under which its writes leave a sound board. -/
theorem sound_writes_iff {links : List LinkCreate} {promotes : StoreStatus → Bool}
    (hnodup : (links.map LinkCreate.currency).Nodup) :
    (Board.writeAll promotes ⟨store.status, VerifiedFor rows storeId⟩
      (writesOf payway links)).Sound ↔ KeepsVerified payway rows storeId store links := by
  have hfst : (writesOf payway links).map Prod.fst = links.map LinkCreate.currency := by
    simp [writesOf]
  have hwrites : ((writesOf payway links).map Prod.fst).Nodup := by
    rw [hfst]
    exact hnodup
  rw [Board.sound_writeAll_iff hwrites, hfst, KeepsVerified]
  refine imp_congr_right fun _ => or_congr ?_ ?_
  · constructor
    · rintro ⟨currency, hmem⟩
      obtain ⟨payload, hpayload, hwritten⟩ := List.mem_map.mp hmem
      exact ⟨payload, hpayload, (Prod.mk.inj hwritten).2⟩
    · rintro ⟨payload, hpayload, hanswer⟩
      refine ⟨payload.currency, List.mem_map.mpr ⟨payload, hpayload, ?_⟩⟩
      rw [hanswer]
  · constructor
    · rintro ⟨_, ⟨key, link, hget, hstore, rfl, hverified⟩, hother⟩
      refine ⟨key, link, hget, hstore, hverified, fun payload hpayload hcurrency => ?_⟩
      exact hother (List.mem_map.mpr ⟨payload, hpayload, hcurrency⟩)
    · rintro ⟨key, link, hget, hstore, hverified, hother⟩
      refine ⟨link.currency, ⟨key, link, hget, hstore, rfl, hverified⟩, fun hmem => ?_⟩
      obtain ⟨payload, hpayload, hcurrency⟩ := List.mem_map.mp hmem
      exact hother payload hpayload hcurrency

/-- A new store starts as a draft, so its links only have to be of different
currencies. -/
theorem createStore_advertised (hadvertised : Advertised rows)
    (accountId : ℕ) (payload : StoreCreate) (publicId : String) :
    Commits rows (· = rows) (createStore settings payway accountId payload publicId)
      fun _ => Advertised := by
  refine Commits.query_at fun account _ => Commits.query_at fun _ _ =>
    Commits.query_at fun storeId hnext => Commits.stage_at ?_
  refine Commits.bind flushStores_stages fun _ => Commits.stage_at ?_
  -- the flushed row gives the rows one more board, that of a draft without links
  refine Commits.query_at fun links hlinksFrom => ?_
  obtain rfl := Except.ok.inj hnext
  let boards := fun other => if other = rows.stores.next then
    some (⟨.draft, VerifiedFor rows rows.stores.next⟩ : Board) else boardOf rows other
  refine Commits.bind (Stages.imp (setLinks_boards boards links) ?_ fun _ _ hafter => hafter)
    fun _ => Commits.commit ?_
  · rintro _ rfl other
    simp only [boards, boardOf, recordAudit, Table.get?_insert]
    split
    · next hother =>
      rw [hother]
      rfl
    · rfl
  · intro staged hboards
    refine (advertised_of_writes_iff ?_ hboards).mpr ?_
    · intro other board hother hboard
      exact hadvertised other board (by simpa [boards, hother] using hboard)
    · intro board hboard
      obtain rfl : (⟨.draft, VerifiedFor rows rows.stores.next⟩ : Board) = board := by
        simpa [boards] using hboard
      have hkeeps : KeepsVerified payway rows rows.stores.next
          (newStore accountId publicId payload) links := fun hactive => by cases hactive
      exact (sound_writes_iff (linksFrom_eq_ok hlinksFrom)).mpr hkeeps

/-- Staged tables that show the boards of the rows with the writes over them advertise
nothing wrong exactly when the writes meet the condition. -/
theorem writes_advertised_iff (promotes : StoreStatus → Bool) (hadvertised : Advertised rows)
    (hstore : rows.stores.get? storeId = some store) {links : List LinkCreate}
    (hnodup : (links.map LinkCreate.currency).Nodup) {staged : Tables}
    (hboards : ∀ other, boardOf staged other = if other = storeId then
      (boardOf rows other).map fun board => board.writeAll promotes (writesOf payway links)
      else boardOf rows other) :
    Advertised staged ↔ KeepsVerified payway rows storeId store links := by
  refine (advertised_of_writes_iff (fun other board _ hboard => hadvertised other board hboard)
    hboards).trans ?_
  rw [boardOf_of_get? hstore]
  constructor
  · exact fun hwritten => (sound_writes_iff hnodup).mp (hwritten _ rfl)
  · rintro hkeeps _ ⟨⟩
    exact (sound_writes_iff hnodup).mpr hkeeps

theorem attachLink_advertised_iff (hadvertised : Advertised rows)
    {accountId : ℕ} {storePublicId : String} {payload : LinkCreate} :
    Commits rows (· = rows) (attachLink settings payway accountId storePublicId payload)
      fun _ committed => Advertised committed ↔
        WritesDestination rows (.attach payway accountId storePublicId payload) := by
  refine Commits.query_at fun row hrow => Commits.query_at fun _ _ =>
    Commits.query_at fun carried hcarried => ?_
  obtain ⟨storeId, store⟩ := row
  refine Commits.bind (Stages.imp (setLink_boards (boardOf rows) carried) ?_
    fun _ _ hafter => hafter) fun _ => Commits.commit ?_
  · rintro _ rfl _
    rfl
  · intro staged hboards
    have hnodup : ([carried].map LinkCreate.currency).Nodup := List.nodup_singleton _
    have hiff : Advertised staged ↔ KeepsVerified payway rows storeId store [carried] := by
      refine writes_advertised_iff (fun _ => true) hadvertised (getStore_eq_ok hrow).1 hnodup
        fun other => (hboards other).trans ?_
      simp only [Board.writeAll, writesOf, List.map_cons, List.map_nil, List.foldl_cons,
        List.foldl_nil]
    refine hiff.trans ⟨?_, fun hwrites => hwrites storeId store carried hrow hcarried⟩
    intro hkeeps foundId found linked hfound hlinked
    obtain ⟨rfl, rfl⟩ := Prod.mk.inj (Except.ok.inj (hrow.symm.trans hfound))
    obtain rfl := Except.ok.inj (hcarried.symm.trans hlinked)
    exact hkeeps

/-- Reading a patch's links changes nothing, and gives the ones its patch writes. -/
theorem patchedLink_at {here : Tables} {patch : StorePatch} :
    Stages rows (· = here) (patchedLink storeId patch) fun link staged => staged = here ∧
      ∀ links, linksFrom link (patch.links.getD none) = .ok links →
        patchLinks here storeId patch = .ok links := by
  unfold patchedLink patchLinks
  cases patch.link.getD none with
  | none => exact Stages.pure fun staged hstaged => ⟨hstaged, fun _ hlinks => hlinks⟩
  | some link =>
      dsimp only
      split
      · next hset =>
        refine Stages.pure fun staged hstaged => ⟨hstaged, fun _ hlinks => ?_⟩
        simpa [carryForwardCurrency, hset] using hlinks
      · refine Stages.bind flushStores_stages fun _ => Stages.query_bind fun carried => ?_
        refine Stages.pure fun staged hstaged => ⟨hstaged.1, fun _ hlinks => ?_⟩
        obtain ⟨rfl, hcarried⟩ := hstaged
        rw [hcarried]
        exact hlinks

theorem patchLinks_congr {here : Tables} (hsame : here.links = rows.links) (storeId : ℕ)
    (patch : StorePatch) : patchLinks here storeId patch = patchLinks rows storeId patch := by
  simp only [patchLinks, carryForwardCurrency, loadLinks, hsame]

/-- Fields of a store that are not its status leave its board. -/
theorem boardOf_patched (patch : StorePatch) (other : ℕ) :
    boardOf { rows with stores := rows.stores.update storeId patch.applyTo } other =
      boardOf rows other := by
  simp only [boardOf, Table.get?_update]
  split
  · rw [Option.map_map]
    exact Option.map_congr fun _ _ => rfl
  · rfl

theorem updateStore_advertised_iff (hadvertised : Advertised rows)
    {accountId : ℕ} {storePublicId : String} {patch : StorePatch} :
    Commits rows (· = rows) (updateStore settings payway accountId storePublicId patch)
      fun _ committed => Advertised committed ↔
        WritesDestination rows (.update payway accountId storePublicId patch) := by
  refine Commits.query_at fun row hrow => Commits.query_at fun _ _ =>
    Commits.query_at fun account _ => Commits.query_at fun _ _ => ?_
  obtain ⟨storeId, store⟩ := row
  refine Commits.stage_at (Commits.stage_at ?_)
  -- the fields and their audit row leave links and boards as they were
  generalize hhere : (if patch.fieldsSet = [] then
    { rows with stores := rows.stores.update storeId patch.applyTo } else _) = here
  have hsame : here.links = rows.links ∧ ∀ other, boardOf here other = boardOf rows other := by
    subst hhere
    split
    · exact ⟨rfl, boardOf_patched patch⟩
    · exact ⟨rfl, boardOf_patched patch⟩
  refine Commits.bind patchedLink_at fun link => Commits.assume fun hpatched => ?_
  refine Commits.query_at fun links hlinksFrom => ?_
  have hpatch : patchLinks rows storeId patch = .ok links := by
    rw [← patchLinks_congr hsame.1]
    exact hpatched links hlinksFrom
  refine Commits.bind (Stages.imp (setLinks_boards (boardOf rows) links) ?_
    fun _ _ hafter => hafter) fun _ => ?_
  · rintro _ rfl
    exact hsame.2
  · refine Commits.bind flushStores_stages fun _ => Commits.commit ?_
    intro staged hboards
    refine (writes_advertised_iff _ hadvertised (getStore_eq_ok hrow).1
      (linksFrom_eq_ok hlinksFrom) hboards).trans
      ⟨?_, fun hwrites => hwrites storeId store links hrow hpatch⟩
    intro hkeeps foundId found linked hfound hlinked
    obtain ⟨rfl, rfl⟩ := Prod.mk.inj (Except.ok.inj (hrow.symm.trans hfound))
    obtain rfl := Except.ok.inj (hpatch.symm.trans hlinked)
    exact hkeeps

theorem boardOf_setStatus (status : StoreStatus) (actorId : Option ℕ) (action : AuditAction)
    (other : ℕ) :
    boardOf (recordAudit (setStatus storeId status rows) actorId storeId action) other =
      if other = storeId then (boardOf rows other).map fun board => { board with status }
      else boardOf rows other := by
  simp only [boardOf, recordAudit, setStatus, Table.get?_update]
  split
  · rw [Option.map_map, Option.map_map]
    exact Option.map_congr fun _ _ => rfl
  · rfl

/-- A status is set, and its board may show it. -/
theorem advertised_setStatus_iff (hadvertised : Advertised rows)
    (hstore : rows.stores.get? storeId = some store) {status : StoreStatus}
    (actorId : Option ℕ) (action : AuditAction) :
    Advertised (recordAudit (setStatus storeId status rows) actorId storeId action) ↔
      (status = .active → ∃ currency, VerifiedFor rows storeId currency) := by
  constructor
  · intro hafter
    refine hafter storeId ⟨status, VerifiedFor rows storeId⟩ ?_
    rw [boardOf_setStatus, if_pos rfl, boardOf_of_get? hstore]
    rfl
  · intro hstatus other board hboard
    rw [boardOf_setStatus] at hboard
    split at hboard
    · next hother =>
      subst hother
      rw [boardOf_of_get? hstore] at hboard
      obtain rfl := Option.some.inj hboard
      exact hstatus
    · exact hadvertised other board hboard

theorem disableStore_advertised (hadvertised : Advertised rows) {accountId : ℕ}
    {storePublicId : String} :
    Commits rows (· = rows) (disableStore accountId storePublicId) fun _ => Advertised := by
  refine Commits.query_at fun row hrow => Commits.stage_at (Commits.stage_at ?_)
  refine Commits.commit ?_
  rintro _ rfl
  exact (advertised_setStatus_iff hadvertised (getStore_eq_ok hrow).1 _ _).mpr (by simp)

/-- A store with one link has a verified one exactly when that one is. -/
theorem verifiedFor_of_loadLinks {row : ℕ × PaymentLink}
    (hrows : loadLinks rows storeId = [row]) :
    (∃ currency, VerifiedFor rows storeId currency) ↔ row.2.verification = .verified := by
  constructor
  · rintro ⟨currency, key, link, hget, hstore, -, hverified⟩
    have hmem : (key, link) ∈ loadLinks rows storeId :=
      Table.mem_select.mpr ⟨hget, by simp [hstore]⟩
    rw [hrows] at hmem
    obtain rfl := List.mem_singleton.mp hmem
    exact hverified
  · intro hverified
    have hmem : (row.1, row.2) ∈ loadLinks rows storeId := by
      rw [hrows]
      exact List.mem_singleton_self _
    obtain ⟨hget, hstore⟩ := Table.mem_select.mp hmem
    exact ⟨row.2.currency, row.1, row.2, hget, by simpa using hstore, rfl, hverified⟩

theorem findStore_eq_ok {storePublicId : String}
    (hfind : findStore rows storePublicId = .ok (storeId, store)) :
    rows.stores.get? storeId = some store := by
  simp only [findStore, bind_eq_ok] at hfind
  obtain ⟨found, hfound, hfind⟩ := hfind
  cases found with
  | none => cases hfind
  | some row =>
      obtain rfl := Except.ok.inj hfind
      have hmem : (storeId, store) ∈ rows.stores.select fun _ store =>
          decide (store.publicId = storePublicId) := by
        rw [oneOrNone_eq_some hfound]
        exact List.mem_singleton_self _
      exact (Table.mem_select.mp hmem).1

/-- Bringing a store back asks for its one link, verified or not. -/
theorem restoreStore_advertised_iff (hadvertised : Advertised rows)
    (hstore : rows.stores.get? storeId = some store) {actorId : ℕ} {recordsAccount : Bool} :
    Commits rows (· = rows) (restoreStore actorId storeId store recordsAccount)
      fun _ committed => Advertised committed ↔ ReturnsVerified rows storeId store := by
  unfold restoreStore
  split
  · next hstatus =>
    refine Commits.pure ?_
    rintro _ rfl
    exact iff_of_true hadvertised fun hdisabled => absurd hdisabled hstatus
  · next hdisabled =>
    refine Commits.query_at fun restored hrestored => Commits.stage_at (Commits.stage_at ?_)
    refine Commits.commit ?_
    rintro _ rfl
    refine (advertised_setStatus_iff hadvertised hstore _ _).trans ?_
    simp only [restoredStatus] at hrestored
    cases hone : oneOrNone (loadLinks rows storeId) with
    | error failure =>
        rw [hone] at hrestored
        cases hrestored
    | ok found =>
        rw [hone] at hrestored
        obtain rfl := Except.ok.inj hrestored
        cases found with
        | none =>
            -- the store has no link, and comes back as a draft
            refine iff_of_true (fun hactive => by cases hactive) fun _ row hrows => ?_
            rw [hrows] at hone
            cases hone
        | some row =>
            have hrows := oneOrNone_eq_some hone
            refine Iff.trans ⟨fun hverified => hverified rfl, fun hverified _ => hverified⟩
              ((verifiedFor_of_loadLinks hrows).trans ?_)
            constructor
            · intro hverified _ found hfound
              obtain ⟨rfl, -⟩ := List.cons.inj (hrows.symm.trans hfound)
              exact hverified
            · exact fun hreturns => hreturns (not_not.mp hdisabled) row hrows

/-- A call that goes through leaves every active store a verified link exactly when what it
writes does. -/
theorem StoreRequest.work_advertised_iff (hadvertised : Advertised rows)
    (request : StoreRequest) :
    Commits rows (· = rows) (request.work settings)
      fun _ committed => Advertised committed ↔ WritesDestination rows request := by
  cases request with
  | create payway accountId payload publicId =>
      refine Commits.imp (createStore_advertised hadvertised accountId payload publicId) ?_
      exact fun _ _ hafter => iff_of_true hafter trivial
  | attach payway accountId storePublicId payload =>
      exact attachLink_advertised_iff hadvertised
  | update payway accountId storePublicId patch =>
      exact updateStore_advertised_iff hadvertised
  | disable accountId storePublicId =>
      refine Commits.imp (disableStore_advertised hadvertised) ?_
      exact fun _ _ hafter => iff_of_true hafter trivial
  | enable accountId storePublicId =>
      refine Commits.query_at fun row hrow => ?_
      refine Commits.imp (restoreStore_advertised_iff hadvertised (getStore_eq_ok hrow).1) ?_
      intro _ _ hiff
      refine hiff.trans ⟨?_, fun hwrites => hwrites row.1 row.2 hrow⟩
      intro hreturns storeId store hfound
      obtain rfl := Except.ok.inj (hrow.symm.trans hfound)
      exact hreturns
  | operatorEnable actorId storePublicId =>
      refine Commits.query_at fun row hrow => ?_
      refine Commits.imp (restoreStore_advertised_iff hadvertised (findStore_eq_ok hrow)) ?_
      intro _ _ hiff
      refine hiff.trans ⟨?_, fun hwrites => hwrites row.1 row.2 hrow⟩
      intro hreturns storeId store hfound
      obtain rfl := Except.ok.inj (hrow.symm.trans hfound)
      exact hreturns

end Calls

/-! ## Every run -/

theorem provisionStep_advertised_iff {settings : Settings} {tables : Tables}
    (hadvertised : Advertised tables) (request : StoreRequest) :
    Advertised (next (provisionStep settings) tables request) ↔
      KeepsDestination settings tables request := by
  have hcommits : Commits tables (· = tables) (request.work settings) _ :=
    StoreRequest.work_advertised_iff hadvertised request
  rcases Commits.call hcommits with ⟨storeId, hok, hcommitted⟩ | ⟨failure, hfailed⟩
  · exact hcommitted.trans ⟨fun hwrites _ => hwrites, fun hkeeps => hkeeps ⟨storeId, hok⟩⟩
  · -- a refused call leaves the rows
    have hsame : next (provisionStep settings) tables request = tables :=
      congrArg Prod.fst hfailed
    rw [hsame]
    refine iff_of_true hadvertised fun ⟨storeId, hok⟩ => ?_
    have hrefused : (provisionStep settings tables request).2 = .error failure :=
      congrArg Prod.snd hfailed
    cases hok.symm.trans hrefused

/-- No store is ever active without a verified link exactly in the runs whose calls, where
they go through, leave every active store one. -/
theorem active_stores_verified_iff (settings : Settings) {tables : Tables}
    (hadvertised : Advertised tables) (requests : List StoreRequest) :
    (∀ first, first <+: requests →
        Advertised (run (provisionStep settings) tables first)) ↔
      Along (provisionStep settings) (KeepsDestination settings) tables requests := by
  rw [forall_run_iff_along]
  refine (and_iff_right hadvertised).trans ?_
  exact along_congr_of_invariant Advertised _ _
    (fun state request hstate => provisionStep_advertised_iff hstate request)
    (fun state request hstate hkeeps => (provisionStep_advertised_iff hstate request).mpr hkeeps)
    hadvertised requests

namespace Specimen

/-- PayWay does not answer. -/
def silentPayway : PayWay := { payway with linkPage := fun _ _ => .unreachable }

/-- The confirmed link of the second shop is replaced. -/
def replaceLink (payway : PayWay) : StoreRequest :=
  .update payway 1 "store_second" { link := some (some { dollarLink with currencySet := true }) }

/-- The second shop opens while PayWay is silent, and is disabled and enabled. -/
def reopenedShop : List StoreRequest :=
  [.create silentPayway 1 { name := "Second shop", link := some dollarLink } "store_second",
    .disable 1 "store_second", .enable 1 "store_second"]

end Specimen

theorem active_stores_verified_replaced :
    Advertised (run (provisionStep {}) Specimen.tables
      [Specimen.secondShop, Specimen.replaceLink Specimen.payway]) := by
  have hadvertised : Advertised Specimen.tables := by decide
  refine (active_stores_verified_iff {} hadvertised [Specimen.secondShop,
    Specimen.replaceLink Specimen.payway]).mpr ⟨fun _ => trivial, ?_, trivial⟩ _ List.prefix_rfl
  intro _ storeId store links _ hpatch _
  obtain rfl : [{ Specimen.dollarLink with currencySet := true }] = links :=
    Except.ok.inj hpatch
  exact .inl ⟨_, List.mem_singleton_self _, by decide +kernel⟩

/-- A silent PayWay leaves an active store an unverified link where it had a verified one,
and a store that never had one comes back active. -/
theorem active_stores_unverified :
    Advertised Specimen.tables ∧
      ¬ Advertised (run (provisionStep {}) Specimen.tables
        [Specimen.secondShop, Specimen.replaceLink Specimen.silentPayway]) ∧
      ¬ Advertised (run (provisionStep {}) Specimen.tables Specimen.reopenedShop) := by
  refine ⟨by decide, ?_, ?_⟩
  · decide +kernel
  · decide +kernel

end ChmabaPay
