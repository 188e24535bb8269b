import ChmabaPay.Foundation.Url
import ChmabaPay.Payments.Rails
import ChmabaPay.Stores.Links

/-! # What a link is taken for

A link is accepted by one test and recognised by another, and fetched by a third reading
of the same text. The first looks for PayWay's domain anywhere in the text, in any case;
the second for the full host, as written; and the fetch goes to whatever host the text
names, when it is spelled as a web address.
-/

namespace ChmabaPay

open Calendar Relational Staging Execution Fallible

/-! ## Recognition -/

/-- The host by which a stored link is recognised. -/
def recognisedHost : String := "link.payway.com.kh"

/-- Once the destination is written, the link the store has for its currency is ABA's, and
a payment made through it without asking for a rail has its code from ABA. -/
def HasAbaIssue (payload : LinkCreate) (verification : Verification) : Prop :=
  ∀ tables storeId attached, attachLinkToStore tables storeId payload verification = .ok attached →
    ∀ linkId link, attached.links.get? linkId = some link → link.storeId = storeId →
      link.currency = payload.currency →
      isPaywayLink link = true ∧
        ∀ settings rail now store request publicId after payment,
          loadActiveLink attached storeId request.currency = .ok (linkId, link) →
          request.hostedQr = none →
          createPayment settings rail now attached storeId store request publicId =
            .ok (attached.payments.next, after) →
          after.payments.get? attached.payments.next = some payment → payment.isHosted = true

/-- The link a store has for a currency once its destination was written. -/
theorem attachLinkToStore_isPaywayLink {tables attached : Tables} {storeId : ℕ}
    {payload : LinkCreate} {verification : Verification}
    (hattach : attachLinkToStore tables storeId payload verification = .ok attached)
    {linkId : ℕ} {link : PaymentLink} (hget : attached.links.get? linkId = some link)
    (hstore : link.storeId = storeId)
    (hcurrency : link.currency = payload.currency) :
    link.isAbaPayway = true ∧ link.rawLink = payload.rawLink := by
  rcases attachLinkToStore_eq_ok hattach with
    ⟨hfree, rfl⟩ | ⟨replacedId, replaced, hreplaced, hreplacedStore, -, honly, rfl⟩
  · rw [Table.get?_insert] at hget
    split at hget
    · obtain rfl := Option.some.inj hget
      exact ⟨rfl, rfl⟩
    · exact absurd hcurrency (hfree linkId link hget hstore)
  · rw [Table.get?_update] at hget
    split at hget
    · next hlinkId =>
      subst hlinkId
      rw [hreplaced] at hget
      obtain rfl := Option.some.inj hget
      exact ⟨rfl, rfl⟩
    · next hother => exact absurd (honly linkId link hget hstore hcurrency) hother

/-- The link as written is ABA's when its text holds the host by which ABA's links are
recognised. -/
theorem hasAbaIssue_iff (payload : LinkCreate) (verification : Verification) :
    HasAbaIssue payload verification ↔
      recognisedHost.toList <:+: payload.rawLink.toList := by
  constructor
  · intro hissue
    -- a store without links gets this one
    have hattach : attachLinkToStore Specimen.tables 2 payload verification = .ok
        { Specimen.tables with
          links := Specimen.tables.links.insert (newLink 2 payload verification) } := rfl
    have hget : (Specimen.tables.links.insert (newLink 2 payload verification)).get? 2 =
        some (newLink 2 payload verification) := rfl
    have hpayway := (hissue _ _ _ hattach 2 _ hget rfl rfl).1
    simp only [isPaywayLink, newLink, Bool.true_and] at hpayway
    exact of_decide_eq_true hpayway
  · intro hhost tables storeId attached hattach linkId link hget hstore hcurrency
    obtain ⟨haba, hraw⟩ := attachLinkToStore_isPaywayLink hattach hget hstore hcurrency
    have hpayway : isPaywayLink link = true := by
      simp only [isPaywayLink, haba, hraw, Bool.true_and, decide_eq_true_eq]
      exact hhost
    refine ⟨hpayway, ?_⟩
    intro settings rail now store request publicId after payment hactive hqr hcreate hpayment
    obtain ⟨mintedId, mintedLink, minted, hload, -, hmint, rfl⟩ := createPayment_minted hcreate
    obtain ⟨rfl, rfl⟩ := Prod.mk.inj (Except.ok.inj (hactive.symm.trans hload))
    rw [Table.get?_insert, if_pos rfl] at hpayment
    obtain rfl := Option.some.inj hpayment
    rw [requestedPayment_isHosted, mintQr_eq_ok hmint, hqr]
    exact hpayway

/-- A link that `resolve_link` accepts gets its codes from ABA exactly when its text holds
the host by which ABA's links are recognised. -/
theorem accepted_link_hosted_iff {settings : Settings} {payway : PayWay}
    {payload named : LinkCreate} {verification : Verification}
    (hresolve : resolveLink settings payway payload = .ok (verification, named)) :
    HasAbaIssue named verification ↔ recognisedHost.toList <:+: payload.rawLink.toList := by
  rw [hasAbaIssue_iff, (resolveLink_eq_ok hresolve).2.2]

theorem accepted_link_hosted_dollar :
    HasAbaIssue { Specimen.dollarLink with merchantName := some "Shop" } .verified ↔
      recognisedHost.toList <:+: Specimen.dollarLink.rawLink.toList := by
  have hresolve : resolveLink {} Specimen.payway Specimen.dollarLink =
      .ok (.verified, { Specimen.dollarLink with merchantName := some "Shop" }) := rfl
  exact accepted_link_hosted_iff hresolve

/-- A dollar link to another place. -/
def Specimen.linkTo (rawLink : String) : LinkCreate := { Specimen.dollarLink with rawLink }

/-- A slug is accepted and confirmed, and so is a link whose host is in capitals; neither
gets its codes from ABA. -/
theorem accepted_links_offline :
    (resolveLink {} Specimen.payway (Specimen.linkTo "ABAPAYpe518710Y") =
        .ok (.verified,
          { Specimen.linkTo "ABAPAYpe518710Y" with merchantName := some "Shop" }) ∧
      ¬ HasAbaIssue { Specimen.linkTo "ABAPAYpe518710Y" with merchantName := some "Shop" }
        .verified) ∧
    resolveLink {} Specimen.payway
        (Specimen.linkTo "https://LINK.PAYWAY.COM.KH/ABAPAYpe518710Y") =
        .ok (.verified, { Specimen.linkTo "https://LINK.PAYWAY.COM.KH/ABAPAYpe518710Y" with
          merchantName := some "Shop" }) ∧
      ¬ HasAbaIssue { Specimen.linkTo "https://LINK.PAYWAY.COM.KH/ABAPAYpe518710Y" with
        merchantName := some "Shop" } .verified := by
  simp only [hasAbaIssue_iff]
  exact ⟨⟨rfl, by decide⟩, rfl, by decide⟩

/-! ## Fetching -/

/-- The addresses the server asks for on behalf of a link: the page PayWay is asked about
when the link is written, and the page a code is minted from. -/
def fetchedUrls (payway : PayWay) (rawLink : List Char) : List (List Char) :=
  let raw := pythonStrip rawLink
  (if extractSlug payway raw = [] then [] else [linkUrl raw]) ++ [checkoutUrl rawLink]

/-- Every address a link makes the server ask for is at PayWay. The client says what host
it connects to for an address, unless it refuses the address. -/
def StaysAtPayWay (client : List Char → Option (List Char)) (payway : PayWay)
    (rawLink : List Char) : Prop :=
  ∀ url ∈ fetchedUrls payway rawLink, ∀ host ∈ client url,
    Url.Under paywayLinkHost.toList host

instance (client : List Char → Option (List Char)) (payway : PayWay) (rawLink : List Char) :
    Decidable (StaysAtPayWay client payway rawLink) :=
  inferInstanceAs (Decidable (∀ url ∈ fetchedUrls payway rawLink, ∀ host ∈ client url,
    Url.Under paywayLinkHost.toList host))

/-- The text is spelled as a web address. -/
def IsWebAddress (text : List Char) : Prop :=
  "http://".toList <+: text ∨ "https://".toList <+: text

instance : DecidablePred IsWebAddress := fun _ => inferInstanceAs (Decidable (_ ∨ _))

/-- The link, as it is stored and without the spaces around it, is no web address of
another host. -/
def NamesNoOtherHost (client : List Char → Option (List Char)) (rawLink : List Char) : Prop :=
  ∀ text ∈ [pythonStrip rawLink, rawLink], IsWebAddress text →
    ∀ host ∈ client text, Url.Under paywayLinkHost.toList host

/-- The client reads the host of an address at PayWay up to the slash behind it. -/
def ReadsPayWay (client : List Char → Option (List Char)) : Prop :=
  ∀ path, ∀ host ∈ client (paywayBase.toList ++ '/' :: path), host = recognisedHost.toList

section Fetching

variable {client : List Char → Option (List Char)} {payway : PayWay} {rawLink : List Char}

theorem linkUrl_of_isWebAddress (hweb : IsWebAddress rawLink) : linkUrl rawLink = rawLink :=
  if_pos hweb

/-- A link that is no web address is looked up at PayWay. -/
theorem linkUrl_under (hreads : ReadsPayWay client) (hweb : ¬ IsWebAddress rawLink) :
    ∀ host ∈ client (linkUrl rawLink), Url.Under paywayLinkHost.toList host := by
  have hurl : linkUrl rawLink =
      paywayBase.toList ++ '/' :: rawLink.dropWhile fun char => decide (char = '/') := if_neg hweb
  intro host hhost
  rw [hurl] at hhost
  rw [hreads _ host hhost]
  decide

theorem checkoutUrl_of_isWebAddress (hweb : IsWebAddress rawLink) :
    checkoutUrl rawLink = rawLink := by
  have hhttp : "http".toList <+: rawLink := by
    rcases hweb with hplain | hsecure
    · exact List.IsPrefix.trans (by decide) hplain
    · exact List.IsPrefix.trans (by decide) hsecure
  rw [checkoutUrl, if_pos hhttp, linkUrl_of_isWebAddress hweb]

theorem checkoutUrl_under (hreads : ReadsPayWay client) (hweb : ¬ IsWebAddress rawLink) :
    ∀ host ∈ client (checkoutUrl rawLink), Url.Under paywayLinkHost.toList host := by
  unfold checkoutUrl
  split
  · exact linkUrl_under hreads hweb
  · -- the prefixed text is a web address of PayWay's
    have hbase : IsWebAddress (paywayBase.toList ++ '/' :: rawLink) :=
      .inr (List.IsPrefix.trans (by decide) (List.prefix_append _ _))
    rw [linkUrl_of_isWebAddress hbase]
    intro host hhost
    rw [hreads _ host hhost]
    decide

/-- Stripping keeps the first character of a text, when it is no space. -/
theorem pythonStrip_cons {char : Char} (hchar : isPythonSpace char = false)
    (rest : List Char) : ∃ kept, pythonStrip (char :: rest) = char :: kept := by
  unfold pythonStrip
  rw [List.dropWhile_cons_of_neg (by simp [hchar]), List.reverse_cons, List.dropWhile_append]
  split
  · exact ⟨[], by simp [hchar]⟩
  · exact ⟨_, by rw [List.reverse_append]; rfl⟩

/-- The last segment of a path is never empty. -/
theorem lastSegment_ne_nil {text segment : List Char}
    (hsegment : lastSegment payway text = some segment) : segment ≠ [] := by
  unfold lastSegment at hsegment
  split at hsegment
  · split at hsegment
    · cases hsegment
    · next path _ =>
      dsimp only at hsegment
      split at hsegment
      · cases hsegment
      · next hpath =>
        obtain rfl := Option.some.inj hsegment
        rw [List.reverse_reverse]
        rw [List.reverse_eq_nil_iff] at hpath
        -- what is left of the path ends in no slash
        have hlast := List.head?_dropWhile_not (fun char => decide (char = '/')) path.reverse
        cases htail : path.reverse.dropWhile fun char => decide (char = '/') with
        | nil => exact absurd htail hpath
        | cons char rest =>
            rw [htail] at hlast
            have hchar : char ≠ '/' := by simpa using hlast
            simp [before, hchar]
  · cases hsegment

/-- A web address always names something to ask PayWay about. -/
theorem extractSlug_ne_nil (payway : PayWay) (hweb : IsWebAddress rawLink) :
    extractSlug payway rawLink ≠ [] := by
  have hfirst : ∃ rest, rawLink = 'h' :: rest := by
    rcases hweb with ⟨rest, rfl⟩ | ⟨rest, rfl⟩
    · exact ⟨_, rfl⟩
    · exact ⟨_, rfl⟩
  obtain ⟨rest, rfl⟩ := hfirst
  obtain ⟨kept, hkept⟩ := pythonStrip_cons (by decide : isPythonSpace 'h' = false) rest
  unfold extractSlug
  rw [hkept]
  dsimp only
  split
  · next segment hsegment => exact lastSegment_ne_nil hsegment
  · split
    · split
      · exact List.cons_ne_nil _ _
      · next htail => exact htail
    · simp [before]

/-- A link makes the server ask nobody but PayWay exactly when it is no web address of
another host. -/
theorem fetches_stay_iff (hreads : ReadsPayWay client) (payway : PayWay)
    (rawLink : List Char) :
    StaysAtPayWay client payway rawLink ↔ NamesNoOtherHost client rawLink := by
  constructor
  · intro hstays text htext hweb host hhost
    simp only [List.mem_cons, List.not_mem_nil, or_false] at htext
    rcases htext with rfl | rfl
    · refine hstays _ ?_ host ((linkUrl_of_isWebAddress hweb).symm ▸ hhost)
      simp [fetchedUrls, extractSlug_ne_nil payway hweb]
    · refine hstays _ ?_ host ((checkoutUrl_of_isWebAddress hweb).symm ▸ hhost)
      simp [fetchedUrls]
  · intro hnames url hurl host hhost
    rcases List.mem_append.mp hurl with hlink | hcheckout
    · split at hlink
      · cases hlink
      · obtain rfl := List.mem_singleton.mp hlink
        by_cases hweb : IsWebAddress (pythonStrip rawLink)
        · rw [linkUrl_of_isWebAddress hweb] at hhost
          exact hnames _ (by simp) hweb host hhost
        · exact linkUrl_under hreads hweb host hhost
    · obtain rfl := List.mem_singleton.mp hcheckout
      by_cases hweb : IsWebAddress rawLink
      · rw [checkoutUrl_of_isWebAddress hweb] at hhost
        exact hnames _ (by simp) hweb host hhost
      · exact checkoutUrl_under hreads hweb host hhost

end Fetching

/-- A client that reads the generic syntax of a URL. -/
def genericClient (url : List Char) : Option (List Char) := some (Url.host url)

theorem genericClient_readsPayWay : ReadsPayWay genericClient := by
  intro path host hhost
  obtain rfl := Option.some.inj hhost
  have hplain : recognisedHost.toList.all (fun char => !Url.isDelimiter char) = true := by decide
  have hauthority : Url.authority (paywayBase.toList ++ '/' :: path) = recognisedHost.toList :=
    Url.authority_append "https:".toList recognisedHost.toList path (by decide) fun char hchar =>
      Bool.not_eq_true' _ ▸ List.all_eq_true.mp hplain char hchar
  unfold Url.host
  rw [hauthority]
  decide

theorem fetches_stay_dollar :
    StaysAtPayWay genericClient Specimen.payway Specimen.dollarLink.rawLink.toList ↔
      NamesNoOtherHost genericClient Specimen.dollarLink.rawLink.toList :=
  fetches_stay_iff genericClient_readsPayWay Specimen.payway Specimen.dollarLink.rawLink.toList

/-- PayWay's domain in the path, the query, the user part or in front of another domain is
enough for a link to be accepted, and the server asks the other host. -/
theorem fetches_elsewhere :
    (linkShapeError "https://evil.example/payway.com.kh".toList = none ∧
      ¬ StaysAtPayWay genericClient Specimen.payway
        "https://evil.example/payway.com.kh".toList) ∧
    ∀ rawLink ∈ ["https://evil.example/?payway.com.kh", "https://payway.com.kh@evil.example/",
        "https://payway.com.kh.evil.example/x"],
      linkShapeError rawLink.toList = none ∧
        ¬ StaysAtPayWay genericClient Specimen.payway rawLink.toList := by
  decide +kernel

end ChmabaPay
