import ChmabaPay.Foundation.Staging
import ChmabaPay.Services.Payments
import ChmabaPay.Services.Slots

/-! # Where a store's money goes

Provisioning stores and their payment links, as in `services/stores.py`, with the part of
`payway_parser.py` that asks PayWay about a link. A call works in a session of its own
and commits once, at its end.
-/

namespace ChmabaPay

open Calendar Relational Staging

/-! ## Links as PayWay spells them -/

def paywayLinkHost : String := "payway.com.kh"

/-- `[A-Za-z0-9._-]`. -/
def isSlugChar (char : Char) : Bool :=
  char.isAlphanum || decide (char = '.') || decide (char = '_') || decide (char = '-')

/-- What is wrong with a link, before PayWay is asked about it. -/
def linkShapeError (rawLink : List Char) : Option String :=
  let s := pythonStrip rawLink
  if s = [] then some "a link is required"
  else if '/' ∈ s then
    if paywayLinkHost.toList <:+: pythonLower s then none
    else some ("expected an ABA PayWay share link such as " ++
      "https://link.payway.com.kh/ABAPAYxxxxxxx")
  else if 4 ≤ s.length ∧ s.length ≤ 64 ∧ s.all isSlugChar = true then none
  else some "expected an ABA PayWay share link, or its slug (4-64 characters)"

def paywayBase : String := "https://link.payway.com.kh"

/-- The address `fetch_link_html` asks for. -/
def linkUrl (slugOrUrl : List Char) : List Char :=
  if "http://".toList <+: slugOrUrl ∨ "https://".toList <+: slugOrUrl then slugOrUrl
  else paywayBase.toList ++ '/' :: slugOrUrl.dropWhile fun char => decide (char = '/')

/-- The address `create_hosted_checkout` reads the link page from. -/
def checkoutUrl (slugOrUrl : List Char) : List Char :=
  linkUrl (if "http".toList <+: slugOrUrl then slugOrUrl
    else paywayBase.toList ++ '/' :: slugOrUrl)

/-- What PayWay answers for the page of a link. The page is read for the name of its
merchant and the currency it settles in, in the spelling of `normalize_currency`. -/
inductive LinkPage where
  | status (code : ℕ)
  | unreachable
  | page (merchantName currency : Option String)
deriving DecidableEq

/-- What a call gets from outside for the link of each currency it writes, and the path
`urlparse` reads in an address, where it does not raise. -/
structure PayWay where
  linkPage : Currency → List Char → LinkPage
  urlPath : List Char → Option (List Char)

def stripSlashes (text : List Char) : List Char :=
  let isSlash := fun char : Char => decide (char = '/')
  ((text.dropWhile isSlash).reverse.dropWhile isSlash).reverse

/-- The text before a character. -/
def before (char : Char) (text : List Char) : List Char :=
  text.takeWhile fun other => decide (other ≠ char)

/-- The last segment of the path of a URL. -/
def lastSegment (payway : PayWay) (text : List Char) : Option (List Char) :=
  if "://".toList <:+: text then
    match payway.urlPath text with
    | none => none
    | some path =>
        let path := (path.reverse.dropWhile fun char => decide (char = '/')).reverse
        if path = [] then none else some (before '/' path.reverse).reverse
  else none

def extractSlug (payway : PayWay) (slugOrUrl : List Char) : List Char :=
  let s := pythonStrip slugOrUrl
  match lastSegment payway s with
  | some segment => segment
  | none =>
      if paywayBase.toList <+: s then
        let tail := before '#' (before '?' (stripSlashes (s.drop paywayBase.length)))
        if tail = [] then s else tail
      else before '#' (before '?' s)

inductive LinkOutcome where
  | ok
  | notFound
  | inconclusive
deriving DecidableEq

/-- What PayWay said about a link, before it becomes a store's destination. -/
structure PayWayLinkCheck where
  outcome : LinkOutcome
  slug : List Char
  merchantName : Option String := none
  currency : Option String := none
deriving DecidableEq

def verifyLink (payway : PayWay) (currency : Currency) (rawLink : List Char) :
    PayWayLinkCheck :=
  let slug := extractSlug payway rawLink
  if slug = [] then ⟨.notFound, [], none, none⟩
  else match payway.linkPage currency (linkUrl rawLink) with
    | .status code =>
        if code = 404 ∨ code = 410 then ⟨.notFound, slug, none, none⟩
        else ⟨.inconclusive, slug, none, none⟩
    | .unreachable => ⟨.inconclusive, slug, none, none⟩
    | .page merchantName pageCurrency =>
        if merchantName.getD "" = "" then ⟨.inconclusive, slug, none, none⟩
        else ⟨.ok, slug, merchantName, pageCurrency⟩

/-! ## Payloads -/

/-- A destination as a caller sends it, with whether it named the currency. -/
structure LinkCreate where
  rawLink : String
  merchantAccountId : String
  merchantName : Option String := none
  currency : Currency := .usd
  currencySet : Bool := false
deriving DecidableEq

structure StoreCreate where
  name : String
  externalId : Option String := none
  city : String := "Phnom Penh"
  supportEmail : Option String := none
  redirectSuccessUrl : Option String := none
  redirectFailureUrl : Option String := none
  telegramChatId : Option String := none
  brandColor : Option String := none
  logoImageUrl : Option String := none
  whitelabelCss : Option String := none
  link : Option LinkCreate := none
  links : Option (List LinkCreate) := none
deriving DecidableEq

/-- A partial update. Every field may be left out, sent as null or sent with a value. -/
structure StorePatch where
  name : Option (Option String) := none
  externalId : Option (Option String) := none
  city : Option (Option String) := none
  supportEmail : Option (Option String) := none
  redirectSuccessUrl : Option (Option String) := none
  redirectFailureUrl : Option (Option String) := none
  telegramChatId : Option (Option String) := none
  brandColor : Option (Option String) := none
  logoImageUrl : Option (Option String) := none
  whitelabelCss : Option (Option String) := none
  link : Option (Option LinkCreate) := none
  links : Option (Option (List LinkCreate)) := none
deriving DecidableEq

/-- The names of the fields a patch sets, in alphabetical order. -/
def StorePatch.fieldsSet (patch : StorePatch) : List String :=
  let field := fun (isSet : Bool) (name : String) => if isSet then [name] else []
  field patch.brandColor.isSome "brand_color" ++ field patch.city.isSome "city" ++
    field patch.externalId.isSome "external_id" ++ field patch.link.isSome "link" ++
    field patch.links.isSome "links" ++ field patch.logoImageUrl.isSome "logo_image_url" ++
    field patch.name.isSome "name" ++
    field patch.redirectFailureUrl.isSome "redirect_failure_url" ++
    field patch.redirectSuccessUrl.isSome "redirect_success_url" ++
    field patch.supportEmail.isSome "support_email" ++
    field patch.telegramChatId.isSome "telegram_chat_id" ++
    field patch.whitelabelCss.isSome "whitelabel_css"

/-- What a patch writes into a store. A null for a column that holds none is kept back
here, and refused by the database. -/
def StorePatch.applyTo (patch : StorePatch) (store : Store) : Store :=
  { store with
    name := (patch.name.getD none).getD store.name
    externalId := patch.externalId.getD store.externalId
    city := (patch.city.getD none).getD store.city
    supportEmail := patch.supportEmail.getD store.supportEmail
    redirectSuccessUrl := patch.redirectSuccessUrl.getD store.redirectSuccessUrl
    redirectFailureUrl := patch.redirectFailureUrl.getD store.redirectFailureUrl
    telegramChatId := patch.telegramChatId.getD store.telegramChatId
    brandColor := patch.brandColor.getD store.brandColor
    logoImageUrl := patch.logoImageUrl.getD store.logoImageUrl
    whitelabelCss := patch.whitelabelCss.getD store.whitelabelCss }

/-- A patch nulls a column that may not be null. -/
def StorePatch.nulls (patch : StorePatch) : Bool :=
  decide (patch.name = some none) || decide (patch.city = some none)

/-! ## Which links a call writes -/

def maxLinks : ℕ := 2

/-- A second link for a currency. -/
def refuseDuplicateCurrency : List Currency → List LinkCreate → Except Failure Unit
  | _, [] => .ok ()
  | seen, candidate :: rest =>
      if candidate.currency ∈ seen then
        .error (.http 400 ("duplicate_link_currency: two links were sent for " ++
          candidate.currency.name ++ "."))
      else refuseDuplicateCurrency (candidate.currency :: seen) rest

/-- The destinations a create or update named, with the ambiguous cases refused. -/
def linksFrom (single : Option LinkCreate) (many : Option (List LinkCreate)) :
    Except Failure (List LinkCreate) :=
  let many := many.getD []
  if single.isSome ∧ many ≠ [] then
    .error (.http 400 "link_and_links: send `link` or `links`, not both.")
  else
    let candidates := if many ≠ [] then many else single.toList
    if maxLinks < candidates.length then
      .error (.http 400 "too_many_links: a store holds at most 2, one per currency.")
    else match refuseDuplicateCurrency [] candidates with
      | .error failure => .error failure
      | .ok () => .ok candidates

/-- The store currency a destination cannot honour is refused: a confirmed mismatch, and
anything but dollars where the page names no currency. -/
def enforceCurrencyAllowed (settings : Settings) (requested : Currency)
    (check : PayWayLinkCheck) : Except Failure Unit :=
  if requested = .khr ∧ settings.enableKhrCurrency = false then
    .error (.http 400
      "khr_currency_disabled: KHR stores are not switched on for this deployment yet.")
  else match check.currency.filter (· ≠ "") with
    | some linkCurrency =>
        if linkCurrency ≠ requested.name then
          .error (.http 400 ("payway_link_currency_mismatch: this ABA PayWay link settles in " ++
            linkCurrency ++ ", but the store was set to " ++ requested.name ++ "."))
        else .ok ()
    | none =>
        if requested ≠ .usd then
          .error (.http 400 ("payway_link_currency_unverified: PayWay did not report this " ++
            "link's currency, so a " ++ requested.name ++ " store cannot be confirmed " ++
            "against it. Use a link PayWay reports the currency for."))
        else .ok ()

/-- ABA's name for the merchant fills in for a blank one. -/
def LinkCreate.named (payload : LinkCreate) (check : PayWayLinkCheck) : LinkCreate :=
  if pythonStrip (payload.merchantName.getD "").toList = [] ∧ check.merchantName.getD "" ≠ "" then
    { payload with merchantName := check.merchantName }
  else payload

/-- Settle a link's verification against PayWay, or refuse it. -/
def resolveLink (settings : Settings) (payway : PayWay) (payload : LinkCreate) :
    Except Failure (Verification × LinkCreate) :=
  let raw := pythonStrip payload.rawLink.toList
  match linkShapeError raw with
  | some reason => .error (.http 400 ("payway_link_invalid: " ++ reason))
  | none =>
      let check := verifyLink payway payload.currency raw
      if check.outcome = .notFound then
        .error (.http 400 ("payway_link_not_found: ABA PayWay has no link at " ++
          String.ofList (if check.slug = [] then raw else check.slug) ++
          ". Copy the share link again from the ABA app — a mistyped link takes payments " ++
          "nowhere."))
      else match enforceCurrencyAllowed settings payload.currency check with
        | .error failure => .error failure
        | .ok () =>
            if check.outcome = .ok then .ok (.verified, payload.named check)
            else .ok (.unverified, payload)

end ChmabaPay
