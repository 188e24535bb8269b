import ChmabaPay.Operations
import ChmabaPay.Routers.Payments

/-! # A small platform

The platform's own account with its store and link, one merchant account, and
three plans. Concrete runs elsewhere start from here.
-/

namespace ChmabaPay.Specimen

open Calendar Relational Execution

def operator : Account where
  email := "ops@chmabapay.com"
  name := "ChmabaPay"
  status := .active
  isPlatformAdmin := true

def merchant : Account where
  email := "shop@example.com"
  name := "Shop"
  status := .active
  isPlatformAdmin := false

def hqStore : Store where
  publicId := "store_hq"
  accountId := 0
  name := "ChmabaPay HQ"
  externalId := none
  redirectSuccessUrl := none
  isInternal := true
  billingSuspendedAt := none
  status := .active

def shopStore : Store where
  publicId := "store_shop"
  accountId := 1
  name := "Shop"
  externalId := none
  redirectSuccessUrl := none
  isInternal := false
  billingSuspendedAt := none
  status := .active

/-- An active dollar link of a store. -/
def link (storeId : ℕ) : PaymentLink where
  storeId := storeId
  isAbaPayway := false
  rawLink := "khqr"
  merchantAccountId := "shop@bank"
  merchantName := none
  paywayClientId := none
  currency := .usd
  minAmountCents := 1
  maxAmountCents := none
  isActive := true

def plan (code : String) (monthlyFeeCents : Int) : Plan where
  name := code
  code := code
  monthlyFeeCents := monthlyFeeCents
  basePaymentsIncluded := 100
  maxStores := none
  isPublic := true
  isActive := true

def tables : Tables where
  accounts := .ofList [operator, merchant]
  stores := .ofList [hqStore, shopStore]
  links := .ofList [link 0, link 1]
  payments := .empty
  endpoints := .empty
  events := .empty
  deliveries := .empty
  plans := .ofList [plan "free" 0, plan "starter" 999, plan "pro" 5999]
  subscriptions := .empty
  invoices := .empty
  ledger := .empty
  audit := .empty

theorem constraints_tables : Constraints tables := by decide

def world : World := ⟨0, tables, constraints_tables⟩

theorem initial_world : Initial world := ⟨rfl, rfl, rfl, rfl, rfl⟩

/-- A rail whose offline encoder prints the public id. -/
def rail : Rail where
  createHostedCheckout := fun _ _ => .error "offline"
  buildKhqrPayload := fun _ _ _ publicId _ _ => .ok publicId
  md5 := id

/-- A credit with nothing to add. -/
def credit : Credit := ⟨none, none⟩

/-- An operation some seconds after the previous one. -/
def after (count : ℕ) (op : Op) : Timed := ⟨count * 1000000, op⟩

/-- An operation some days after the previous one. -/
def afterDays (count : ℕ) (op : Op) : Timed := after (count * 86400) op

/-- What the shop asks for. -/
def order : PaymentRequest where
  amountCents := 500
  referenceId := some "order-1"
  metadata := none
  idempotencyKey := none

/-- The amount of a body that says `5`. -/
def statedFive : FloatText := ⟨.finite 50 (-1), by rintro _ _ ⟨⟩; decide⟩

theorem statedFive_accepted : validateAmount statedFive = .ok statedFive := by rfl

/-- The shop has offered one code, payable for five minutes. -/
def sale : Database :=
  (run (step {}) world [after 60 (.createPayment rail 1 order "pay_1")]).db

/-- The row of that code. -/
def offered : Payment :=
  requestedPayment (seconds 60) 1 1 (link 1) order
    { qrString := "pay_1", qrMd5 := some "pay_1", expiresAt := seconds 360, hostedSession := none }
    "pay_1"

/-- The link of the shop is ABA's. -/
def hostedTables : Tables :=
  { tables with
    links := .ofList [link 0,
      { link 1 with isAbaPayway := true, rawLink := "https://link.payway.com.kh/shop" }] }

def hostedWorld : World := ⟨0, hostedTables, by decide⟩

/-- A rail on which ABA issues every code. -/
def hostedRail : Rail :=
  { rail with
    createHostedCheckout := fun _ _ => .ok
      { qrString := "khqr", qrMd5 := some "md5", expiresInSeconds := some 180,
        clientId := "client", token := "token", requestTime := "0", tranId := "tran" } }

end ChmabaPay.Specimen
