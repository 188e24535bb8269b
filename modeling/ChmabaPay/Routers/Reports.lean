import ChmabaPay.Foundation.Paging
import ChmabaPay.Services.Probes

/-! # Payment reports

`routers/reports.py`: the payments of an account that match a filter, as CSV and as pages of
JSON. Every query joins the payments with their stores, and its answer is ordered by the time
of creation, the newest first.
-/

namespace ChmabaPay

open Calendar Relational

/-! ## The filter -/

/-- A date as `datetime.fromisoformat` reads it: its clock, and how far that clock is ahead of
UTC where the text says so. -/
structure IsoDate where
  clock : Instant
  offset : Option Int := none

/-- The query string. -/
structure ReportQuery where
  fromDate : Option String := none
  toDate : Option String := none
  storeId : Option String := none
  merchant : Option String := none
  statuses : Option String := none

structure ReportFilter where
  fromDt : Option Instant
  toDt : Option Instant
  storePublicId : Option String
  merchantExternalId : Option String
  statusesList : List String

/-- `datetime.fromisoformat` and the lower case of the database. -/
structure ReportOutside where
  fromIsoFormat : String → Option IsoDate
  collation : Collation

def microsecondsPerDay : Int := 86400 * 1000000

/-- Midnight of a date on its own clock. -/
def IsoDate.midnight (date : IsoDate) : Instant :=
  date.clock - date.clock % microsecondsPerDay - date.offset.getD 0

def parseIsoDateStart (outside : ReportOutside) (text : String) : Except Failure Instant :=
  match outside.fromIsoFormat text with
  | none => .error (.http 400 ("Invalid 'from' date: " ++ text))
  | some date => .ok date.midnight

def parseIsoDateEnd (outside : ReportOutside) (text : String) : Except Failure Instant :=
  match outside.fromIsoFormat text with
  | none => .error (.http 400 ("Invalid 'to' date: " ++ text))
  | some date => .ok (date.midnight + (microsecondsPerDay - 1))

/-- The statuses of a list between commas, without blanks and empty entries. -/
def splitStatuses (text : String) : List String :=
  ((text.toList.splitOn ',').map pythonStrip).filter (· ≠ []) |>.map String.ofList

def ReportQuery.filter (outside : ReportOutside) (query : ReportQuery) :
    Except Failure ReportFilter := do
  let fromDt ← (query.fromDate.filter (· ≠ "")).mapM (parseIsoDateStart outside)
  let toDt ← (query.toDate.filter (· ≠ "")).mapM (parseIsoDateEnd outside)
  return {
    fromDt := fromDt
    toDt := toDt
    storePublicId := query.storeId
    merchantExternalId := query.merchant
    statusesList := (query.statuses.map splitStatuses).getD [] }

/-- The value of the status column. -/
def PaymentStatus.name : PaymentStatus → String
  | .pending => "pending"
  | .scanned => "scanned"
  | .paid => "paid"
  | .expired => "expired"
  | .failed => "failed"
  | .superseded => "superseded"
  | .reversed => "reversed"

/-- A payment joined with its store. -/
structure ReportRow where
  payment : Payment
  store : Store
deriving DecidableEq

/-- The conditions of `_build_filter_stmt` on one row. -/
def ReportFilter.keeps (filter : ReportFilter) (outside : ReportOutside) (accountId : ℕ)
    (row : ReportRow) : Bool :=
  decide (row.store.accountId = accountId) &&
    withoutSyntheticPayments outside.collation row.payment.referenceId &&
    filter.fromDt.all (fun fromDt => decide (fromDt ≤ row.payment.createdAt)) &&
    filter.toDt.all (fun toDt => decide (row.payment.createdAt ≤ toDt)) &&
    filter.storePublicId.all (fun publicId => decide (row.store.publicId = publicId)) &&
    filter.merchantExternalId.all (fun externalId =>
      decide (row.store.externalId = some externalId)) &&
    (filter.statusesList.isEmpty || filter.statusesList.contains row.payment.status.name)

/-- The join of payments and stores. -/
def joinedRows (tables : Tables) : List ReportRow :=
  tables.payments.rows.filterMap fun row =>
    (tables.stores.get? row.2.storeId).map fun store => ⟨row.2, store⟩

/-- The store a filter names has to be one of the account's. -/
def requireNamedStore (tables : Tables) (accountId : ℕ) : Option String → Except Failure Unit
  | none => .ok ()
  | some publicId => do
      let found ← oneOrNone (tables.stores.select fun _ store =>
        decide (store.publicId = publicId) && decide (store.accountId = accountId))
      if found.isNone then .error (.http 404 "store_not_found") else .ok ()

/-- `_build_filter_stmt`: the rows a statement selects, in no order. -/
def buildFilterStmt (outside : ReportOutside) (tables : Tables) (accountId : ℕ)
    (filter : ReportFilter) : Except Failure (List ReportRow) := do
  requireNamedStore tables accountId filter.storePublicId
  return (joinedRows tables).filter (filter.keeps outside accountId)

/-! ## Rows of a report -/

structure ReportEntry where
  publicId : String
  status : PaymentStatus
  amount : String
  currency : Currency
  referenceId : String
  storePublicId : String
  storeName : String
  externalId : String
  qrMd5Trunc8 : String
  paidAt : Option Instant
  createdAt : Instant
  approvedAt : Option Instant
deriving DecidableEq

/-- `_row_to_dict`. -/
def rowToDict (row : ReportRow) : ReportEntry where
  publicId := row.payment.publicId
  status := row.payment.status
  amount := moneyToStr row.payment.amountCents row.payment.currency false
  currency := row.payment.currency
  referenceId := row.payment.referenceId.getD ""
  storePublicId := row.store.publicId
  storeName := row.store.name
  externalId := row.store.externalId.getD ""
  qrMd5Trunc8 := String.ofList ((row.payment.qrMd5.getD "").toList.take 8)
  paidAt := row.payment.paidAt
  createdAt := row.payment.createdAt
  approvedAt := row.payment.approvedAt

/-- How the database arranges the rows of a query. -/
abbrev Arrangement := List ReportRow → List ReportRow

/-- `export_payments_csv`: the rows behind the header. -/
def exportPaymentsCsv (outside : ReportOutside) (tables : Tables) (accountId : ℕ)
    (query : ReportQuery) (arrange : Arrangement) : Except Failure (List ReportEntry) := do
  let filter ← query.filter outside
  let rows ← buildFilterStmt outside tables accountId filter
  return (arrange rows).map rowToDict

/-! ## Pages -/

/-- Amounts summed for each currency, in the order of its name. -/
def amountsByCurrency (rows : List ReportRow) : List (Currency × Int) :=
  [Currency.khr, .usd].filterMap fun currency =>
    let amounts := (rows.filter fun row => decide (row.payment.currency = currency)).map
      (·.payment.amountCents)
    if amounts.isEmpty then none else some (currency, amounts.sum)

/-- The count and the amounts of the rows with one status. -/
structure StatusSummary where
  count : ℕ
  amountCents : Int
  byCurrency : List (Currency × Int × String)

def summarize (status : PaymentStatus) (rows : List ReportRow) : StatusSummary :=
  let matching := rows.filter fun row => decide (row.payment.status = status)
  let amounts := amountsByCurrency matching
  { count := matching.length
    amountCents := (amounts.map Prod.snd).sum
    byCurrency := amounts.map fun amount =>
      (amount.1, amount.2, moneyToStr amount.2 amount.1 true) }

structure ReportResponse where
  data : List ReportEntry
  totalMatchingRows : ℕ
  paid : StatusSummary
  paidAmountFormatted : String
  reversed : StatusSummary
  filtersApplied : ReportQuery
  statusesApplied : Option (List String)
  page : ℕ
  perPage : ℕ
  totalPages : ℕ

/-- `export_payments_json`. The two summaries do not go by the statuses of the filter. -/
def exportPaymentsJson (outside : ReportOutside) (tables : Tables) (accountId : ℕ)
    (query : ReportQuery) (arrange : Arrangement) (page perPage : ℕ) :
    Except Failure ReportResponse := do
  let filter ← query.filter outside
  let rows ← buildFilterStmt outside tables accountId filter
  let anyStatus ← buildFilterStmt outside tables accountId { filter with statusesList := [] }
  let paid := summarize .paid anyStatus
  return {
    data := (((arrange rows).drop ((page - 1) * perPage)).take perPage).map rowToDict
    totalMatchingRows := rows.length
    paid := paid
    paidAmountFormatted := moneyToStr paid.amountCents .usd true
    reversed := summarize .reversed anyStatus
    filtersApplied := query
    statusesApplied := if filter.statusesList.isEmpty then none else some filter.statusesList
    page := page
    perPage := perPage
    totalPages := if 0 < rows.length then (rows.length + perPage - 1) / perPage else 0 }

/-- A client that asks for one page after the other, as many as the first one reports. Every
page is a query that the database arranges anew. -/
def collectPages (outside : ReportOutside) (tables : Tables) (accountId : ℕ)
    (query : ReportQuery) (arrange : ℕ → Arrangement) (perPage : ℕ) :
    Except Failure (List ReportEntry) := do
  let first ← exportPaymentsJson outside tables accountId query (arrange 1) 1 perPage
  let pages ← (List.range first.totalPages).mapM fun index =>
    exportPaymentsJson outside tables accountId query (arrange (index + 1)) (index + 1) perPage
  return pages.flatMap (·.data)

end ChmabaPay
