import ChmabaPay.Foundation.Fallible
import ChmabaPay.Payments.Probes
import ChmabaPay.Routers.Reports
import ChmabaPay.Specimen

/-! # Whether the pages are complete

The pages of a report are queries of their own, and the clause they are ordered by leaves
payments of one moment in any order. The CSV is a single query.
-/

namespace ChmabaPay

open Calendar Paging Relational Fallible

/-- The rows that match a query. -/
def matchingRows (outside : ReportOutside) (tables : Tables) (accountId : ℕ)
    (query : ReportQuery) : Except Failure (List ReportRow) := do
  buildFilterStmt outside tables accountId (← query.filter outside)

/-- An answer in the order of the clause. -/
abbrev Newest (rows answer : List ReportRow) : Prop :=
  Ordered (fun row : ReportRow => row.payment.createdAt) rows answer

/-- Payments of one moment stand on both sides of a page border. -/
def TornApart (rows : List ReportRow) (perPage border : ℕ) : Prop :=
  Ties (fun row : ReportRow => row.payment.createdAt) rows (border * perPage)

section Queries

variable {outside : ReportOutside} {tables : Tables} {accountId perPage : ℕ} {query : ReportQuery}
  {filter : ReportFilter} {rows : List ReportRow}

/-- The statuses of a filter decide nothing but which rows it keeps. -/
theorem buildFilterStmt_statuses
    (hrows : buildFilterStmt outside tables accountId filter = .ok rows) (statuses : List String) :
    ∃ others, buildFilterStmt outside tables accountId
      { filter with statusesList := statuses } = .ok others := by
  simp only [buildFilterStmt, bind_eq_ok] at hrows
  obtain ⟨checked, hstore, -⟩ := hrows
  exact ⟨_, bind_eq_ok.mpr ⟨checked, hstore, rfl⟩⟩

theorem exportPaymentsJson_spec (hrows : matchingRows outside tables accountId query = .ok rows)
    (hsize : 0 < perPage) (arrange : Arrangement) (index : ℕ) :
    ∃ response, exportPaymentsJson outside tables accountId query arrange (index + 1) perPage =
        .ok response ∧
      response.data = (page perPage index (arrange rows)).map rowToDict ∧
      response.totalPages = pageCount perPage rows.length := by
  simp only [matchingRows, bind_eq_ok] at hrows
  obtain ⟨filter, hfilter, hrows⟩ := hrows
  obtain ⟨others, hothers⟩ := buildFilterStmt_statuses hrows []
  refine ⟨_, bind_eq_ok.mpr ⟨filter, hfilter, bind_eq_ok.mpr ⟨rows, hrows,
    bind_eq_ok.mpr ⟨others, hothers, rfl⟩⟩⟩, rfl, ?_⟩
  dsimp only
  split
  · rfl
  next hempty =>
    rw [pageCount, Nat.eq_zero_of_not_pos hempty, Nat.div_eq_of_lt (by omega)]

theorem exportPaymentsCsv_eq (hrows : matchingRows outside tables accountId query = .ok rows)
    (arrange : Arrangement) :
    exportPaymentsCsv outside tables accountId query arrange =
      .ok ((arrange rows).map rowToDict) := by
  simp only [matchingRows, bind_eq_ok] at hrows
  obtain ⟨filter, hfilter, hrows⟩ := hrows
  exact bind_eq_ok.mpr ⟨filter, hfilter, bind_eq_ok.mpr ⟨rows, hrows, rfl⟩⟩

/-- What a client collects are the pages, each cut out of its own answer. -/
theorem collectPages_eq (hrows : matchingRows outside tables accountId query = .ok rows)
    (hsize : 0 < perPage) (arrange : ℕ → Arrangement) :
    collectPages outside tables accountId query arrange perPage =
      .ok ((pages perPage (pageCount perPage rows.length) fun index =>
        arrange (index + 1) rows).map rowToDict) := by
  choose response hresponse using fun index =>
    exportPaymentsJson_spec hrows hsize (arrange (index + 1)) index
  have hpages : ((List.range (pageCount perPage rows.length)).mapM fun index =>
      exportPaymentsJson outside tables accountId query (arrange (index + 1)) (index + 1)
        perPage) = .ok ((List.range (pageCount perPage rows.length)).map response) := by
    simp only [fun index => (hresponse index).1]
    exact List.mapM_pure
  refine bind_eq_ok.mpr ⟨response 0, (hresponse 0).1, ?_⟩
  rw [(hresponse 0).2.2, hpages]
  refine congrArg Except.ok ?_
  rw [pages, List.map_flatMap, List.flatMap_map]
  exact List.flatMap_congr fun index _ => (hresponse index).2.1

end Queries

/-! ## Complete reports -/

section Complete

variable {outside : ReportOutside} {db : Database} {accountId perPage : ℕ} {query : ReportQuery}
  {rows : List ReportRow}

/-- No two rows of a report are of one payment. -/
theorem nodup_rowToDict (hrows : matchingRows outside db.tables accountId query = .ok rows) :
    (rows.map rowToDict).Nodup := by
  simp only [matchingRows, buildFilterStmt, bind_eq_ok, pure_eq_ok] at hrows
  obtain ⟨filter, -, _, -, rfl⟩ := hrows
  have hunique : (joinedRows db.tables).Pairwise fun first second =>
      first.payment.publicId ≠ second.payment.publicId := by
    refine List.Pairwise.filterMap _ ?_ db.valid.publicId
    intro first second hdistinct row hrow row' hrow' hsame
    obtain ⟨_, -, rfl⟩ := Option.map_eq_some_iff.mp hrow
    obtain ⟨_, -, rfl⟩ := Option.map_eq_some_iff.mp hrow'
    exact hdistinct hsame
  refine List.Nodup.of_map ReportEntry.publicId ?_
  rw [List.map_map]
  exact List.pairwise_map.mpr ((hunique.filter _))

/-- The pages of a report show every payment once, however the database answers, just when no
page border parts payments of one moment. The CSV always does. -/
theorem exported_pages_complete_iff
    (hrows : matchingRows outside db.tables accountId query = .ok rows) (hsize : 1 ≤ perPage) :
    ((∀ arrange : ℕ → Arrangement, (∀ page, Newest rows (arrange page rows)) →
        ∃ data, collectPages outside db.tables accountId query arrange perPage = .ok data ∧
          data.Perm (rows.map rowToDict)) ↔
      ∀ border, ¬ TornApart rows perPage border) ∧
    ∀ arrange : Arrangement, Newest rows (arrange rows) →
      ∃ data, exportPaymentsCsv outside db.tables accountId query arrange = .ok data ∧
        data.Perm (rows.map rowToDict) := by
  constructor
  · unfold TornApart
    rw [← pages_complete_iff hsize (nodup_rowToDict hrows)]
    constructor
    · intro hcomplete orders horders
      obtain ⟨data, hdata, hperm⟩ := hcomplete (fun page _ => orders (page - 1))
        fun page => horders (page - 1)
      rw [collectPages_eq hrows hsize] at hdata
      obtain rfl := Except.ok.inj hdata
      exact hperm
    · intro hcomplete arrange harrange
      exact ⟨_, collectPages_eq hrows hsize arrange,
        hcomplete (fun index => arrange (index + 1) rows) fun index => harrange (index + 1)⟩
  · intro arrange harrange
    exact ⟨_, exportPaymentsCsv_eq hrows arrange, harrange.perm.map _⟩

end Complete

section

open Specimen

/-- A second code of the shop, made at another moment. -/
def Specimen.laterCode (createdAt : Instant) : Payment :=
  { offered with publicId := "pay_2", billNumber := "pay_2", createdAt }

def Specimen.soldTables (createdAt : Instant) : Tables :=
  { tables with payments := .ofList [offered, laterCode createdAt] }

/-- Both codes were made at once. -/
def Specimen.madeAtOnce : Database := ⟨soldTables (seconds 60), by decide⟩

/-- A minute lies between them. -/
def Specimen.madeApart : Database := ⟨soldTables (seconds 120), by decide⟩

def Specimen.soldRows (createdAt : Instant) : List ReportRow :=
  [⟨offered, shopStore⟩, ⟨laterCode createdAt, shopStore⟩]

def Specimen.reportOutside : ReportOutside where
  fromIsoFormat := fun _ => none
  collation := collation

theorem matchingRows_madeAtOnce :
    matchingRows reportOutside madeAtOnce.tables 1 {} = .ok (soldRows (seconds 60)) := by
  rfl

theorem matchingRows_madeApart :
    matchingRows reportOutside madeApart.tables 1 {} = .ok (soldRows (seconds 120)) := by
  rfl

theorem exported_pages_complete_apart :
    ∃ data, collectPages reportOutside madeApart.tables 1 {} (fun _ rows => rows.reverse) 1 =
        .ok data ∧ data.Perm ((soldRows (seconds 120)).map rowToDict) := by
  have hdistinct : ((soldRows (seconds 120)).map fun row => row.payment.createdAt).Nodup := by
    decide
  have hnewest : Newest (soldRows (seconds 120)) (soldRows (seconds 120)).reverse :=
    ⟨List.reverse_perm _, by decide⟩
  exact (exported_pages_complete_iff matchingRows_madeApart (by decide)).1.mpr
    (fun border => not_ties_of_nodup hdistinct _) (fun _ rows => rows.reverse) fun _ => hnewest

/-- The first page shows one of two codes made at once, and the second page the same. -/
theorem exported_pages_repeat :
    (∀ page, Newest (soldRows (seconds 60))
      (if page = 1 then soldRows (seconds 60) else (soldRows (seconds 60)).reverse)) ∧
    ∃ data, collectPages reportOutside madeAtOnce.tables 1 {}
        (fun page rows => if page = 1 then rows else rows.reverse) 1 = .ok data ∧
      ¬ data.Perm ((soldRows (seconds 60)).map rowToDict) := by
  constructor
  · intro page
    split
    · exact ⟨.refl _, by decide⟩
    · exact ⟨List.reverse_perm _, by decide⟩
  · refine ⟨_, collectPages_eq matchingRows_madeAtOnce (by decide) _, ?_⟩
    decide

end

end ChmabaPay
