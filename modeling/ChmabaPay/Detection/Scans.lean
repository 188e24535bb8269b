import Mathlib.Algebra.Order.Floor.Div
import ChmabaPay.Specimen
import ChmabaPay.Workers.OrphanScan

/-! # Draining the backlog

Every sweep reads the same oldest payments as the one before, as long as they stay
unsettled. So a backlog that does not change is enqueued in full by the first sweep or
never: what stands behind the first batch is not reached.
-/

namespace ChmabaPay

open Calendar Relational

/-- A sweep: the moment, and the committed state it reads. -/
structure Scan where
  now : Instant
  db : Database

def Scan.backlog (settings : Settings) (payload : ScanPayload) (scan : Scan) : List String :=
  ChmabaPay.backlog settings scan.now scan.db.tables.payments payload

/-- The jobs the sweep enqueues on a queue that takes what it is given. -/
def Scan.jobs (settings : Settings) (payload : ScanPayload) (scan : Scan) : List DetectionJob :=
  orphanScan settings scan.now scan.db.tables.payments payload (some fun _ => true)

/-- The payment has been enqueued for detection by one of the sweeps. -/
def Enqueued (settings : Settings) (payload : ScanPayload) (scans : List Scan)
    (publicId : String) : Prop :=
  ∃ scan ∈ scans, ∃ job ∈ scan.jobs settings payload, job.paymentPublicId = publicId

instance (settings : Settings) (payload : ScanPayload) (scans : List Scan) (publicId : String) :
    Decidable (Enqueued settings payload scans publicId) :=
  inferInstanceAs (Decidable (∃ scan ∈ scans, ∃ job ∈ scan.jobs settings payload,
    job.paymentPublicId = publicId))

section Backlog

variable {settings : Settings} {payload : ScanPayload}

theorem ScanPayload.batch_pos (payload : ScanPayload) : 0 < payload.batch := by
  unfold ScanPayload.batch
  split
  · decide
  · split
    · decide
    · omega

theorem mem_enqueueAll {job : DetectionJob} {final : Bool} {publicIds : List String} :
    job ∈ enqueueAll (fun _ => true) final publicIds ↔
      job.final = final ∧ job.paymentPublicId ∈ publicIds := by
  rw [enqueueAll, List.filter_true, List.mem_map]
  constructor
  · rintro ⟨publicId, hpublicId, rfl⟩
    exact ⟨rfl, hpublicId⟩
  · rintro ⟨rfl, hpublicId⟩
    exact ⟨job.paymentPublicId, hpublicId, rfl⟩

/-- No two payments share a public id. -/
theorem Database.publicId_unique (db : Database) {key key' : ℕ} {payment payment' : Payment}
    (hget : db.tables.payments.get? key = some payment)
    (hget' : db.tables.payments.get? key' = some payment')
    (hsame : payment.publicId = payment'.publicId) : key = key' :=
  (Table.unique_iff fun _ _ => Eq.symm).mp db.valid.publicId key key' payment payment' hget hget'
    hsame

theorem Scan.nodup_backlog (scan : Scan) : (scan.backlog settings payload).Nodup := by
  have hsorted := scan.db.tables.payments.sorted
  refine List.Nodup.map_on ?_ ?_
  · rintro ⟨key, payment⟩ hrow ⟨key', payment'⟩ hrow' hsame
    obtain ⟨hget, -⟩ := Table.mem_select.mp hrow
    obtain ⟨hget', -⟩ := Table.mem_select.mp hrow'
    obtain rfl := scan.db.publicId_unique hget hget' hsame
    rw [Option.some.inj (hget.symm.trans hget')]
  · refine (hsorted.filter _).imp fun hlt hsame => ?_
    exact absurd (congrArg Prod.fst hsame) (Nat.ne_of_lt hlt)

/-- A payment in the window is not among those that have left it. -/
theorem Scan.not_crossing {scan : Scan} {publicId : String}
    (hbacklog : publicId ∈ scan.backlog settings payload) :
    publicId ∉ crossing settings scan.now scan.db.tables.payments := by
  intro hcrossing
  obtain ⟨⟨key, payment⟩, hrow, hid⟩ := List.mem_map.mp hbacklog
  obtain ⟨⟨key', payment'⟩, hrow', hid'⟩ := List.mem_map.mp hcrossing
  obtain ⟨hget, hinside⟩ := Table.mem_select.mp hrow
  obtain ⟨hget', houtside⟩ := Table.mem_select.mp hrow'
  obtain rfl := scan.db.publicId_unique hget hget' (hid.trans hid'.symm)
  obtain rfl := Option.some.inj (hget.symm.trans hget')
  simp only [Bool.and_eq_true, decide_eq_true_eq] at hinside houtside
  exact absurd houtside.1.2 (not_lt_of_ge hinside.1.2)

/-- What a sweep enqueues of its backlog is the first batch of it. -/
theorem Scan.enqueued_iff {scan : Scan} {publicId : String}
    (hbacklog : publicId ∈ scan.backlog settings payload) :
    (∃ job ∈ scan.jobs settings payload, job.paymentPublicId = publicId) ↔
      publicId ∈ (scan.backlog settings payload).take payload.batch := by
  constructor
  · rintro ⟨job, hjob, rfl⟩
    rcases List.mem_append.mp hjob with hscan | hclose
    · exact (mem_enqueueAll.mp hscan).2
    · have hleft := List.mem_of_mem_take (mem_enqueueAll.mp hclose).2
      exact absurd hleft (Scan.not_crossing hbacklog)
  · intro htake
    exact ⟨⟨publicId, false⟩, List.mem_append_left _ (mem_enqueueAll.mpr ⟨rfl, htake⟩), rfl⟩

/-- A prefix without repetitions holds everything only when it is everything. -/
theorem forall_mem_take_iff {publicIds : List String} (hnodup : publicIds.Nodup) (count : ℕ) :
    (∀ publicId ∈ publicIds, publicId ∈ publicIds.take count) ↔ publicIds.length ≤ count := by
  constructor
  · intro hall
    have hsub : publicIds.length ≤ (publicIds.take count).length :=
      (hnodup.subperm hall).length_le
    rw [List.length_take] at hsub
    omega
  · intro hlength
    rw [List.take_of_length_le hlength]
    exact fun _ hmem => hmem

end Backlog

/-- A backlog that stays as it is over as many sweeps as it has batches is enqueued in
full exactly when it fits one batch. -/
theorem backlog_drained_iff {settings : Settings} {payload : ScanPayload} {scans : List Scan}
    {publicIds : List String} (hsame : ∀ scan ∈ scans, scan.backlog settings payload = publicIds)
    (hscans : scans.length = publicIds.length ⌈/⌉ payload.batch) :
    (∀ publicId ∈ publicIds, Enqueued settings payload scans publicId) ↔
      publicIds.length ≤ payload.batch := by
  rcases scans with _ | ⟨first, rest⟩
  · -- no sweep is needed for an empty backlog only
    have hempty : publicIds.length = 0 := by
      have hzero : publicIds.length ⌈/⌉ payload.batch ≤ 0 := hscans.symm.le
      have hle := (ceilDiv_le_iff_le_smul payload.batch_pos).mp hzero
      simpa using hle
    obtain rfl := List.length_eq_zero_iff.mp hempty
    simp
  · have hnodup : publicIds.Nodup := hsame first List.mem_cons_self ▸ first.nodup_backlog
    rw [← forall_mem_take_iff hnodup]
    refine forall₂_congr fun publicId hpublicId => ?_
    -- every sweep takes the same first batch
    have htaken : ∀ scan ∈ first :: rest,
        (∃ job ∈ scan.jobs settings payload, job.paymentPublicId = publicId) ↔
          publicId ∈ publicIds.take payload.batch := by
      intro scan hscan
      have hbacklog := hsame scan hscan
      rw [Scan.enqueued_iff (by rw [hbacklog]; exact hpublicId), hbacklog]
    constructor
    · rintro ⟨scan, hscan, hjobs⟩
      exact (htaken scan hscan).mp hjobs
    · intro htake
      exact ⟨first, List.mem_cons_self, (htaken first List.mem_cons_self).mpr htake⟩

namespace Specimen

/-- The shop has offered two codes. -/
def twoSales : Database :=
  (Execution.run (step {}) world [after 60 (.createPayment rail 1 order "pay_1"),
    after 5 (.createPayment rail 1 order "pay_2")]).db

/-- Two sweeps, half a minute apart. -/
def sweeps : List Scan := [⟨seconds 90, twoSales⟩, ⟨seconds 120, twoSales⟩]

end Specimen

theorem backlog_drained_iff_one_batch :
    (∀ publicId ∈ ["pay_1", "pay_2"],
        Enqueued {} {} [⟨seconds 90, Specimen.twoSales⟩] publicId) ↔ 2 ≤ orphanBatch :=
  backlog_drained_iff (by decide +kernel) (by decide +kernel)

/-- The same two codes under a cap of one: the second is never enqueued. -/
theorem backlog_not_drained :
    (∀ scan ∈ Specimen.sweeps, scan.backlog {} { batchSize := some 1 } = ["pay_1", "pay_2"]) ∧
      Specimen.sweeps.length = 2 ⌈/⌉ 1 ∧
      ¬ ∀ publicId ∈ ["pay_1", "pay_2"],
        Enqueued {} { batchSize := some 1 } Specimen.sweeps publicId := by
  decide +kernel

end ChmabaPay
