import Mathlib.Data.List.Sort
import Mathlib.Tactic

/-! # Pages of an ordered query

A query orders its rows by a key, the largest first, and leaves open how rows with equal keys
stand to each other. Every page is cut out of an answer of its own.
-/

namespace Paging

variable {α β κ : Type*} [LinearOrder κ] {key : α → κ} {rows order order' : List α}

/-- An answer the clause permits. -/
structure Ordered (key : α → κ) (rows order : List α) : Prop where
  perm : order.Perm rows
  sorted : order.Pairwise fun first second => key second ≤ key first

/-- The page with an index, counted from zero. -/
def page (size index : ℕ) (order : List α) : List α := (order.drop (index * size)).take size

def pageCount (size total : ℕ) : ℕ := (total + size - 1) / size

/-- Some rows with one key stand before the cut and others behind it, in every answer. -/
def Ties (key : α → κ) (rows : List α) (cut : ℕ) : Prop :=
  ∃ value, rows.countP (fun row => decide (value < key row)) < cut ∧
    cut < rows.countP fun row => decide (value ≤ key row)

theorem exists_ordered (key : α → κ) (rows : List α) : ∃ order, Ordered key rows order := by
  let before (first second : α) : Bool := decide (key second ≤ key first)
  have htrans : ∀ first second third, before first second = true → before second third = true →
      before first third = true := by
    intro first second third hfirst hsecond
    exact decide_eq_true ((of_decide_eq_true hsecond).trans (of_decide_eq_true hfirst))
  have htotal : ∀ first second, (before first second || before second first) = true := by
    intro first second
    rw [Bool.or_eq_true, decide_eq_true_iff, decide_eq_true_iff]
    exact le_total _ _
  refine ⟨rows.mergeSort before, List.mergeSort_perm _ _, ?_⟩
  exact (List.pairwise_mergeSort htrans htotal rows).imp fun hle => of_decide_eq_true hle

/-! ## Where no keys are tied -/

/-- In front of a cut that ties nothing all keys are larger than behind it. -/
theorem lt_of_not_ties {front rest : List α} {pivot : α}
    (hsorted : (front ++ pivot :: rest).Pairwise fun first second => key second ≤ key first)
    (hties : ¬ Ties key (front ++ pivot :: rest) front.length) :
    ∀ row ∈ front, key pivot < key row := by
  obtain ⟨-, hbehind, hacross⟩ := List.pairwise_append.mp hsorted
  have hfront : front.countP (fun row => decide (key pivot ≤ key row)) = front.length :=
    List.countP_eq_length.mpr fun row hrow =>
      decide_eq_true (hacross row hrow pivot List.mem_cons_self)
  have hrest : (pivot :: rest).countP (fun row => decide (key pivot < key row)) = 0 := by
    refine List.countP_eq_zero.mpr fun row hrow => ?_
    rw [decide_eq_true_iff, not_lt]
    rcases List.mem_cons.mp hrow with rfl | hrow
    · exact le_rfl
    · exact (List.pairwise_cons.mp hbehind).1 row hrow
  have hbelow : front.length ≤ front.countP fun row => decide (key pivot < key row) := by
    by_contra hless
    refine hties ⟨key pivot, ?_, ?_⟩
    · rw [List.countP_append, hrest]
      omega
    · rw [List.countP_append, hfront, List.countP_cons_of_pos (by simp)]
      omega
  intro row hrow
  have hall := List.countP_eq_length.mp (le_antisymm List.countP_le_length hbelow)
  exact of_decide_eq_true (hall row hrow)

theorem Ties.perm {cut : ℕ} (hperm : order.Perm rows) : Ties key order cut ↔ Ties key rows cut := by
  unfold Ties
  simp only [hperm.countP_eq]

/-- Keys that are all different tie nothing. -/
theorem not_ties_of_nodup (hnodup : (rows.map key).Nodup) (cut : ℕ) : ¬ Ties key rows cut := by
  rintro ⟨value, habove, hbelow⟩
  have hsplit : ∀ rows : List α, rows.countP (fun row => decide (value ≤ key row)) =
      rows.countP (fun row => decide (value < key row)) + (rows.map key).count value := by
    intro rows
    induction rows with
    | nil => rfl
    | cons row rows ih =>
        rw [List.countP_cons, List.countP_cons, List.map_cons, List.count_cons, ih]
        rcases lt_trichotomy value (key row) with hlt | heq | hgt
        · simp [hlt.le, hlt, hlt.ne']
          omega
        · simp [heq]
          omega
        · simp [hgt.not_ge, hgt.not_gt, hgt.ne]
  have hone := List.nodup_iff_count_le_one.mp hnodup value
  have hboth := hsplit rows
  omega

/-- Two answers have the same rows in front of a cut that ties nothing. -/
theorem take_perm (hfirst : Ordered key rows order) (hsecond : Ordered key rows order') {cut : ℕ}
    (hties : ¬ Ties key rows cut) : (order.take cut).Perm (order'.take cut) := by
  have hlength : order.length = order'.length :=
    (hfirst.perm.trans hsecond.perm.symm).length_eq
  by_cases hcut : order.length ≤ cut
  · rw [List.take_of_length_le hcut, List.take_of_length_le (hlength ▸ hcut)]
    exact hfirst.perm.trans hsecond.perm.symm
  have hkeys : order.map key = order'.map key :=
    ((hfirst.perm.trans hsecond.perm.symm).map key).eq_of_pairwise
      (fun _ _ _ _ hle hge => le_antisymm hge hle)
      (List.pairwise_map.mpr hfirst.sorted) (List.pairwise_map.mpr hsecond.sorted)
  -- the rows in front of the cut are those with a key larger than the row at the cut
  have hsplit : ∀ list : List α, cut < list.length →
      ∃ pivot rest, list = list.take cut ++ pivot :: rest := fun list hlong =>
    ⟨list[cut], list.drop (cut + 1), by
      rw [← List.drop_eq_getElem_cons hlong, List.take_append_drop]⟩
  obtain ⟨pivot, rest, heq⟩ := hsplit order (by omega)
  obtain ⟨pivot', rest', heq'⟩ := hsplit order' (by omega)
  have hfront : (order.take cut).length = cut := List.length_take_of_le (by omega)
  have hfront' : (order'.take cut).length = cut := List.length_take_of_le (by omega)
  have hfilter : ∀ (list : List α) (pivot : α) (rest : List α), Ordered key rows list →
      list = list.take cut ++ pivot :: rest → (list.take cut).length = cut →
      list.take cut = list.filter fun row => decide (key pivot < key row) := by
    intro list pivot rest hordered heq hfront
    have hsorted := hordered.sorted
    rw [heq] at hsorted
    have hlarger := lt_of_not_ties hsorted (by
      rw [← heq, hfront, Ties.perm hordered.perm]
      exact hties)
    obtain ⟨-, hbehind, -⟩ := List.pairwise_append.mp hsorted
    conv_rhs => rw [heq]
    rw [List.filter_append,
      List.filter_eq_self.mpr fun row hrow => decide_eq_true (hlarger row hrow),
      List.filter_eq_nil_iff.mpr, List.append_nil]
    intro row hrow
    rw [decide_eq_true_iff, not_lt]
    rcases List.mem_cons.mp hrow with rfl | hrow
    · exact le_rfl
    · exact (List.pairwise_cons.mp hbehind).1 row hrow
  have hpivot : key pivot = key pivot' := by
    rw [heq, heq', List.map_append, List.map_append] at hkeys
    have hlengths : ((order.take cut).map key).length = ((order'.take cut).map key).length := by
      rw [List.length_map, List.length_map, hfront, hfront']
    have hrest := (List.append_inj hkeys hlengths).2
    exact (List.cons.inj hrest).1
  rw [hfilter order pivot rest hfirst heq hfront, hfilter order' pivot' rest' hsecond heq' hfront',
    hpivot]
  exact (hfirst.perm.trans hsecond.perm.symm).filter _

/-! ## All pages -/

section Pages

variable {size : ℕ}

theorem take_succ_page (index : ℕ) (order : List α) :
    order.take ((index + 1) * size) = order.take (index * size) ++ page size index order := by
  rw [Nat.succ_mul, List.take_add]
  rfl

theorem flatMap_page (count : ℕ) (order : List α) :
    ((List.range count).flatMap fun index => page size index order) =
      order.take (count * size) := by
  induction count with
  | zero => simp
  | succ count ih =>
      rw [List.range_succ, List.flatMap_append, ih, List.flatMap_singleton, take_succ_page]

theorem le_pageCount (hsize : 0 < size) (total : ℕ) : total ≤ pageCount size total * size := by
  have hdiv := Nat.div_add_mod (total + size - 1) size
  have hmod := Nat.mod_lt (total + size - 1) hsize
  rw [pageCount, Nat.mul_comm]
  omega

/-- A page that ties nothing at either end has the same rows in every answer. -/
theorem page_perm (hfirst : Ordered key rows order) (hsecond : Ordered key rows order') {index : ℕ}
    (hstart : ¬ Ties key rows (index * size)) (hstop : ¬ Ties key rows ((index + 1) * size)) :
    (page size index order).Perm (page size index order') := by
  have hboth := take_perm hfirst hsecond hstop
  rw [take_succ_page, take_succ_page] at hboth
  have hfront := (take_perm hfirst hsecond hstart).append_right (page size index order)
  exact (List.perm_append_left_iff _).mp (hfront.symm.trans hboth)

/-- The pages of one query each, as they were answered. -/
def pages (size count : ℕ) (orders : ℕ → List α) : List α :=
  (List.range count).flatMap fun index => page size index (orders index)

theorem pages_perm (hsize : 0 < size) {orders : ℕ → List α}
    (horders : ∀ index, Ordered key rows (orders index))
    (hties : ∀ border, ¬ Ties key rows (border * size)) :
    (pages size (pageCount size rows.length) orders).Perm rows := by
  have hlength := (horders 0).perm.length_eq
  have hsame : (pages size (pageCount size rows.length) orders).Perm
      ((List.range (pageCount size rows.length)).flatMap fun index =>
        page size index (orders 0)) :=
    List.Perm.flatMap_left _ fun index _ =>
      page_perm (horders index) (horders 0) (hties index) (hties (index + 1))
  rw [flatMap_page, List.take_of_length_le (hlength ▸ le_pageCount hsize rows.length)] at hsame
  exact hsame.trans (horders 0).perm

/-- Around a tied cut some answer has two rows with one key. -/
theorem exists_tied {cut : ℕ} (hordered : Ordered key rows order) (hties : Ties key rows cut) :
    ∃ front first second rest, order = front ++ first :: second :: rest ∧
      front.length + 1 = cut ∧ key first = key second := by
  obtain ⟨value, habove, hbelow⟩ := (Ties.perm hordered.perm).mpr hties
  have hlong : cut < order.length := hbelow.trans_le List.countP_le_length
  obtain ⟨before, rfl⟩ : ∃ before, cut = before + 1 := ⟨cut - 1, by omega⟩
  have hsplit : order = order.take before ++ order[before] :: order[before + 1] ::
      order.drop (before + 1 + 1) := by
    rw [← List.drop_eq_getElem_cons, ← List.drop_eq_getElem_cons, List.take_append_drop]
  have hfront : (order.take before).length = before := List.length_take_of_le (by omega)
  generalize order.take before = front at hsplit hfront
  generalize order[before] = first at hsplit
  generalize order[before + 1] = second at hsplit
  generalize order.drop (before + 1 + 1) = rest at hsplit
  have hsorted := hordered.sorted
  rw [hsplit] at hsorted habove hbelow
  refine ⟨front, first, second, rest, hsplit, by omega, ?_⟩
  obtain ⟨-, hbehind, hacross⟩ := List.pairwise_append.mp hsorted
  obtain ⟨hfirst, hsecond⟩ := List.pairwise_cons.mp hbehind
  have hle : key second ≤ key first := hfirst second List.mem_cons_self
  have hlow : key first ≤ value := by
    by_contra hlarge
    rw [not_le] at hlarge
    have hall : front.countP (fun row => decide (value < key row)) = front.length :=
      List.countP_eq_length.mpr fun row hrow =>
        decide_eq_true (hlarge.trans_le (hacross row hrow first List.mem_cons_self))
    rw [List.countP_append, hall, List.countP_cons_of_pos (by simpa using hlarge)] at habove
    omega
  have hhigh : value ≤ key second := by
    by_contra hsmall
    rw [not_le] at hsmall
    have hnone : (second :: rest).countP (fun row => decide (value ≤ key row)) = 0 := by
      refine List.countP_eq_zero.mpr fun row hrow => ?_
      rw [decide_eq_true_iff, not_le]
      rcases List.mem_cons.mp hrow with rfl | hrow
      · exact hsmall
      · exact ((List.pairwise_cons.mp hsecond).1 row hrow).trans_lt hsmall
    have hfew := List.countP_le_length (p := fun row => decide (value ≤ key row)) (l := front)
    rw [List.countP_append, List.countP_cons, hnone] at hbelow
    split at hbelow <;> omega
  exact le_antisymm (hlow.trans hhigh) hle

/-- Neighbours with one key may change places. -/
theorem Ordered.swap {front rest : List α} {first second : α}
    (hordered : Ordered key rows (front ++ first :: second :: rest))
    (hsame : key first = key second) :
    Ordered key rows (front ++ second :: first :: rest) := by
  refine ⟨((List.Perm.swap first second rest).append_left front).trans hordered.perm, ?_⟩
  have hsorted := hordered.sorted
  simp only [List.pairwise_append, List.pairwise_cons, List.forall_mem_cons] at hsorted ⊢
  obtain ⟨hfront, ⟨⟨-, hfirst⟩, hsecond, hrest⟩, hacross⟩ := hsorted
  refine ⟨hfront, ⟨⟨hsame.le, hsecond⟩, hfirst, hrest⟩, fun row hrow => ?_⟩
  obtain ⟨hrowFirst, hrowSecond, hrowRest⟩ := hacross row hrow
  exact ⟨hrowSecond, hrowFirst, hrowRest⟩

/-- The last row of a page. -/
theorem mem_page_last (hsize : 0 < size) {front rest : List α} {row : α} {index : ℕ}
    (hcut : front.length + 1 = (index + 1) * size) :
    row ∈ page size index (front ++ row :: rest) := by
  have hmul : (index + 1) * size = index * size + size := Nat.succ_mul _ _
  rw [page, List.drop_append_of_le_length (by omega), List.take_append, List.mem_append]
  right
  rw [List.length_drop, List.take_cons (by omega)]
  exact List.mem_cons_self

/-- The first row of a page. -/
theorem mem_page_first (hsize : 0 < size) {front rest : List α} {row : α} {index : ℕ}
    (hcut : front.length = index * size) : row ∈ page size index (front ++ row :: rest) := by
  rw [page, List.drop_left' hcut, List.take_cons hsize]
  exact List.mem_cons_self

/-- Where a page border ties two rows, some answers show one of them twice. -/
theorem exists_repeated (hsize : 0 < size) {f : α → β} (hnodup : (rows.map f).Nodup) {border : ℕ}
    (hties : Ties key rows (border * size)) :
    ∃ orders : ℕ → List α, (∀ index, Ordered key rows (orders index)) ∧
      ¬ ((pages size (pageCount size rows.length) orders).map f).Perm (rows.map f) := by
  obtain ⟨order, hordered⟩ := exists_ordered key rows
  obtain ⟨front, first, second, rest, rfl, hcut, hsame⟩ := exists_tied hordered hties
  obtain ⟨previous, rfl⟩ : ∃ previous, border = previous + 1 := by
    refine Nat.exists_eq_succ_of_ne_zero ?_
    rintro rfl
    omega
  refine ⟨fun index => if index = previous + 1 then front ++ second :: first :: rest
    else front ++ first :: second :: rest, fun index => ?_, fun hperm => ?_⟩
  · dsimp only
    split
    · exact hordered.swap hsame
    · exact hordered
  have hborder : previous + 1 < pageCount size rows.length := by
    have hlength := hordered.perm.length_eq
    rw [List.length_append, List.length_cons, List.length_cons] at hlength
    have hcount := le_pageCount hsize rows.length
    by_contra hbeyond
    have hmul := Nat.mul_le_mul_right size (not_lt.mp hbeyond)
    omega
  have hdistinct := hperm.nodup_iff.mpr hnodup
  rw [pages, List.map_flatMap, List.nodup_flatMap] at hdistinct
  have hapart := List.pairwise_iff_getElem.mp hdistinct.2 previous (previous + 1)
    (by rw [List.length_range]; omega) (by rw [List.length_range]; omega) (by omega)
  rw [List.getElem_range, List.getElem_range] at hapart
  -- the row in front of the border is shown on both sides of it
  refine hapart (a := f first) ?_ ?_
  · dsimp only
    rw [if_neg (by omega)]
    exact List.mem_map_of_mem (mem_page_last hsize hcut)
  · dsimp only
    rw [if_pos rfl, List.append_cons]
    refine List.mem_map_of_mem (mem_page_first hsize ?_)
    rw [List.length_append, List.length_singleton, hcut]

/-- Every way of answering the pages shows every row once just when no page border ties two
rows. -/
theorem pages_complete_iff (hsize : 0 < size) {f : α → β} (hnodup : (rows.map f).Nodup) :
    (∀ orders : ℕ → List α, (∀ index, Ordered key rows (orders index)) →
      ((pages size (pageCount size rows.length) orders).map f).Perm (rows.map f)) ↔
        ∀ border, ¬ Ties key rows (border * size) := by
  constructor
  · intro hcomplete border hties
    obtain ⟨orders, horders, hlost⟩ := exists_repeated hsize hnodup hties
    exact hlost (hcomplete orders horders)
  · intro hties orders horders
    exact (pages_perm hsize horders hties).map f

end Pages

end Paging
