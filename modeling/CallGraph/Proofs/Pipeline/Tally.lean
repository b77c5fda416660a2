import CallGraph.Proofs.Pipeline.Report
import Mathlib.Algebra.BigOperators.Group.List.Basic
import Mathlib.Algebra.Order.Field.Rat
import Mathlib.Tactic.NormNum

/-! What a report sums up. Outcomes are recorded one after the other, and each failure
is counted under its kind; a kind enters the count with its first failure, so the
count keeps the kinds in the order in which they came up. The summary sorts them by
their numbers and leaves those that are as frequent in this order. -/
namespace CallGraph.Pipeline

variable {outcomes : List Outcome} {outcome : Outcome} {kind : String}

/-- The outcome is a failure of the kind. One without a kind, or with an empty one,
is of unknown kind. -/
def Outcome.FailsAs (kind : String) (outcome : Outcome) : Prop :=
  outcome.isOk = false ∧
    (outcome.failureKind = some kind ∧ kind ≠ "" ∨
      (outcome.failureKind = none ∨ outcome.failureKind = some "") ∧ kind = "Unknown")

instance (kind : String) : DecidablePred (Outcome.FailsAs kind) := fun _ =>
  inferInstanceAs (Decidable (_ ∧ _))

theorem Outcome.failsAs_iff :
    outcome.FailsAs kind ↔ outcome.isOk = false ∧ Report.countedKind outcome = kind := by
  unfold Outcome.FailsAs Report.countedKind
  split <;> grind

namespace Report

variable {report : Report}

theorem foldl_record (outcomes : List Outcome) :
    outcomes.foldl record empty = ofOutcomes outcomes := by
  induction outcomes using List.reverseRecOn with
  | nil => rfl
  | append_singleton outcomes last ih =>
    rw [List.foldl_concat, ih, record_eq, ← ofOutcomes_append]

/-! ## Kinds of failures -/

/-- The place of the first failure of a kind. -/
def firstFailure (outcomes : List Outcome) (kind : String) : Nat :=
  outcomes.findIdx fun outcome => outcome.FailsAs kind

theorem firstFailure_lt_length (occurs : ∃ outcome ∈ outcomes, outcome.FailsAs kind) :
    firstFailure outcomes kind < outcomes.length :=
  List.findIdx_lt_length.2 (by simpa using occurs)

theorem firstFailure_concat_of_known (occurs : ∃ outcome ∈ outcomes, outcome.FailsAs kind)
    (last : Outcome) : firstFailure (outcomes ++ [last]) kind = firstFailure outcomes kind := by
  rw [firstFailure, List.findIdx_append]
  exact if_pos (firstFailure_lt_length occurs)

theorem firstFailure_concat_of_new (new : ¬ ∃ outcome ∈ outcomes, outcome.FailsAs kind)
    {last : Outcome} (fails : last.FailsAs kind) :
    firstFailure (outcomes ++ [last]) kind = outcomes.length := by
  have nowhere : outcomes.findIdx (fun outcome => decide (outcome.FailsAs kind)) =
      outcomes.length := List.findIdx_eq_length.2 (by simpa using new)
  rw [firstFailure, List.findIdx_append, nowhere, if_neg (Nat.lt_irrefl _)]
  simp [List.findIdx_cons, fails]

/-- A table counts the failures among outcomes: it has their kinds in the order in
which they came up, and as many failures in all. -/
structure Counted (outcomes : List Outcome) (counts : Table String Nat) : Prop where
  known : ∀ kind, kind ∈ counts.keys ↔ ∃ outcome ∈ outcomes, outcome.FailsAs kind
  ordered : counts.keys.Pairwise fun a b => firstFailure outcomes a < firstFailure outcomes b
  sum : counts.weight id = outcomes.countP fun outcome => !outcome.isOk

theorem counts_record_of_isOk (report : Report) (good : outcome.isOk = true) :
    (report.record outcome).counts = report.counts := by
  rw [record, if_pos good]
  rfl

theorem counts_record_of_failure (report : Report) (failed : outcome.isOk = false) :
    (report.record outcome).counts =
      report.counts.update (countedKind outcome) fun n => n.getD 0 + 1 := by
  rw [record, if_neg (by simp [failed]), counts, List.map_append]
  exact tally_concat _ _

/-- Kinds that have come up keep their places. -/
theorem Counted.ordered_concat {counts : Table String Nat} (counted : Counted outcomes counts)
    (last : Outcome) : counts.keys.Pairwise fun a b =>
      firstFailure (outcomes ++ [last]) a < firstFailure (outcomes ++ [last]) b := by
  refine counted.ordered.imp_of_mem fun {a b} aMem bMem before => ?_
  rwa [firstFailure_concat_of_known ((counted.known a).1 aMem),
    firstFailure_concat_of_known ((counted.known b).1 bMem)]

/-- A report keeps count of one more outcome. -/
theorem Counted.record (counted : Counted outcomes report.counts) (last : Outcome) :
    Counted (outcomes ++ [last]) (report.record last).counts := by
  cases good : last.isOk with
  | true =>
    have passes : ∀ kind, ¬ last.FailsAs kind := fun kind fails =>
      Bool.false_ne_true (fails.1.symm.trans good)
    rw [counts_record_of_isOk report good]
    refine ⟨fun kind => ?_, counted.ordered_concat last, ?_⟩
    · simp [counted.known, passes]
    · simp [counted.sum, good]
  | false =>
    have fails : ∀ kind, last.FailsAs kind ↔ countedKind last = kind := fun kind => by
      simp [Outcome.failsAs_iff, good]
    rw [counts_record_of_failure report good]
    refine ⟨fun kind => ?_, ?_, ?_⟩
    · rw [Table.mem_keys_update, counted.known]
      simp [fails, or_and_right, exists_or, eq_comm, or_comm]
    · rw [Table.keys_update]
      split
      · exact counted.ordered_concat last
      · next new =>
        -- A new kind goes to the end, and its first failure is the last outcome.
        refine List.pairwise_append.2 ⟨counted.ordered_concat last, List.pairwise_singleton _ _, ?_⟩
        intro kind mem _ here
        obtain rfl := List.mem_singleton.1 here
        have occurs := (counted.known kind).1 mem
        rw [firstFailure_concat_of_known occurs,
          firstFailure_concat_of_new (mt (counted.known _).2 new) ((fails _).2 rfl)]
        exact firstFailure_lt_length occurs
    · rw [Table.weight_update (by rintro (_ | n) <;> rfl), counted.sum]
      simp [good]

theorem counted_foldl_record (outcomes : List Outcome) :
    Counted outcomes (outcomes.foldl record empty).counts := by
  induction outcomes using List.reverseRecOn with
  | nil => exact ⟨by simp [counts, tally, empty, Table.keys], .nil, rfl⟩
  | append_singleton outcomes last ih =>
    rw [List.foldl_concat]
    exact ih.record last

/-- The most frequent kinds come first, and of two that are as frequent the one that
came up first. -/
theorem Counted.failureKinds_ordered (counted : Counted outcomes report.counts) :
    report.failureKinds.Pairwise fun a b =>
      b.2 < a.2 ∨ b.2 = a.2 ∧ firstFailure outcomes a.1 < firstFailure outcomes b.1 := by
  have byCount : ∀ a b : String × Nat, decide (b.2 ≤ a.2) = true ↔
      OrderDual.toDual a.2 ≤ OrderDual.toDual b.2 := by simp
  rw [failureKinds_eq]
  refine (Listing.pairwise_mergeSort_ties byCount (List.pairwise_map.1 counted.ordered)).imp ?_
  rintro a b (more | ⟨tie, before⟩)
  · exact .inl more
  · exact .inr ⟨(OrderDual.toDual_inj.1 tie).symm, before⟩

theorem Counted.failureKinds_sum (counted : Counted outcomes report.counts) :
    (report.failureKinds.map Prod.snd).sum = outcomes.countP fun outcome => !outcome.isOk := by
  rw [← counted.sum, Table.weight, (report.failureKinds_perm.map Prod.snd).sum_eq,
    List.sum_eq_foldr, List.foldr_map]
  rfl

/-! ## The share of successes -/

section Percentage

variable {part whole : Nat}

/-- Rounded down, the share is the most in whole percent that is not above the exact
one. -/
theorem isGreatest_percentage (part : Nat) (nonempty : 0 < whole) :
    IsGreatest {percent : ℤ | (percent : ℚ) ≤ 100 * part / whole} (100 * part / whole : ℕ) := by
  have positive : (0 : ℚ) < whole := Nat.cast_pos.2 nonempty
  constructor
  · rw [Set.mem_ofPred_eq, le_div_iff₀ positive]
    exact_mod_cast Nat.div_mul_le_self (100 * part) whole
  · intro percent below
    rw [Set.mem_ofPred_eq, le_div_iff₀ positive] at below
    have within : percent * whole ≤ 100 * part := by exact_mod_cast below
    exact_mod_cast Int.le_ediv_of_mul_le (by exact_mod_cast nonempty) within

theorem percentage_le_hundred (le : part ≤ whole) : 100 * part / whole ≤ 100 :=
  Nat.div_le_of_le_mul (by omega)

theorem percentage_eq_hundred_iff (nonempty : 0 < whole) (le : part ≤ whole) :
    100 * part / whole = 100 ↔ part = whole := by
  constructor
  · intro full
    have below := Nat.div_mul_le_self (100 * part) whole
    rw [full] at below
    omega
  · rintro rfl
    exact Nat.mul_div_cancel 100 nonempty

end Percentage

theorem successRate_ofOutcomes (outcomes : List Outcome) :
    (ofOutcomes outcomes).successRate = if outcomes.length = 0 then none
      else some (100 * outcomes.countP Outcome.isOk / outcomes.length) := by
  rw [successRate, total_ofOutcomes, List.countP_eq_length_filter]
  rfl

/-! ## The summary -/

/-- A report that sums outcomes up: how many there are; each kind of failure once,
with the number of its failures, the most frequent first and of two that are as
frequent the one that came up first; and the share of successes in whole percent,
rounded down, if there are any outcomes. -/
structure Summarizes (outcomes : List Outcome) (report : Report) : Prop where
  total : report.total = outcomes.length
  counted : ∀ kind n, (kind, n) ∈ report.failureKinds ↔
    n = outcomes.countP (fun outcome => outcome.FailsAs kind) ∧ 0 < n
  distinct : (report.failureKinds.map Prod.fst).Nodup
  ordered : report.failureKinds.Pairwise fun a b =>
    b.2 < a.2 ∨ b.2 = a.2 ∧ firstFailure outcomes a.1 < firstFailure outcomes b.1
  sum : (report.failureKinds.map Prod.snd).sum = outcomes.countP fun outcome => !outcome.isOk
  unrated : report.successRate = none ↔ outcomes = []
  rated : ∀ rate, report.successRate = some rate →
    IsGreatest {percent : ℤ | (percent : ℚ) ≤ 100 * outcomes.countP Outcome.isOk / outcomes.length}
      rate ∧ rate ≤ 100 ∧ (rate = 100 ↔ ∀ outcome ∈ outcomes, outcome.isOk)

/-- **A report sums up what was recorded in it.** Whatever the outcomes are and in
whatever order they came, no failure is left out of the numbers or counted twice, and
the share of successes is a hundred percent only without failures. -/
theorem foldl_record_summarizes (outcomes : List Outcome) :
    Summarizes outcomes (outcomes.foldl record empty) := by
  have counted := counted_foldl_record outcomes
  rw [foldl_record] at counted ⊢
  refine ⟨total_ofOutcomes outcomes, fun kind n => ?_, failureKinds_nodup _,
    counted.failureKinds_ordered, counted.failureKinds_sum, ?_, fun rate rated => ?_⟩
  · have failsAs : ∀ outcome : Outcome, decide (outcome.FailsAs kind) =
        (decide (countedKind outcome = kind) && !outcome.isOk) := fun outcome => by
      simp [Outcome.failsAs_iff, Bool.and_comm]
    rw [mem_failureKinds, ofOutcomes, List.countP_filter, Nat.pos_iff_ne_zero]
    simp only [failsAs]
  · simp [successRate_ofOutcomes]
  · rw [successRate_ofOutcomes] at rated
    split at rated
    · cases rated
    · next listed =>
      obtain rfl := Option.some.inj rated
      have nonempty := Nat.pos_of_ne_zero listed
      refine ⟨isGreatest_percentage _ nonempty, percentage_le_hundred List.countP_le_length, ?_⟩
      rw [percentage_eq_hundred_iff nonempty List.countP_le_length, List.countP_eq_length]

/-- Failures without a kind and with an empty one are of one kind, which came up
before the other one that is as frequent. -/
example :
    ([some "NotFound", none, some "FetchFailure", some "", some "FetchFailure"].foldl
      (fun report kind => report.record ⟨"g:a:1", .failed, none, kind, none⟩) empty).failureKinds =
      [("Unknown", 2), ("FetchFailure", 2), ("NotFound", 1)] := by
  cbv

end Report

end CallGraph.Pipeline
