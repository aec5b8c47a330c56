import CloudDogJobs.Fanout.Manager

/-!
# Aggregated status of a fan-out

`aggregate_child_statuses` counts successes, failures and active children, and leaves
the other nine statuses out of all three counts. A child that ended in one of them
without a failure beside it keeps a parent without a threshold queued; a child that has
not ended and is in one of them lets a parent with a threshold end before it.
-/

namespace CloudDogJobs

open Foundation

namespace JobStatus

/-- The statuses at which a child has ended. -/
def IsTerminal (status : JobStatus) : Prop :=
  status ∈ [succeeded, failed, cancelled, ttlExpired, deadLettered, archived]

/-- The statuses that the aggregate counts as active. -/
def IsActive (status : JobStatus) : Prop :=
  status ∈ [queued, scheduled, running, retryWait, paused]

/-- The outcome of a parent that is over. -/
def IsOutcome (status : JobStatus) : Prop := status = succeeded ∨ status = failed

theorem IsActive.not_isTerminal {status : JobStatus} (active : status.IsActive) :
    ¬ status.IsTerminal := by
  unfold IsActive at active
  unfold IsTerminal
  cases status <;> simp_all

end JobStatus

/-- With a threshold, the result is an outcome exactly when no child counts as
active. -/
theorem isOutcome_aggregateWithThreshold {statuses : List JobStatus} (nonempty : statuses ≠ [])
    (threshold : Rat) :
    (aggregateChildStatuses statuses (some threshold)).IsOutcome ↔
      ∀ status ∈ statuses, ¬ status.IsActive := by
  have none : statuses.countP (fun status =>
      status ∈ [JobStatus.queued, .scheduled, .running, .retryWait, .paused]) = 0 ↔
        ∀ status ∈ statuses, ¬ status.IsActive := by
    rw [List.countP_eq_zero]
    simp only [decide_eq_true_eq]
    rfl
  have filled : ¬ statuses.isEmpty = true := by simpa using nonempty
  rw [← none]
  unfold aggregateChildStatuses aggregateWithThreshold JobStatus.IsOutcome
  rw [if_neg filled]
  dsimp only
  split
  · next some => simp only [reduceCtorEq, or_self, Nat.ne_of_gt some]
  · next few =>
      refine iff_of_true ?_ (Nat.eq_zero_of_not_pos few)
      split
      · exact .inl rfl
      · exact .inr rfl

/-- The float of the share of successes is a threshold that is met. -/
theorem aggregateWithThreshold_share (successes total : Nat) :
    aggregateWithThreshold successes 0 total (roundDouble (successes / total)) = .succeeded := by
  have nonneg : (0 : Rat) ≤ roundDouble (successes / total) :=
    roundDouble_nonneg (div_nonneg (Nat.cast_nonneg _) (Nat.cast_nonneg _))
  unfold aggregateWithThreshold
  rw [if_neg (Nat.lt_irrefl 0), if_pos]
  exact (min_le_left _ _).trans (max_eq_left nonneg).le

/-- One of ten meets the float `0.1`, which is above the exact share. -/
example : aggregateChildStatuses (.succeeded :: List.replicate 9 .failed)
    (some (3602879701896397 / 36028797018963968)) = .succeeded := by decide +kernel

/-- Without one, the result is an outcome exactly when a child failed or all
succeeded. -/
theorem isOutcome_aggregateChildStatuses {statuses : List JobStatus} (nonempty : statuses ≠ []) :
    (aggregateChildStatuses statuses none).IsOutcome ↔
      (∃ status ∈ statuses, status = .failed) ∨ ∀ status ∈ statuses, status = .succeeded := by
  have some : 0 < statuses.countP (fun status => status = .failed) ↔
      ∃ status ∈ statuses, status = .failed := by
    rw [List.countP_pos_iff]
    simp only [decide_eq_true_eq]
  have all : statuses.countP (fun status => status = .succeeded) = statuses.length ↔
      ∀ status ∈ statuses, status = .succeeded := by
    rw [List.countP_eq_length]
    simp only [decide_eq_true_eq]
  have filled : ¬ statuses.isEmpty = true := by simpa using nonempty
  rw [← some, ← all]
  unfold aggregateChildStatuses JobStatus.IsOutcome
  rw [if_neg filled]
  dsimp only
  split
  · next failed => exact iff_of_true (.inr rfl) (.inl failed)
  · next unfailed =>
      split
      · next succeeded => exact iff_of_true (.inl rfl) (.inr succeeded)
      · next partly =>
          have neither := not_or.mpr ⟨unfailed, partly⟩
          split
          · exact iff_of_false (by simp) neither
          · exact iff_of_false (by simp) neither

/-- The parent is over when its children are and, with a threshold, not before. -/
def EndsWithChildren (statuses : List JobStatus) (threshold : Option Rat) : Prop :=
  ((∀ status ∈ statuses, status.IsTerminal) →
    (aggregateChildStatuses statuses threshold).IsOutcome) ∧
  (threshold.isSome → (aggregateChildStatuses statuses threshold).IsOutcome →
    ∀ status ∈ statuses, status.IsTerminal)

/-- The children fall into the counts of the aggregate. Without a threshold: one of them
has not ended, or failed, or all succeeded. With one: all have ended, or one counts as
active. -/
def Classified (statuses : List JobStatus) (threshold : Option Rat) : Prop :=
  match threshold with
  | none => (∃ status ∈ statuses, ¬ status.IsTerminal ∨ status = .failed) ∨
      ∀ status ∈ statuses, status = .succeeded
  | some _ => (∀ status ∈ statuses, status.IsTerminal) ∨ ∃ status ∈ statuses, status.IsActive

/-- **When the aggregate ends with the children.** For every non-empty list of statuses
and every threshold or none, the parent is over when its children are, and with a
threshold only then, exactly when the children fall into the counts of the aggregate. -/
theorem endsWithChildren_iff (statuses : List JobStatus) (threshold : Option Rat)
    (nonempty : statuses ≠ []) :
    EndsWithChildren statuses threshold ↔ Classified statuses threshold := by
  unfold EndsWithChildren Classified
  cases threshold with
  | none =>
      rw [isOutcome_aggregateChildStatuses nonempty]
      simp only [Option.isSome_none, Bool.false_eq_true, false_implies, and_true]
      constructor
      · intro ends
        by_cases ended : ∀ status ∈ statuses, status.IsTerminal
        · rcases ends ended with failed | succeeded
          · obtain ⟨status, member, same⟩ := failed
            exact .inl ⟨status, member, .inr same⟩
          · exact .inr succeeded
        · push Not at ended
          obtain ⟨status, member, lasting⟩ := ended
          exact .inl ⟨status, member, .inl lasting⟩
      · intro classified ended
        rcases classified with ⟨status, member, lasting | failed⟩ | succeeded
        · exact absurd (ended status member) lasting
        · exact .inl ⟨status, member, failed⟩
        · exact .inr succeeded
  | some threshold =>
      rw [isOutcome_aggregateWithThreshold nonempty]
      simp only [Option.isSome_some, true_implies]
      constructor
      · intro ends
        by_cases idle : ∀ status ∈ statuses, ¬ status.IsActive
        · exact .inl (ends.2 idle)
        · push Not at idle
          exact .inr idle
      · intro classified
        refine ⟨fun ended status member active => active.not_isTerminal (ended status member), ?_⟩
        intro idle
        rcases classified with ended | ⟨status, member, active⟩
        · exact ended
        · exact absurd active (idle status member)

/-- Two children, one succeeded and one failed. -/
theorem endsWithChildren_mixed : EndsWithChildren [.succeeded, .failed] none :=
  (endsWithChildren_iff [.succeeded, .failed] none (List.cons_ne_nil _ _)).mpr
    (.inl ⟨.failed, List.mem_cons_of_mem _ List.mem_cons_self, .inr rfl⟩)

/-- A parent whose only child was cancelled is reported as queued. -/
theorem cancelled_child_leaves_parent_queued :
    ¬ ∀ (statuses : List JobStatus) (threshold : Option Rat), statuses ≠ [] →
      EndsWithChildren statuses threshold := by
  intro ends
  have ended := (ends [.cancelled] none (List.cons_ne_nil _ _)).1
  have queued : aggregateChildStatuses [.cancelled] none = .queued := rfl
  rw [queued] at ended
  have terminal : ∀ status ∈ [JobStatus.cancelled], status.IsTerminal := by
    intro status member
    rw [List.mem_singleton.mp member]
    simp [JobStatus.IsTerminal]
  rcases ended terminal with succeeded | failed
  · cases succeeded
  · cases failed

end CloudDogJobs
