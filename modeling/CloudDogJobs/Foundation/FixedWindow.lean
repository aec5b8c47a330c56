import Mathlib.Algebra.Order.Group.Defs
import Mathlib.Data.List.Count

/-!
# Fixed windows

A rate limiter with one counter that is started anew, at the next use, once its
window has lasted. Windows start at least their width apart, so an interval of that
width meets at most two of them: it holds at most twice the limit.
-/

namespace Foundation

variable {τ : Type} [AddCommGroup τ] [LinearOrder τ]

/-- How many of the times lie in the half-open interval of the width from `start`. -/
def timesWithin (width start : τ) (times : List τ) : Nat :=
  times.countP fun time => decide (start ≤ time ∧ time < start + width)

theorem timesWithin_append (width start : τ) (first second : List τ) :
    timesWithin width start (first ++ second) =
      timesWithin width start first + timesWithin width start second :=
  List.countP_append

theorem timesWithin_eq_zero {width start : τ} {times : List τ}
    (outside : ∀ time ∈ times, ¬ (start ≤ time ∧ time < start + width)) :
    timesWithin width start times = 0 := by
  apply List.countP_eq_zero.mpr
  intro time member inside
  exact outside time member (of_decide_eq_true inside)

/-- The admissions of a limiter whose window began at `start` and has counted `count`.
Those of the window before it stand in the middle, and what is older was over when
that window began. -/
structure Paced (width : τ) (limit : Nat) (start clock : τ) (count : Nat)
    (admitted : List τ) : Prop where
  started : start ≤ clock
  windows : ∃ older previous current, admitted = older ++ previous ++ current ∧
    (∀ time ∈ older, time ≤ start - width) ∧ (∀ time ∈ previous, time ≤ start) ∧
    (∀ time ∈ current, start ≤ time ∧ time ≤ clock) ∧
    previous.length ≤ limit ∧ current.length = count ∧ count ≤ limit ∧
    ∀ begin, timesWithin width begin (older ++ previous) ≤ 2 * limit

namespace Paced

variable {width : τ} {limit count : Nat} {start clock : τ} {admitted : List τ}

/-- A limiter that has admitted nothing yet. -/
theorem fresh (width : τ) (limit : Nat) {start clock : τ} (started : start ≤ clock) :
    Paced width limit start clock 0 [] := by
  refine ⟨started, [], [], [], rfl, nofun, nofun, nofun, Nat.zero_le _, rfl, Nat.zero_le _, ?_⟩
  exact fun begin => Nat.zero_le _

/-- The clock moves on. -/
theorem advance (paced : Paced width limit start clock count admitted) {later : τ}
    (onward : clock ≤ later) : Paced width limit start later count admitted := by
  obtain ⟨older, previous, current, split, early, middle, late, bounds⟩ := paced.windows
  refine ⟨paced.started.trans onward, older, previous, current, split, early, middle, ?_, bounds⟩
  intro time member
  exact ⟨(late time member).1, (late time member).2.trans onward⟩

/-- One more is admitted into the window. -/
theorem admitOne (paced : Paced width limit start clock count admitted) {now : τ}
    (onward : clock ≤ now) (below : count < limit) :
    Paced width limit start now (count + 1) (admitted ++ [now]) := by
  obtain ⟨older, previous, current, rfl, early, middle, late, few, counted, _, earlier⟩ :=
    (paced.advance onward).windows
  refine ⟨paced.started.trans onward, older, previous, current ++ [now], ?_, early, middle, ?_,
    few, ?_, below, earlier⟩
  · rw [List.append_assoc (older ++ previous)]
  · intro time member
    rcases List.mem_append.mp member with already | last
    · exact late time already
    · rw [List.mem_singleton.mp last]
      exact ⟨paced.started.trans onward, le_refl now⟩
  · rw [List.length_append, counted]
    rfl

variable [IsOrderedAddMonoid τ]

/-- Every interval of the width holds at most twice the limit. -/
theorem timesWithin_le (paced : Paced width limit start clock count admitted) (begin : τ) :
    timesWithin width begin admitted ≤ 2 * limit := by
  obtain ⟨older, previous, current, rfl, early, _, late, few, counted, below, earlier⟩ :=
    paced.windows
  by_cases reaches : start < begin + width
  · -- the interval begins after what is older was over
    have none : timesWithin width begin older = 0 := by
      apply timesWithin_eq_zero
      intro time member inside
      have ended : time + width ≤ start := le_sub_iff_add_le.mp (early time member)
      have later : begin + width ≤ time + width := add_le_add_left inside.1 width
      exact absurd (later.trans ended) (not_le.mpr reaches)
    rw [timesWithin_append, timesWithin_append, none]
    have most : timesWithin width begin previous ≤ previous.length := List.countP_le_length
    have now : timesWithin width begin current ≤ current.length := List.countP_le_length
    omega
  · -- the interval is over before the window begins
    have none : timesWithin width begin current = 0 := by
      apply timesWithin_eq_zero
      intro time member inside
      have before : time < start := inside.2.trans_le (not_lt.mp reaches)
      exact absurd (late time member).1 (not_le.mpr before)
    rw [timesWithin_append, none]
    exact earlier begin

/-- The window has lasted and is started anew. -/
theorem renew (paced : Paced width limit start clock count admitted) {now : τ}
    (onward : clock ≤ now) (lasted : width ≤ now - start) (wide : 0 ≤ width) :
    Paced width limit now now 0 admitted := by
  have bounded := paced.timesWithin_le
  obtain ⟨older, previous, current, rfl, early, middle, late, few, counted, below, _⟩ :=
    paced.windows
  have ended : start ≤ now - width := le_sub_comm.mp lasted
  refine ⟨le_refl now, older ++ previous, current, [], ?_, ?_, ?_, nofun, ?_, rfl,
    Nat.zero_le _, bounded⟩
  · rw [List.append_nil]
  · intro time member
    rcases List.mem_append.mp member with old | recent
    · exact ((early time old).trans (sub_le_self start wide)).trans ended
    · exact (middle time recent).trans ended
  · exact fun time member => (late time member).2.trans onward
  · rw [counted]
    exact below

end Paced

end Foundation
