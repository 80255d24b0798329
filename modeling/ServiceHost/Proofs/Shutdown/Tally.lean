import Mathlib.Data.List.Infix
import ServiceHost.Proofs.Shutdown.Move

/-!
Tallies: the counter of a wait group as a natural number. A run in which no total reaches two to the
sixty-fourth never takes the counter around, and then the counter is the total of the run.
-/

namespace ServiceHost.WaitGroup

/-- The total after a step. Nothing is taken from zero. -/
def Step.tally (total : Nat) : Step → Nat
  | .add amount => total + amount.toNat
  | .lower => total - 1
  | .announce | .arrive | .enable _ | .check _ | .park _ | .wake _ => total

/-- The total of a run: what was added less what was taken away. -/
def tally (steps : List Step) : Nat := steps.foldl Step.tally 0

@[simp] theorem tally_snoc (steps : List Step) (taken : Step) :
    tally (steps ++ [taken]) = taken.tally (tally steps) := by
  simp [tally]

/-- No total of a run reaches two to the sixty-fourth. -/
def Fits (steps : List Step) : Prop := ∀ first, first <+: steps → tally first < UInt64.size

instance (steps : List Step) : Decidable (Fits steps) :=
  decidable_of_iff (∀ first ∈ steps.inits, tally first < UInt64.size) (by simp [Fits])

theorem Fits.of_append {first rest : List Step} (fits : Fits (first ++ rest)) : Fits first := by
  intro part within
  exact fits part (within.trans (List.prefix_append first rest))

theorem Fits.tally_lt {steps : List Step} (fits : Fits steps) : tally steps < UInt64.size :=
  fits steps (List.prefix_refl steps)

theorem run_snoc {group after : WaitGroup} {steps : List Step} {taken : Step} :
    group.run (steps ++ [taken]) = some after ↔
      ∃ before, group.run steps = some before ∧ before.step taken = some after := by
  simp [run, Option.bind_eq_some_iff]

/-- A step changes the counter as it changes the total, up to the size of the counter. -/
theorem toNat_count_step {before after : WaitGroup} {taken : Step}
    (stepped : before.step taken = some after) :
    after.count.toNat = taken.tally before.count.toNat % UInt64.size := by
  have bounded := before.count.toNat_lt_size
  have kept : before.count.toNat = before.count.toNat % UInt64.size := (Nat.mod_eq_of_lt bounded).symm
  cases move_of_step stepped with
  | add amount =>
    rw [UInt64.toNat_add]
    rfl
  | idle zero =>
    rw [zero]
    rfl
  | last one =>
    rw [one]
    rfl
  | lower positive notLast =>
    have atLeastOne : (1 : UInt64) ≤ before.count := by
      have : before.count.toNat ≠ 0 := fun zero => positive (UInt64.toNat.inj zero)
      rw [UInt64.le_iff_toNat_le, UInt64.toNat_one]
      omega
    rw [Step.tally, Nat.mod_eq_of_lt (by omega)]
    calc (before.count - 1).toNat
      _ = before.count.toNat - (1 : UInt64).toNat := UInt64.toNat_sub_of_le _ _ atLeastOne
      _ = before.count.toNat - 1 := by rw [UInt64.toNat_one]
  | announce | arrive | enable | finish | check | park | wake => exact kept

/-- The counter is the total of a run, as long as no total is too large for it. -/
theorem toNat_count_of_run {steps : List Step} {group : WaitGroup}
    (ran : ({} : WaitGroup).run steps = some group) (fits : Fits steps) :
    group.count.toNat = tally steps := by
  induction steps using List.reverseRecOn generalizing group with
  | nil =>
    rw [← Option.some.inj ran]
    rfl
  | append_singleton steps taken inductionHypothesis =>
    obtain ⟨before, ran, stepped⟩ := run_snoc.mp ran
    have counted := inductionHypothesis ran fits.of_append
    rw [toNat_count_step stepped, counted, ← tally_snoc]
    exact Nat.mod_eq_of_lt fits.tally_lt

end ServiceHost.WaitGroup
