import Mathlib.Data.List.Basic
import SearchBox.Plan

/-!
This module contains the splitting of a plan on demand: whoever wants the jobs asks for one after
the other, and the search for the next job starts where the last one was found. The main statement
is that this gives the jobs and the report of the plan that is split as a whole.
-/

namespace SearchBox.Plan

open Journal

/--
The pairs that are looked at for jobs, in their order.
-/
def pairs (plan : Plan) : List (File × Operator) :=
  plan.files.values.flatMap (fun file => plan.operators.map (file, ·))

/--
Whether there is a job for a pair.
-/
def isJob (pair : File × Operator) : Bool :=
  pair.2.appliesTo (Path.fileType? pair.1.path)

/--
All the jobs for these pairs.
-/
def jobsIn (plan : Plan) (pairs : List (File × Operator)) : List Job :=
  (pairs.filter isJob).map (fun pair => ⟨pair.1, pair.2, plan.id⟩)

/--
The next job among these pairs, with the pairs behind it.
-/
def next? (plan : Plan) : List (File × Operator) → Option (Job × List (File × Operator))
  | [] => none
  | pair :: rest =>
    if isJob pair then
      some (⟨pair.1, pair.2, plan.id⟩, rest)
    else
      next? plan rest

/--
The jobs that are found for this many requests. A request for which there is no job left is the last
one, and the end of the search is reported to it.
-/
def pull (plan : Plan) : Nat → List (File × Operator) → Logged (List Job)
  | 0, _ => ⟨[], []⟩
  | requests + 1, rest =>
    match next? plan rest with
    | none => ⟨[], [.split plan.id plan.files.size plan.operators.length]⟩
    | some (job, rest) =>
      let jobs := pull plan requests rest
      ⟨job :: jobs.value, jobs.reports⟩

variable (plan : Plan)

theorem jobsIn_pairs : plan.jobsIn plan.pairs = plan.jobs := by
  unfold jobsIn pairs jobs
  rw [List.filter_flatMap, List.map_flatMap]
  apply List.flatMap_congr
  intro file _
  rw [List.filter_map, List.map_map]
  rfl

theorem jobsIn_of_next?_eq_none {rest : List (File × Operator)} (h : next? plan rest = none)
    : plan.jobsIn rest = [] := by
  induction rest with
  | nil => rfl
  | cons pair rest ih =>
    unfold next? at h
    split at h
    . contradiction
    . next happlies =>
      unfold jobsIn at ih ⊢
      rw [List.filter_cons_of_neg happlies]
      exact ih h

theorem jobsIn_of_next?_eq_some {rest behind : List (File × Operator)} {job : Job}
    (h : next? plan rest = some (job, behind))
    : plan.jobsIn rest = job :: plan.jobsIn behind := by
  induction rest with
  | nil => contradiction
  | cons pair rest ih =>
    unfold next? at h
    unfold jobsIn at ih ⊢
    split at h
    . next happlies =>
      rw [Option.some.injEq, Prod.mk.injEq] at h
      obtain ⟨rfl, rfl⟩ := h
      rw [List.filter_cons_of_pos happlies, List.map_cons]
    . next happlies =>
      rw [List.filter_cons_of_neg happlies]
      exact ih h

theorem pull_eq (requests : Nat) (rest : List (File × Operator))
    : plan.pull requests rest
      = if (plan.jobsIn rest).length < requests then
          ⟨plan.jobsIn rest, [.split plan.id plan.files.size plan.operators.length]⟩
        else
          ⟨(plan.jobsIn rest).take requests, []⟩ := by
  induction requests generalizing rest with
  | zero =>
    rw [if_neg (Nat.not_lt_zero _), List.take_zero]
    rfl
  | succ requests ih =>
    unfold pull
    cases hnext : plan.next? rest with
    | none =>
      rw [plan.jobsIn_of_next?_eq_none hnext, List.length_nil, if_pos (Nat.zero_lt_succ requests)]
    | some found =>
      obtain ⟨job, behind⟩ := found
      rw [plan.jobsIn_of_next?_eq_some hnext]
      simp only [ih, List.length_cons, Nat.add_lt_add_iff_right, List.take_succ_cons]
      split
      . rfl
      . rfl

theorem run_eq (take : Option Nat)
    : plan.run take
      = ⟨plan.jobs.take (take.getD plan.jobs.length),
          if ∀ n ∈ take, plan.jobs.length < n then
            [.split plan.id plan.files.size plan.operators.length]
          else
            []⟩ := by
  unfold run
  cases take with
  | none => simp
  | some n =>
    simp only [Option.mem_some_iff, forall_eq', Option.getD_some]
    split
    . next hlt => rw [List.take_of_length_le (Nat.le_of_lt hlt)]
    . rfl

/--
Whoever does not say how many jobs to take asks once more than there are jobs.
-/
theorem run_eq_pull (take : Option Nat)
    : plan.run take = plan.pull (take.getD (plan.jobs.length + 1)) plan.pairs := by
  rw [pull_eq, jobsIn_pairs]
  unfold run
  cases take with
  | none => rw [Option.getD_none, if_pos (Nat.lt_succ_self _)]
  | some requests => rfl

end SearchBox.Plan
