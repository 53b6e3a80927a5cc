import BoundSql.Proofs.Condition.Terms
import Mathlib.Data.List.SplitBy

/-!
# Conditions as alternatives

A flat list of terms is read as SQL reads it, where AND binds tighter than OR: every OR behind the
first term begins a new run, the terms of a run are joined by AND, and the runs are joined by OR.
Only terms that leave text count. One that leaves none takes its connective with it, so it neither
ends a run nor begins one.
-/

namespace BoundSql

/-- What a chain says of each second element holds of all elements but the first. -/
theorem forall_mem_of_isChain_cons {α : Type} {p : α → Prop} {a : α} {as : List α}
    (h : List.IsChain (fun _ b => p b) (a :: as)) : ∀ b ∈ as, p b := by
  induction as generalizing a with
  | nil => simp
  | cons b as ih =>
      obtain ⟨hb, has⟩ := List.isChain_cons_cons.mp h
      intro x hx
      rcases List.mem_cons.mp hx with rfl | hx
      · exact hb
      · exact ih has x hx

namespace Condition

/-- The entries whose terms leave text, in order. -/
def kept (c : Condition) : List (Connective × Term) :=
  c.entries.filter fun entry => !entry.2.compile.isEmpty

/-- The entries whose terms leave text, in runs. Every OR but that of the first entry begins a new
run. -/
def runs (c : Condition) : List (List (Connective × Term)) :=
  c.kept.splitBy fun _ next => next.1 = .and

/-- The terms of a run joined by AND. -/
def compileRun (run : List (Connective × Term)) : Fragment :=
  .join " AND " (run.map fun entry => entry.2.compile)

/-- The fragment of an entry with its connective as the separator in front of it. -/
def part (entry : Connective × Term) : String × Fragment :=
  (" " ++ entry.1.keyword ++ " ", entry.2.compile)

theorem compile_eq_chain_kept (c : Condition) : c.compile = .chain (c.kept.map part) := by
  rw [compile, Term.compileEntries_eq_map, assemble_eq_chain, List.filter_map, List.map_map]
  rfl

/-- Entries that leave text, at least one of them, joined by AND behind the first. -/
structure IsRun (run : List (Connective × Term)) : Prop where
  ne_nil : run ≠ []
  isEmpty_compile : ∀ entry ∈ run, entry.2.compile.isEmpty = false
  isChain : run.IsChain fun _ next => next.1 = .and

namespace IsRun

variable {run : List (Connective × Term)}

/-- The chain of a run is its join: the connective of the first entry is not written. -/
theorem chain_eq (h : IsRun run) : Fragment.chain (run.map part) = compileRun run := by
  have hjoin : compileRun run = .chain (run.map fun entry => (" AND ", entry.2.compile)) := by
    rw [compileRun, Fragment.join_eq_chain_of_not_isEmpty, List.map_map]
    · rfl
    · intro f hf
      obtain ⟨entry, hmem, rfl⟩ := List.mem_map.mp hf
      exact h.isEmpty_compile entry hmem
  cases run with
  | nil => exact absurd rfl h.ne_nil
  | cons first rest =>
      have hand : ∀ entry ∈ rest, part entry = (" AND ", entry.2.compile) := by
        intro entry hmem
        have hconnective : entry.1 = .and := forall_mem_of_isChain_cons h.isChain entry hmem
        rw [part, hconnective]
        rfl
      rw [hjoin, List.map_cons, List.map_cons, List.map_congr_left hand]
      rfl

theorem isEmpty_compileRun (h : IsRun run) : (compileRun run).isEmpty = false := by
  rw [← h.chain_eq]
  cases run with
  | nil => exact absurd rfl h.ne_nil
  | cons first rest =>
      have hfirst : (part first).2.isEmpty = false :=
        h.isEmpty_compile first List.mem_cons_self
      rw [List.map_cons, Fragment.chain_cons, Fragment.isEmpty_append, hfirst, Bool.false_and]

/-- A run that begins with OR is written as the join of its terms behind this OR. -/
theorem concat_linked (h : IsRun run) (hor : (run.head h.ne_nil).1 = .or) :
    Fragment.concat (run.map fun entry => Fragment.linked (part entry)) =
      .ofText " OR " ++ compileRun run := by
  rw [← h.chain_eq]
  cases run with
  | nil => exact absurd rfl h.ne_nil
  | cons first rest =>
      have hfirst : (part first).1 = " OR " := by
        rw [part, show first.1 = .or from hor]
        rfl
      rw [List.map_cons, Fragment.concat_cons, Fragment.linked, hfirst, List.map_cons,
        Fragment.chain_cons, List.map_map, Fragment.append_assoc]
      rfl

end IsRun

/-- What is chained run by run is the join of the runs, where all but the first begin with OR. -/
theorem chain_flatten {runs : List (List (Connective × Term))} (hruns : ∀ run ∈ runs, IsRun run)
    (hor : runs.IsChain fun _ next => ∃ h : next ≠ [], (next.head h).1 = .or) :
    Fragment.chain (runs.flatten.map part) = .join " OR " (runs.map compileRun) := by
  rw [Fragment.join_eq_chain_of_not_isEmpty, List.map_map]
  · cases runs with
    | nil => rfl
    | cons first later =>
        have hfirst : IsRun first := hruns first List.mem_cons_self
        -- Each later run is written behind its OR as its join.
        have hlater : ∀ run ∈ later, Fragment.concat ((run.map part).map Fragment.linked) =
            Fragment.linked (" OR ", compileRun run) := by
          intro run hmem
          obtain ⟨_, hhead⟩ := forall_mem_of_isChain_cons hor run hmem
          rw [List.map_map]
          exact (hruns run (List.mem_cons_of_mem _ hmem)).concat_linked hhead
        have hne : first.map part ≠ [] := by simpa using hfirst.ne_nil
        calc
          Fragment.chain ((first :: later).flatten.map part)
          _ = Fragment.chain (first.map part) ++
                .concat ((later.flatten.map part).map Fragment.linked) := by
              rw [List.flatten_cons, List.map_append, Fragment.chain_append hne]
          _ = compileRun first ++ .concat (later.map fun run =>
                .concat ((run.map part).map Fragment.linked)) := by
              rw [hfirst.chain_eq, List.map_flatten, List.map_flatten, Fragment.concat_flatten,
                List.map_map, List.map_map]
              rfl
          _ = compileRun first ++ .concat (later.map fun run =>
                Fragment.linked (" OR ", compileRun run)) := by
              rw [List.map_congr_left hlater]
          _ = Fragment.chain ((first :: later).map fun run => (" OR ", compileRun run)) := by
              rw [List.map_cons, Fragment.chain_cons, List.map_map]
              rfl
  · intro f hf
    obtain ⟨run, hmem, rfl⟩ := List.mem_map.mp hf
    exact (hruns run hmem).isEmpty_compileRun

theorem isRun_of_mem_runs {c : Condition} {run : List (Connective × Term)} (h : run ∈ c.runs) :
    IsRun run where
  ne_nil := List.ne_nil_of_mem_splitBy h
  isEmpty_compile := by
    intro entry hentry
    have hkept : entry ∈ c.kept := by
      rw [← List.flatten_splitBy (fun _ next => decide (next.1 = .and)) c.kept]
      exact List.mem_flatten_of_mem h hentry
    simpa using (List.mem_filter.mp hkept).2
  isChain := (List.isChain_of_mem_splitBy h).imp fun _ _ hnext => by simpa using hnext

theorem runs_begin_with_or (c : Condition) :
    c.runs.IsChain fun _ next => ∃ h : next ≠ [], (next.head h).1 = .or := by
  refine (List.isChain_getLast_head_splitBy _ c.kept).imp ?_
  rintro run next ⟨_, hne, hhead⟩
  refine ⟨hne, ?_⟩
  cases hconnective : (next.head hne).1 with
  | and => simp [hconnective] at hhead
  | or => rfl

theorem compile_kept (c : Condition) : (⟨c.kept⟩ : Condition).compile = c.compile := by
  have hkept : (⟨c.kept⟩ : Condition).kept = c.kept := by
    rw [kept, kept, List.filter_filter]
    simp
  rw [compile_eq_chain_kept, hkept, ← compile_eq_chain_kept]

/-- A condition is compiled as its runs joined by OR, the terms of each run joined by AND. A group
is its own condition in one pair of parentheses, or nothing where this leaves no text. Terms that
leave no text can be left out, each with its connective. -/
theorem compile_eq_join_runs (c : Condition) :
    c.compile = .join " OR " (c.runs.map compileRun) ∧
      (∀ group : Condition, (Term.group group.entries).compile =
        if group.compile.isEmpty then ∅ else group.compile.parens) ∧
      (⟨c.kept⟩ : Condition).compile = c.compile := by
  refine ⟨?_, ?_, c.compile_kept⟩
  · rw [compile_eq_chain_kept, ← chain_flatten (fun _ => isRun_of_mem_runs) c.runs_begin_with_or,
      runs, List.flatten_splitBy]
  · intro group
    rw [Term.compile_group, Term.enclose]
    split
    · rename_i hempty
      exact compile_eq_empty hempty
    · rfl

-- The OR of an empty group is left out with it, so the terms on both sides of it are one run.
example :
    let c : Condition := ⟨[(.and, .compareColumns "a" .lt "b"), (.or, .group []),
      (.and, .compareColumns "c" .lt "d"), (.or, .membership "e" [] true)]⟩
    c.runs.map List.length = [2, 1] ∧ c.compile.text = "a < b AND c < d OR 1 = 1" := by
  decide

end Condition

end BoundSql
