import BoundSql.Proofs.Fragment.Inlined
import BoundSql.Proofs.Fragment.Numbered
import BoundSql.Proofs.Statement.Reachable
import Mathlib.Algebra.GroupWithZero.Nat

/-!
# Joins of joins

Fragments one after the other form a monoid. A join leaves out what has no text, so joining is not
plain concatenation; still, a list can be joined in parts. An aligned fragment without text is the
empty one: what a join of aligned fragments leaves out binds no value.
-/

namespace BoundSql.Fragment

variable {f : Fragment} (separator : String) (sofar : Fragment)

theorem isEmpty_eq_false_of_filter_eq_cons {gs rest : List Fragment} {first : Fragment}
    (h : (gs.filter fun g => !g.isEmpty) = first :: rest) : first.isEmpty = false := by
  have hmem : first ∈ gs.filter fun g => !g.isEmpty := h ▸ List.mem_cons_self
  simpa using (List.mem_filter.mp hmem).2

/-- A join without text is the empty fragment: nothing was added to it. -/
theorem join_eq_empty_of_isEmpty {fs : List Fragment} (h : (join separator fs).isEmpty) :
    join separator fs = ∅ := by
  rw [join_eq_chain] at h ⊢
  cases hkept : fs.filter fun f => !f.isEmpty with
  | nil => rfl
  | cons first rest =>
      have hfirst := isEmpty_eq_false_of_filter_eq_cons hkept
      simp [hkept, chain_cons, hfirst] at h

/-- Nothing stands in front of the first fragment, not even a separator. -/
theorem addSeparated_empty_left (h : f.isEmpty → f = ∅) : addSeparated separator ∅ f = f := by
  cases hf : f.isEmpty with
  | true =>
      rw [h hf]
      rfl
  | false => simp [addSeparated, hf]

/-- Behind a fragment that is empty or has text, others can be joined first and added then. -/
theorem foldl_addSeparated_eq_addSeparated_join (gs : List Fragment)
    (h : sofar.isEmpty → sofar = ∅) :
    gs.foldl (addSeparated separator) sofar = addSeparated separator sofar (join separator gs) := by
  cases hsofar : sofar.isEmpty with
  | true =>
      rw [h hsofar, addSeparated_empty_left separator (join_eq_empty_of_isEmpty separator)]
      rfl
  | false =>
      rw [join_eq_chain]
      refine (foldl_addSeparated_of_not_isEmpty (fun _ => separator) id gs hsofar).trans ?_
      cases hkept : gs.filter fun g => !g.isEmpty with
      | nil => simp [hkept, chain, addSeparated]
      | cons first rest =>
          have hfirst := isEmpty_eq_false_of_filter_eq_cons hkept
          simp [hkept, chain, addSeparated, hfirst, hsofar, addText_eq_append, append_assoc,
            Function.comp_def]

/-- Joining a list in two parts. -/
theorem join_append (fs gs : List Fragment) :
    join separator (fs ++ gs) = join separator [join separator fs, join separator gs] := by
  have htidy : (join separator fs).isEmpty → join separator fs = ∅ :=
    join_eq_empty_of_isEmpty separator
  calc
    join separator (fs ++ gs)
    _ = gs.foldl (addSeparated separator) (join separator fs) := by
        rw [join, List.foldl_append]
        rfl
    _ = addSeparated separator (join separator fs) (join separator gs) :=
        foldl_addSeparated_eq_addSeparated_join separator _ gs htidy
    _ = join separator [join separator fs, join separator gs] :=
        congrArg (addSeparated separator · (join separator gs))
          (addSeparated_empty_left separator htidy).symm

/-- Adding an aligned fragment adds all its values and markers, also where it is left out. -/
theorem Aligned.addSeparated (hf : f.Aligned) :
    (sofar.addSeparated separator f).values = sofar.values ++ f.values ∧
      (sofar.addSeparated separator f).markerCount = sofar.markerCount + f.markerCount := by
  rw [Fragment.addSeparated]
  split
  · rename_i h
    simp [hf.eq_empty h]
  · split <;> simp [addText_eq_append]

theorem foldl_addSeparated_of_aligned {fs : List Fragment} (h : ∀ f ∈ fs, f.Aligned) :
    (fs.foldl (addSeparated separator) sofar).values = sofar.values ++ fs.flatMap values ∧
      (fs.foldl (addSeparated separator) sofar).markerCount =
        sofar.markerCount + (fs.map markerCount).sum := by
  induction fs generalizing sofar with
  | nil => simp
  | cons f fs ih =>
      obtain ⟨hf, hfs⟩ := List.forall_mem_cons.mp h
      obtain ⟨hvalues, hcount⟩ := hf.addSeparated separator sofar
      obtain ⟨hrestValues, hrestCount⟩ := ih (sofar.addSeparated separator f) hfs
      rw [List.foldl_cons]
      refine ⟨?_, ?_⟩
      · rw [hrestValues, hvalues, List.append_assoc, List.flatMap_cons]
      · rw [hrestCount, hcount, Nat.add_assoc, List.map_cons, List.sum_cons]

/-- Fragments one after the other form a monoid. A join of two lists is the join of their joins,
whichever fragments have no text. A join of fragments that hold one marker for each value has the
values of all of them in order, and as many markers as they have together. -/
theorem join_append_and_keeps_values :
    (∀ f g h : Fragment, f ++ g ++ h = f ++ (g ++ h)) ∧
    (∀ f : Fragment, ∅ ++ f = f ∧ f ++ ∅ = f) ∧
    (∀ (separator : String) (fs gs : List Fragment),
      join separator (fs ++ gs) = join separator [join separator fs, join separator gs]) ∧
    ∀ (separator : String) (fs : List Fragment),
      (∀ f ∈ fs, f.Reachable ∧ f.markerCount = f.values.length) →
      (join separator fs).values = fs.flatMap values ∧
        (join separator fs).markerCount = (fs.map markerCount).sum := by
  refine ⟨append_assoc, fun f => ⟨empty_append f, append_empty f⟩, join_append, ?_⟩
  · intro separator fs h
    have haligned : ∀ f ∈ fs, f.Aligned := fun f hf => ⟨(h f hf).1.wellMarked, (h f hf).2⟩
    simpa [join] using foldl_addSeparated_of_aligned separator ∅ haligned

/-- A join with fragments without text in front, in the middle and at the end. -/
theorem join_keeps_values_beside_empty :
    let fs : List Fragment := [∅, .ofMarked "é ?? ?" [.int 1], .ofText "", .ofValue .null, ∅]
    (∀ f ∈ fs, f.Reachable ∧ f.markerCount = f.values.length) ∧
      (join ", " fs).text = "é ? ?, ?" ∧ (join ", " fs).markers = [5, 8] ∧
      (join ", " fs).values = [.int 1, .null] ∧ (join ", " fs).markerCount = 2 := by
  intro fs
  have h : ∀ f ∈ fs, f.Reachable ∧ f.markerCount = f.values.length := by
    simp only [fs, List.forall_mem_cons]
    refine ⟨⟨.empty, rfl⟩, ⟨.ofMarked _ _, by decide⟩, ⟨.ofText _, rfl⟩, ⟨.ofValue _, rfl⟩,
      ⟨.empty, rfl⟩, ?_⟩
    simp
  obtain ⟨hvalues, hcount⟩ := join_append_and_keeps_values.2.2.2 ", " fs h
  exact ⟨h, by decide, by decide, hvalues, hcount.trans (by decide)⟩

end BoundSql.Fragment
