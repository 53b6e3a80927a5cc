import BoundSql.Proofs.Condition.Terms
import BoundSql.Proofs.Fragment.Inlined
import BoundSql.Proofs.Fragment.Numbered

/-!
# Places in conditions

A raw fragment has its place among the terms of a condition, in groups to any depth. Of the fragment
that is written there only the text matters, and only whether there is some: without text its
connective is left out, and with it every group that is left without text. So fragments with text
stand between the same front and the same back, whatever they are.
-/

namespace BoundSql

namespace Condition

/-- What is assembled in front of a term with text: the terms, and the connective between. -/
def linkedFront (connective : Connective) (front : List (Connective × Fragment)) : Fragment :=
  if (assemble front).isEmpty then assemble front
  else (assemble front).addText (" " ++ connective.keyword ++ " ")

/-- What is assembled behind a term with text: each further one with text after its connective. -/
def linkedBack (back : List (Connective × Fragment)) : Fragment :=
  .concat ((back.filter fun part => !part.2.isEmpty).map fun part =>
    .ofText (" " ++ part.1.keyword ++ " ") ++ part.2)

theorem assemble_append_cons (connective : Connective) (front back : List (Connective × Fragment))
    {f : Fragment} (hf : f.isEmpty = false) :
    assemble (front ++ (connective, f) :: back) =
      linkedFront connective front ++ f ++ linkedBack back := by
  have hadd : (assemble front).addSeparated (" " ++ connective.keyword ++ " ") f =
      linkedFront connective front ++ f := by
    rw [Fragment.addSeparated, hf, if_neg Bool.false_ne_true, linkedFront]
    split <;> rfl
  have htext : (linkedFront connective front ++ f).isEmpty = false := by simp [hf]
  have hback := Fragment.foldl_addSeparated_of_not_isEmpty
    (fun part : Connective × Fragment => " " ++ part.1.keyword ++ " ") Prod.snd back htext
  rw [← hadd] at hback
  rw [assemble, List.foldl_append, List.foldl_cons]
  exact hback.trans (congrArg (· ++ linkedBack back) hadd)

end Condition

namespace Fragment

theorem Closed.linkedFront {P : Fragment → Prop} (hP : Closed P) (connective : Connective)
    {front : List (Connective × Fragment)} (h : ∀ part ∈ front, P part.2) :
    P (Condition.linkedFront connective front) := by
  unfold Condition.linkedFront
  split
  · exact hP.assemble h
  · exact hP.addText (hP.assemble h) _

theorem Closed.linkedBack {P : Fragment → Prop} (hP : Closed P)
    {back : List (Connective × Fragment)} (h : ∀ part ∈ back, P part.2) :
    P (Condition.linkedBack back) := by
  apply hP.concat
  intro f hf
  obtain ⟨part, hpart, rfl⟩ := List.mem_map.mp hf
  exact hP.append (hP.ofText _) (h part (List.mem_filter.mp hpart).1)

/-- A way to write a fragment into a larger one: all that have text are written between the same two
aligned fragments. -/
def Framing (write : Fragment → Fragment) : Prop :=
  ∃ before after : Fragment, before.Aligned ∧ after.Aligned ∧
    ∀ f, f.isEmpty = false → write f = before ++ f ++ after

namespace Framing

variable {write wider : Fragment → Fragment} {f g : Fragment}

protected theorem id : Framing fun f => f := by
  refine ⟨∅, ∅, closed_aligned.empty, closed_aligned.empty, fun f _ => ?_⟩
  rw [empty_append, append_empty]

theorem isEmpty_eq_false (h : Framing write) (hf : f.isEmpty = false) :
    (write f).isEmpty = false := by
  obtain ⟨before, after, -, -, hwrite⟩ := h
  simp [hwrite f hf, hf]

/-- Aligned fragments may stand around what is written. -/
theorem between (h : Framing write) (hg : g.Aligned) {k : Fragment} (hk : k.Aligned)
    (heq : ∀ f, f.isEmpty = false → wider f = g ++ write f ++ k) : Framing wider := by
  obtain ⟨before, after, hbefore, hafter, hwrite⟩ := h
  refine ⟨g ++ before, after ++ k, closed_aligned.append hg hbefore,
    closed_aligned.append hafter hk, fun f hf => ?_⟩
  rw [heq f hf, hwrite f hf]
  simp only [append_assoc]

theorem behind (h : Framing write) (hg : g.Aligned)
    (heq : ∀ f, f.isEmpty = false → wider f = g ++ write f) : Framing wider :=
  h.between hg closed_aligned.empty fun f hf => by rw [heq f hf, append_empty]

theorem concat (h : Framing write) (front back : List Fragment)
    (haligned : ∀ f ∈ front ++ write ∅ :: back, f.Aligned) :
    Framing fun f => concat (front ++ write f :: back) := by
  obtain ⟨hfront, hback⟩ := List.forall_mem_append.mp haligned
  refine h.between (closed_aligned.concat hfront)
    (closed_aligned.concat (List.forall_mem_cons.mp hback).2) fun f _ => ?_
  rw [concat_append, concat_cons, append_assoc]

theorem enclose (h : Framing write) : Framing fun f => Term.enclose (write f) :=
  h.between (closed_aligned.ofText "(") (closed_aligned.ofText ")") fun f hf => by
    rw [Term.enclose, h.isEmpty_eq_false hf, if_neg Bool.false_ne_true, parens_eq_append]

/-- Where the fragment has text, the terms beside it are linked to it by their connectives. -/
theorem assemble (h : Framing write) (connective : Connective)
    {front back : List (Connective × Fragment)} (hfront : ∀ part ∈ front, part.2.Aligned)
    (hback : ∀ part ∈ back, part.2.Aligned) :
    Framing fun f => Condition.assemble (front ++ (connective, write f) :: back) :=
  h.between (closed_aligned.linkedFront connective hfront) (closed_aligned.linkedBack hback)
    fun _ hf => Condition.assemble_append_cons connective front back (h.isEmpty_eq_false hf)

theorem clause {condition : Fragment → Condition} (h : Framing fun f => (condition f).compile)
    (keyword : String) : Framing fun f => (condition f).clause keyword :=
  h.behind (closed_aligned.ofText keyword) fun f hf => by
    rw [Condition.clause, h.isEmpty_eq_false hf, if_neg Bool.false_ne_true]

/-- The fragment may be written between two others first. -/
theorem pushed (h : Framing write) {lead trail : Fragment} (hlead : lead.Aligned)
    (htrail : trail.Aligned) : Framing fun f => write (lead ++ f ++ trail) := by
  obtain ⟨before, after, hbefore, hafter, hwrite⟩ := h
  refine ⟨before ++ lead, trail ++ after, closed_aligned.append hbefore hlead,
    closed_aligned.append htrail hafter, fun f hf => ?_⟩
  have hinner : (lead ++ f ++ trail).isEmpty = false := by simp [hf]
  calc
    write (lead ++ f ++ trail)
    _ = before ++ (lead ++ f ++ trail) ++ after := hwrite _ hinner
    _ = before ++ lead ++ f ++ (trail ++ after) := by simp only [append_assoc]

theorem aligned (h : Framing write) (hempty : (write ∅).Aligned) (hf : f.Aligned) :
    (write f).Aligned := by
  cases hblank : f.isEmpty with
  | true => rwa [hf.eq_empty hblank]
  | false =>
      obtain ⟨before, after, hbefore, hafter, hwrite⟩ := h
      rw [hwrite f hblank]
      exact closed_aligned.append (closed_aligned.append hbefore hf) hafter

/-- An aligned fragment and its rendering are written between the same fragments: either both have
text, or both are empty. -/
theorem exists_append (h : Framing write) (hempty : (write ∅).Aligned) (hf : f.Aligned)
    (style : Placeholder) :
    ∃ before after : Fragment, before.Aligned ∧ after.Aligned ∧ write f = before ++ f ++ after ∧
      write (f.render style) = before ++ f.render style ++ after := by
  cases hblank : f.isEmpty with
  | true =>
      obtain rfl := hf.eq_empty hblank
      refine ⟨write ∅, ∅, hempty, closed_aligned.empty, ?_, ?_⟩
      · rw [append_empty, append_empty]
      · exact ((append_empty _).trans (append_empty _)).symm
  | false =>
      obtain ⟨before, after, hbefore, hafter, hwrite⟩ := h
      refine ⟨before, after, hbefore, hafter, hwrite f hblank, hwrite _ ?_⟩
      rw [hf.wellMarked.isEmpty_render, hblank]

end Framing

end Fragment

namespace Condition

/-- The place of a raw fragment among the terms of a condition. -/
inductive Place
  | entry (front : List (Connective × Term)) (connective : Connective)
      (back : List (Connective × Term))
  | group (front : List (Connective × Term)) (connective : Connective) (inner : Place)
      (back : List (Connective × Term))

namespace Place

/-- The condition with a fragment in the place. -/
def fill : Place → Fragment → Condition
  | .entry front connective back, f => ⟨front ++ (connective, .raw f) :: back⟩
  | .group front connective inner back, f =>
      ⟨front ++ (connective, .group (inner.fill f).entries) :: back⟩

theorem framing_entries {front back : List (Connective × Term)} {term : Fragment → Term}
    (hterm : Fragment.Framing fun f => (term f).compile) (connective : Connective)
    (h : ∀ f ∈ (⟨front ++ (connective, term ∅) :: back⟩ : Condition).raws, f.Aligned) :
    Fragment.Framing fun f => (⟨front ++ (connective, term f) :: back⟩ : Condition).compile := by
  have haligned : ∀ entry ∈ front ++ (connective, term ∅) :: back, entry.2.compile.Aligned :=
    fun entry hentry => Fragment.closed_aligned.compileTerm fun f hf =>
      h f (Term.raws_subset_rawsEntries hentry hf)
  have hparts : ∀ entries : List (Connective × Term),
      entries ⊆ front ++ (connective, term ∅) :: back →
      ∀ part ∈ Term.compileEntries entries, part.2.Aligned := by
    intro entries hsub part hpart
    rw [Term.compileEntries_eq_map] at hpart
    obtain ⟨entry, hentry, rfl⟩ := List.mem_map.mp hpart
    exact haligned entry (hsub hentry)
  have hback : back ⊆ front ++ (connective, term ∅) :: back :=
    List.subset_append_of_subset_right _ (List.subset_cons_self _ _)
  have hframing := hterm.assemble connective (hparts front (List.subset_append_left _ _))
    (hparts back hback)
  simpa only [compile, Term.compileEntries_eq_map, List.map_append, List.map_cons] using hframing

/-- A place in a condition keeps what is written there between the same fragments. -/
theorem framing_compile {place : Place} (h : ∀ f ∈ (place.fill ∅).raws, f.Aligned) :
    Fragment.Framing fun f => (place.fill f).compile := by
  induction place with
  | entry front connective back =>
      have hterm : Fragment.Framing fun f => (Term.raw f).compile := by
        simpa only [Term.compile] using Fragment.Framing.id
      exact framing_entries hterm connective h
  | group front connective inner back ih =>
      have hinner : ∀ f ∈ (inner.fill ∅).raws, f.Aligned := by
        intro f hf
        have hmem : (connective, Term.group (inner.fill ∅).entries) ∈
            front ++ (connective, .group (inner.fill ∅).entries) :: back :=
          List.mem_append_right _ List.mem_cons_self
        exact h f (Term.raws_subset_rawsEntries hmem (by simpa [Term.raws, raws] using hf))
      have hterm : Fragment.Framing fun f => (Term.group (inner.fill f).entries).compile := by
        simpa only [Term.compile_group] using (ih hinner).enclose
      exact framing_entries hterm connective h

end Place

end Condition

end BoundSql
