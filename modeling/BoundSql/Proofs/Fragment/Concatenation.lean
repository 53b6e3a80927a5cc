import BoundSql.Fragment.Basic

/-!
# Fragments one after the other

Everything that is compiled is put together from text, markers and fragments one after the other.
Joins and conditions leave out fragments without text; what remains is a chain, in which every
fragment but the first stands after its separator. A property that text and markers have and that
passes to fragments one after the other therefore holds of whatever is built from such fragments.
-/

namespace BoundSql

namespace Fragment

variable {f g h : Fragment}

theorem isEmpty_iff : f.isEmpty ↔ f.text = "" := by
  rw [isEmpty, String.isEmpty_iff]

@[simp] theorem isEmpty_empty : (∅ : Fragment).isEmpty := rfl

@[simp] theorem isEmpty_append (f g : Fragment) :
    (f ++ g).isEmpty = (f.isEmpty && g.isEmpty) := by
  rw [Bool.eq_iff_iff]
  simp [isEmpty_iff]

@[simp] theorem empty_append (f : Fragment) : ∅ ++ f = f := by
  ext1 <;> simp

@[simp] theorem append_empty (f : Fragment) : f ++ ∅ = f := by
  ext1 <;> simp

theorem append_assoc (f g h : Fragment) : f ++ g ++ h = f ++ (g ++ h) := by
  ext1
  · simp [String.append_assoc]
  · simp
  · simp [Function.comp_def, Nat.add_assoc]

theorem ofText_append (s t : String) : ofText (s ++ t) = ofText s ++ ofText t := by
  ext1 <;> simp

theorem addChar_eq_append (f : Fragment) (c : Char) :
    f.addChar c = f ++ ofText (String.singleton c) := by
  ext1 <;> simp [String.append_singleton]

/-- Parentheses are text around a fragment. -/
theorem parens_eq_append (f : Fragment) : f.parens = ofText "(" ++ f ++ ofText ")" := by
  have hsize : "(".utf8ByteSize = 1 := rfl
  ext1 <;> simp [hsize]

@[simp] theorem isEmpty_parens (f : Fragment) : f.parens.isEmpty = false := by
  rw [Bool.eq_false_iff, ne_eq, isEmpty_iff]
  intro h
  simpa using congrArg String.toList h

@[simp] theorem isEmpty_bind (f : Fragment) (value : Value) : (f.bind value).isEmpty = false := by
  rw [Bool.eq_false_iff, ne_eq, isEmpty_iff]
  intro h
  simpa using congrArg String.toList h

@[simp] theorem isEmpty_ofValue (value : Value) : (ofValue value).isEmpty = false := rfl

@[simp] theorem concat_nil : concat [] = ∅ := rfl

@[simp] theorem concat_cons (f : Fragment) (rest : List Fragment) :
    concat (f :: rest) = f ++ concat rest := rfl

theorem concat_append (xs ys : List Fragment) : concat (xs ++ ys) = concat xs ++ concat ys := by
  induction xs with
  | nil => simp
  | cons f xs ih => rw [List.cons_append, concat_cons, ih, concat_cons, append_assoc]

theorem concat_flatten (lists : List (List Fragment)) :
    concat lists.flatten = concat (lists.map concat) := by
  induction lists with
  | nil => rfl
  | cons list lists ih =>
      rw [List.flatten_cons, concat_append, ih, List.map_cons, concat_cons]

/-- A fragment without values and markers is only text. -/
def IsText (f : Fragment) : Prop :=
  f.values = [] ∧ f.markers = []

theorem isText_ofText (text : String) : (ofText text).IsText :=
  ⟨rfl, rfl⟩

theorem isText_empty : (∅ : Fragment).IsText :=
  ⟨rfl, rfl⟩

theorem IsText.eq_ofText (hf : f.IsText) : f = ofText f.text := by
  ext1
  · rfl
  · exact hf.1
  · exact hf.2

/-- Fragments one after the other, each but the first after its separator. -/
def chain : List (String × Fragment) → Fragment
  | [] => ∅
  | (_, first) :: rest => first ++ concat (rest.map fun part => ofText part.1 ++ part.2)

/-- A fragment of a chain after its separator. -/
def linked (part : String × Fragment) : Fragment :=
  ofText part.1 ++ part.2

theorem chain_cons (first : String × Fragment) (rest : List (String × Fragment)) :
    chain (first :: rest) = first.2 ++ concat (rest.map linked) := rfl

theorem chain_append {xs : List (String × Fragment)} (h : xs ≠ []) (ys : List (String × Fragment)) :
    chain (xs ++ ys) = chain xs ++ concat (ys.map linked) := by
  cases xs with
  | nil => exact absurd rfl h
  | cons first rest =>
      rw [List.cons_append, chain_cons, List.map_append, concat_append, chain_cons, append_assoc]

section Separated
variable {α : Type} (separator : α → String) (part : α → Fragment)

/-- Behind some text, each further part with text is added after its separator. -/
theorem foldl_addSeparated_of_not_isEmpty (items : List α) (hf : f.isEmpty = false) :
    items.foldl (fun sofar a => sofar.addSeparated (separator a) (part a)) f =
      f ++ concat ((items.filter fun a => !(part a).isEmpty).map fun a =>
        ofText (separator a) ++ part a) := by
  induction items generalizing f with
  | nil => simp
  | cons a rest ih =>
      rw [List.foldl_cons]
      cases ha : (part a).isEmpty with
      | true =>
          have hskip : f.addSeparated (separator a) (part a) = f := by simp [addSeparated, ha]
          rw [hskip, ih hf]
          simp [ha]
      | false =>
          have hadd : f.addSeparated (separator a) (part a) =
              f ++ (ofText (separator a) ++ part a) := by
            simp [addSeparated, ha, hf, addText_eq_append, append_assoc]
          rw [hadd, ih (by simp [hf])]
          simp [ha, append_assoc]

/-- Adding parts from the front gives the chain of those that have text. -/
theorem foldl_addSeparated_eq_chain (items : List α) :
    items.foldl (fun sofar a => sofar.addSeparated (separator a) (part a)) ∅ =
      chain ((items.filter fun a => !(part a).isEmpty).map fun a => (separator a, part a)) := by
  induction items with
  | nil => rfl
  | cons a rest ih =>
      rw [List.foldl_cons]
      cases ha : (part a).isEmpty with
      | true =>
          have hskip : (∅ : Fragment).addSeparated (separator a) (part a) = ∅ := by
            simp [addSeparated, ha]
          rw [hskip, ih]
          simp [ha]
      | false =>
          have hadd : (∅ : Fragment).addSeparated (separator a) (part a) = part a := by
            simp [addSeparated, ha]
          rw [hadd, foldl_addSeparated_of_not_isEmpty separator part rest ha]
          simp [ha, chain, Function.comp_def]

end Separated

/-- A join is the chain of the fragments that have text. -/
theorem join_eq_chain (separator : String) (fragments : List Fragment) :
    join separator fragments =
      chain ((fragments.filter fun f => !f.isEmpty).map fun f => (separator, f)) :=
  foldl_addSeparated_eq_chain (fun _ => separator) id fragments

/-- Where every fragment has text, none is left out of the join. -/
theorem join_eq_chain_of_not_isEmpty (separator : String) (fragments : List Fragment)
    (hf : ∀ f ∈ fragments, f.isEmpty = false) :
    join separator fragments = chain (fragments.map fun f => (separator, f)) := by
  rw [join_eq_chain, List.filter_eq_self.mpr]
  intro f hmem
  simp [hf f hmem]

/-- The first fragment of a join stands in front of the separator and the join of the others. -/
theorem join_cons_cons (separator : String) {f g : Fragment} {rest : List Fragment}
    (hf : f.isEmpty = false) (hrest : ∀ h ∈ g :: rest, h.isEmpty = false) :
    join separator (f :: g :: rest) = f ++ ofText separator ++ join separator (g :: rest) := by
  have hall : ∀ h ∈ f :: g :: rest, h.isEmpty = false := List.forall_mem_cons.mpr ⟨hf, hrest⟩
  rw [join_eq_chain_of_not_isEmpty separator (f :: g :: rest) hall,
    join_eq_chain_of_not_isEmpty separator (g :: rest) hrest, List.map_cons, List.map_cons,
    chain_cons, chain_cons, List.map_cons, concat_cons, linked, append_assoc, append_assoc]

/-- A property of text and of markers that passes to fragments one after the other. -/
structure Closed (P : Fragment → Prop) : Prop where
  ofText : ∀ text, P (ofText text)
  ofValue : ∀ value, P (ofValue value)
  append : ∀ {f g}, P f → P g → P (f ++ g)

namespace Closed

variable {P : Fragment → Prop}

theorem empty (hP : Closed P) : P ∅ :=
  hP.ofText ""

theorem of_isText (hP : Closed P) (hf : f.IsText) : P f := by
  rw [hf.eq_ofText]
  exact hP.ofText f.text

theorem addText (hP : Closed P) (hf : P f) (text : String) : P (f.addText text) := by
  rw [addText_eq_append]
  exact hP.append hf (hP.ofText text)

theorem bind (hP : Closed P) (hf : P f) (value : Value) : P (f.bind value) := by
  rw [bind_eq_append]
  exact hP.append hf (hP.ofValue value)

theorem parens (hP : Closed P) (hf : P f) : P f.parens := by
  rw [parens_eq_append]
  exact hP.append (hP.append (hP.ofText "(") hf) (hP.ofText ")")

theorem concat (hP : Closed P) {fragments : List Fragment} (hf : ∀ f ∈ fragments, P f) :
    P (concat fragments) := by
  induction fragments with
  | nil => exact hP.empty
  | cons f rest ih =>
      rw [concat_cons]
      exact hP.append (hf f (by simp)) (ih fun g hg => hf g (by simp [hg]))

theorem chain (hP : Closed P) {parts : List (String × Fragment)} (hp : ∀ p ∈ parts, P p.2) :
    P (chain parts) := by
  cases parts with
  | nil => exact hP.empty
  | cons first rest =>
      apply hP.append (hp first (by simp))
      apply hP.concat
      intro f hf
      obtain ⟨p, hmem, rfl⟩ := List.mem_map.mp hf
      exact hP.append (hP.ofText p.1) (hp p (by simp [hmem]))

theorem join (hP : Closed P) (separator : String) {fragments : List Fragment}
    (hf : ∀ f ∈ fragments, P f) : P (join separator fragments) := by
  rw [join_eq_chain]
  apply hP.chain
  intro p hp
  obtain ⟨f, hmem, rfl⟩ := List.mem_map.mp hp
  exact hf f (List.mem_filter.mp hmem).1

end Closed

end Fragment

end BoundSql
