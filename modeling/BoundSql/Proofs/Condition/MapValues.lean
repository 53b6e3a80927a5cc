import BoundSql.Fragment.Placeholder
import BoundSql.Proofs.Condition.Terms

/-!
# Other values in conditions

A function on values can be applied to every value bound in a fragment, in a term or in a
condition. Which text there is, and whether there is any, does not depend on the values; so a
condition can be compiled before or after its values are replaced.
-/

namespace BoundSql

variable (g : Value → Value)

namespace Fragment

/-- A fragment with a function applied to each of its values. -/
def mapValues (f : Fragment) : Fragment :=
  { f with values := f.values.map g }

@[simp] theorem text_mapValues (f : Fragment) : (f.mapValues g).text = f.text := rfl

@[simp] theorem values_mapValues (f : Fragment) :
    (f.mapValues g).values = f.values.map g := rfl

@[simp] theorem markers_mapValues (f : Fragment) : (f.mapValues g).markers = f.markers := rfl

@[simp] theorem isEmpty_mapValues (f : Fragment) : (f.mapValues g).isEmpty = f.isEmpty := rfl

@[simp] theorem mapValues_ofText (text : String) : (ofText text).mapValues g = ofText text := rfl

@[simp] theorem mapValues_ofValue (value : Value) :
    (ofValue value).mapValues g = ofValue (g value) := rfl

@[simp] theorem mapValues_append (f₁ f₂ : Fragment) :
    (f₁ ++ f₂).mapValues g = f₁.mapValues g ++ f₂.mapValues g := by
  ext1 <;> simp

@[simp] theorem mapValues_bind (f : Fragment) (value : Value) :
    (f.bind value).mapValues g = (f.mapValues g).bind (g value) := by
  rw [bind_eq_append, mapValues_append, mapValues_ofValue, bind_eq_append]

@[simp] theorem mapValues_parens (f : Fragment) : f.parens.mapValues g = (f.mapValues g).parens :=
  rfl

theorem mapValues_addSeparated (separator : String) (sofar f : Fragment) :
    (addSeparated separator sofar f).mapValues g =
      addSeparated separator (sofar.mapValues g) (f.mapValues g) := by
  unfold addSeparated
  rw [isEmpty_mapValues, isEmpty_mapValues]
  split
  · rfl
  · split
    · rw [mapValues_append]
    · rw [mapValues_append]
      rfl

theorem mapValues_concat (fragments : List Fragment) :
    (concat fragments).mapValues g = concat (fragments.map (mapValues g)) := by
  induction fragments with
  | nil => rfl
  | cons f rest ih => rw [concat_cons, mapValues_append, ih, List.map_cons, concat_cons]

theorem mapValues_join (separator : String) (fragments : List Fragment) :
    (join separator fragments).mapValues g = join separator (fragments.map (mapValues g)) := by
  unfold join
  rw [List.foldl_map]
  exact (List.foldl_hom (mapValues g)
    fun sofar f => (mapValues_addSeparated g separator sofar f).symm).symm

/-- Fragments that are only text bind no value. -/
theorem IsText.mapValues {f : Fragment} (hf : f.IsText) : f.mapValues g = f := by
  rw [hf.eq_ofText]
  rfl

/-- Rendering replaces markers only, whatever their values are. -/
theorem render_mapValues (style : Placeholder) (f : Fragment) :
    (f.mapValues g).render style = (f.render style).mapValues g := rfl

end Fragment

namespace Term

mutual

/-- A term with a function applied to each value bound in it, at any depth. -/
def mapValues : Term → Term
  | .compare column op value => .compare column op (g value)
  | .compareColumns left op right => .compareColumns left op right
  | .membership column values negated => .membership column (values.map g) negated
  | .group entries => .group (mapValuesEntries entries)
  | .raw fragment => .raw (fragment.mapValues g)

/-- Terms with a function applied to each value bound in one of them. -/
def mapValuesEntries : List (Connective × Term) → List (Connective × Term)
  | [] => []
  | (connective, term) :: rest => (connective, term.mapValues) :: mapValuesEntries rest

end

theorem mapValues_compileMembership (column : String) (values : List Value) (negated : Bool) :
    (compileMembership column values negated).mapValues g =
      compileMembership column (values.map g) negated := by
  by_cases h : values = []
  · subst h
    rfl
  · rw [compileMembership_of_ne_nil column negated h,
      compileMembership_of_ne_nil column negated (by simpa using h), Fragment.mapValues_append,
      Fragment.mapValues_ofText, Fragment.mapValues_parens, Fragment.mapValues_join,
      List.map_map, List.map_map]
    rfl

theorem mapValues_enclose (inner : Fragment) :
    (enclose inner).mapValues g = enclose (inner.mapValues g) := by
  unfold enclose
  rw [Fragment.isEmpty_mapValues]
  split
  · rfl
  · rw [Fragment.mapValues_parens]

/-- The parts of a condition can be put together before or after their values are replaced. -/
theorem mapValues_assemble (parts : List (Connective × Fragment)) :
    (Condition.assemble parts).mapValues g =
      Condition.assemble (parts.map fun part => (part.1, part.2.mapValues g)) := by
  unfold Condition.assemble
  rw [List.foldl_map]
  exact (List.foldl_hom (Fragment.mapValues g)
    fun sofar part => (Fragment.mapValues_addSeparated g _ sofar part.2).symm).symm

theorem compileEntries_mapValuesEntries {entries : List (Connective × Term)}
    (h : ∀ entry ∈ entries, (entry.2.mapValues g).compile = entry.2.compile.mapValues g) :
    compileEntries (mapValuesEntries g entries) =
      (compileEntries entries).map fun part => (part.1, part.2.mapValues g) := by
  induction entries with
  | nil => rfl
  | cons entry rest ih =>
      have hrest := ih fun e he => h e (by simp [he])
      have hfirst := h entry (by simp)
      rw [mapValuesEntries, compileEntries, compileEntries, List.map_cons, hrest, hfirst]

/-- The fragment of a term with other values is the fragment of the term with other values. -/
theorem compile_mapValues (term : Term) :
    (term.mapValues g).compile = term.compile.mapValues g := by
  induction term with
  | compare column op value =>
      rw [mapValues, compile, compile, compileCompare, compileCompare, Fragment.mapValues_bind,
        Fragment.mapValues_ofText]
  | compareColumns left op right => rfl
  | membership column values negated =>
      rw [mapValues, compile, compile, mapValues_compileMembership]
  | group entries ih =>
      rw [mapValues, compile, compile, compileEntries_mapValuesEntries g ih, mapValues_enclose,
        mapValues_assemble]
  | raw fragment => rfl

end Term

namespace Condition

/-- A condition with a function applied to each value bound in it. -/
def mapValues (c : Condition) : Condition :=
  ⟨Term.mapValuesEntries g c.entries⟩

theorem compile_mapValues (c : Condition) :
    (c.mapValues g).compile = c.compile.mapValues g := by
  rw [compile, mapValues, compile, Term.mapValues_assemble,
    Term.compileEntries_mapValuesEntries g fun entry _ => entry.2.compile_mapValues g]

/-- A clause stands or is left out whatever the values of its condition are. -/
theorem clause_mapValues (keyword : String) (c : Condition) :
    (c.mapValues g).clause keyword = (c.clause keyword).mapValues g := by
  unfold clause
  rw [compile_mapValues, Fragment.isEmpty_mapValues]
  split
  · rfl
  · rw [Fragment.mapValues_append, Fragment.mapValues_ofText]

end Condition

end BoundSql
