import BoundSql.Proofs.Condition.Normal

/-!
# Plain conditions

A plain condition has no raw fragment, and its columns and the sides of its comparisons are
identifiers in lower case. Only a right side may be the keyword of no value instead. So none of
what the caller supplies looks like a keyword, a marker or a parenthesis.
-/

namespace BoundSql

/-- Whether a character stands in an identifier behind the first one. -/
def isIdentifierRest (c : Char) : Bool :=
  c.isLower || c.isDigit || c = '_' || c = '.'

/-- Whether text is an identifier: a lower-case letter, then such letters, digits, underscores and
dots. -/
def isIdentifier (text : String) : Bool :=
  match text.toList with
  | [] => false
  | first :: rest => first.isLower && rest.all isIdentifierRest

/-- Whether text is an identifier or the keyword of no value. -/
def isRightSide (text : String) : Bool :=
  isIdentifier text || text = "NULL"

namespace Term

mutual

/-- Whether a term is plain, at any depth. -/
def isPlain : Term → Bool
  | .compare column _ _ => isIdentifier column
  | .compareColumns left _ right => isIdentifier left && isRightSide right
  | .membership column _ _ => isIdentifier column
  | .group entries => arePlain entries
  | .raw _ => false

/-- Whether all of the terms are plain. -/
def arePlain : List (Connective × Term) → Bool
  | [] => true
  | (_, term) :: rest => term.isPlain && arePlain rest

end

end Term

/-- Whether all terms of a condition are plain. -/
def Condition.isPlain (c : Condition) : Bool :=
  Term.arePlain c.entries

/-- Whether what is asked of a column has an identifier or the keyword of no value on its right
side. -/
def Test.isPlain : Test → Bool
  | .compare _ _ => true
  | .compareColumn _ right => isRightSide right
  | .membership _ _ _ => true

namespace NormalTerm

mutual

/-- Whether a normal term is plain, at any depth. -/
def isPlain : NormalTerm → Bool
  | .test column asked => isIdentifier column && asked.isPlain
  | .constant _ => true
  | .group first rest => first.isPlain && arePlain rest
  | .raw _ => false

/-- Whether all of the normal terms are plain. -/
def arePlain : List (Connective × NormalTerm) → Bool
  | [] => true
  | (_, term) :: rest => term.isPlain && arePlain rest

end

/-- Whether the first and all further terms are plain. -/
def termsPlain : Option NormalTerms → Bool
  | none => true
  | some (first, rest) => first.isPlain && arePlain rest

theorem termsPlain_forgetFirst {entries : List (Connective × NormalTerm)}
    (h : arePlain entries = true) : termsPlain (forgetFirst entries) = true := by
  cases entries with
  | nil => rfl
  | cons entry rest => exact h

end NormalTerm

namespace Term

theorem arePlain_normalEntries {entries : List (Connective × Term)}
    (hentries : arePlain entries = true)
    (h : ∀ entry ∈ entries, entry.2.isPlain = true →
      ∀ normal, entry.2.normal? = some normal → normal.isPlain = true) :
    NormalTerm.arePlain (normalEntries entries) = true := by
  induction entries with
  | nil => rfl
  | cons entry rest ih =>
      obtain ⟨connective, term⟩ := entry
      rw [arePlain, Bool.and_eq_true] at hentries
      have hrest := ih hentries.2 fun e he => h e (List.mem_cons_of_mem _ he)
      rw [normalEntries]
      cases hnormal : term.normal? with
      | none => exact hrest
      | some normal =>
          have hterm := h _ (List.mem_cons_self ..) hentries.1 normal hnormal
          exact Bool.and_eq_true_iff.mpr ⟨hterm, hrest⟩

/-- The normal form of a plain term is plain. -/
theorem isPlain_of_normal? {term : Term} (h : term.isPlain = true) {normal : NormalTerm}
    (hnormal : term.normal? = some normal) : normal.isPlain = true := by
  induction term generalizing normal with
  | compare column op value =>
      obtain rfl := Option.some.inj hnormal
      exact Bool.and_eq_true_iff.mpr ⟨h, rfl⟩
  | compareColumns left op right =>
      obtain rfl := Option.some.inj hnormal
      exact h
  | membership column values negated =>
      cases values with
      | nil =>
          obtain rfl := Option.some.inj hnormal
          rfl
      | cons first others =>
          obtain rfl := Option.some.inj hnormal
          exact Bool.and_eq_true_iff.mpr ⟨h, rfl⟩
  | group entries ih =>
      have hentries := arePlain_normalEntries h fun entry hmem hplain _ hterm =>
        ih entry hmem hplain hterm
      have hterms := NormalTerm.termsPlain_forgetFirst hentries
      rw [normal?] at hnormal
      obtain ⟨terms, hfirst, rfl⟩ := Option.map_eq_some_iff.mp hnormal
      rw [hfirst] at hterms
      exact hterms
  | raw fragment => exact absurd h Bool.false_ne_true

end Term

/-- The normal form of a plain condition is plain. -/
theorem Condition.termsPlain_normal {c : Condition} (h : c.isPlain = true) :
    NormalTerm.termsPlain c.normal = true :=
  NormalTerm.termsPlain_forgetFirst
    (Term.arePlain_normalEntries h fun _ _ hplain _ hnormal =>
      Term.isPlain_of_normal? hplain hnormal)

end BoundSql
