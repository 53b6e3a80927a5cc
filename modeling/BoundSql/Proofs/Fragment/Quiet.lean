import BoundSql.Proofs.Fragment.Scan

/-!
# Quiet fragments

A driver that scans a quiet fragment finds nothing but the placeholders for its markers. Fragments
one after the other are quiet where each of them is and no digit comes to stand behind a marker,
so separators and keywords keep the parts of a statement quiet.
-/

namespace BoundSql

namespace Fragment

/-- A well marked fragment in which a driver that starts outside quotes finds nothing but the
placeholders for its markers. -/
structure Quiet (style : Placeholder) (f : Fragment) : Prop where
  wellMarked : f.WellMarked
  quiet_template : f.template.quiet style none

/-- No digit stands in front, so the fragment may follow a placeholder. -/
def Apart (f : Fragment) : Prop :=
  f.text.toList.head?.all fun c => !c.isDigit

/-- A quiet fragment that may stand behind anything. -/
structure Attachable (style : Placeholder) (f : Fragment) : Prop extends f.Quiet style where
  apart : f.Apart

/-- Whether text has neither quotes nor signs of placeholders. -/
def isPlain (text : String) : Bool :=
  text.toList.all fun c => !isQuote c && c ≠ '?' && c ≠ '$'

/-- Whether text begins, and not with a digit. -/
def separates (text : String) : Bool :=
  text.toList.head?.any fun c => !c.isDigit

/-- Whether plain text may stand in front of anything and behind a placeholder. -/
def isKeyword (text : String) : Bool :=
  isPlain text && separates text

variable {style : Placeholder} {f g : Fragment}

/-- A driver reads the indices of the markers in the rendered text. -/
theorem Quiet.scan_render (hf : f.Quiet style) :
    style.scan none 0 (f.render style).text.toList = some (List.range' 1 f.markerCount) := by
  rw [hf.wellMarked.text_render, String.toList_ofList, ← hf.wellMarked.holes_template]
  exact Template.scan_fill 0 hf.quiet_template

theorem Apart.beginsWithDigit_template (h : f.Apart) :
    f.template.beginsWithDigit = false := by
  rw [Apart] at h
  rw [template]
  cases hcs : f.text.toList with
  | nil => rfl
  | cons c cs =>
      have hc : c.isDigit = false := by simpa [hcs] using h
      cases f.markers with
      | nil => exact hc
      | cons m markers =>
          rw [templateFrom]
          split
          · rfl
          · exact hc

theorem apart_empty : (∅ : Fragment).Apart := rfl

theorem apart_ofValue (value : Value) : (ofValue value).Apart := by
  simp [Apart, marker]

theorem Apart.append (hf : f.Apart) (hg : g.Apart) : (f ++ g).Apart := by
  rw [Apart] at *
  rw [text_append, String.toList_append, List.head?_append]
  cases h : f.text.toList.head? with
  | none => simpa [h] using hg
  | some c => simpa [h] using hf

theorem separates_append {s : String} (h : separates s) (t : String) : separates (s ++ t) := by
  rw [separates] at *
  rw [String.toList_append, List.head?_append]
  cases hc : s.toList.head? with
  | none => simp [hc] at h
  | some c => simpa [hc] using h

theorem apart_of_separates (h : separates f.text) : f.Apart := by
  rw [separates] at h
  rw [Apart]
  cases hc : f.text.toList.head? with
  | none => rfl
  | some c => simpa [hc] using h

/-- A keyword may follow a placeholder whatever follows it. -/
theorem apart_ofText_append {text : String} (h : isKeyword text) (f : Fragment) :
    (ofText text ++ f).Apart :=
  apart_of_separates (separates_append (Bool.and_eq_true_iff.mp h).2 f.text)

namespace Quiet

theorem of_plain {text : String} (h : isPlain text) : (ofText text).Quiet style := by
  refine ⟨closed_wellMarked.ofText text, ?_⟩
  rw [template_ofText]
  apply Template.quiet_text
  intro c hc
  have hplain := List.all_eq_true.mp h c hc
  simp only [Bool.and_eq_true, Bool.not_eq_true', decide_eq_true_eq] at hplain
  obtain ⟨⟨hquote, hquestion⟩, hdollar⟩ := hplain
  refine ⟨hquote, ?_⟩
  cases style
  · exact hquestion
  · exact hdollar

theorem of_keyword {text : String} (h : isKeyword text) : (ofText text).Quiet style :=
  .of_plain (Bool.and_eq_true_iff.mp h).1

theorem of_digits (n : Nat) : (ofText (toString n)).Quiet style := by
  apply of_plain
  rw [isPlain, List.all_eq_true]
  intro c hc
  have hdigit : c.isDigit := by
    rw [Nat.toString_eq_repr, Nat.toList_repr] at hc
    exact Nat.isDigit_of_mem_toDigits (by decide) (by decide) hc
  have hquestion := Placeholder.ne_sign_of_isDigit .question hdigit
  have hdollar := Placeholder.ne_sign_of_isDigit .numbered hdigit
  simp only [Placeholder.sign] at hquestion hdollar
  simp [Placeholder.isQuote_of_isDigit hdigit, hquestion, hdollar]

theorem empty : (∅ : Fragment).Quiet style :=
  ⟨closed_wellMarked.empty, rfl⟩

theorem ofValue (value : Value) : (ofValue value).Quiet style := by
  refine ⟨closed_wellMarked.ofValue value, ?_⟩
  rw [template_ofValue]
  cases style <;> rfl

theorem append (hf : f.Quiet style) (hg : g.Quiet style) (h : g.Apart) :
    (f ++ g).Quiet style := by
  refine ⟨closed_wellMarked.append hf.wellMarked hg.wellMarked, ?_⟩
  rw [hf.wellMarked.template_append]
  exact Template.quiet_append hf.quiet_template hg.quiet_template h.beginsWithDigit_template

theorem ofText_append {text : String} (ht : (ofText text).Quiet style) (hf : f.Quiet style) :
    (Fragment.ofText text ++ f).Quiet style := by
  refine ⟨closed_wellMarked.append ht.wellMarked hf.wellMarked, ?_⟩
  have htext := ht.quiet_template
  rw [template_ofText] at htext
  rw [ht.wellMarked.template_append, template_ofText]
  exact Template.quiet_text_append htext hf.quiet_template

theorem text_append {s t : String} (hs : (ofText s).Quiet style) (ht : (ofText t).Quiet style) :
    (Fragment.ofText (s ++ t)).Quiet style := by
  rw [Fragment.ofText_append]
  exact hs.ofText_append ht

theorem bind (hf : f.Quiet style) (value : Value) : (f.bind value).Quiet style := by
  rw [bind_eq_append]
  exact hf.append (.ofValue value) (apart_ofValue value)

/-- Quiet texts with a quiet separator between two of them. -/
theorem text_intercalate {separator : String} {texts : List String}
    (hseparator : (ofText separator).Quiet style) (h : ∀ t ∈ texts, (ofText t).Quiet style) :
    (Fragment.ofText (separator.intercalate texts)).Quiet style := by
  induction texts with
  | nil => exact .empty
  | cons first rest ih =>
      cases rest with
      | nil => exact h first (by simp)
      | cons second rest =>
          have hrest := ih fun t ht => h t (by simp [ht])
          rw [String.intercalate_cons_cons]
          exact (text_append (h first (by simp)) hseparator).text_append hrest

theorem parens (hf : f.Quiet style) : f.parens.Quiet style := by
  rw [parens_eq_append]
  exact ((of_plain (by decide)).ofText_append hf).append (of_plain (by decide)) rfl

end Quiet

namespace Attachable

theorem empty : (∅ : Fragment).Attachable style :=
  ⟨.empty, apart_empty⟩

theorem ofText_append {text : String} (ht : isKeyword text) (hf : f.Quiet style) :
    (Fragment.ofText text ++ f).Attachable style :=
  ⟨(Quiet.of_keyword ht).ofText_append hf, apart_ofText_append ht f⟩

theorem append (hf : f.Attachable style) (hg : g.Attachable style) :
    (f ++ g).Attachable style :=
  ⟨hf.toQuiet.append hg.toQuiet hg.apart, hf.apart.append hg.apart⟩

theorem concat {fragments : List Fragment} (h : ∀ f ∈ fragments, f.Attachable style) :
    (concat fragments).Attachable style := by
  induction fragments with
  | nil => exact .empty
  | cons f rest ih => exact (h f (by simp)).append (ih fun g hg => h g (by simp [hg]))

end Attachable

namespace Quiet

/-- Quiet fragments with keywords between them. -/
theorem chain {parts : List (String × Fragment)} (hseparator : ∀ p ∈ parts, isKeyword p.1)
    (hpart : ∀ p ∈ parts, p.2.Quiet style) : (chain parts).Quiet style := by
  cases parts with
  | nil => exact .empty
  | cons first rest =>
      have hrest : ∀ f ∈ rest.map fun part => Fragment.ofText part.1 ++ part.2,
          f.Attachable style := by
        intro f hf
        obtain ⟨p, hp, rfl⟩ := List.mem_map.mp hf
        exact .ofText_append (hseparator p (by simp [hp])) (hpart p (by simp [hp]))
      have hbehind := Attachable.concat hrest
      exact (hpart first (by simp)).append hbehind.toQuiet hbehind.apart

theorem join {fragments : List Fragment} {separator : String} (hseparator : isKeyword separator)
    (h : ∀ f ∈ fragments, f.Quiet style) : (join separator fragments).Quiet style := by
  rw [join_eq_chain]
  apply chain
  · intro p hp
    obtain ⟨f, -, rfl⟩ := List.mem_map.mp hp
    exact hseparator
  · intro p hp
    obtain ⟨f, hf, rfl⟩ := List.mem_map.mp hp
    exact h f (List.mem_filter.mp hf).1

end Quiet

end Fragment

end BoundSql
