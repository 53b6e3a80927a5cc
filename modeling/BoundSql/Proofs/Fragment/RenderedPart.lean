import BoundSql.Proofs.Fragment.Numbered
import Mathlib.Data.List.Forall2
import Mathlib.Tactic.ByContra

/-!
# Rendering a part first

A rendered fragment has no markers any more: its placeholders are final, and a later rendering does
not count them. Where a part of a fragment is rendered first, the parts behind it are therefore
numbered as though it bound nothing. Question marks do not show this. Numbers do, unless the part
or everything around it is without markers: a greater index is never written shorter, so two
numberings of one template that give the same text agree in every hole.
-/

namespace BoundSql

namespace Placeholder

theorem length_text_le (style : Placeholder) {i j : Nat} (h : i ≤ j) :
    (style.text i).length ≤ (style.text j).length := by
  cases style with
  | question => exact Nat.le_refl _
  | numbered =>
      have hdigits : (Nat.toDigits 10 i).length ≤ (Nat.toDigits 10 j).length := by
        have hj := (Nat.length_toDigits_le_iff (by decide) Nat.length_toDigits_pos).mp
          (Nat.le_refl (Nat.toDigits 10 j).length)
        exact (Nat.length_toDigits_le_iff (by decide) Nat.length_toDigits_pos).mpr
          (Nat.lt_of_le_of_lt h hj)
      simpa [text, Nat.toString_eq_repr, Nat.repr_eq_ofList_toDigits] using hdigits

theorem text_numbered_inj {i j : Nat}
    (h : Placeholder.numbered.text i = Placeholder.numbered.text j) : i = j := by
  have hlist := congrArg String.toList h
  simp only [text, String.toList_append, Nat.toString_eq_ofList_toDigits, String.toList_ofList]
    at hlist
  have hnumber := congrArg (Nat.ofDigitChars 10 · 0) (List.append_cancel_left hlist)
  simpa using hnumber

end Placeholder

namespace Template

variable {t : Template} {us vs : List String}

/-- Longer texts in the holes make a longer filling. -/
theorem length_fill_le (h : List.Forall₂ (fun u v => u.length ≤ v.length) us vs) :
    (t.fill us).length ≤ (t.fill vs).length := by
  induction t generalizing us vs with
  | nil => exact Nat.le_refl _
  | cons symbol t ih =>
      cases symbol with
      | some c => simpa [fill] using ih h
      | none =>
          cases h with
          | nil => exact Nat.le_refl _
          | cons huv hrest =>
              have hlen := ih hrest
              simp only [fill, List.length_append, String.length_toList]
              omega

/-- Fillings with the same text have the same text in every hole, where the texts of the one are
never longer than those of the other. -/
theorem eq_of_fill_eq (h : List.Forall₂ (fun u v => u.length ≤ v.length) us vs)
    (hlen : us.length = t.holes) (hfill : t.fill us = t.fill vs) : us = vs := by
  induction t generalizing us vs with
  | nil =>
      obtain rfl := List.eq_nil_of_length_eq_zero hlen
      cases h
      rfl
  | cons symbol t ih =>
      cases symbol with
      | some c =>
          rw [holes_some_cons] at hlen
          exact ih h hlen (List.cons.inj hfill).2
      | none =>
          rw [holes_none_cons] at hlen
          cases h with
          | nil => exact absurd hlen (Nat.succ_ne_zero _).symm
          | @cons u v us vs huv hrest =>
              have hbehind := length_fill_le (t := t) hrest
              have htotal := congrArg List.length hfill
              simp only [fill, List.length_append, String.length_toList] at htotal
              have hsame : u.toList.length = v.toList.length := by
                simp only [String.length_toList]
                omega
              obtain ⟨htext, hfill⟩ := List.append_inj hfill hsame
              rw [String.toList_inj.mp htext, ih hrest (Nat.succ.inj hlen) hfill]

end Template

namespace Fragment

variable {before f after : Fragment} (style : Placeholder)

theorem forall₂_length_text_le {i j : Nat} (h : i ≤ j) (count : Nat) :
    List.Forall₂ (fun u v : String => u.length ≤ v.length)
      ((List.range' i count).map style.text) ((List.range' j count).map style.text) := by
  induction count generalizing i j with
  | zero => exact .nil
  | succ count ih =>
      rw [List.range'_succ, List.range'_succ, List.map_cons, List.map_cons]
      exact .cons (style.length_text_le h) (ih (Nat.succ_le_succ h))

theorem length_numbered_le {i j : Nat} (h : i ≤ j) (f : Fragment) :
    (f.numbered style i).length ≤ (f.numbered style j).length := by
  have hfill := Template.length_fill_le (t := f.template)
    (forall₂_length_text_le style (Nat.succ_le_succ h) f.markerCount)
  simpa [numbered] using hfill

/-- Where there is a marker, its number shows where numbering began. -/
theorem WellMarked.numbered_inj (hf : f.WellMarked) (hmarkers : f.markers ≠ []) {i j : Nat}
    (hij : i ≤ j) (h : f.numbered .numbered i = f.numbered .numbered j) : i = j := by
  have hlen : ((List.range' (i + 1) f.markerCount).map Placeholder.numbered.text).length =
      f.template.holes := by
    rw [List.length_map, List.length_range', hf.holes_template]
  have htexts := Template.eq_of_fill_eq
    (forall₂_length_text_le .numbered (Nat.succ_le_succ hij) f.markerCount) hlen
    (String.ofList_injective h)
  obtain ⟨count, hcount⟩ : ∃ count, f.markerCount = count + 1 :=
    Nat.exists_eq_succ_of_ne_zero (by simpa [markerCount] using hmarkers)
  rw [hcount, List.range'_succ, List.range'_succ, List.map_cons, List.map_cons] at htexts
  exact Nat.succ.inj (Placeholder.text_numbered_inj (List.cons.inj htexts).1)

/-- A part that is rendered first keeps its placeholders. What is behind it is numbered as though
it had no markers. -/
theorem text_render_early (hbefore : before.WellMarked) (f : Fragment)
    (hafter : after.WellMarked) :
    ((before ++ f.render style ++ after).render style).text =
      before.numbered style 0 ++ (f.render style).text ++
        after.numbered style before.markerCount := by
  have hrendered : (f.render style).WellMarked := wellMarked_of_markers_eq_nil rfl
  have hfront := closed_wellMarked.append hbefore hrendered
  have hcount : (before ++ f.render style).markerCount = before.markerCount :=
    (markerCount_append before (f.render style)).trans (Nat.add_zero _)
  have hpart : (f.render style).numbered style (0 + before.markerCount) = (f.render style).text :=
    numbered_of_markers_eq_nil style _ rfl
  rw [(closed_wellMarked.append hfront hafter).text_render_eq_numbered, hfront.numbered_append,
    hbefore.numbered_append, hpart, hcount, Nat.zero_add]

/-- A part that is not rendered first is numbered behind what is in front of it, and is counted. -/
theorem text_render_late (hbefore : before.WellMarked) (hf : f.WellMarked)
    (hafter : after.WellMarked) :
    ((before ++ f ++ after).render style).text =
      before.numbered style 0 ++ f.numbered style before.markerCount ++
        after.numbered style (before.markerCount + f.markerCount) := by
  have hfront := closed_wellMarked.append hbefore hf
  rw [(closed_wellMarked.append hfront hafter).text_render_eq_numbered, hfront.numbered_append,
    hbefore.numbered_append, markerCount_append, Nat.zero_add, Nat.zero_add]

theorem numbered_append_eq_iff (hf : f.WellMarked) (hafter : after.WellMarked) (count : Nat) :
    f.numbered .numbered 0 ++ after.numbered .numbered count =
        f.numbered .numbered count ++ after.numbered .numbered (count + f.markerCount) ↔
      f.markers = [] ∨ count = 0 ∧ after.markers = [] := by
  refine ⟨fun h => ?_, ?_⟩
  · -- Neither part is written longer early than late, so both are written alike.
    have hfle := length_numbered_le .numbered (Nat.zero_le count) f
    have hafterle := length_numbered_le .numbered (Nat.le_add_right count f.markerCount) after
    have htotal := congrArg String.length h
    simp only [String.length_append] at htotal
    have hsame : (f.numbered .numbered 0).toList.length =
        (f.numbered .numbered count).toList.length := by
      simp only [String.length_toList]
      omega
    have hlists := congrArg String.toList h
    rw [String.toList_append, String.toList_append] at hlists
    obtain ⟨hpart, hbehind⟩ := List.append_inj hlists hsame
    by_cases hmarkers : f.markers = []
    · exact .inl hmarkers
    · refine .inr ⟨?_, ?_⟩
      · exact (hf.numbered_inj hmarkers (Nat.zero_le count) (String.toList_inj.mp hpart)).symm
      · by_contra hafterMarkers
        have hcount := hafter.numbered_inj hafterMarkers (Nat.le_add_right count f.markerCount)
          (String.toList_inj.mp hbehind)
        have hzero : f.markers.length = 0 := Nat.left_eq_add.mp hcount
        exact hmarkers (List.length_eq_zero_iff.mp hzero)
  · rintro (hmarkers | ⟨rfl, hmarkers⟩)
    · have hcount : f.markerCount = 0 := by simp [markerCount, hmarkers]
      rw [hcount, numbered_of_markers_eq_nil _ _ hmarkers, numbered_of_markers_eq_nil _ _ hmarkers,
        Nat.add_zero]
    · rw [numbered_of_markers_eq_nil _ _ hmarkers, numbered_of_markers_eq_nil _ _ hmarkers]

/-- Rendering a part first gives the same text where placeholders are question marks. Where they
are numbered, it does only for a part without markers or one with nothing but text around it. -/
theorem text_render_early_eq_iff (hbefore : before.WellMarked) (hf : f.WellMarked)
    (hafter : after.WellMarked) :
    ((before ++ f.render style ++ after).render style).text =
        ((before ++ f ++ after).render style).text ↔
      style = .question ∨ f.markers = [] ∨ before.markers = [] ∧ after.markers = [] := by
  rw [text_render_early style hbefore f hafter, text_render_late style hbefore hf hafter,
    hf.text_render_eq_numbered]
  cases style with
  | question => simp [hf.numbered_question, hafter.numbered_question]
  | numbered =>
      have hcount : before.markerCount = 0 ↔ before.markers = [] := List.length_eq_zero_iff
      rw [String.append_assoc, String.append_assoc, String.append_right_inj,
        numbered_append_eq_iff hf hafter, hcount]
      simp

end Fragment

end BoundSql
