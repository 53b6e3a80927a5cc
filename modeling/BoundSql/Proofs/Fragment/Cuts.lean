import BoundSql.Dialect.Backend
import BoundSql.Proofs.Fragment.Numbered
import BoundSql.Proofs.Statement.Reachable

/-!
# Texts cut at their markers

The markers of a fragment cut its text into what stands in front of the first one and what stands
behind each. Rendering puts placeholders in the places of the markers and keeps everything between
them, so a fragment behind another one is rendered with the same cuts and greater indices.
-/

namespace BoundSql

/-- A text that is cut at some places: what stands in front of the first one, and what stands behind
each of them. -/
structure Cuts where
  front : String
  behind : List String

namespace Cuts

/-- The text with a text in each place, by the index of the place from one. -/
def write (c : Cuts) (mark : Nat → String) : String :=
  c.front ++ String.join (c.behind.mapIdx fun i piece => mark (i + 1) ++ piece)

/-- The text with a marker in each place. -/
def marked (c : Cuts) : String :=
  c.write fun _ => "?"

/-- The byte offsets of the places in the marked text: each has in front what is in front of it. -/
def offsets (c : Cuts) : List Nat :=
  (List.range c.behind.length).map fun i =>
    (marked ⟨c.front, c.behind.take i⟩).utf8ByteSize

variable (s front : String) (behind : List String) (mark : Nat → String)

theorem write_append_front :
    write ⟨s ++ front, behind⟩ mark = s ++ write ⟨front, behind⟩ mark :=
  String.append_assoc

/-- A place at the front takes the first index. -/
theorem write_cons :
    write ⟨"", front :: behind⟩ mark = mark 1 ++ write ⟨front, behind⟩ fun i => mark (i + 1) := by
  simp [write, String.append_assoc]

theorem offsets_append_front :
    offsets ⟨s ++ front, behind⟩ = (offsets ⟨front, behind⟩).map (s.utf8ByteSize + ·) := by
  simp only [offsets, marked, write_append_front, String.utf8ByteSize_append, List.map_map]
  rfl

theorem offsets_cons :
    offsets ⟨"", front :: behind⟩ = 0 :: (offsets ⟨front, behind⟩).map (1 + ·) := by
  have hmark : "?".utf8ByteSize = 1 := rfl
  simp only [offsets, marked, List.length_cons, List.range_succ_eq_map, List.map_cons,
    List.take_zero, List.map_map, Function.comp_def, List.take_succ_cons, write_cons,
    String.utf8ByteSize_append, hmark]
  rfl

end Cuts

namespace Fragment

/-- Text with the offsets of its markers is cut at these: with texts in the holes of its template,
it is written with these texts in the places. -/
theorem MarkedFrom.exists_cuts {offset : Nat} {cs : List Char} {markers : List Nat}
    (h : MarkedFrom offset cs markers) :
    ∃ c : Cuts, String.ofList cs = c.marked ∧ markers = c.offsets.map (offset + ·) ∧
      ∀ (mark : Nat → String) (index : Nat),
        String.ofList ((templateFrom offset markers cs).fill
          ((List.range' (index + 1) markers.length).map mark)) =
            c.write fun i => mark (index + i) := by
  induction h with
  | nil => exact ⟨⟨"", []⟩, rfl, rfl, fun _ _ => rfl⟩
  | @text offset cs markers ch rest ih =>
      obtain ⟨⟨front, behind⟩, hmarked, hmarkers, hfill⟩ := ih
      refine ⟨⟨String.singleton ch ++ front, behind⟩, ?_, ?_, fun mark index => ?_⟩
      · rw [String.ofList_cons, hmarked, Cuts.marked, Cuts.marked, Cuts.write_append_front]
      · rw [hmarkers, Cuts.offsets_append_front, List.map_map, String.utf8ByteSize_singleton]
        simp only [Function.comp_def, Nat.add_assoc]
      · rw [templateFrom_text ch rest.le_of_mem, Template.fill, String.ofList_cons, hfill,
          Cuts.write_append_front]
  | @mark offset cs markers rest ih =>
      obtain ⟨⟨front, behind⟩, hmarked, hmarkers, hfill⟩ := ih
      refine ⟨⟨"", front :: behind⟩, ?_, ?_, fun mark index => ?_⟩
      · rw [String.ofList_cons, hmarked, Cuts.marked, Cuts.marked, Cuts.write_cons]
        rfl
      · have hsize : marker.utf8Size = 1 := rfl
        rw [hmarkers, Cuts.offsets_cons, List.map_cons, List.map_map, hsize]
        simp only [Function.comp_def, Nat.add_assoc, Nat.add_zero]
      · rw [templateFrom_mark, List.length_cons, List.range'_succ, List.map_cons, Template.fill,
          String.ofList_append, String.ofList_toList, hfill, Cuts.write_cons]
        simp only [Nat.add_assoc, Nat.add_comm 1]

/-- A well marked fragment is cut at its markers. Numbered from an index, it has placeholders in the
places of its markers. -/
theorem WellMarked.exists_cuts {f : Fragment} (hf : f.WellMarked) :
    ∃ c : Cuts, f.text = c.marked ∧ f.markers = c.offsets ∧
      ∀ (style : Placeholder) (start : Nat),
        f.numbered style start = c.write fun i => style.text (start + i) := by
  obtain ⟨c, hmarked, hmarkers, hfill⟩ := MarkedFrom.exists_cuts hf
  rw [String.ofList_toList] at hmarked
  refine ⟨c, hmarked, by simpa using hmarkers, fun style start => ?_⟩
  exact hfill style.text start

theorem WellMarked.text_render_parens {f : Fragment} (hf : f.WellMarked) (style : Placeholder) :
    (f.parens.render style).text = "(" ++ (f.render style).text ++ ")" := by
  have hopen := closed_wellMarked.append (closed_wellMarked.ofText "(") hf
  rw [(closed_wellMarked.parens hf).text_render_eq_numbered, parens_eq_append,
    hopen.numbered_append, numbered_ofText_append, numbered_ofText, hf.text_render_eq_numbered]

/-- Behind another fragment, rendering goes on with the index behind its markers. -/
theorem WellMarked.text_render_append {f g : Fragment} (hg : g.WellMarked) (hf : f.WellMarked)
    (style : Placeholder) :
    ((g ++ f).render style).text = (g.render style).text ++ f.numbered style g.markerCount := by
  rw [(closed_wellMarked.append hg hf).text_render_eq_numbered, hg.numbered_append, Nat.zero_add,
    hg.text_render_eq_numbered]

/-- A reachable fragment is cut at its markers, and rendering writes the placeholder of its index in
the place of each, by slices of the text. Everything between them stays, the values too, and no
marker is left, so that nothing is left to render. In parentheses and behind another fragment, the
text between the markers is the same, and indices go on behind the markers of the other one. -/
theorem Reachable.render_at_markers {f : Fragment} (hf : f.Reachable) :
    ∃ c : Cuts, f.text = c.marked ∧ f.markers = c.offsets ∧
      ∀ d : Dialect,
        f.renderSlices? d.placeholder = some (d.render f) ∧
        d.render f = ⟨c.write d.placeholder.text, f.values, []⟩ ∧
        (∀ e : Dialect, e.render (d.render f) = d.render f) ∧
        (d.placeholder = .question → (d.render f).text = f.text) ∧
        (d.render f.parens).text = "(" ++ (d.render f).text ++ ")" ∧
        ∀ g : Fragment, g.Reachable → (d.render (g ++ f)).text =
          (d.render g).text ++ c.write fun i => d.placeholder.text (g.markerCount + i) := by
  have hmarked := hf.wellMarked
  obtain ⟨c, htext, hmarkers, hnumbered⟩ := hmarked.exists_cuts
  refine ⟨c, htext, hmarkers, fun d => ⟨?_, ?_, ?_, ?_, ?_, ?_⟩⟩
  · exact hmarked.renderSlices?_eq d.placeholder
  · have hrendered := hmarked.text_render_eq_numbered d.placeholder
    rw [hnumbered] at hrendered
    simp only [Nat.zero_add] at hrendered
    exact Fragment.ext hrendered rfl rfl
  · exact fun e => render_of_markers_eq_nil e.placeholder rfl
  · intro hquestion
    rw [Dialect.render, hquestion]
    exact hmarked.text_render_question
  · exact hmarked.text_render_parens d.placeholder
  · intro g hg
    rw [← hnumbered]
    exact hg.wellMarked.text_render_append hmarked d.placeholder

/-- Two markers around a question mark that is text, behind a letter of two bytes and behind a
fragment with one marker. -/
theorem render_at_markers_behind_wide_letter :
    let f := ofMarked "é = ? AND b ?? ?" [.null, .null]
    let g := (ofMarked "a = ?" [.null]).parens
    f.Reachable ∧ g.Reachable ∧ f.markers = [5, 15] ∧
    (Dialect.postgres.render (g ++ f)).text = "(a = $1)é = $2 AND b ? $3" ∧
    ∃ c : Cuts, f.text = c.marked ∧ f.markers = c.offsets ∧
      Dialect.postgres.render f = ⟨c.write Dialect.postgres.placeholder.text, f.values, []⟩ ∧
      (Dialect.sqlite.render f).text = f.text ∧
      (Dialect.postgres.render (g ++ f)).text = (Dialect.postgres.render g).text ++
        c.write fun i => Dialect.postgres.placeholder.text (1 + i) := by
  have hf : (ofMarked "é = ? AND b ?? ?" [.null, .null]).Reachable := .ofMarked _ _
  have hg : (ofMarked "a = ?" [.null]).parens.Reachable := .parens (.ofMarked _ _)
  obtain ⟨c, htext, hmarkers, hrender⟩ := hf.render_at_markers
  obtain ⟨-, hpostgres, -, -, -, happend⟩ := hrender .postgres
  obtain ⟨-, -, -, hsqlite, -⟩ := hrender .sqlite
  exact ⟨hf, hg, by decide, by decide +kernel, c, htext, hmarkers, hpostgres, hsqlite rfl,
    happend _ hg⟩

end Fragment

end BoundSql
