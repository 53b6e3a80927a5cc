import BoundSql.Proofs.Value.Decoding
import BoundSql.Row
import Mathlib.Data.List.Nodup

/-!
# Rows of both kinds

Filling a row with one cell for each name keeps the last cell of a name, where a row of cells in
order answers with the first one. So a row of cells in order reads like the row of the other kind
that is filled from its end. Where no name is repeated, the order of the cells does not matter.
-/

namespace BoundSql

namespace Keyed

variable {α : Type} {key : String} {entries others : List (String × α)}

theorem find?_append (key : String) (entries others : List (String × α)) :
    find? key (entries ++ others) = (find? key entries).or (find? key others) := by
  induction entries with
  | nil => rfl
  | cons entry rest ih =>
      obtain ⟨name, value⟩ := entry
      by_cases h : key = name
      · simp [find?, h]
      · simp [find?, h, ih]

/-- After further entries are inserted, the last of them under a key is found, and without one what
was found before. -/
theorem find?_foldl_insert (key : String) (entries sofar : List (String × α)) :
    find? key (entries.foldl (fun sofar entry => insert entry.1 entry.2 sofar) sofar) =
      (find? key entries.reverse).or (find? key sofar) := by
  induction entries generalizing sofar with
  | nil => rfl
  | cons entry rest ih =>
      obtain ⟨name, value⟩ := entry
      rw [List.foldl_cons, ih, find?_insert, List.reverse_cons, find?_append, Option.or_assoc]
      by_cases h : key = name
      · simp [find?, h]
      · simp [find?, h]

theorem find?_ofList (key : String) (entries : List (String × α)) :
    find? key (ofList entries) = find? key entries.reverse := by
  rw [ofList, find?_foldl_insert, find?, Option.or_none]

theorem find?_eq_none_iff : find? key entries = none ↔ ∀ entry ∈ entries, entry.1 ≠ key := by
  induction entries with
  | nil => simp [find?]
  | cons entry rest ih =>
      obtain ⟨name, value⟩ := entry
      by_cases h : key = name
      · simp [find?, h]
      · simp [find?, h, ih, Ne.symm h]

/-- Where no key is repeated, an entry is found wherever it stands. -/
theorem find?_eq_some_iff (hkeys : (entries.map Prod.fst).Nodup) {value : α} :
    find? key entries = some value ↔ (key, value) ∈ entries := by
  induction entries with
  | nil => simp [find?]
  | cons entry rest ih =>
      obtain ⟨name, other⟩ := entry
      obtain ⟨hname, hrest⟩ := List.nodup_cons.mp hkeys
      by_cases h : key = name
      · subst h
        have habsent : (key, value) ∉ rest := fun hmem =>
          hname (List.mem_map.mpr ⟨(key, value), hmem, rfl⟩)
        simp [find?, habsent, eq_comm]
      · simp [find?, h, ih hrest]

theorem find?_perm (hperm : others.Perm entries) (hkeys : (entries.map Prod.fst).Nodup) :
    find? key others = find? key entries := by
  have hothers : (others.map Prod.fst).Nodup := (hperm.map Prod.fst).nodup_iff.mpr hkeys
  refine Option.ext fun value => ?_
  rw [find?_eq_some_iff hothers, find?_eq_some_iff hkeys, hperm.mem_iff]

end Keyed

/-- What is read from a column: values as they are, or scalars. -/
inductive Target
  | value
  | scalar (s : Scalar)

namespace Target

/-- The type that is read. -/
def Carrier : Target → Type
  | .value => Value
  | .scalar s => s.Carrier

instance : (t : Target) → FromValue t.Carrier
  | .value => inferInstanceAs (FromValue Value)
  | .scalar s => inferInstanceAs (FromValue s.Carrier)

theorem fromValue_ne_missingColumn (t : Target) (v : Value) (name : String) :
    (fromValue v : Except DecodeError t.Carrier) ≠ .error (.missingColumn name) := by
  intro h
  cases t with
  | value => exact nomatch h
  | scalar s =>
      obtain ⟨x, rfl⟩ | hrefused := s.exists_toValue_eq_or_refused v
      · exact nomatch (s.fromValue_toValue x).symm.trans h
      · have hrefusal : s.refusal v = .missingColumn name :=
          Except.error.inj (hrefused.symm.trans h)
        unfold Scalar.refusal at hrefusal
        split at hrefusal <;> exact nomatch hrefusal

/-- No value is refused for a column that is missing, at any depth of options. -/
theorem fromValue_optional_ne_missingColumn (t : Target) (depth : Nat) (v : Value)
    (name : String) :
    (fromValue v : Except DecodeError (Optional t.Carrier depth)) ≠
      .error (.missingColumn name) := by
  cases depth with
  | zero => exact t.fromValue_ne_missingColumn v name
  | succ depth =>
      intro h
      by_cases hnull : v = .null
      · subst hnull
        exact nomatch h
      · rw [Optional.fromValue_eq_map_wrap _ hnull] at h
        cases hread : (fromValue v : Except DecodeError t.Carrier) with
        | ok x => exact nomatch hread ▸ h
        | error e =>
            rw [hread] at h
            have he : e = .missingColumn name := Except.error.inj h
            exact t.fromValue_ne_missingColumn v name (hread.trans (congrArg _ he))

end Target

namespace Row

theorem decode_congr {ρ σ α : Type} [Row ρ] [Row σ] [FromValue α] {row : ρ} {other : σ}
    {name : String} (h : cell? row name = cell? other name) :
    (decode row name : Except DecodeError α) = decode other name := by
  rw [decode, h, decode]

/-- A column is missing exactly where the row has no cell of its name. -/
theorem decode_eq_missingColumn_iff {ρ : Type} [Row ρ] (t : Target) (depth : Nat) {row : ρ}
    {name missing : String} :
    (decode row name : Except DecodeError (Optional t.Carrier depth)) =
        .error (.missingColumn missing) ↔
      missing = name ∧ cell? row name = none := by
  rw [decode]
  cases hcell : cell? row name with
  | none => simp [eq_comm]
  | some v => simp [t.fromValue_optional_ne_missingColumn depth v missing]

variable {name : String} {cells others : List (String × Value)}

theorem cell?_ofCells (name : String) (cells : List (String × Value)) :
    cell? (KeyedRow.ofCells cells) name = cell? (⟨cells.reverse⟩ : CellRow) name :=
  Keyed.find?_ofList name cells

theorem cell?_eq_none_iff : cell? (⟨cells⟩ : CellRow) name = none ↔ ∀ cell ∈ cells, cell.1 ≠ name :=
  Keyed.find?_eq_none_iff

theorem cell?_ofCells_eq_none_iff :
    cell? (KeyedRow.ofCells cells) name = none ↔ ∀ cell ∈ cells, cell.1 ≠ name := by
  rw [cell?_ofCells, cell?_eq_none_iff]
  simp only [List.mem_reverse]

theorem cell?_perm (hperm : others.Perm cells) (hnames : (cells.map Prod.fst).Nodup) :
    cell? (⟨others⟩ : CellRow) name = cell? (⟨cells⟩ : CellRow) name :=
  Keyed.find?_perm hperm hnames

theorem cell?_ofCells_perm (hperm : others.Perm cells) (hnames : (cells.map Prod.fst).Nodup) :
    cell? (KeyedRow.ofCells others) name = cell? (⟨cells⟩ : CellRow) name := by
  rw [cell?_ofCells, cell?_perm (others.reverse_perm.trans hperm) hnames]

/-- A row of cells in order is read, with the same errors, like the row that is filled with the same
cells from the last one to the first. Where no name is repeated, it is read like the row filled with
them in any order, and like the row of the same cells in any order. In both kinds of rows a column
is missing exactly where no cell has its name. -/
theorem decode_cells_eq_decode_keyed :
    (∀ (α : Type) [FromValue α] (cells : List (String × Value)) (name : String),
      (decode (⟨cells⟩ : CellRow) name : Except DecodeError α) =
        decode (KeyedRow.ofCells cells.reverse) name) ∧
    (∀ cells others : List (String × Value), (cells.map Prod.fst).Nodup → others.Perm cells →
      ∀ (α : Type) [FromValue α] (name : String),
        (decode (⟨cells⟩ : CellRow) name : Except DecodeError α) =
          decode (KeyedRow.ofCells others) name ∧
        (decode (⟨cells⟩ : CellRow) name : Except DecodeError α) =
          decode (⟨others⟩ : CellRow) name) ∧
    ∀ (t : Target) (depth : Nat) (cells : List (String × Value)) (name missing : String),
      ((decode (⟨cells⟩ : CellRow) name : Except DecodeError (Optional t.Carrier depth)) =
          .error (.missingColumn missing) ↔
        missing = name ∧ ∀ cell ∈ cells, cell.1 ≠ name) ∧
      ((decode (KeyedRow.ofCells cells) name : Except DecodeError (Optional t.Carrier depth)) =
          .error (.missingColumn missing) ↔
        missing = name ∧ ∀ cell ∈ cells, cell.1 ≠ name) := by
  refine ⟨?_, ?_, ?_⟩
  · intro α _ cells name
    apply decode_congr
    rw [cell?_ofCells, List.reverse_reverse]
  · intro cells others hnames hperm α _ name
    exact ⟨decode_congr (cell?_ofCells_perm hperm hnames).symm,
      decode_congr (cell?_perm hperm hnames).symm⟩
  · intro t depth cells name missing
    rw [decode_eq_missingColumn_iff, decode_eq_missingColumn_iff, cell?_eq_none_iff,
      cell?_ofCells_eq_none_iff]
    exact ⟨Iff.rfl, Iff.rfl⟩

/-- Two cells under different names in both orders: each is read from both kinds of rows. -/
theorem decode_swapped_cells :
    let cells : List (String × Value) := [("n", .int 2147483648), ("s", .null)]
    let others : List (String × Value) := [("s", .null), ("n", .int 2147483648)]
    (cells.map Prod.fst).Nodup ∧ others.Perm cells ∧
      (decode (KeyedRow.ofCells others) "n" : Except DecodeError Int32) =
        .error (.outOfRange 2147483648) ∧
      (decode (KeyedRow.ofCells others) "s" : Except DecodeError (Option Int32)) = .ok none ∧
      (decode (⟨others⟩ : CellRow) "s" : Except DecodeError Int32) =
        .error (.typeMismatch .int .null) := by
  intro cells others
  have hnames : (cells.map Prod.fst).Nodup := by decide
  have hperm : others.Perm cells := List.Perm.swap _ _ _
  have hread := decode_cells_eq_decode_keyed.2.1 cells others hnames hperm
  exact ⟨hnames, hperm, (hread Int32 "n").1.symm.trans rfl,
    (hread (Option Int32) "s").1.symm.trans rfl, (hread Int32 "s").2.symm.trans rfl⟩

end Row

end BoundSql
