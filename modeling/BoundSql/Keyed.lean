/-!
# Entries under sorted keys

A list of pairs in ascending order of their keys, each key once. Inserting under a key that is
there replaces its entry.
-/

namespace BoundSql.Keyed

variable {α : Type}

/-- Put a value under a key, in front of the first greater key. -/
def insert (key : String) (value : α) : List (String × α) → List (String × α)
  | [] => [(key, value)]
  | (other, old) :: rest =>
      if key = other then (key, value) :: rest
      else if key < other then (key, value) :: (other, old) :: rest
      else (other, old) :: insert key value rest

/-- Insert entries one after the other; the last one under a key stays. -/
def ofList (entries : List (String × α)) : List (String × α) :=
  entries.foldl (fun sofar entry => insert entry.1 entry.2 sofar) []

/-- The value under a key. -/
def find? (key : String) : List (String × α) → Option α
  | [] => none
  | (other, value) :: rest => if key = other then some value else find? key rest

/-- The keys ascend, so none of them is there twice. -/
def Sorted (entries : List (String × α)) : Prop :=
  entries.Pairwise fun entry later => entry.1 < later.1

variable {key : String} {value : α} {entries : List (String × α)}

theorem eq_or_mem_of_mem_insert {entry : String × α} (h : entry ∈ insert key value entries) :
    entry = (key, value) ∨ entry ∈ entries := by
  induction entries with
  | nil => exact .inl (List.mem_singleton.mp h)
  | cons first rest ih =>
      rw [insert] at h
      split at h
      · exact (List.mem_cons.mp h).imp_right (List.mem_cons_of_mem first)
      · split at h
        · exact List.mem_cons.mp h
        · rcases List.mem_cons.mp h with rfl | h
          · exact .inr List.mem_cons_self
          · exact (ih h).imp_right (List.mem_cons_of_mem first)

theorem Sorted.insert (h : Sorted entries) : Sorted (insert key value entries) := by
  induction entries with
  | nil => exact List.pairwise_singleton _ _
  | cons first rest ih =>
      obtain ⟨hfirst, hrest⟩ := List.pairwise_cons.mp h
      rw [Keyed.insert]
      split
      · rename_i hsame
        exact List.pairwise_cons.mpr ⟨fun entry hentry => hsame ▸ hfirst entry hentry, hrest⟩
      · rename_i hother
        split
        · rename_i hlt
          refine List.pairwise_cons.mpr ⟨fun entry hentry => ?_, h⟩
          rcases List.mem_cons.mp hentry with rfl | hentry
          · exact hlt
          · exact String.lt_trans hlt (hfirst entry hentry)
        · rename_i hnot
          refine List.pairwise_cons.mpr ⟨fun entry hentry => ?_, ih hrest⟩
          rcases eq_or_mem_of_mem_insert hentry with rfl | hentry
          · exact Std.lt_of_le_of_ne (String.not_lt.mp hnot) (Ne.symm hother)
          · exact hfirst entry hentry

theorem sorted_ofList (entries : List (String × α)) : Sorted (ofList entries) := by
  have hfold (sofar : List (String × α)) (h : Sorted sofar) :
      Sorted (entries.foldl (fun sofar entry => insert entry.1 entry.2 sofar) sofar) := by
    induction entries generalizing sofar with
    | nil => exact h
    | cons entry rest ih => exact ih _ h.insert
  exact hfold [] .nil

/-- Inserting changes what is found under its own key only. -/
theorem find?_insert (key other : String) (value : α) (entries : List (String × α)) :
    find? key (insert other value entries) =
      if key = other then some value else find? key entries := by
  induction entries with
  | nil => simp [insert, find?]
  | cons entry rest ih =>
      obtain ⟨name, old⟩ := entry
      by_cases hname : other = name
      · subst hname
        by_cases hkey : key = other <;> simp [insert, find?, hkey]
      · by_cases hlt : other < name
        · simp [insert, find?, hname, hlt]
        · by_cases hkey : key = name
          · subst hkey
            have : key ≠ other := fun h => hname h.symm
            simp [insert, find?, hname, hlt, this]
          · simp [insert, find?, hname, hlt, hkey, ih]

end BoundSql.Keyed
