import ManagerSignup.Table
import Mathlib.Data.List.Basic

/-!
# Looking Up What Was Assigned

A table answers with what was assigned last and leaves every other key alone.

These are the laws that make a table a table. The one that is not obvious from
the outside is about places: assigning the value that is there already changes
nothing at all, not even the order, so a table read through a view is the same
table if the view is.

## Main definitions

* `Table.view`: A table with a view of its values.

## Theorems

* `Table.find?_put`: What is found after an assignment.
* `Table.put_eq_self`: Assigning what is there.
* `Table.find?_view`, `Table.view_put`, `Table.keys_view`: Looking up, assigning
  and listing keys through a view.
* `Table.find?_append`: What is found in two tables, one behind the other.
* `Table.isSome_find?_putNew`: What is found after a key was made sure of.
* `Table.putNew_of_mem_keys`, `Table.putNew_of_notMem_keys`: What making sure of a
  key changes.
* `Table.keys_put`, `Table.nodup_keys_put`: No key is there twice.
* `Table.mem_keys_of_find?`, `Table.find?_eq_some_of_mem`: Being found and being
  in the table.
* `Table.eq_of_find?_eq`: A table is its keys and what is found under them.
-/

namespace ManagerSignup

namespace Table

variable {κ α β : Type}

/-- The same keys in the same order, each with a view of its value. -/
def view (g : α → β) (table : Table κ α) : Table κ β :=
  table.map fun entry => (entry.1, g entry.2)

theorem keys_append_singleton (table : Table κ α) (entry : κ × α) :
    keys (table ++ [entry]) = keys table ++ [entry.1] := by
  simp only [keys, List.map_append, List.map_cons, List.map_nil]

theorem keys_view (g : α → β) (table : Table κ α) : keys (view g table) = keys table := by
  rw [keys, keys, view, List.map_map]
  rfl

variable [DecidableEq κ]

theorem find?_put (key k : κ) (value : α) (table : Table κ α) :
    find? k (put key value table) = if k = key then some value else find? k table := by
  induction table with
  | nil =>
      by_cases h : k = key
      · simp only [put, find?, h, if_true]
      · simp only [put, find?, if_neg h, if_neg (Ne.symm h)]
  | cons entry rest ih =>
      by_cases hhere : entry.1 = key
      · by_cases h : k = key
        · simp only [put, find?, hhere, h, if_true]
        · simp only [put, find?, hhere, if_true, if_neg h, if_neg (Ne.symm h)]
      · by_cases h : entry.1 = k
        · have hne : k ≠ key := fun hk => hhere (h.trans hk)
          simp only [put, find?, if_neg hhere, if_pos h, if_neg hne]
        · simp only [put, find?, if_neg hhere, if_neg h, ih]

/-- Assigning the value that is there changes nothing, not even the order. -/
theorem put_eq_self (key : κ) (value : α) (table : Table κ α)
    (h : find? key table = some value) : put key value table = table := by
  induction table with
  | nil => cases h
  | cons entry rest ih =>
      by_cases hhere : entry.1 = key
      · simp only [find?, if_pos hhere, Option.some.injEq] at h
        simp only [put, if_pos hhere, ← h]
      · simp only [find?, if_neg hhere] at h
        simp only [put, if_neg hhere, ih h]

theorem find?_view (g : α → β) (key : κ) (table : Table κ α) :
    find? key (view g table) = (find? key table).map g := by
  induction table with
  | nil => rfl
  | cons entry rest ih =>
      by_cases hhere : entry.1 = key
      · simp only [view, List.map_cons, find?, if_pos hhere, Option.map_some]
      · simp only [view, List.map_cons, find?, if_neg hhere]
        exact ih

theorem view_put (g : α → β) (key : κ) (value : α) (table : Table κ α) :
    view g (put key value table) = put key (g value) (view g table) := by
  induction table with
  | nil => rfl
  | cons entry rest ih =>
      by_cases hhere : entry.1 = key
      · simp only [view, put, List.map_cons, if_pos hhere]
      · simp only [view, put, List.map_cons, if_neg hhere]
        exact congrArg _ ih

theorem find?_append (key : κ) (table rest : Table κ α) :
    find? key (table ++ rest) = (find? key table).or (find? key rest) := by
  induction table with
  | nil => rfl
  | cons entry others ih =>
      by_cases hhere : entry.1 = key
      · simp only [List.cons_append, find?, if_pos hhere, Option.some_or]
      · simp only [List.cons_append, find?, if_neg hhere]
        exact ih

/-- A key that is only assigned if it is not there is there in any case. -/
theorem isSome_find?_putNew (key : κ) (value : α) (table : Table κ α) :
    (find? key (putNew key value table)).isSome := by
  unfold putNew
  split
  · next hfound =>
    rw [hfound]
    rfl
  · next hnone =>
    rw [find?_append, hnone]
    simp only [find?, if_true, Option.none_or, Option.isSome_some]

/-- Assigning adds no key that is there. -/
theorem keys_put (key : κ) (value : α) (table : Table κ α) :
    keys (put key value table) = if key ∈ keys table then keys table else keys table ++ [key] := by
  induction table with
  | nil => rfl
  | cons entry rest ih =>
      by_cases hhere : entry.1 = key
      · have hmem : key ∈ keys (entry :: rest) := by
          rw [← hhere]
          exact List.mem_cons_self ..
        rw [if_pos hmem]
        simp only [put, hhere, if_true, keys, List.map_cons]
      · -- The key is not the first one, so it is there if it is among the rest.
        have hmem : key ∈ keys (entry :: rest) ↔ key ∈ keys rest := by
          simp only [keys, List.map_cons, List.mem_cons, Ne.symm hhere, false_or]
        have hput : keys (put key value (entry :: rest)) = entry.1 :: keys (put key value rest) := by
          simp only [put, if_neg hhere, keys, List.map_cons]
        rw [hput, ih]
        by_cases hrest : key ∈ keys rest
        · rw [if_pos hrest, if_pos (hmem.mpr hrest)]
          rfl
        · rw [if_neg hrest, if_neg fun h => hrest (hmem.mp h)]
          rfl

theorem nodup_keys_put (key : κ) (value : α) (table : Table κ α) (h : (keys table).Nodup) :
    (keys (put key value table)).Nodup := by
  rw [keys_put]
  split
  · exact h
  · next hnew =>
    rw [List.nodup_append]
    refine ⟨h, List.pairwise_singleton _ key, fun k hk k' hk' => ?_⟩
    rw [List.mem_singleton.mp hk']
    rintro rfl
    exact hnew hk

/-- What is found in a table is in it. -/
theorem mem_of_find? (key : κ) (value : α) (table : Table κ α)
    (h : find? key table = some value) : (key, value) ∈ table := by
  induction table with
  | nil => cases h
  | cons entry rest ih =>
      by_cases hhere : entry.1 = key
      · simp only [find?, if_pos hhere, Option.some.injEq] at h
        rw [← hhere, ← h]
        exact List.mem_cons_self ..
      · simp only [find?, if_neg hhere] at h
        exact List.mem_cons_of_mem _ (ih h)

theorem mem_keys_of_find? (key : κ) (value : α) (table : Table κ α)
    (h : find? key table = some value) : key ∈ keys table :=
  List.mem_map_of_mem (mem_of_find? key value table h)

theorem find?_eq_none (key : κ) (table : Table κ α) (h : key ∉ keys table) :
    find? key table = none := by
  cases hfound : find? key table with
  | none => rfl
  | some value => exact absurd (mem_keys_of_find? key value table hfound) h

/-- What is a key of a table is found in it. -/
theorem exists_find?_of_mem_keys (key : κ) (table : Table κ α) (h : key ∈ keys table) :
    ∃ value, find? key table = some value := by
  induction table with
  | nil => cases h
  | cons entry rest ih =>
      by_cases hhere : entry.1 = key
      · exact ⟨entry.2, by simp only [find?, if_pos hhere]⟩
      · simp only [find?, if_neg hhere]
        exact ih ((List.mem_cons.mp h).resolve_left (Ne.symm hhere))

/-- Making sure of a key that is there changes nothing. -/
theorem putNew_of_mem_keys (key : κ) (value : α) (table : Table κ α) (h : key ∈ keys table) :
    putNew key value table = table := by
  rcases exists_find?_of_mem_keys key table h with ⟨there, hthere⟩
  rw [putNew, hthere]

/-- Making sure of a key that is not there puts it last. -/
theorem putNew_of_notMem_keys (key : κ) (value : α) (table : Table κ α) (h : key ∉ keys table) :
    putNew key value table = table ++ [(key, value)] := by
  rw [putNew, find?_eq_none key table h]

/-- In a table without doubled keys, what is in it is found. -/
theorem find?_eq_some_of_mem (key : κ) (value : α) (table : Table κ α)
    (hnodup : (keys table).Nodup) (h : (key, value) ∈ table) : find? key table = some value := by
  induction table with
  | nil => cases h
  | cons entry rest ih =>
      rw [keys, List.map_cons, List.nodup_cons] at hnodup
      rcases List.mem_cons.mp h with rfl | h
      · simp only [find?, if_true]
      · have hne : entry.1 ≠ key := by
          rintro rfl
          exact hnodup.1 (List.mem_map.mpr ⟨_, h, rfl⟩)
        simp only [find?, if_neg hne]
        exact ih hnodup.2 h

/-- Tables without doubled keys that have the same keys in the same order, and
    under which the same is found, are the same. -/
theorem eq_of_find?_eq (table table' : Table κ α) (hnodup : (keys table).Nodup)
    (hkeys : keys table = keys table') (h : ∀ key, find? key table = find? key table') :
    table = table' := by
  induction table generalizing table' with
  | nil => exact (List.map_eq_nil_iff.mp hkeys.symm).symm
  | cons entry rest ih =>
      cases table' with
      | nil => cases hkeys
      | cons entry' rest' =>
          rw [keys, keys, List.map_cons, List.map_cons, List.cons.injEq] at hkeys
          rcases entry with ⟨k, value⟩
          rcases entry' with ⟨k', value'⟩
          rcases hkeys with ⟨rfl : k = k', hrest⟩
          have hnew := List.nodup_cons.mp hnodup
          have hvalue : value = value' := by
            have hhere := h k
            simp only [find?, if_true, Option.some.injEq] at hhere
            exact hhere
          rw [hvalue]
          refine congrArg _ (ih rest' hnew.2 hrest fun key => ?_)
          have hkey := h key
          by_cases hfirst : k = key
          · -- The first key is among neither of the rests.
            have hnew' : k ∉ keys rest' := by
              rw [keys, ← hrest]
              exact hnew.1
            rw [← hfirst, find?_eq_none k rest hnew.1, find?_eq_none k rest' hnew']
          · simpa only [find?, if_neg hfirst] using hkey

end Table

end ManagerSignup
