import Mathlib.Data.List.Nodup

/-!
# Values by name

What is found in a list of names with values: nothing if the name is not there, and the value that goes with it if it
is there once.
-/

namespace Lookout
set_option autoImplicit false

variable {β : Type} {l : List (String × β)} {name : String} {v : β}

/-- No entry is one of this name. -/
theorem forall_bne_iff : (∀ e ∈ l, (name != e.1) = true) ↔ ∀ v, (name, v) ∉ l := by
  constructor
  · intro apart v mem
    simpa using apart _ mem
  · rintro absent ⟨n, v⟩ mem
    exact bne_iff_ne.2 fun same => absent v (same ▸ mem)

theorem lookup_eq_none_iff_mem : l.lookup name = none ↔ ∀ v, (name, v) ∉ l :=
  List.lookup_eq_none_iff.trans forall_bne_iff

/-- Where a name is not repeated, the entry with this name is found. -/
theorem lookup_eq_some_iff_mem (once : l.countP (·.1 == name) ≤ 1) : l.lookup name = some v ↔ (name, v) ∈ l := by
  rw [List.lookup_eq_some_iff]
  constructor
  · rintro ⟨before, after, rfl, -⟩
    simp
  · intro mem
    obtain ⟨before, after, rfl⟩ := List.append_of_mem mem
    refine ⟨before, after, rfl, fun other there => ?_⟩
    have noneBefore : before.countP (·.1 == name) = 0 := by
      rw [List.countP_append, List.countP_cons_of_pos (by simp)] at once
      omega
    have differs := List.countP_eq_zero.1 noneBefore other there
    rw [bne_iff_ne]
    exact fun same => differs (by simp [same])

theorem countP_name_le_one (distinct : (l.map Prod.fst).Nodup) (name : String) : l.countP (·.1 == name) ≤ 1 := by
  have once := List.nodup_iff_count.1 distinct name
  rwa [List.count, List.countP_map] at once

end Lookout
