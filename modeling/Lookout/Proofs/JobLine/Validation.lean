import Lookout.JobLine
import Lookout.Proofs.Named
import Mathlib.Data.List.Sort

/-!
# Which arguments a probe takes

The arguments of a test are known by the values of their names: a name has the value of the last clause that gives it
one. They are checked in the order of the names, and the first bad one is what is wrong with the test.
-/

namespace Lookout
set_option autoImplicit false

namespace Arguments

variable {a b : Arguments} {name value : String} {cs before after : List (String × String)}

/-- The names in front of an entry are smaller than its own, and those behind it are greater. -/
theorem sorted_around (whole : a.entries = before ++ (name, value) :: after) :
    (∀ e ∈ before, e.1 < name) ∧ ∀ e ∈ after, name < e.1 := by
  have sorted := a.sorted
  rw [whole, List.pairwise_append, List.pairwise_cons] at sorted
  obtain ⟨-, ⟨greater, -⟩, less⟩ := sorted
  exact ⟨fun e mem => less e mem _ List.mem_cons_self, greater⟩

theorem mem_entries_iff : (name, value) ∈ a.entries ↔ a.get? name = some value := by
  have distinct : (a.entries.map Prod.fst).Nodup := by
    refine List.pairwise_map.2 (a.sorted.imp fun {e e'} less same => ?_)
    exact String.lt_irrefl e'.1 (same ▸ less)
  exact (lookup_eq_some_iff_mem (countP_name_le_one distinct name)).symm

/-- What is found first among the entries belongs to the smallest name for which there is something to be found. -/
theorem findSome?_entries_eq_some_iff {α : Type} {f : String × String → Option α} {x : α} :
    a.entries.findSome? f = some x ↔ ∃ name value, a.get? name = some value ∧ f (name, value) = some x ∧
      ∀ name' value', name' < name → a.get? name' = some value' → f (name', value') = none := by
  rw [List.findSome?_eq_some_iff]
  simp only [← mem_entries_iff]
  constructor
  · rintro ⟨before, ⟨name, value⟩, after, whole, found, earlier⟩
    refine ⟨name, value, by simp [whole], found, fun name' value' less mem => ?_⟩
    rw [whole, List.mem_append, List.mem_cons] at mem
    rcases mem with mem | same | mem
    · exact earlier _ mem
    · obtain ⟨rfl, -⟩ := Prod.mk.inj same
      exact (String.lt_irrefl _ less).elim
    · exact (String.lt_irrefl _ (String.lt_trans less ((sorted_around whole).2 _ mem))).elim
  · rintro ⟨name, value, mem, found, earlier⟩
    obtain ⟨before, after, whole⟩ := List.append_of_mem mem
    refine ⟨before, (name, value), after, whole, found, fun e mem => ?_⟩
    exact earlier e.1 e.2 ((sorted_around whole).1 e mem) (by simp [whole, mem])

/-- Arguments are the same if each name has the same value in them. -/
theorem ext_get? (same : ∀ name value, a.get? name = some value ↔ b.get? name = some value) : a = b := by
  have irrefl : Std.Irrefl fun e e' : String × String => e.1 < e'.1 := ⟨fun e => String.lt_irrefl e.1⟩
  have antisymm : Std.Antisymm fun e e' : String × String => e.1 < e'.1 :=
    ⟨fun e e' less greater => (String.lt_irrefl e.1 (String.lt_trans less greater)).elim⟩
  have entries : a.entries = b.entries :=
    a.sorted.eq_of_mem_iff b.sorted fun e => mem_entries_iff.trans ((same e.1 e.2).trans mem_entries_iff.symm)
  cases a
  cases b
  simpa using entries

/-- The last clause for the name gives it the value. -/
def Last (cs : List (String × String)) (name value : String) : Prop :=
  ∃ before after, cs = before ++ (name, value) :: after ∧ ∀ v, (name, v) ∉ after

theorem get?_ofList_eq_some_iff : (ofList cs).get? name = some value ↔ Last cs name value := by
  rw [get?_ofList, List.lookup_eq_some_iff]
  simp only [forall_bne_iff]
  constructor
  · rintro ⟨after, before, whole, absent⟩
    refine ⟨before.reverse, after.reverse, ?_, by simpa using absent⟩
    rw [← List.reverse_reverse cs, whole]
    simp
  · rintro ⟨before, after, rfl, absent⟩
    exact ⟨after.reverse, before.reverse, by simp, by simpa using absent⟩

/-- The arguments that clauses give: each name has the value of its last clause, and nothing else has one. -/
theorem eq_ofList_iff : a = ofList cs ↔ ∀ name value, a.get? name = some value ↔ Last cs name value := by
  constructor
  · rintro rfl name value
    exact get?_ofList_eq_some_iff
  · intro given
    exact ext_get? fun name value => (given name value).trans get?_ofList_eq_some_iff.symm

end Arguments

namespace JobLine

/-- The probe declares the argument, and its pattern takes the value. -/
def Admits (p : Probe) (name value : String) : Prop :=
  ∃ pattern, p.arguments.lookup name = some pattern ∧ pattern.accepts value = true

/-- What is wrong with an argument that the probe does not take. -/
inductive BadArgument (p : Probe) (name value : String) : JobLineError → Prop
  /-- The probe does not declare it. -/
  | unknown (undeclared : p.arguments.lookup name = none) : BadArgument p name value (.unknownArgument p.name name)
  /-- The declared pattern does not take the value. -/
  | invalid {pattern : Pattern} (declared : p.arguments.lookup name = some pattern)
      (mismatch : pattern.accepts value = false) : BadArgument p name value (.invalidValue name value pattern.text)

variable {registry : Registry} {p : Probe} {name value : String} {t : Test} {e : JobLineError}

theorem argumentError?_eq_none_iff : argumentError? p name value = none ↔ Admits p name value := by
  unfold argumentError? Admits
  cases declared : p.arguments.lookup name with
  | none => simp
  | some pattern => simp

theorem argumentError?_eq_some_iff : argumentError? p name value = some e ↔ BadArgument p name value e := by
  constructor
  · intro bad
    unfold argumentError? at bad
    split at bad
    · next undeclared =>
      obtain rfl := Option.some.inj bad
      exact .unknown undeclared
    · next pattern declared =>
      split at bad
      · cases bad
      · next mismatch =>
        obtain rfl := Option.some.inj bad
        exact .invalid declared (by simpa using mismatch)
  · intro bad
    cases bad with
    | unknown undeclared => simp [argumentError?, undeclared]
    | invalid declared mismatch => simp [argumentError?, declared, mismatch]

/-- A test passes if its kind is not registered, or if the probe takes each of its arguments. -/
theorem validate_eq_ok_iff : validate registry t = .ok () ↔
    ∀ p, registry.get? t.kind = some p → ∀ name value, t.arguments.get? name = some value → Admits p name value := by
  unfold validate
  cases registry.get? t.kind with
  | none => simp
  | some p =>
    have each : (t.arguments.entries.findSome? fun e => argumentError? p e.1 e.2) = none ↔
        ∀ name value, t.arguments.get? name = some value → Admits p name value := by
      simp only [List.findSome?_eq_none_iff, argumentError?_eq_none_iff, Prod.forall, Arguments.mem_entries_iff]
    simp only [Option.some.injEq, forall_eq', ← each]
    split <;> simp [*]

/-- A test does not pass because of the first argument, by name, that the probe does not take. -/
theorem validate_eq_error_iff : validate registry t = .error e ↔
    ∃ p name value, registry.get? t.kind = some p ∧ t.arguments.get? name = some value ∧ BadArgument p name value e ∧
      ∀ name' value', name' < name → t.arguments.get? name' = some value' → Admits p name' value' := by
  unfold validate
  cases registry.get? t.kind with
  | none => simp
  | some p =>
    have first : (t.arguments.entries.findSome? fun e => argumentError? p e.1 e.2) = some e ↔
        ∃ name value, t.arguments.get? name = some value ∧ BadArgument p name value e ∧
          ∀ name' value', name' < name → t.arguments.get? name' = some value' → Admits p name' value' := by
      simp only [Arguments.findSome?_entries_eq_some_iff, argumentError?_eq_some_iff, argumentError?_eq_none_iff]
    simp only [Option.some.injEq, exists_and_left, exists_eq_left', ← first]
    split <;> simp [*]

end JobLine

end Lookout
