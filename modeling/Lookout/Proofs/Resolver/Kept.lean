import Lookout.Proofs.Address.Reading
import Lookout.Proofs.Worker.Execution

/-!
# Addresses that are kept

What a target is resolved to, by the answer of the lookup: the canonical addresses of the enabled families, each once
and in the order of the answer. Texts are made distinct, and no two addresses share one.
-/

namespace Lookout
set_option autoImplicit false
open Activity

/-- The targets are what is left of the addresses found: the canonical ones of the enabled families, each once, in the
order in which they were found first. -/
structure Kept (families : Families) (found : List Address) (targets : List String) : Prop where
  nodup : targets.Nodup
  /-- Nothing but addresses is kept. -/
  addresses : ∀ s ∈ targets, ∃ a : Address, a.text = s
  mem_iff : ∀ a : Address, a.text ∈ targets ↔ (∃ b ∈ found, b.canonical = a) ∧ families.allows a = true
  /-- What stands before another was found before it. -/
  order : targets.Pairwise fun s s' => ∀ a b : Address, a.text = s → b.text = s' →
    (found.map Address.canonical).idxOf a < (found.map Address.canonical).idxOf b

variable {families : Families} {found : List Address} {targets targets' : List String}

/-- Addresses are told apart by their texts. -/
theorem mem_targetsOf_iff {a : Address} :
    a.text ∈ targetsOf families found ↔ (∃ b ∈ found, b.canonical = a) ∧ families.allows a = true := by
  rw [targetsOf, mem_distinct_iff, List.mem_map_of_injective Address.text_injective, List.mem_filter, List.mem_map]

/-- Distinct texts of addresses come in the order of the addresses. -/
theorem pairwise_distinct (p : Address → Bool) (seen : List Address) :
    (distinct ((seen.filter p).map Address.text)).Pairwise fun s s' => ∀ a b : Address, a.text = s → b.text = s' →
      seen.idxOf a < seen.idxOf b := by
  induction seen with
  | nil => exact List.Pairwise.nil
  | cons x seen ih =>
    -- behind `x` all addresses come one place later
    have later : ∀ a b : Address, a ≠ x → b ≠ x → seen.idxOf a < seen.idxOf b →
        (x :: seen).idxOf a < (x :: seen).idxOf b := by
      intro a b other other' before
      rw [List.idxOf_cons_ne seen other.symm, List.idxOf_cons_ne seen other'.symm]
      exact Nat.succ_lt_succ before
    by_cases kept : p x = true
    · rw [List.filter_cons_of_pos kept, List.map_cons, distinct]
      have other : ∀ s ∈ (distinct ((seen.filter p).map Address.text)).filter (· != x.text),
          ∀ a : Address, a.text = s → a ≠ x := by
        rintro s mem a rfl rfl
        simp at mem
      apply List.Pairwise.cons
      · intro s mem a b first rest
        obtain rfl := Address.text_injective first
        rw [List.idxOf_cons_self, List.idxOf_cons_ne seen (other s mem b rest).symm]
        exact Nat.succ_pos _
      · apply (ih.filter _).imp_of_mem
        intro s s' mem mem' before a b ha hb
        exact later a b (other s mem a ha) (other s' mem' b hb) (before a b ha hb)
    · rw [List.filter_cons_of_neg kept]
      have other : ∀ s ∈ distinct ((seen.filter p).map Address.text), ∀ a : Address, a.text = s → a ≠ x := by
        rintro s mem a rfl rfl
        rw [mem_distinct_iff, List.mem_map_of_injective Address.text_injective, List.mem_filter] at mem
        exact kept mem.2
      apply ih.imp_of_mem
      intro s s' mem mem' before a b ha hb
      exact later a b (other s mem a ha) (other s' mem' b hb) (before a b ha hb)

theorem kept_targetsOf (families : Families) (found : List Address) :
    Kept families found (targetsOf families found) where
  nodup := nodup_distinct _
  addresses := by
    intro s mem
    obtain ⟨a, -, text⟩ := List.mem_map.1 (mem_distinct_iff.1 mem)
    exact ⟨a, text⟩
  mem_iff := fun _ => mem_targetsOf_iff
  order := pairwise_distinct _ _

/-- Only one list of targets is left of the addresses found. -/
theorem Kept.unique (h : Kept families found targets) (h' : Kept families found targets') : targets = targets' := by
  have same : ∀ s, s ∈ targets ↔ s ∈ targets' := by
    intro s
    constructor
    · intro mem
      obtain ⟨a, rfl⟩ := h.addresses s mem
      exact (h'.mem_iff a).2 ((h.mem_iff a).1 mem)
    · intro mem
      obtain ⟨a, rfl⟩ := h'.addresses s mem
      exact (h.mem_iff a).2 ((h'.mem_iff a).1 mem)
  apply List.Perm.eq_of_pairwise _ h.order h'.order ((List.perm_ext_iff_of_nodup h.nodup h'.nodup).2 same)
  intro s s' mem mem' before behind
  obtain ⟨a, ha⟩ := h.addresses s mem
  obtain ⟨b, hb⟩ := h'.addresses s' mem'
  exact absurd (before a b ha hb) (Nat.lt_asymm (behind b a hb ha))

theorem eq_targetsOf_iff : targets = targetsOf families found ↔ Kept families found targets := by
  constructor
  · rintro rfl
    exact kept_targetsOf families found
  · intro kept
    exact kept.unique (kept_targetsOf families found)

end Lookout
