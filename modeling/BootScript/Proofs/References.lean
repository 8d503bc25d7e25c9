import BootScript.Proofs.Catalog
import Mathlib.Algebra.BigOperators.Group.Finset.Basic

/-!
# References by list entries

An image is referred to by every entry that a list has for it.  There are finitely many
registries, so the entries are counted one registry after another, and catalogs are compared
in the same way.
-/

namespace BootScript

/-- Registries beyond the last have no entries. -/
theorem count_listed_eq_sum (handle : Handle) {registries : List Registry} {bound : Nat}
    (enough : registries.length ≤ bound) :
    registries.foldr (fun registry total => registry.listed.count handle + total) 0 =
      ∑ id ∈ Finset.range bound, (registries.getD id default).listed.count handle := by
  induction registries generalizing bound with
  | nil =>
      symm
      apply Finset.sum_eq_zero
      intro id _
      rfl
  | cons registry rest ih =>
      obtain ⟨more, rfl⟩ : ∃ more, bound = more + 1 :=
        Nat.exists_eq_succ_of_ne_zero (Nat.ne_of_gt (Nat.lt_of_lt_of_le (Nat.succ_pos _) enough))
      rw [List.foldr_cons, Finset.sum_range_succ', ih (Nat.le_of_succ_le_succ enough),
        Nat.add_comm]
      rfl

namespace Catalog

variable {first later : Catalog} {id : RegistryId} {handle : Handle}

theorem entries_eq_sum (catalog : Catalog) (handle : Handle) {bound : Nat}
    (enough : catalog.registries.size ≤ bound) :
    catalog.entries handle = ∑ id ∈ Finset.range bound, (catalog.listed id).count handle := by
  rw [entries, count_listed_eq_sum handle enough]
  apply Finset.sum_congr rfl
  intro id _
  rw [listed, registry, Store.get, Array.getD_eq_getD_getElem?, List.getD_eq_getElem?_getD,
    Array.getElem?_toList]

theorem entries_congr
    (same : ∀ id, (later.listed id).count handle = (first.listed id).count handle) :
    later.entries handle = first.entries handle := by
  rw [later.entries_eq_sum handle (Nat.le_max_left _ first.registries.size),
    first.entries_eq_sum handle (Nat.le_max_right later.registries.size _)]
  exact Finset.sum_congr rfl fun id _ => same id

/-- One entry less in one list is one entry less in all. -/
theorem entries_of_removed
    (removed : (later.listed id).count handle + 1 = (first.listed id).count handle)
    (kept : ∀ other, other ≠ id → later.listed other = first.listed other) :
    later.entries handle + 1 = first.entries handle := by
  obtain ⟨bound, ⟨enough, enough'⟩, inside⟩ : ∃ bound,
      (later.registries.size ≤ bound ∧ first.registries.size ≤ bound) ∧ id < bound :=
    ⟨max (max later.registries.size first.registries.size) (id + 1), by omega, Nat.le_max_right _ _⟩
  have apart (catalog : Catalog) :
      (catalog.listed id).count handle +
          ∑ other ∈ (Finset.range bound).erase id, (catalog.listed other).count handle =
        ∑ other ∈ Finset.range bound, (catalog.listed other).count handle :=
    Finset.add_sum_erase _ (fun other => (catalog.listed other).count handle)
      (Finset.mem_range.mpr inside)
  have others : ∑ other ∈ (Finset.range bound).erase id, (later.listed other).count handle =
      ∑ other ∈ (Finset.range bound).erase id, (first.listed other).count handle := by
    apply Finset.sum_congr rfl
    intro other there
    rw [kept other (Finset.ne_of_mem_erase there)]
  rw [later.entries_eq_sum handle enough, first.entries_eq_sum handle enough', ← apart later,
    ← apart first, others, ← removed]
  omega

end Catalog

end BootScript
