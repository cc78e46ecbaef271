import Mathlib.Data.List.Forall2
import Mathlib.Data.List.Nodup

/-!
# Entries that are looked up

A list of entries answers for a name with the first value that stands beside it. Where the names
differ, that is the only one, so the order of the entries does not matter (`lookup_eq_of_perm`).
-/

namespace SignatureAudit

variable {β : Type} {entries entries' : List (String × β)} {name : String} {value : β}

theorem isSome_lookup_iff : (entries.lookup name).isSome = true ↔ name ∈ entries.map (·.1) := by
  rw [Option.isSome_iff_ne_none, ne_eq, List.lookup_eq_none_iff, List.mem_map]
  simp only [not_forall, bne_iff_ne, ne_eq, not_not, exists_prop]
  exact exists_congr fun _ => and_congr_right fun _ => eq_comm

theorem lookup_eq_none_of_notMem (h : name ∉ entries.map (·.1)) : entries.lookup name = none := by
  rw [← isSome_lookup_iff] at h
  exact Option.not_isSome_iff_eq_none.1 h

theorem mem_of_lookup (found : entries.lookup name = some value) : (name, value) ∈ entries := by
  obtain ⟨front, back, rfl, -⟩ := List.lookup_eq_some_iff.1 found
  simp

/-- Of distinct names, each has the value that stands beside it. -/
theorem lookup_eq_some_of_mem (distinct : (entries.map (·.1)).Nodup)
    (entry : (name, value) ∈ entries) : entries.lookup name = some value := by
  obtain ⟨front, back, rfl⟩ := List.append_of_mem entry
  refine List.lookup_eq_some_iff.2 ⟨front, back, rfl, fun other hother => ?_⟩
  rw [List.map_append, List.nodup_append] at distinct
  simp only [bne_iff_ne, ne_eq]
  intro same
  exact distinct.2.2 other.1 (List.mem_map_of_mem hother) name (by simp) same.symm

/-- The order of entries with distinct names does not matter. -/
theorem lookup_eq_of_perm (distinct : (entries.map (·.1)).Nodup) (perm : entries.Perm entries')
    (name : String) : entries.lookup name = entries'.lookup name := by
  have distinct' := (perm.map (·.1)).nodup_iff.1 distinct
  refine Option.ext fun value => ⟨fun found => ?_, fun found => ?_⟩
  · exact lookup_eq_some_of_mem distinct' (perm.mem_iff.1 (mem_of_lookup found))
  · exact lookup_eq_some_of_mem distinct (perm.mem_iff.2 (mem_of_lookup found))

/-- Of two lists of entries that correspond, the same keys find entries that correspond. -/
theorem rel_lookup_of_forall₂ {α β : Type} {R : α → β → Prop} {list : List (String × α)}
    {list' : List (String × β)}
    (h : List.Forall₂ (fun a b => a.1 = b.1 ∧ R a.2 b.2) list list') (key : String) :
    Option.Rel R (list.lookup key) (list'.lookup key) := by
  induction h with
  | nil => exact .none
  | @cons a b list list' first others ih =>
    obtain ⟨name, value⟩ := a
    obtain ⟨name', value'⟩ := b
    obtain ⟨rfl, rel⟩ := first
    rw [List.lookup_cons, List.lookup_cons]
    cases key == name with
    | true => exact .some rel
    | false => exact ih

end SignatureAudit
