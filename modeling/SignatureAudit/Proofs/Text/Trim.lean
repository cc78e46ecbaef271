import SignatureAudit.Proofs.Text.Search
import SignatureAudit.Text.Blank
import Mathlib.Data.List.TakeWhile

/-!
# Blanks at the ends of a text

Trimming takes blanks away and nothing else (`exists_trim`), and it takes all blanks away around a
text that has none at its ends. A character that is no blank stops it from either side.
-/

namespace SignatureAudit.Text

/-- Every character is blank. -/
def AllBlank (cs : List Char) : Prop := ∀ c ∈ cs, isBlank c = true

variable {cs ds front back mid : List Char} {c : Char} {marker text before after : String}

theorem AllBlank.append (hcs : AllBlank cs) (hds : AllBlank ds) : AllBlank (cs ++ ds) :=
  List.forall_mem_append.2 ⟨hcs, hds⟩

theorem AllBlank.notMem (h : AllBlank cs) (dark : isBlank c = false) : c ∉ cs := by
  intro hc
  rw [h c hc] at dark
  cases dark

theorem isAllBlank_iff {s : String} : isAllBlank s = true ↔ AllBlank s.toList := by
  rw [isAllBlank, List.all_eq_true, AllBlank]

/-! ## What is taken away -/

/-- In front of a character that is no blank, only blanks are taken away. -/
theorem trimStart_append_cons (blank : AllBlank cs) (dark : isBlank c = false) :
    trimStart (cs ++ c :: ds) = c :: ds := by
  rw [trimStart, List.dropWhile_append_of_pos blank, List.dropWhile_cons, dark]
  rfl

/-- Behind a character that is no blank, only blanks are taken away. -/
theorem trimEnd_append_cons (dark : isBlank c = false) :
    trimEnd (cs ++ c :: ds) = cs ++ c :: trimEnd ds := by
  rw [trimEnd, trimEnd, List.reverse_append, List.reverse_cons, List.append_assoc,
    List.dropWhile_append]
  split
  · next all =>
    rw [List.isEmpty_iff.1 all, List.singleton_append, List.dropWhile_cons, dark]
    simp
  · simp

theorem exists_trimEnd (cs : List Char) : ∃ back, AllBlank back ∧ cs = trimEnd cs ++ back := by
  refine ⟨(cs.reverse.takeWhile isBlank).reverse, fun c hc => ?_, ?_⟩
  · exact List.all_eq_true.1 List.all_takeWhile c (List.mem_reverse.1 hc)
  · rw [trimEnd, ← List.reverse_append, List.takeWhile_append_dropWhile, List.reverse_reverse]

/-- Trimming takes away blanks at the ends. -/
theorem exists_trim (s : String) : ∃ front back, AllBlank front ∧ AllBlank back ∧
    s.toList = front ++ (trim s).toList ++ back := by
  obtain ⟨back, blank, whole⟩ := exists_trimEnd (trimStart s.toList)
  refine ⟨s.toList.takeWhile isBlank, back, List.all_eq_true.1 List.all_takeWhile, blank, ?_⟩
  rw [trim, String.toList_ofList, List.append_assoc, ← whole, trimStart,
    List.takeWhile_append_dropWhile]

/-- The first character that is no blank is the first one of the trimmed text. -/
theorem toList_trim_of_first {s : String} (blank : AllBlank front) (dark : isBlank c = false)
    (whole : s.toList = front ++ c :: cs) : (trim s).toList = c :: trimEnd cs := by
  rw [trim, String.toList_ofList, whole, trimStart_append_cons blank dark,
    ← List.nil_append (c :: cs)]
  exact trimEnd_append_cons dark

/-- Trimming takes away all blanks around a text without blanks. -/
theorem toList_trim_of_padded {s : String} (hf : AllBlank front) (hb : AllBlank back)
    (some_char : mid ≠ []) (dark : ∀ c ∈ mid, isBlank c = false)
    (whole : s.toList = front ++ mid ++ back) : (trim s).toList = mid := by
  have started : trimStart (front ++ mid ++ back) = mid ++ back := by
    obtain ⟨c, rest, rfl⟩ := List.exists_cons_of_ne_nil some_char
    rw [List.append_assoc, List.cons_append]
    exact trimStart_append_cons hf (dark c List.mem_cons_self)
  have ended : trimEnd (mid ++ back) = mid := by
    obtain ⟨rest, c, rfl⟩ := (List.eq_nil_or_concat mid).resolve_left some_char
    have last := dark c (by simp)
    have none_left : trimEnd back = [] := by
      rw [trimEnd, List.dropWhile_eq_nil_iff.2 fun c hc => hb c (List.mem_reverse.1 hc),
        List.reverse_nil]
    rw [List.concat_eq_append, List.append_assoc, List.singleton_append, trimEnd_append_cons last,
      none_left]
  rw [trim, String.toList_ofList, whole, started, ended]

/-! ## Fronts and cuts of texts -/

theorem dropFront?_eq_some_iff {front rest : String} :
    dropFront? front text = some rest ↔ text.toList = front.toList ++ rest.toList := by
  rw [dropFront?]
  constructor
  · intro h
    split at h
    · next starts =>
      obtain ⟨more, whole⟩ := List.isPrefixOf_iff_prefix.1 starts
      rw [← Option.some.inj h, String.toList_ofList, ← whole, List.drop_left]
    · cases h
  · intro whole
    rw [if_pos (List.isPrefixOf_iff_prefix.2 ⟨_, whole.symm⟩), whole, List.drop_left,
      String.ofList_toList]

theorem cut?_eq_some_iff : cut? marker text = some (before, after) ↔
    CutsFirst marker.toList text.toList before.toList after.toList := by
  rw [cut?, ← cutFirst?_eq_some_iff]
  constructor
  · intro h
    obtain ⟨⟨front, back⟩, found, same⟩ := Option.map_eq_some_iff.1 h
    obtain ⟨rfl, rfl⟩ := Prod.mk.inj same
    rw [found, String.toList_ofList, String.toList_ofList]
  · intro found
    rw [found]
    simp

theorem cut?_eq_none_iff : cut? marker text = none ↔ ¬marker.toList <:+: text.toList := by
  rw [cut?, Option.map_eq_none_iff, cutFirst?_eq_none_iff]

end SignatureAudit.Text
