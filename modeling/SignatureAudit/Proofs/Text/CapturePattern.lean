/-!
# Patterns that capture parts of a text

A pattern is tried at every place of a text, from the left. At one place it can have several
candidates, and which of them counts is a matter of preference: a repetition prefers to take more,
and an earlier part of a sequence has its way before a later one. `candidates` lists them in this
order, `find?` gives the first one at the first place that has any.

`Takes` says what a pattern can take without any order.

> `mem_candidates_iff`: the candidates are all the ways in which the pattern can take a front of the
> text, and no others.
-/

namespace SignatureAudit.Text

/-- A pattern. -/
inductive CapturePattern
  /-- Nothing, at the start of the text only. -/
  | atStart
  /-- Nothing, at the end of the text only. -/
  | atFinish
  | literal (text : String)
  /-- One character of a class. -/
  | one (within : Char → Bool)
  /-- Any number of characters of a class, the more the better. -/
  | many (within : Char → Bool)
  | sequence (first second : CapturePattern)
  /-- A part that is captured under a name. -/
  | group (name : String) (inner : CapturePattern)

/-- What a pattern takes of a text, what follows it, and what its groups capture. -/
structure Capture where
  taken : List Char
  rest : List Char
  groups : List (String × List Char) := []
  deriving DecidableEq, Repr

/-- What the group with a name captures. -/
def Capture.group? (a : Capture) (name : String) : Option (List Char) := a.groups.lookup name

namespace CapturePattern

/-- At least one character of a class, the more the better. -/
def atLeastOne (within : Char → Bool) : CapturePattern := .sequence (.one within) (.many within)

/-- The fronts of a text that consist of characters of a class, the longest first, each with what
follows it. -/
def runs (within : Char → Bool) : List Char → List (List Char × List Char)
  | [] => [([], [])]
  | c :: cs =>
    (if within c then (runs within cs).map fun (taken, rest) => (c :: taken, rest) else [])
      ++ [([], c :: cs)]

/-- The ways in which a pattern takes a front of a text, the preferred ones first; `fresh` says
whether the whole text starts here. -/
def candidates : CapturePattern → (fresh : Bool) → List Char → List Capture
  | .atStart, fresh, cs => if fresh then [{ taken := [], rest := cs }] else []
  | .atFinish, _, cs => if cs.isEmpty then [{ taken := [], rest := [] }] else []
  | .literal text, _, cs =>
    if text.toList.isPrefixOf cs then
      [{ taken := text.toList, rest := cs.drop text.toList.length }]
    else []
  | .one within, _, cs =>
    match cs with
    | [] => []
    | c :: cs => if within c then [{ taken := [c], rest := cs }] else []
  | .many within, _, cs => (runs within cs).map fun (taken, rest) => { taken, rest }
  | .sequence first second, fresh, cs =>
    (first.candidates fresh cs).flatMap fun a =>
      (second.candidates (fresh && a.taken.isEmpty) a.rest).map fun b =>
        { taken := a.taken ++ b.taken, rest := b.rest, groups := a.groups ++ b.groups }
  | .group name inner, fresh, cs =>
    (inner.candidates fresh cs).map fun a => { a with groups := (name, a.taken) :: a.groups }

/-- The preferred candidate at the first place that has any. -/
def findFrom? (p : CapturePattern) : (fresh : Bool) → List Char → Option Capture
  | fresh, [] => (p.candidates fresh []).head?
  | fresh, c :: cs => (p.candidates fresh (c :: cs)).head?.or (p.findFrom? false cs)

/-- What a pattern finds in a text. -/
def find? (p : CapturePattern) (text : String) : Option Capture := p.findFrom? true text.toList

/-! ## What a pattern can take -/

/-- The pattern can take a part of a text, with what follows it, and then its groups capture these
parts. -/
inductive Takes : CapturePattern → (fresh : Bool) → (taken rest : List Char) →
    (groups : List (String × List Char)) → Prop
  | atStart {rest} : Takes .atStart true [] rest []
  | atFinish {fresh} : Takes .atFinish fresh [] [] []
  | literal {text fresh rest} : Takes (.literal text) fresh text.toList rest []
  | one {within fresh c rest} (member : within c = true) : Takes (.one within) fresh [c] rest []
  | many {within fresh taken rest} (members : ∀ c ∈ taken, within c = true) :
      Takes (.many within) fresh taken rest []
  | sequence {p q fresh front back rest groups more}
      (first : Takes p fresh front (back ++ rest) groups)
      (second : Takes q (fresh && front.isEmpty) back rest more) :
      Takes (.sequence p q) fresh (front ++ back) rest (groups ++ more)
  | group {p fresh taken rest groups name} (inner : Takes p fresh taken rest groups) :
      Takes (.group name p) fresh taken rest ((name, taken) :: groups)

section
variable {p q : CapturePattern} {within : Char → Bool} {fresh : Bool} {taken rest : List Char}
  {groups : List (String × List Char)}

theorem takes_atStart_iff :
    atStart.Takes fresh taken rest groups ↔ fresh = true ∧ taken = [] ∧ groups = [] := by
  constructor
  · rintro ⟨⟩
    exact ⟨rfl, rfl, rfl⟩
  · rintro ⟨rfl, rfl, rfl⟩
    exact .atStart

theorem takes_atFinish_iff :
    atFinish.Takes fresh taken rest groups ↔ taken = [] ∧ rest = [] ∧ groups = [] := by
  constructor
  · rintro ⟨⟩
    exact ⟨rfl, rfl, rfl⟩
  · rintro ⟨rfl, rfl, rfl⟩
    exact .atFinish

theorem takes_literal_iff {text : String} :
    (literal text).Takes fresh taken rest groups ↔ taken = text.toList ∧ groups = [] := by
  constructor
  · rintro ⟨⟩
    exact ⟨rfl, rfl⟩
  · rintro ⟨rfl, rfl⟩
    exact .literal

theorem takes_many_iff :
    (many within).Takes fresh taken rest groups
      ↔ (∀ c ∈ taken, within c = true) ∧ groups = [] := by
  constructor
  · rintro (_ | _ | _ | _ | members)
    exact ⟨members, rfl⟩
  · rintro ⟨members, rfl⟩
    exact .many members

theorem takes_sequence_iff :
    (sequence p q).Takes fresh taken rest groups ↔
      ∃ front back captured more, p.Takes fresh front (back ++ rest) captured ∧
        q.Takes (fresh && front.isEmpty) back rest more ∧
        taken = front ++ back ∧ groups = captured ++ more := by
  constructor
  · intro h
    cases h with
    | sequence first second => exact ⟨_, _, _, _, first, second, rfl, rfl⟩
  · rintro ⟨front, back, captured, more, first, second, rfl, rfl⟩
    exact .sequence first second

theorem takes_group_iff {name : String} :
    (group name p).Takes fresh taken rest groups
      ↔ ∃ inner, p.Takes fresh taken rest inner ∧ groups = (name, taken) :: inner := by
  constructor
  · intro h
    cases h with
    | group inner => exact ⟨_, inner, rfl⟩
  · rintro ⟨inner, taken, rfl⟩
    exact .group taken

theorem takes_atLeastOne_iff :
    (atLeastOne within).Takes fresh taken rest groups
      ↔ taken ≠ [] ∧ (∀ c ∈ taken, within c = true) ∧ groups = [] := by
  constructor
  · intro h
    cases h with
    | sequence first second =>
      cases first with
      | one member =>
        obtain ⟨members, rfl⟩ := takes_many_iff.1 second
        exact ⟨List.cons_ne_nil _ _, List.forall_mem_cons.2 ⟨member, members⟩, rfl⟩
  · rintro ⟨filled, members, rfl⟩
    obtain ⟨c, cs, rfl⟩ := List.exists_cons_of_ne_nil filled
    obtain ⟨member, members⟩ := List.forall_mem_cons.1 members
    exact .sequence (.one member) (.many members)

end

theorem mem_runs {within : Char → Bool} {cs taken rest : List Char} :
    (taken, rest) ∈ runs within cs ↔ cs = taken ++ rest ∧ ∀ c ∈ taken, within c = true := by
  induction cs generalizing taken with
  | nil =>
    rw [runs, List.mem_singleton, Prod.mk.injEq, List.nil_eq_append_iff]
    constructor
    · rintro ⟨rfl, rfl⟩
      exact ⟨⟨rfl, rfl⟩, List.forall_mem_nil _⟩
    · exact fun h => h.1
  | cons c cs ih =>
    rw [runs, List.mem_append, List.mem_singleton]
    cases taken with
    | nil =>
      -- a longer run does not start with nothing
      have longer : ([], rest) ∉ (if within c then
          (runs within cs).map fun (taken, rest) => (c :: taken, rest) else []) := by
        split <;> simp
      constructor
      · rintro (run | same)
        · exact absurd run longer
        · exact ⟨(congrArg Prod.snd same).symm, List.forall_mem_nil _⟩
      · rintro ⟨whole, -⟩
        exact .inr (Prod.ext rfl whole.symm)
    | cons d taken =>
      by_cases member : within c = true
      · rw [if_pos member, List.mem_map]
        constructor
        · rintro (⟨⟨taken, rest⟩, run, same⟩ | same)
          · obtain ⟨⟨rfl, rfl⟩, rfl⟩ := by simpa using same
            obtain ⟨rfl, members⟩ := ih.1 run
            exact ⟨rfl, List.forall_mem_cons.2 ⟨member, members⟩⟩
          · cases same
        · rintro ⟨whole, members⟩
          obtain ⟨rfl, rest⟩ := List.cons.inj whole
          exact .inl ⟨_, ih.2 ⟨rest, (List.forall_mem_cons.1 members).2⟩, rfl⟩
      · rw [if_neg member]
        constructor
        · rintro (none | same)
          · cases none
          · cases same
        · rintro ⟨whole, members⟩
          rw [(List.cons.inj whole).1] at member
          exact absurd (members d List.mem_cons_self) member

/-- What a pattern can take of a text is a candidate. -/
theorem mem_candidates_of_takes {p : CapturePattern} {fresh : Bool} {taken rest : List Char}
    {groups : List (String × List Char)} (h : p.Takes fresh taken rest groups) :
    { taken, rest, groups } ∈ p.candidates fresh (taken ++ rest) := by
  induction h with
  | atStart => exact List.mem_singleton_self _
  | atFinish => exact List.mem_singleton_self _
  | literal =>
    rw [candidates, if_pos (List.isPrefixOf_iff_prefix.2 (List.prefix_append _ _)), List.drop_left]
    exact List.mem_singleton_self _
  | one member =>
    rw [List.singleton_append, candidates, if_pos member]
    exact List.mem_singleton_self _
  | many members => exact List.mem_map.2 ⟨(_, _), mem_runs.2 ⟨rfl, members⟩, rfl⟩
  | sequence _ _ first second =>
    rw [List.append_assoc]
    exact List.mem_flatMap.2 ⟨_, first, List.mem_map.2 ⟨_, second, rfl⟩⟩
  | group _ inner => exact List.mem_map.2 ⟨_, inner, rfl⟩

/-- A candidate is something that the pattern can take of the text. -/
theorem takes_of_mem_candidates {p : CapturePattern} {fresh : Bool} {cs : List Char} {a : Capture}
    (h : a ∈ p.candidates fresh cs) :
    cs = a.taken ++ a.rest ∧ p.Takes fresh a.taken a.rest a.groups := by
  induction p generalizing fresh cs a with
  | atStart =>
    rw [candidates, List.mem_ite_nil_right, List.mem_singleton] at h
    obtain ⟨rfl, rfl⟩ := h
    exact ⟨rfl, .atStart⟩
  | atFinish =>
    rw [candidates, List.mem_ite_nil_right, List.isEmpty_iff, List.mem_singleton] at h
    obtain ⟨rfl, rfl⟩ := h
    exact ⟨rfl, .atFinish⟩
  | literal text =>
    rw [candidates, List.mem_ite_nil_right, List.mem_singleton] at h
    obtain ⟨front, rfl⟩ := h
    obtain ⟨rest, rfl⟩ := List.isPrefixOf_iff_prefix.1 front
    rw [List.drop_left]
    exact ⟨rfl, .literal⟩
  | one within =>
    cases cs with
    | nil => cases h
    | cons c cs =>
      rw [candidates, List.mem_ite_nil_right, List.mem_singleton] at h
      obtain ⟨member, rfl⟩ := h
      exact ⟨rfl, .one member⟩
  | many within =>
    obtain ⟨⟨taken, rest⟩, run, rfl⟩ := List.mem_map.1 h
    obtain ⟨whole, members⟩ := mem_runs.1 run
    exact ⟨whole, .many members⟩
  | sequence p q first second =>
    obtain ⟨b, hb, h⟩ := List.mem_flatMap.1 h
    obtain ⟨c, hc, rfl⟩ := List.mem_map.1 h
    obtain ⟨rfl, front⟩ := first hb
    obtain ⟨split, back⟩ := second hc
    rw [split] at front ⊢
    exact ⟨(List.append_assoc ..).symm, .sequence front back⟩
  | group name p inner =>
    obtain ⟨b, hb, rfl⟩ := List.mem_map.1 h
    obtain ⟨whole, taken⟩ := inner hb
    exact ⟨whole, .group taken⟩

/-- The candidates are the ways in which a pattern can take a front of the text. -/
theorem mem_candidates_iff {p : CapturePattern} {fresh : Bool} {cs : List Char} {a : Capture} :
    a ∈ p.candidates fresh cs ↔ cs = a.taken ++ a.rest ∧ p.Takes fresh a.taken a.rest a.groups := by
  constructor
  · exact takes_of_mem_candidates
  · rintro ⟨rfl, taken⟩
    exact mem_candidates_of_takes taken

/-! ## Patterns for a whole text -/

/-- A pattern that starts at the start of the text is tried there only. -/
theorem find?_atStart (p : CapturePattern) (text : String) :
    (sequence .atStart p).find? text
      = ((sequence .atStart p).candidates true text.toList).head? := by
  have nowhere : ∀ cs, (sequence .atStart p).findFrom? false cs = none := by
    intro cs
    induction cs with
    | nil => rfl
    | cons c cs ih => exact ih
  rw [find?]
  cases text.toList with
  | nil => rfl
  | cons c cs => rw [findFrom?, nowhere, Option.or_none]

end CapturePattern

end SignatureAudit.Text
