import SignatureAudit.Proofs.TypeExpr.Grammar

/-!
# Canonical types

A type is canonical when it is flattened and its names are words that the grammar leaves free. Every
type that is read is canonical, and a canonical type is what its own text is read as: the text
spells a phrase that means the type, whatever follows it, so long as that does not go on with its
last word.
-/

namespace SignatureAudit.TypeExpr

/-- A word that the grammar leaves free. -/
structure Identifier (name : String) : Prop where
  some_char : name.toList ≠ []
  chars : ∀ c ∈ name.toList, isWordChar c = true
  free : name ∉ reserved

/-- Flattened, and with identifiers for names. -/
structure Canonical (t : TypeExpr) : Prop where
  flat : Flattened t
  names : ∀ name ∈ t.names, Identifier name

/-! ## What is read is canonical -/

theorem mem_names_oneOf {alternatives : List TypeExpr} {name : String}
    (h : name ∈ (oneOf alternatives).names) : ∃ t ∈ alternatives, name ∈ t.names := by
  rw [oneOf] at h
  split at h
  · next t single =>
    refine ⟨t, mem_distinct.1 ?_, h⟩
    rw [single]
    exact List.mem_singleton_self t
  · rw [names, namesOfArms_eq] at h
    obtain ⟨t, ht, h⟩ := List.mem_flatMap.1 h
    exact ⟨t, mem_distinct.1 ht, h⟩

namespace Phrase

mutual

/-- A name in an alternative is a free word that the phrase derives. -/
theorem word_mem_of_alternatives : (ph : Phrase) → {t : TypeExpr} → {word : String} →
    (ht : t ∈ ph.alternatives) → (h : word ∈ t.names) →
    word ∉ reserved ∧ Lexeme.word word ∈ ph.lexemes
  | .any, t, word, ht, h | .none, t, word, ht, h | .array, t, word, ht, h => by
    rw [List.mem_singleton.1 ht] at h
    cases h
  | .name text free, t, word, ht, h => by
    rw [List.mem_singleton.1 ht] at h
    rw [List.mem_singleton.1 h]
    exact ⟨free, List.mem_singleton_self _⟩
  | .arrayOf elem, t, word, ht, h => by
    rw [List.mem_singleton.1 ht] at h
    obtain ⟨t, ht, h⟩ := mem_names_oneOf h
    have := word_mem_of_alternatives elem ht h
    simp [lexemes, this]
  | .union first others, t, word, ht, h => by
    rcases List.mem_append.1 ht with ht | ht
    · have := word_mem_of_alternatives first ht h
      simp [lexemes, this]
    · have := word_mem_of_alternativesOfMore others ht h
      simp [lexemes, this]
  | .optional inner, t, word, ht, h => by
    rcases List.mem_append.1 ht with ht | ht
    · have := word_mem_of_alternatives inner ht h
      simp [lexemes, this]
    · rw [List.mem_singleton.1 ht] at h
      cases h

theorem word_mem_of_alternativesOfMore : (more : List Phrase) → {t : TypeExpr} →
    {word : String} → (ht : t ∈ alternativesOfMore more) → (h : word ∈ t.names) →
    word ∉ reserved ∧ Lexeme.word word ∈ lexemesOfMore more
  | [], t, word, ht, h => by cases ht
  | next :: rest, t, word, ht, h => by
    rcases List.mem_append.1 ht with ht | ht
    · have := word_mem_of_alternatives next ht h
      simp [lexemesOfMore, this]
    · have := word_mem_of_alternativesOfMore rest ht h
      simp [lexemesOfMore, this]

end

end Phrase

/-- A word that is spelled has characters, all of them word characters. -/
theorem Spelled.chars_of_mem {cs : List Char} {lexemes : List Lexeme} (h : Spelled cs lexemes)
    {text : String} (hm : Lexeme.word text ∈ lexemes) :
    text.toList ≠ [] ∧ ∀ c ∈ text.toList, isWordChar c = true := by
  induction h with
  | nil => cases hm
  | blank blank rest ih => exact ih hm
  | word some_char chars maximal rest ih =>
    rcases List.mem_cons.1 hm with same | hm
    · rw [Lexeme.word.inj same, String.toList_ofList]
      exact ⟨some_char, chars⟩
    · exact ih hm
  | opening rest ih | closing rest ih | comma rest ih =>
    rcases List.mem_cons.1 hm with same | hm
    · cases same
    · exact ih hm

theorem canonical_of_read {text : String} {t : TypeExpr} (h : read text = .ok t) :
    Canonical t := by
  refine ⟨flattened_of_read h, fun name hn => ?_⟩
  obtain ⟨ph, spelled, rfl⟩ := read_eq_ok_iff_exists_phrase.1 h
  obtain ⟨t, ht, hn⟩ := mem_names_oneOf hn
  obtain ⟨free, among⟩ := ph.word_mem_of_alternatives ht hn
  obtain ⟨some_char, chars⟩ := spelled.chars_of_mem among
  exact ⟨some_char, chars, free⟩

/-! ## A canonical type is read from its text -/

/-- The text does not go on with a word. -/
def Apart (cs : List Char) : Prop := ∀ c, cs.head? = some c → isWordChar c = false

theorem apart_nil : Apart [] := fun _ h => by cases h

theorem apart_cons {c : Char} (cs : List Char) (h : isWordChar c = false) : Apart (c :: cs) := by
  intro d hd
  rw [← Option.some.inj hd]
  exact h

/-- A phrase that means a type, and that the text of the type spells. -/
structure Writes (ph : Phrase) (t : TypeExpr) : Prop where
  meaning : ph.meaning = t
  spelled : ∀ {cs lexemes}, Apart cs → Spelled cs lexemes →
    Spelled (t.canonical.toList ++ cs) (ph.lexemes ++ lexemes)

theorem Spelled.text {text : String} (some_char : text.toList ≠ [])
    (chars : ∀ c ∈ text.toList, isWordChar c = true) {cs : List Char} {lexemes : List Lexeme}
    (apart : Apart cs) (rest : Spelled cs lexemes) :
    Spelled (text.toList ++ cs) (.word text :: lexemes) := by
  have spelled := Spelled.word some_char chars apart rest
  rwa [String.ofList_toList] at spelled

/-- A generic word with what stands in its brackets. -/
theorem Spelled.bracketed (word : String) {inner : String} {derived : List Lexeme}
    (some_char : word.toList ≠ []) (chars : ∀ c ∈ word.toList, isWordChar c = true)
    (within : ∀ {cs lexemes}, Apart cs → Spelled cs lexemes →
      Spelled (inner.toList ++ cs) (derived ++ lexemes))
    {cs : List Char} {lexemes : List Lexeme} (rest : Spelled cs lexemes) :
    Spelled ((word ++ "[" ++ inner ++ "]").toList ++ cs)
      (.word word :: .opening :: (derived ++ .closing :: lexemes)) := by
  -- from the back: each bracket ends the word in front of it
  have closed := within (apart_cons cs (by decide)) (Spelled.closing rest)
  have opened := Spelled.text some_char chars (apart_cons _ (by decide)) closed.opening
  simpa using opened

/-- The texts of arms are written by an argument and further ones. -/
theorem exists_phrases_of_arms (arm : TypeExpr) (rest : List TypeExpr)
    (written : ∀ t ∈ arm :: rest, ∃ ph, Writes ph t) :
    ∃ first others, (first :: others).map Phrase.meaning = arm :: rest ∧
      ∀ {cs lexemes}, Apart cs → Spelled cs lexemes →
        Spelled ((canonicalArms (arm :: rest)).toList ++ cs)
          (first.lexemes ++ Phrase.lexemesOfMore others ++ lexemes) := by
  induction rest generalizing arm with
  | nil =>
    obtain ⟨ph, writes⟩ := written arm (List.mem_singleton_self arm)
    refine ⟨ph, [], by rw [← writes.meaning]; rfl, fun apart spelled => ?_⟩
    rw [canonicalArms, Phrase.lexemesOfMore, List.append_nil]
    exact writes.spelled apart spelled
  | cons next rest ih =>
    obtain ⟨ph, writes⟩ := written arm List.mem_cons_self
    obtain ⟨first, others, meant, spells⟩ :=
      ih next fun t ht => written t (List.mem_cons_of_mem _ ht)
    have meanings : (ph :: first :: others).map Phrase.meaning = arm :: next :: rest := by
      rw [List.map_cons, meant, writes.meaning]
    refine ⟨ph, first :: others, meanings, fun apart spelled => ?_⟩
    have further := Spelled.comma (spells apart spelled)
    have whole := writes.spelled (apart_cons _ (by decide)) further
    simpa [canonicalArms, Phrase.lexemesOfMore] using whole

/-- Several different arms that are no unions are the arms of their union. -/
theorem unionOf_of_plain {arms : List TypeExpr} (several : 2 ≤ arms.length)
    (different : arms.Nodup) (plain : ∀ arm ∈ arms, arm.isUnion = false) :
    unionOf arms = .union arms := by
  have own : arms.map TypeExpr.arms = arms.map ([·]) :=
    List.map_congr_left fun arm h => arms_of_isUnion_eq_false (plain arm h)
  have flat : arms.flatMap TypeExpr.arms = arms := by
    rw [List.flatMap_def, own, ← List.flatMap_def]
    exact List.flatMap_singleton' arms
  rw [unionOf, flat, distinct_of_nodup different]
  -- a list of two or more types is not the one that stands for itself
  cases arms with
  | nil => cases several
  | cons first others =>
    cases others with
    | nil => exact absurd several (by simp)
    | cons second rest => rfl

/-- Some phrase writes a canonical type. -/
theorem exists_writes {t : TypeExpr} (flat : Flattened t)
    (names : ∀ name ∈ t.names, Identifier name) : ∃ ph, Writes ph t := by
  induction flat with
  | named name =>
    have identifier := names name (List.mem_singleton_self name)
    exact ⟨.name name identifier.free, rfl, fun apart spelled =>
      .text identifier.some_char identifier.chars apart spelled⟩
  | array =>
    have chars := List.all_eq_true.1 (by decide : "Array".toList.all isWordChar = true)
    exact ⟨.array, rfl, fun apart spelled => .text (by decide) chars apart spelled⟩
  | any =>
    have chars := List.all_eq_true.1 (by decide : "Any".toList.all isWordChar = true)
    exact ⟨.any, rfl, fun apart spelled => .text (by decide) chars apart spelled⟩
  | none =>
    have chars := List.all_eq_true.1 (by decide : "None".toList.all isWordChar = true)
    exact ⟨.none, rfl, fun apart spelled => .text (by decide) chars apart spelled⟩
  | @arrayOf elem flat ih =>
    obtain ⟨ph, writes⟩ := ih names
    refine ⟨.arrayOf ph, ?_, fun apart spelled => ?_⟩
    · rw [← writes.meaning]
      rfl
    · have chars := List.all_eq_true.1 (by decide : "Array".toList.all isWordChar = true)
      have whole := Spelled.bracketed "Array" (by decide) chars writes.spelled spelled
      simpa [canonical, Phrase.lexemes] using whole
  | @union arms several different plain flat ih =>
    rw [TypeExpr.names, namesOfArms_eq] at names
    -- its arms are flattened and name nothing else, so each of them is written by some phrase
    have written : ∀ arm ∈ arms, ∃ ph, Writes ph arm := fun arm harm =>
      ih arm harm fun name hn => names name (List.mem_flatMap.2 ⟨arm, harm, hn⟩)
    have some_arm := Nat.lt_of_lt_of_le Nat.two_pos several
    obtain ⟨arm, rest, rfl⟩ := List.exists_cons_of_length_pos some_arm
    obtain ⟨first, others, meant, spells⟩ := exists_phrases_of_arms arm rest written
    refine ⟨.union first others, ?_, fun apart spelled => ?_⟩
    · rw [Phrase.meaning_union, meant]
      exact unionOf_of_plain several different plain
    · have chars := List.all_eq_true.1 (by decide : "Union".toList.all isWordChar = true)
      have whole := Spelled.bracketed "Union" (by decide) chars spells spelled
      simpa [canonical, Phrase.lexemes] using whole

theorem Canonical.read_canonical {t : TypeExpr} (h : Canonical t) : read t.canonical = .ok t := by
  obtain ⟨ph, writes⟩ := exists_writes h.flat h.names
  have spelled := writes.spelled apart_nil .nil
  rw [List.append_nil, List.append_nil] at spelled
  exact read_eq_ok_iff_exists_phrase.2 ⟨ph, spelled, writes.meaning⟩

/-! ## Texts of canonical types -/

section
variable {s t arm : TypeExpr}

/-- Canonical types are told apart by their texts. -/
theorem Canonical.canonical_inj (hs : Canonical s) (ht : Canonical t)
    (same : s.canonical = t.canonical) : s = t := by
  have read := hs.read_canonical
  rw [same, ht.read_canonical] at read
  exact (Except.ok.inj read).symm

theorem Canonical.of_mem_arms (ht : Canonical t) (harm : arm ∈ t.arms) : Canonical arm := by
  refine ⟨(ht.flat.of_mem_arms harm).1, ?_⟩
  intro name hn
  apply ht.names
  cases t with
  | union arms =>
    rw [TypeExpr.names, namesOfArms_eq]
    exact List.mem_flatMap.2 ⟨arm, harm, hn⟩
  | _ =>
    rw [← List.eq_of_mem_singleton harm]
    exact hn

theorem mem_canonicalArms {arms : List TypeExpr} {c : Char}
    (hc : c ∈ (canonicalArms arms).toList) : c = ',' ∨ ∃ arm ∈ arms, c ∈ arm.canonical.toList := by
  match arms with
  | [] => cases hc
  | [arm] => exact .inr ⟨arm, List.mem_singleton_self arm, hc⟩
  | arm :: next :: rest =>
    simp only [canonicalArms, String.toList_append, List.mem_append] at hc
    rcases hc with (hc | hc) | hc
    · exact .inr ⟨arm, List.mem_cons_self, hc⟩
    · exact .inl (List.mem_singleton.1 hc)
    · rcases mem_canonicalArms hc with comma | ⟨other, mem, hc⟩
      · exact .inl comma
      · exact .inr ⟨other, List.mem_cons_of_mem _ mem, hc⟩

/-- No text of a canonical type has a blank. -/
theorem Canonical.not_blank (h : Canonical t) {c : Char} (hc : c ∈ t.canonical.toList) :
    Text.isBlank c = false := by
  have plain (text : String) (all : text.toList.all (!Text.isBlank ·) = true)
      (hc : c ∈ text.toList) : Text.isBlank c = false := by
    simpa using List.all_eq_true.1 all c hc
  obtain ⟨flat, identifiers⟩ := h
  induction flat with
  | named name =>
    have identifier := identifiers name (List.mem_singleton_self name)
    exact isBlank_of_isWordChar (identifier.chars c hc)
  | array => exact plain _ (by decide) hc
  | any => exact plain _ (by decide) hc
  | none => exact plain _ (by decide) hc
  | arrayOf flat ih =>
    simp only [canonical, String.toList_append, List.mem_append] at hc
    rcases hc with (hc | hc) | hc
    · exact plain _ (by decide) hc
    · exact ih hc identifiers
    · exact plain _ (by decide) hc
  | union several different single flat ih =>
    rw [TypeExpr.names, namesOfArms_eq] at identifiers
    simp only [canonical, String.toList_append, List.mem_append] at hc
    rcases hc with (hc | hc) | hc
    · exact plain _ (by decide) hc
    · rcases mem_canonicalArms hc with rfl | ⟨arm, harm, hc⟩
      · decide
      · have names : ∀ name ∈ arm.names, Identifier name := fun name hn =>
          identifiers name (List.mem_flatMap.2 ⟨arm, harm, hn⟩)
        exact ih arm harm hc names
    · exact plain _ (by decide) hc

end

/-! ## The notation and its texts -/

/-- Blanks between lexemes do not matter. -/
theorem read_congr_of_spelled {text text' : String} {lexemes : List Lexeme}
    (h : Spelled text.toList lexemes) (h' : Spelled text'.toList lexemes) (t : TypeExpr) :
    read text = .ok t ↔ read text' = .ok t := by
  have transfer {text text' : String} (h : Spelled text.toList lexemes)
      (h' : Spelled text'.toList lexemes) (answer : read text = .ok t) : read text' = .ok t := by
    obtain ⟨ph, spelled, meant⟩ := read_eq_ok_iff_exists_phrase.1 answer
    rw [h.unique spelled] at h'
    exact read_eq_ok_iff_exists_phrase.2 ⟨ph, h', meant⟩
  exact ⟨transfer h h', transfer h' h⟩

/-- Reading accepts exactly the phrases of the grammar and answers with what they mean, however
blanks stand between the lexemes. What it answers with is canonical, and reading inverts the
canonical text, by which types that were read are therefore told apart. -/
theorem read_exact_and_inverse_of_canonical :
    (∀ text t, read text = .ok t ↔
      ∃ ph : Phrase, Spelled text.toList ph.lexemes ∧ ph.meaning = t) ∧
    (∀ text text' : String, ∀ lexemes, Spelled text.toList lexemes →
      Spelled text'.toList lexemes → ∀ t, read text = .ok t ↔ read text' = .ok t) ∧
    (∀ text t, read text = .ok t → Canonical t) ∧
    (∀ t, Canonical t → read t.canonical = .ok t) ∧
    ∀ text text' s t, read text = .ok s → read text' = .ok t → s.canonical = t.canonical →
      s = t := by
  refine ⟨fun text t => read_eq_ok_iff_exists_phrase, fun text text' lexemes h h' t => ?_,
    fun text t h => canonical_of_read h, fun t h => h.read_canonical,
    fun text text' s t hs ht same => ?_⟩
  · exact read_congr_of_spelled h h' t
  · -- both types are read from the one text
    have hs := (canonical_of_read hs).read_canonical
    have ht := (canonical_of_read ht).read_canonical
    rw [same, ht] at hs
    exact (Except.ok.inj hs).symm

/-- An optional name with blanks in it means a union, which is read again from its own text. -/
theorem read_optional_name :
    read " Optional[ String ]" = .ok (.union [.named "String", .none]) ∧
      Canonical (.union [.named "String", .none]) ∧
      read "Union[String,None]" = .ok (.union [.named "String", .none]) := by
  obtain ⟨exactly, -, canonical, inverse, -⟩ := read_exact_and_inverse_of_canonical
  let ph : Phrase := .optional (.name "String" (by decide))
  have spelled : Spelled " Optional[ String ]".toList ph.lexemes :=
    (spelled_iff fun c => ph.stray_not_mem c).2 (by decide)
  have answer := (exactly _ _).2 ⟨ph, spelled, rfl⟩
  exact ⟨answer, canonical _ _ answer, inverse _ (canonical _ _ answer)⟩

end SignatureAudit.TypeExpr
