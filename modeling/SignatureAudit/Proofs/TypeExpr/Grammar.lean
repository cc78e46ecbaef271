import SignatureAudit.Proofs.Text.Trim
import SignatureAudit.Proofs.TypeExpr.Reader
import SignatureAudit.Proofs.TypeExpr.Token

/-!
# The grammar of type expressions

A `Phrase` is a derivation of the grammar: `Phrase.lexemes` is what it derives, `Phrase.meaning` the
type that it means. A union means all the alternatives that stand in it at any depth of nested
unions, each at its first place; the reader flattens one level at a time, which comes to the same
(`Phrase.meaning_union`).

Reading answers exactly with the meanings of phrases (`read_eq_ok_iff_exists_phrase`): each function
of the reader answers with what its tokens derive, and reads whatever they derive.

Blanks mean nothing in a type expression, so it does not matter whether a text is trimmed before it
is read (`read_trim_iff`), or how many blanks stand around it (`read_padded_iff`).
-/

namespace SignatureAudit.TypeExpr

/-- The words that the grammar gives a meaning of their own. -/
def reserved : List String := ["Any", "None", "Array", "Union", "Optional"]

/-- A derivation of the grammar. -/
inductive Phrase
  | any
  | none
  | array
  | arrayOf (elem : Phrase)
  | union (first : Phrase) (others : List Phrase)
  | optional (inner : Phrase)
  | name (text : String) (free : text ∉ reserved)

/-- A union of alternatives: each counts at its first place, and a single one stands for itself. -/
def oneOf (alternatives : List TypeExpr) : TypeExpr :=
  match distinct alternatives with
  | [t] => t
  | ts => .union ts

namespace Phrase

mutual

/-- The lexemes that a phrase derives. -/
def lexemes : Phrase → List Lexeme
  | .any => [.word "Any"]
  | .none => [.word "None"]
  | .array => [.word "Array"]
  | .arrayOf elem => .word "Array" :: .opening :: (elem.lexemes ++ [.closing])
  | .union first others =>
    .word "Union" :: .opening :: (first.lexemes ++ lexemesOfMore others ++ [.closing])
  | .optional inner => .word "Optional" :: .opening :: (inner.lexemes ++ [.closing])
  | .name text _ => [.word text]

/-- The lexemes of further arguments, with a comma in front of each. -/
def lexemesOfMore : List Phrase → List Lexeme
  | [] => []
  | next :: rest => .comma :: (next.lexemes ++ lexemesOfMore rest)

end

mutual

/-- The alternatives that a phrase offers: those of its parts for a union, else the one type. -/
def alternatives : Phrase → List TypeExpr
  | .any => [.any]
  | .none => [TypeExpr.none]
  | .array => [TypeExpr.array]
  | .arrayOf elem => [TypeExpr.arrayOf (oneOf elem.alternatives)]
  | .union first others => first.alternatives ++ alternativesOfMore others
  | .optional inner => inner.alternatives ++ [TypeExpr.none]
  | .name text _ => [.named text]

/-- The alternatives that further arguments offer. -/
def alternativesOfMore : List Phrase → List TypeExpr
  | [] => []
  | next :: rest => next.alternatives ++ alternativesOfMore rest

end

/-- The type that a phrase means. -/
def meaning (ph : Phrase) : TypeExpr := oneOf ph.alternatives

end Phrase

/-! ## Meaning -/

theorem unionOf_eq (types : List TypeExpr) : unionOf types = oneOf (types.flatMap arms) := rfl

theorem arms_of_isUnion_eq_false {t : TypeExpr} (plain : t.isUnion = false) : t.arms = [t] := by
  cases t with
  | union arms => cases plain
  | _ => rfl

theorem arms_oneOf {alternatives : List TypeExpr}
    (plain : ∀ t ∈ alternatives, t.isUnion = false) :
    (oneOf alternatives).arms = distinct alternatives := by
  rw [oneOf]
  split
  · next t single =>
    have among : t ∈ distinct alternatives := by
      rw [single]
      exact List.mem_singleton_self t
    rw [arms_of_isUnion_eq_false (plain t (mem_distinct.1 among))]
    exact single.symm
  · rfl

namespace Phrase

theorem alternativesOfMore_eq (more : List Phrase) :
    alternativesOfMore more = more.flatMap alternatives := by
  induction more with
  | nil => rfl
  | cons next rest ih => rw [alternativesOfMore, ih, List.flatMap_cons]

mutual

/-- No alternative is a union. -/
theorem isUnion_of_mem_alternatives : (ph : Phrase) → {t : TypeExpr} →
    (h : t ∈ ph.alternatives) → t.isUnion = false
  | .any, t, h | .none, t, h | .array, t, h | .arrayOf _, t, h | .name .., t, h => by
    rw [List.mem_singleton.1 h]
    rfl
  | .union first others, t, h => by
    rcases List.mem_append.1 h with h | h
    · exact isUnion_of_mem_alternatives first h
    · exact isUnion_of_mem_alternativesOfMore others h
  | .optional inner, t, h => by
    rcases List.mem_append.1 h with h | h
    · exact isUnion_of_mem_alternatives inner h
    · rw [List.mem_singleton.1 h]
      rfl

theorem isUnion_of_mem_alternativesOfMore : (more : List Phrase) → {t : TypeExpr} →
    (h : t ∈ alternativesOfMore more) → t.isUnion = false
  | [], t, h => by cases h
  | next :: rest, t, h => by
    rcases List.mem_append.1 h with h | h
    · exact isUnion_of_mem_alternatives next h
    · exact isUnion_of_mem_alternativesOfMore rest h

end

theorem arms_meaning (ph : Phrase) : ph.meaning.arms = distinct ph.alternatives :=
  arms_oneOf fun _ h => ph.isUnion_of_mem_alternatives h

/-- Flattening one level of flattened types flattens all levels. -/
theorem unionOf_meanings (phs : List Phrase) :
    unionOf (phs.map meaning) = oneOf (phs.flatMap alternatives) := by
  -- the arms of a part are its alternatives, each once, and once is enough for the whole
  have same : distinct ((phs.map meaning).flatMap arms) = distinct (phs.flatMap alternatives) := by
    rw [List.flatMap_map, ← distinct_flatMap_distinct alternatives]
    simp only [arms_meaning]
  rw [unionOf_eq, oneOf, oneOf, same]

theorem meaning_union (first : Phrase) (others : List Phrase) :
    (Phrase.union first others).meaning = unionOf ((first :: others).map meaning) := by
  rw [unionOf_meanings, List.flatMap_cons, ← alternativesOfMore_eq]
  rfl

theorem meaning_optional (inner : Phrase) :
    (Phrase.optional inner).meaning = unionOf [inner.meaning, .none] :=
  (unionOf_meanings [inner, .none]).symm

end Phrase

/-! ## What is read was derived -/

/-- The word that has a meaning. -/
def Head.word : Head → String
  | .any => "Any"
  | .none => "None"
  | .array => "Array"
  | .union => "Union"
  | .optional => "Optional"
  | .name text => text

/-- A word means what it is spelled for; only an unreserved one is a name. -/
theorem Head.ofWord_eq_iff {text : String} {head : Head} :
    Head.ofWord text = head ↔ head.word = text ∧ ∀ name, head = .name name → name ∉ reserved := by
  unfold Head.ofWord
  constructor
  · intro h
    subst h
    repeat' split
    all_goals simp_all [Head.word, reserved]
  · rintro ⟨rfl, free⟩
    cases head with
    | name name =>
      have := free name rfl
      simp_all [Head.word, reserved]
    | _ => rfl

/-- The lexemes of some tokens. -/
def lexemesOf (tokens : List Token) : List Lexeme := tokens.map Token.lexeme

mutual

theorem exists_phrase_of_readType {size : Nat} {tokens : List Token} {t : TypeExpr}
    {left : Remainder tokens} (h : readType size tokens = .ok (t, left)) :
    ∃ ph : Phrase, lexemesOf tokens = ph.lexemes ++ lexemesOf left.val ∧ ph.meaning = t := by
  obtain ⟨text, offset, rest, rfl⟩ := exists_word_of_readType h
  rw [readType] at h
  obtain ⟨word, free⟩ := Head.ofWord_eq_iff.1 (rfl : Head.ofWord text = _)
  have spelled : lexemesOf (⟨.word text, offset⟩ :: rest)
      = .word (Head.ofWord text).word :: lexemesOf rest := by
    rw [word]
    rfl
  cases head : Head.ofWord text with
  | any =>
    simp only [head] at h
    cases h
    refine ⟨.any, ?_, rfl⟩
    rw [spelled, head]
    rfl
  | none =>
    simp only [head] at h
    cases h
    refine ⟨.none, ?_, rfl⟩
    rw [spelled, head]
    rfl
  | name name =>
    simp only [head] at h
    split at h
    · cases h
    · cases h
      refine ⟨.name name (free name head), ?_, rfl⟩
      rw [spelled, head]
      rfl
  | array =>
    simp only [head] at h
    split at h
    · obtain ⟨⟨types, after⟩, args, h⟩ := exists_of_bind_eq_ok h
      obtain ⟨first, others, derived, rfl⟩ := exists_phrases_of_readArguments args
      -- more than one argument is a fault
      cases others with
      | nil =>
        cases h
        refine ⟨.arrayOf first, ?_, rfl⟩
        rw [spelled, head, derived]
        simp [Head.word, Phrase.lexemes, Phrase.lexemesOfMore, Remainder.widen]
      | cons next more => cases h
    · cases h
      refine ⟨.array, ?_, rfl⟩
      rw [spelled, head]
      rfl
  | union =>
    simp only [head] at h
    obtain ⟨⟨types, after⟩, args, h⟩ := exists_of_bind_eq_ok h
    obtain ⟨first, others, derived, rfl⟩ := exists_phrases_of_readArguments args
    cases h
    refine ⟨.union first others, ?_, Phrase.meaning_union first others⟩
    rw [spelled, head, derived]
    simp [Head.word, Phrase.lexemes, Remainder.widen]
  | optional =>
    simp only [head] at h
    obtain ⟨⟨types, after⟩, args, h⟩ := exists_of_bind_eq_ok h
    obtain ⟨first, others, derived, rfl⟩ := exists_phrases_of_readArguments args
    cases others with
    | nil =>
      cases h
      refine ⟨.optional first, ?_, Phrase.meaning_optional first⟩
      rw [spelled, head, derived]
      simp [Head.word, Phrase.lexemes, Phrase.lexemesOfMore, Remainder.widen]
    | cons next more => cases h
termination_by tokens.length

theorem exists_phrases_of_readArguments {size : Nat} {tokens : List Token}
    {types : List TypeExpr} {left : Remainder tokens}
    (h : readArguments size tokens = .ok (types, left)) :
    ∃ first others, lexemesOf tokens = .opening :: (first.lexemes
        ++ Phrase.lexemesOfMore others ++ .closing :: lexemesOf left.val) ∧
      (first :: others).map Phrase.meaning = types := by
  obtain ⟨offset, rest, rfl⟩ := exists_opening_of_readArguments h
  rw [readArguments] at h
  obtain ⟨⟨t, after⟩, read, h⟩ := exists_of_bind_eq_ok h
  obtain ⟨⟨types', last⟩, more, h⟩ := exists_of_bind_eq_ok h
  -- the further arguments are read from what the first one leaves
  have shorter : after.val.length < rest.length := after.property
  obtain ⟨first, derived, rfl⟩ := exists_phrase_of_readType read
  obtain ⟨others, derived', rfl⟩ := exists_phrases_of_readMore more
  cases h
  refine ⟨first, others, ?_, rfl⟩
  show _ :: lexemesOf rest = _
  rw [derived, derived', List.append_assoc]
  rfl
termination_by tokens.length
decreasing_by all_goals (subst_vars; simp only [List.length_cons]; omega)

theorem exists_phrases_of_readMore {size : Nat} {tokens : List Token} {types : List TypeExpr}
    {left : Remainder tokens} (h : readMore size tokens = .ok (types, left)) :
    ∃ others, lexemesOf tokens
        = Phrase.lexemesOfMore others ++ .closing :: lexemesOf left.val ∧
      others.map Phrase.meaning = types := by
  obtain ⟨offset, rest, rfl | rfl⟩ := exists_comma_of_readMore h
  · rw [readMore] at h
    obtain ⟨⟨t, after⟩, read, h⟩ := exists_of_bind_eq_ok h
    obtain ⟨⟨types', last⟩, more, h⟩ := exists_of_bind_eq_ok h
    have shorter : after.val.length < rest.length := after.property
    obtain ⟨next, derived, rfl⟩ := exists_phrase_of_readType read
    obtain ⟨others, derived', rfl⟩ := exists_phrases_of_readMore more
    cases h
    refine ⟨next :: others, ?_, rfl⟩
    show _ :: lexemesOf rest = _
    rw [derived, derived', Phrase.lexemesOfMore, List.cons_append, List.append_assoc]
    rfl
  · rw [readMore] at h
    cases h
    exact ⟨[], rfl, rfl⟩
termination_by tokens.length
decreasing_by all_goals (subst_vars; simp only [List.length_cons]; omega)

end

/-! ## What is derived is read -/

theorem exists_token {tokens : List Token} {l : Lexeme} {ls : List Lexeme}
    (h : lexemesOf tokens = l :: ls) :
    ∃ offset rest, tokens = ⟨l, offset⟩ :: rest ∧ lexemesOf rest = ls := by
  obtain ⟨token, rest, rfl, rfl, rfl⟩ := List.map_eq_cons_iff.1 h
  exact ⟨token.offset, rest, rfl, rfl⟩

theorem opens_eq_true_iff {tokens : List Token} :
    opens tokens = true ↔ (lexemesOf tokens).head? = some .opening := by
  cases tokens with
  | nil => simp [opens, lexemesOf]
  | cons token rest =>
    obtain ⟨lexeme, offset⟩ := token
    cases lexeme <;> simp [opens, lexemesOf]

/-- No argument list starts behind an argument. -/
theorem closed_more (others : List Phrase) (rest : List Lexeme) :
    (Phrase.lexemesOfMore others ++ .closing :: rest).head? ≠ some .opening := by
  cases others <;> simp [Phrase.lexemesOfMore]

mutual

/-- A phrase is read wherever no argument list follows it. -/
theorem readType_of_phrase (size : Nat) : (ph : Phrase) → {tokens : List Token} →
    {rest : List Lexeme} → (h : lexemesOf tokens = ph.lexemes ++ rest) →
    (closed : rest.head? ≠ some .opening) →
    ∃ left : Remainder tokens, readType size tokens = .ok (ph.meaning, left) ∧
      lexemesOf left.val = rest
  | .any, tokens, rest, h, closed => by
    obtain ⟨offset, tokens, rfl, rfl⟩ := exists_token h
    exact ⟨.tail, by rw [readType]; rfl, rfl⟩
  | .none, tokens, rest, h, closed => by
    obtain ⟨offset, tokens, rfl, rfl⟩ := exists_token h
    exact ⟨.tail, by rw [readType]; rfl, rfl⟩
  | .array, tokens, rest, h, closed => by
    obtain ⟨offset, tokens, rfl, rfl⟩ := exists_token h
    -- with a bracket behind it, the word would be read as the start of `Array[..]`
    have unopened : ¬opens tokens = true := fun opened => closed (opens_eq_true_iff.1 opened)
    have head : Head.ofWord "Array" = .array := rfl
    refine ⟨.tail, ?_, rfl⟩
    rw [readType]
    simp only [head]
    rw [if_neg unopened]
    rfl
  | .name text free, tokens, rest, h, closed => by
    obtain ⟨offset, tokens, rfl, rfl⟩ := exists_token h
    have unopened : ¬opens tokens = true := fun opened => closed (opens_eq_true_iff.1 opened)
    have head : Head.ofWord text = .name text := by
      refine Head.ofWord_eq_iff.2 ⟨rfl, fun name same => ?_⟩
      rw [← Head.name.inj same]
      exact free
    refine ⟨.tail, ?_, rfl⟩
    rw [readType]
    simp only [head]
    rw [if_neg unopened]
    rfl
  | .arrayOf elem, tokens, rest, h, closed => by
    obtain ⟨offset, tokens, rfl, behind⟩ := exists_token h
    have opened : opens tokens = true := by
      rw [opens_eq_true_iff, behind]
      rfl
    have head : Head.ofWord "Array" = .array := rfl
    obtain ⟨left, read, same⟩ := readArguments_of_phrases size elem [] rest
      (by simpa [Phrase.lexemesOfMore] using behind)
    refine ⟨Remainder.tail.widen left, ?_, same⟩
    rw [readType]
    simp only [head]
    rw [if_pos opened, read]
    rfl
  | .union first others, tokens, rest, h, closed => by
    obtain ⟨offset, tokens, rfl, behind⟩ := exists_token h
    have head : Head.ofWord "Union" = .union := rfl
    obtain ⟨left, read, same⟩ := readArguments_of_phrases size first others rest
      (by simpa using behind)
    refine ⟨Remainder.tail.widen left, ?_, same⟩
    rw [readType]
    simp only [head]
    rw [read, Phrase.meaning_union]
    rfl
  | .optional inner, tokens, rest, h, closed => by
    obtain ⟨offset, tokens, rfl, behind⟩ := exists_token h
    have head : Head.ofWord "Optional" = .optional := rfl
    obtain ⟨left, read, same⟩ := readArguments_of_phrases size inner [] rest
      (by simpa [Phrase.lexemesOfMore] using behind)
    refine ⟨Remainder.tail.widen left, ?_, same⟩
    rw [readType]
    simp only [head]
    rw [read, Phrase.meaning_optional]
    rfl
termination_by _ tokens => tokens.length
decreasing_by all_goals (subst_vars; simp_wf)

theorem readArguments_of_phrases (size : Nat) : (first : Phrase) → (others : List Phrase) →
    (rest : List Lexeme) → {tokens : List Token} →
    (h : lexemesOf tokens
      = .opening :: (first.lexemes ++ Phrase.lexemesOfMore others ++ .closing :: rest)) →
    ∃ left : Remainder tokens,
      readArguments size tokens = .ok ((first :: others).map Phrase.meaning, left) ∧
        lexemesOf left.val = rest
  | first, others, rest, tokens, h => by
    obtain ⟨offset, tokens, rfl, behind⟩ := exists_token h
    rw [List.append_assoc] at behind
    obtain ⟨left, read, same⟩ := readType_of_phrase size first behind (closed_more others rest)
    have shorter : left.val.length < tokens.length := left.property
    obtain ⟨last, readMore, same⟩ := readMore_of_phrases size others same
    refine ⟨Remainder.tail.widen (left.widen last), ?_, same⟩
    rw [readArguments, read]
    simp only [bind, Except.bind]
    rw [readMore]
    rfl
termination_by _ _ _ tokens => tokens.length
decreasing_by all_goals (subst_vars; simp_wf <;> omega)

theorem readMore_of_phrases (size : Nat) : (others : List Phrase) → {tokens : List Token} →
    {rest : List Lexeme} →
    (h : lexemesOf tokens = Phrase.lexemesOfMore others ++ .closing :: rest) →
    ∃ left : Remainder tokens, readMore size tokens = .ok (others.map Phrase.meaning, left) ∧
      lexemesOf left.val = rest
  | [], tokens, rest, h => by
    obtain ⟨offset, tokens, rfl, rfl⟩ := exists_token h
    refine ⟨.tail, ?_, rfl⟩
    rw [readMore]
    rfl
  | next :: others, tokens, rest, h => by
    obtain ⟨offset, tokens, rfl, behind⟩ := exists_token h
    change lexemesOf tokens = _ ++ _ ++ _ at behind
    rw [List.append_assoc] at behind
    obtain ⟨left, read, same⟩ := readType_of_phrase size next behind (closed_more others rest)
    have shorter : left.val.length < tokens.length := left.property
    obtain ⟨last, more, same⟩ := readMore_of_phrases size others same
    refine ⟨Remainder.tail.widen (left.widen last), ?_, same⟩
    rw [readMore, read]
    simp only [bind, Except.bind]
    rw [more]
    rfl
termination_by _ tokens => tokens.length
decreasing_by all_goals (subst_vars; simp_wf <;> omega)

end

/-! ## Texts -/

mutual

/-- No phrase derives a stray character. -/
theorem Phrase.stray_not_mem (c : Char) : (ph : Phrase) → Lexeme.stray c ∉ ph.lexemes
  | .any | .none | .array | .name .. => by simp [Phrase.lexemes]
  | .arrayOf elem => by
    have := stray_not_mem c elem
    simp [Phrase.lexemes, this]
  | .union first others => by
    have := stray_not_mem c first
    have := stray_not_mem_more c others
    simp [Phrase.lexemes, *]
  | .optional inner => by
    have := stray_not_mem c inner
    simp [Phrase.lexemes, this]

theorem Phrase.stray_not_mem_more (c : Char) :
    (more : List Phrase) → Lexeme.stray c ∉ lexemesOfMore more
  | [] => by simp [Phrase.lexemesOfMore]
  | next :: rest => by
    have := stray_not_mem c next
    have := stray_not_mem_more c rest
    simp [Phrase.lexemesOfMore, *]

end

/-- A text is read as a type exactly where it spells a phrase that means the type. -/
theorem read_eq_ok_iff_exists_phrase {text : String} {t : TypeExpr} :
    read text = .ok t ↔ ∃ ph : Phrase, Spelled text.toList ph.lexemes ∧ ph.meaning = t := by
  constructor
  · intro h
    rw [read] at h
    split at h
    · cases h
    · next answer =>
      cases h
      obtain ⟨ph, derived, meant⟩ := exists_phrase_of_readType answer
      refine ⟨ph, (spelled_iff fun c => ph.stray_not_mem c).2 ?_, meant⟩
      exact derived.trans (List.append_nil _)
    · cases h
  · rintro ⟨ph, spelled, rfl⟩
    have derived : lexemesOf (tokens text) = ph.lexemes ++ [] := by
      rw [List.append_nil]
      exact (spelled_iff fun c => ph.stray_not_mem c).1 spelled
    obtain ⟨⟨left, shorter⟩, answer, nothing⟩ :=
      readType_of_phrase text.utf8ByteSize ph derived (by simp)
    -- no lexeme is left behind the phrase, hence no token that the reader would refuse
    obtain rfl : left = [] := List.map_eq_nil_iff.1 nothing
    rw [read, answer]

/-! ## Blanks around a type -/

open Text (AllBlank)

variable {cs front back : List Char} {lexemes : List Lexeme} {text : String} {t : TypeExpr}

/-- Spelled texts consist of blanks, word characters, brackets and commas. -/
theorem Spelled.char_of_mem (h : Spelled cs lexemes) {c : Char} (hc : c ∈ cs) :
    Text.isBlank c = true ∨ isWordChar c = true ∨ c ∈ ['[', ']', ','] := by
  induction h with
  | nil => cases hc
  | blank blank rest ih =>
    rcases List.mem_cons.1 hc with rfl | hc
    · exact .inl blank
    · exact ih hc
  | word some_char chars maximal rest ih =>
    rcases List.mem_append.1 hc with hc | hc
    · exact .inr (.inl (chars c hc))
    · exact ih hc
  | opening rest ih | closing rest ih | comma rest ih =>
    rcases List.mem_cons.1 hc with rfl | hc
    · exact .inr (.inr (by decide))
    · exact ih hc

/-- A character of no type expression is in none that is read. -/
theorem notMem_of_read {c : Char} (h : read text = .ok t) (dark : Text.isBlank c = false)
    (apart : isWordChar c = false) (other : c ∉ ['[', ']', ',']) : c ∉ text.toList := by
  intro hc
  obtain ⟨ph, spelled, -⟩ := read_eq_ok_iff_exists_phrase.1 h
  rcases spelled.char_of_mem hc with blank | word | listed
  · simp [dark] at blank
  · simp [apart] at word
  · exact other listed

theorem isWordChar_of_isBlank {c : Char} (blank : Text.isBlank c = true) :
    isWordChar c = false := by
  by_contra word
  rw [Bool.not_eq_false] at word
  rw [isBlank_of_isWordChar word] at blank
  cases blank

/-- Blanks at the end of a text make no token. -/
theorem tokensFrom_append_blank (blank : AllBlank back) (offset : Nat) :
    tokensFrom offset (cs ++ back) = tokensFrom offset cs := by
  induction cs generalizing offset with
  | nil =>
    induction back generalizing offset with
    | nil => rfl
    | cons c back ih =>
      obtain ⟨first, others⟩ := List.forall_mem_cons.1 blank
      have passed : tokensFrom offset (c :: back) = tokensFrom (offset + c.utf8Size) back := by
        rw [tokensFrom, isWordChar_of_isBlank first, first]
        rfl
      exact passed.trans (ih others _)
  | cons c cs ih => rw [List.cons_append, tokensFrom, tokensFrom, ih]

/-- Blanks at the front of a text are passed over. -/
theorem spelled_blank_append_iff (blank : AllBlank front) :
    Spelled (front ++ cs) lexemes ↔ Spelled cs lexemes := by
  induction front with
  | nil => rfl
  | cons c front ih =>
    obtain ⟨first, others⟩ := List.forall_mem_cons.1 blank
    rw [← ih others]
    refine ⟨fun h => ?_, .blank first⟩
    generalize whole : c :: front ++ cs = text at h
    -- no other lexeme starts with a blank
    cases h with
    | nil => cases whole
    | blank _ rest =>
      obtain rfl := (List.cons.inj whole).2
      exact rest
    | word some_char chars maximal rest =>
      obtain ⟨d, run, rfl⟩ := List.exists_cons_of_ne_nil some_char
      have word := chars d List.mem_cons_self
      rw [← (List.cons.inj whole).1, isWordChar_of_isBlank first] at word
      cases word
    | opening rest | closing rest | comma rest =>
      rw [(List.cons.inj whole).1] at first
      cases first

/-- Blanks around a type do not matter. -/
theorem read_padded_iff {padded : String} (hf : AllBlank front) (hb : AllBlank back)
    (whole : padded.toList = front ++ text.toList ++ back) :
    read padded = .ok t ↔ read text = .ok t := by
  simp only [read_eq_ok_iff_exists_phrase, whole, List.append_assoc, spelled_blank_append_iff hf]
  refine exists_congr fun ph => and_congr_left fun _ => ?_
  -- both texts have the same tokens, none of which is a stray character
  have same : (tokensFrom 0 (text.toList ++ back)).map Token.lexeme
      = (tokensFrom 0 text.toList).map Token.lexeme := by rw [tokensFrom_append_blank hb]
  have proper := fun c => ph.stray_not_mem c
  constructor
  · intro h
    have lexemes := h.lexemesFrom 0
    rw [lexemesFrom, same] at lexemes
    exact (spelled_iff proper).2 lexemes
  · intro h
    have lexemes := h.lexemesFrom 0
    rw [lexemesFrom, ← same] at lexemes
    rw [← lexemes] at proper ⊢
    exact spelled_lexemesFrom 0 _ proper

theorem read_trim_iff : read (Text.trim text) = .ok t ↔ read text = .ok t := by
  obtain ⟨front, back, hf, hb, whole⟩ := Text.exists_trim text
  exact (read_padded_iff hf hb whole).symm

end SignatureAudit.TypeExpr
