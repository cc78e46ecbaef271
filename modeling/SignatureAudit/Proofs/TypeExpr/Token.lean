import SignatureAudit.TypeExpr.Token

/-!
# Spelling

`Spelled` says how a text spells lexemes: each word is a maximal run of word characters, brackets
and commas stand for themselves, blanks may stand anywhere between two of them, and there is
nothing else. The lexer finds exactly these lexemes (`spelled_iff`).
-/

namespace SignatureAudit.TypeExpr

/-- A text spells some lexemes. -/
inductive Spelled : List Char → List Lexeme → Prop
  | nil : Spelled [] []
  | blank {c : Char} {cs : List Char} {lexemes : List Lexeme} (blank : Text.isBlank c = true)
      (rest : Spelled cs lexemes) : Spelled (c :: cs) lexemes
  | word {run cs : List Char} {lexemes : List Lexeme} (some_char : run ≠ [])
      (chars : ∀ c ∈ run, isWordChar c = true)
      (maximal : ∀ c, cs.head? = some c → isWordChar c = false) (rest : Spelled cs lexemes) :
      Spelled (run ++ cs) (.word (String.ofList run) :: lexemes)
  | opening {cs : List Char} {lexemes : List Lexeme} (rest : Spelled cs lexemes) :
      Spelled ('[' :: cs) (.opening :: lexemes)
  | closing {cs : List Char} {lexemes : List Lexeme} (rest : Spelled cs lexemes) :
      Spelled (']' :: cs) (.closing :: lexemes)
  | comma {cs : List Char} {lexemes : List Lexeme} (rest : Spelled cs lexemes) :
      Spelled (',' :: cs) (.comma :: lexemes)

/-- The lexemes of a text, in order. -/
def lexemesFrom (offset : Nat) (cs : List Char) : List Lexeme :=
  (tokensFrom offset cs).map Token.lexeme

/-! ## Words -/

/-- Word characters are ASCII digits, letters and the underscore. -/
theorem range_of_isWordChar {c : Char} (h : isWordChar c = true) :
    (48 ≤ c.toNat ∧ c.toNat ≤ 57) ∨ (65 ≤ c.toNat ∧ c.toNat ≤ 90) ∨
      (97 ≤ c.toNat ∧ c.toNat ≤ 122) ∨ c.toNat = 95 := by
  have shape : (((c.isUpper || c.isLower) || c.isDigit) || c == '_') = true := h
  simp only [Bool.or_eq_true, beq_iff_eq] at shape
  obtain ((upper | lower) | digit) | rfl := shape
  · have bounds := of_decide_eq_true upper
    exact .inr (.inl bounds)
  · have bounds := Bool.and_eq_true_iff.1 lower
    exact .inr (.inr (.inl ⟨of_decide_eq_true bounds.1, of_decide_eq_true bounds.2⟩))
  · have bounds := Bool.and_eq_true_iff.1 digit
    exact .inl ⟨of_decide_eq_true bounds.1, of_decide_eq_true bounds.2⟩
  · exact .inr (.inr (.inr rfl))

theorem utf8Size_of_isWordChar {c : Char} (h : isWordChar c = true) : c.utf8Size = 1 := by
  have range := range_of_isWordChar h
  have ascii : c.toNat ≤ 127 := by omega
  exact Char.utf8Size_eq_one_iff.2 ascii

/-- No token starts in front of its text. -/
theorem le_offset_of_mem {offset : Nat} {cs : List Char} {token : Token}
    (h : token ∈ tokensFrom offset cs) : offset ≤ token.offset := by
  induction cs generalizing offset token with
  | nil => cases h
  | cons c cs ih =>
    have later {t : Token} (ht : t ∈ tokensFrom (offset + c.utf8Size) cs) : offset ≤ t.offset :=
      Nat.le_trans (Nat.le_add_right _ _) (ih ht)
    rw [tokensFrom] at h
    by_cases word : isWordChar c = true
    · rw [if_pos word] at h
      unfold Token.joinWord at h
      split at h
      · next text start rest tokens =>
        rw [tokens] at later
        -- joined or not, the word starts at this character
        by_cases joined : start = offset + 1
        · rw [if_pos joined] at h
          rcases List.mem_cons.1 h with rfl | h
          · exact Nat.le_refl _
          · exact later (List.mem_cons_of_mem _ h)
        · rw [if_neg joined] at h
          rcases List.mem_cons.1 h with rfl | h
          · exact Nat.le_refl _
          · exact later h
      · rcases List.mem_cons.1 h with rfl | h
        · exact Nat.le_refl _
        · exact later h
    · rw [if_neg word] at h
      by_cases blank : Text.isBlank c = true
      · rw [if_pos blank] at h
        exact later h
      · rw [if_neg blank] at h
        rcases List.mem_cons.1 h with rfl | h
        · exact Nat.le_refl _
        · exact later h

theorem ofChar_ne_word (c : Char) (text : String) : Lexeme.ofChar c ≠ .word text := by
  unfold Lexeme.ofChar
  repeat' split
  all_goals
    intro h
    cases h

/-- Where no word character stands at the front, no word starts there. -/
theorem tokensFrom_ne_word {offset : Nat} {cs : List Char}
    (maximal : ∀ c, cs.head? = some c → isWordChar c = false) (text : String)
    (rest : List Token) : tokensFrom offset cs ≠ ⟨.word text, offset⟩ :: rest := by
  intro h
  cases cs with
  | nil => cases h
  | cons c cs =>
    have stop : isWordChar c = false := maximal c rfl
    rw [tokensFrom, if_neg (by simp [stop])] at h
    by_cases blank : Text.isBlank c = true
    · -- a word behind a blank starts later
      rw [if_pos blank] at h
      have first : (⟨.word text, offset⟩ : Token) ∈ tokensFrom (offset + c.utf8Size) cs := by
        rw [h]
        exact List.mem_cons_self
      have behind : offset + c.utf8Size ≤ offset := le_offset_of_mem first
      have := c.utf8Size_pos
      omega
    · rw [if_neg blank] at h
      exact ofChar_ne_word c text (congrArg Token.lexeme (List.cons.inj h).1)

/-- A maximal run of word characters is one token. -/
theorem tokensFrom_word {offset : Nat} {run cs : List Char} (some_char : run ≠ [])
    (chars : ∀ c ∈ run, isWordChar c = true)
    (maximal : ∀ c, cs.head? = some c → isWordChar c = false) :
    tokensFrom offset (run ++ cs)
      = ⟨.word (String.ofList run), offset⟩ :: tokensFrom (offset + run.length) cs := by
  induction run generalizing offset with
  | nil => exact absurd rfl some_char
  | cons c run ih =>
    obtain ⟨word, others⟩ := List.forall_mem_cons.1 chars
    rw [List.cons_append, tokensFrom, if_pos word, utf8Size_of_isWordChar word]
    cases run with
    | nil =>
      -- the run ends here: a word that follows starts behind a gap and is not joined
      unfold Token.joinWord
      split
      · next text start rest tokens =>
        have apart : start ≠ offset + 1 := by
          rintro rfl
          exact tokensFrom_ne_word maximal text rest tokens
        rw [if_neg apart, ← tokens]
        rfl
      · rfl
    | cons d run =>
      -- the rest of the run is one word, and it starts right behind this character
      rw [ih (List.cons_ne_nil _ _) others, Token.joinWord, if_pos rfl]
      have longer :
          String.singleton c ++ String.ofList (d :: run) = String.ofList (c :: d :: run) := by
        rw [← String.toList_inj]
        simp
      rw [longer, List.length_cons, List.length_cons, List.length_cons, Nat.add_assoc,
        Nat.add_comm 1]

/-! ## Texts -/

theorem isBlank_of_isWordChar {c : Char} (h : isWordChar c = true) : Text.isBlank c = false := by
  have range := range_of_isWordChar h
  simp only [Text.isBlank, Text.inRanges, Text.blankRanges, List.any_cons, List.any_nil,
    Bool.or_false, Bool.or_eq_false_iff, Bool.and_eq_false_iff, decide_eq_false_iff_not]
  omega

/-- The lexemes of a spelled text are those that it spells, wherever the text starts. -/
theorem Spelled.lexemesFrom {cs : List Char} {lexemes : List Lexeme} (h : Spelled cs lexemes)
    (offset : Nat) : lexemesFrom offset cs = lexemes := by
  induction h generalizing offset with
  | nil => rfl
  | @blank c cs lexemes blank rest ih =>
    have word : isWordChar c ≠ true := by
      intro word
      rw [isBlank_of_isWordChar word] at blank
      cases blank
    rw [TypeExpr.lexemesFrom, tokensFrom, if_neg word, if_pos blank]
    exact ih _
  | word some_char chars maximal rest ih =>
    rw [TypeExpr.lexemesFrom, tokensFrom_word some_char chars maximal, List.map_cons]
    exact congrArg _ (ih _)
  | opening rest ih => exact congrArg _ (ih _)
  | closing rest ih => exact congrArg _ (ih _)
  | comma rest ih => exact congrArg _ (ih _)

theorem Spelled.unique {cs : List Char} {lexemes lexemes' : List Lexeme} (h : Spelled cs lexemes)
    (h' : Spelled cs lexemes') : lexemes = lexemes' :=
  (h.lexemesFrom 0).symm.trans (h'.lexemesFrom 0)

/-- A character that is a lexeme by itself, unless it is a stray one. -/
theorem Spelled.ofChar {c : Char} {cs : List Char} {lexemes : List Lexeme}
    (rest : Spelled cs lexemes) (proper : ∀ d, Lexeme.ofChar c ≠ .stray d) :
    Spelled (c :: cs) (Lexeme.ofChar c :: lexemes) := by
  unfold Lexeme.ofChar at proper ⊢
  split
  · next h =>
    rw [h]
    exact .opening rest
  · split
    · next h =>
      rw [h]
      exact .closing rest
    · split
      · next h =>
        rw [h]
        exact .comma rest
      · simp_all

/-- A text without stray characters spells its lexemes. -/
theorem spelled_lexemesFrom (offset : Nat) (cs : List Char)
    (proper : ∀ c, Lexeme.stray c ∉ lexemesFrom offset cs) :
    Spelled cs (lexemesFrom offset cs) := by
  match cs with
  | [] => exact .nil
  | c :: cs =>
    by_cases word : isWordChar c = true
    · -- the run that starts here, and what follows it
      have whole := List.takeWhile_append_dropWhile (p := isWordChar) (l := c :: cs)
      have some_char : (c :: cs).takeWhile isWordChar ≠ [] := by
        rw [List.takeWhile_cons, if_pos word]
        exact List.cons_ne_nil _ _
      have chars : ∀ d ∈ (c :: cs).takeWhile isWordChar, isWordChar d = true :=
        List.all_eq_true.1 List.all_takeWhile
      have maximal : ∀ d, ((c :: cs).dropWhile isWordChar).head? = some d →
          isWordChar d = false := by
        intro d hd
        have := List.head?_dropWhile_not isWordChar (c :: cs)
        rw [hd] at this
        simpa using this
      have shorter : ((c :: cs).dropWhile isWordChar).length < (c :: cs).length := by
        rw [List.dropWhile_cons, if_pos word]
        exact Nat.lt_succ_of_le (List.dropWhile_sublist _).length_le
      generalize (c :: cs).takeWhile isWordChar = run at whole some_char chars
      generalize (c :: cs).dropWhile isWordChar = rest at whole maximal shorter
      have split : lexemesFrom offset (c :: cs)
          = .word (String.ofList run) :: lexemesFrom (offset + run.length) rest := by
        rw [← whole, lexemesFrom, tokensFrom_word some_char chars maximal]
        rfl
      rw [split] at proper ⊢
      rw [← whole]
      refine .word some_char chars maximal (spelled_lexemesFrom _ rest fun d hd => ?_)
      exact proper d (List.mem_cons_of_mem _ hd)
    · by_cases blank : Text.isBlank c = true
      · have split : lexemesFrom offset (c :: cs) = lexemesFrom (offset + c.utf8Size) cs := by
          rw [lexemesFrom, tokensFrom, if_neg word, if_pos blank]
          rfl
        rw [split] at proper ⊢
        exact .blank blank (spelled_lexemesFrom _ cs proper)
      · have split : lexemesFrom offset (c :: cs)
            = Lexeme.ofChar c :: lexemesFrom (offset + c.utf8Size) cs := by
          rw [lexemesFrom, tokensFrom, if_neg word, if_neg blank]
          rfl
        rw [split] at proper ⊢
        have rest := spelled_lexemesFrom (offset + c.utf8Size) cs fun d hd =>
          proper d (List.mem_cons_of_mem _ hd)
        refine rest.ofChar fun d stray => proper d ?_
        rw [stray]
        exact List.mem_cons_self
termination_by cs.length
decreasing_by
  · exact shorter
  · exact Nat.lt_succ_self _
  · exact Nat.lt_succ_self _

/-- The lexer finds the lexemes that a text spells. -/
theorem spelled_iff {text : String} {lexemes : List Lexeme}
    (proper : ∀ c, Lexeme.stray c ∉ lexemes) :
    Spelled text.toList lexemes ↔ (tokens text).map Token.lexeme = lexemes := by
  constructor
  · intro h
    exact h.lexemesFrom 0
  · rintro rfl
    exact spelled_lexemesFrom 0 text.toList proper

end SignatureAudit.TypeExpr
