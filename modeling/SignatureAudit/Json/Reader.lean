import SignatureAudit.Json.Token

/-!
# Reading JSON documents

`Json.read?` answers the document that a text is, to any depth of nesting, or nothing.
-/

namespace SignatureAudit.Json

mutual

/-- Reads a value at the front of some tokens. -/
def value? (tokens : List Token) : Option (Json × Remainder tokens) :=
  match tokens with
  | .null :: _ => some (.null, .tail)
  | .bool value :: _ => some (.bool value, .tail)
  | .number literal :: _ => some (.number literal, .tail)
  | .string text :: _ => some (.string text, .tail)
  | .opening false :: .closing false :: _ => some (.array [], Remainder.tail.widen .tail)
  | .opening false :: rest => do
    let (items, left) ← items? rest
    some (.array items, Remainder.tail.widen left)
  | .opening true :: .closing true :: _ => some (.object [], Remainder.tail.widen .tail)
  | .opening true :: rest => do
    let (members, left) ← members? rest
    some (.object members, Remainder.tail.widen left)
  | _ => none
termination_by (tokens.length, 0)

/-- Reads the items of an array, up to its closing bracket. -/
def items? (tokens : List Token) : Option (List Json × Remainder tokens) := do
  let (item, ⟨left, shorter⟩) ← value? tokens
  match left, shorter with
  | .closing false :: _, shorter => some ([item], Remainder.widen ⟨_, shorter⟩ .tail)
  | .comma :: rest, shorter =>
    let (items, last) ← items? rest
    some (item :: items, Remainder.widen ⟨_, shorter⟩ (Remainder.tail.widen last))
  | _, _ => none
termination_by (tokens.length, 1)
decreasing_by
  · simp [Prod.lex_def]
  · simp [Prod.lex_def] at shorter ⊢
    omega

/-- Reads the members of an object, up to its closing brace. -/
def members? (tokens : List Token) : Option (List (Option String × Json) × Remainder tokens) :=
  match tokens with
  | .string name :: .colon :: rest => do
    let (item, ⟨left, shorter⟩) ← value? rest
    match left, shorter with
    | .closing true :: _, shorter =>
      some ([(name, item)],
        Remainder.tail.widen (Remainder.tail.widen (Remainder.widen ⟨_, shorter⟩ .tail)))
    | .comma :: more, shorter =>
      let (members, last) ← members? more
      some ((name, item) :: members, Remainder.tail.widen
        (Remainder.tail.widen (Remainder.widen ⟨_, shorter⟩ (Remainder.tail.widen last))))
    | _, _ => none
  | _ => none
termination_by (tokens.length, 1)
decreasing_by
  · exact Prod.Lex.left _ _ (by simp only [List.length_cons]; omega)
  · simp [Prod.lex_def] at shorter ⊢
    omega

end

/-- The document that a text is. -/
def read? (text : String) : Option Json := do
  let tokens ← tokensOf? text.toList
  let (document, rest) ← value? tokens
  if rest.val.isEmpty then some document else none

end SignatureAudit.Json
