import SignatureAudit.Proofs.Signature.Parameter
import Mathlib.Data.List.Forall2

/-!
# Which lists are declared

`Declares` is the form of a declaration: perhaps a star, a name, a colon, a type and perhaps a
default, with blanks between them. One declaration is read exactly if it has this form and the kind
of the parameter is allowed at its place (`read_eq_ok_iff`): only the star and the default are
written, so whether a parameter without either is passed by position depends on the starred ones in
front of it. By induction, what a list of declarations is read as are exactly the well-formed lists
of the parameters that they declare (`readAll_eq_ok_iff`).
-/

namespace SignatureAudit

open Text (AllBlank)

namespace Parameter

variable {p : Parameter} {ps : List Parameter} {text : String} {texts : List String}
  {afterVariadic : Bool}

/-! ## One declaration -/

/-- The star in front of the name of a variadic parameter. -/
def star (p : Parameter) : String := if p.kind = .variadic then "*" else ""

/-- The text declares the parameter: it consists of the star of a variadic one, the name, a colon,
an expression of the type and the default of one that has a default, which can be any text. Blanks
may stand around each. -/
def Declares (p : Parameter) (text : String) : Prop :=
  ∃ front gap gap' expr default : String, text = front ++ p.star ++ gap ++ p.name ++ gap' ++ ":"
      ++ expr ++ (if p.hasDefault then "=" ++ default else "") ∧
    (Text.isAllBlank front ∧ Text.isAllBlank gap ∧ Text.isAllBlank gap') ∧
    isName p.name = true ∧ TypeExpr.read expr = .ok p.type

/-- The kinds that a parameter can have: without a star and a default, its place decides whether it
is passed by position. -/
def Allowed (afterVariadic : Bool) : ParamKind → Prop
  | .positional => afterVariadic = false
  | .keyword false => afterVariadic = true
  | .keyword true | .variadic => True

theorem kindOf_eq_ok_iff {starred hasDefault : Bool} {kind : ParamKind} :
    kindOf starred hasDefault afterVariadic = .ok kind ↔
      starred = decide (kind = .variadic) ∧ hasDefault = decide (kind = .keyword true) ∧
        Allowed afterVariadic kind := by
  rw [kindOf]
  rcases kind with _ | ⟨_ | _⟩ | _ <;> cases starred <;> cases hasDefault <;>
    cases afterVariadic <;> simp [Allowed]

/-- Whether a trimmed declaration has a star, and what follows that. -/
def marks (trimmed : String) : Bool × String :=
  match Text.dropFront? "*" trimmed with
  | some rest => (true, rest)
  | none => (false, trimmed)

/-- The expression behind the colon, and whether a default follows it. -/
def typePart (after : String) : String × Bool :=
  match Text.cut? "=" after with
  | some (expr, _) => (expr, true)
  | none => (after, false)

/-- Reads the rest of a declaration, whose star has been cut off. -/
def readMarked (text : String) (marked : Bool × String) (afterVariadic : Bool) :
    Except Malformed Parameter :=
  match Text.cut? ":" marked.2 with
  | none => .error (.declaration text .missingColon)
  | some (before, after) =>
    if !isName (Text.trim before) then .error (.declaration text .invalidName)
    else match TypeExpr.read (Text.trim (typePart after).1) with
      | .error error => .error (.type error)
      | .ok type =>
        match kindOf marked.1 (typePart after).2 afterVariadic with
        | .error fault => .error (.declaration text fault)
        | .ok kind => .ok ⟨Text.trim before, type, kind⟩

theorem read_eq_readMarked (text : String) (afterVariadic : Bool) :
    read text afterVariadic = readMarked text (marks (Text.trim text)) afterVariadic := by
  unfold read readMarked marks
  dsimp only
  cases Text.dropFront? "*" (Text.trim text) with
  | none =>
    dsimp only
    cases Text.cut? ":" (Text.trim text) <;> rfl
  | some rest =>
    dsimp only
    cases Text.cut? ":" rest <;> rfl

/-- A declaration is cut at the first colon and at the first equals sign behind that. -/
theorem read_eq_ok_iff_cut : read text afterVariadic = .ok p ↔ ∃ before after,
    Text.cut? ":" (marks (Text.trim text)).2 = some (before, after) ∧
    (Text.trim before = p.name ∧ isName p.name = true) ∧
    TypeExpr.read (typePart after).1 = .ok p.type ∧
    kindOf (marks (Text.trim text)).1 (typePart after).2 afterVariadic = .ok p.kind := by
  rw [read_eq_readMarked, readMarked]
  constructor
  · intro declared
    split at declared
    · cases declared
    next before after cut =>
    split at declared
    · cases declared
    next named =>
    split at declared
    · cases declared
    next type typed =>
    split at declared
    · cases declared
    next kind judged =>
    obtain rfl := Except.ok.inj declared
    exact ⟨before, after, cut, ⟨rfl, by simpa using named⟩, TypeExpr.read_trim_iff.1 typed, judged⟩
  · rintro ⟨before, after, cut, ⟨name, named⟩, typed, judged⟩
    rw [← TypeExpr.read_trim_iff] at typed
    simp only [cut, name, named, typed, judged]
    rfl

/-! ### Its parts -/

theorem isName_iff {name : String} : isName name = true ↔
    name.toList ≠ [] ∧ ∀ c ∈ name.toList, TypeExpr.isWordChar c = true := by
  rw [isName, Bool.and_eq_true, Bool.not_eq_true', List.isEmpty_eq_false_iff, List.all_eq_true]

theorem hasDefault_eq (p : Parameter) : p.hasDefault = decide (p.kind = .keyword true) := by
  rw [hasDefault]
  rcases p.kind with _ | ⟨_ | _⟩ | _ <;> simp

/-- The star is cut off, and nothing else. -/
theorem toList_of_marks (trimmed : String) :
    trimmed.toList = (if (marks trimmed).1 then ['*'] else []) ++ (marks trimmed).2.toList := by
  rw [marks]
  cases starred : Text.dropFront? "*" trimmed with
  | none => rfl
  | some rest => exact Text.dropFront?_eq_some_iff.1 starred

theorem marks_of_star {trimmed rest : String} (h : trimmed.toList = '*' :: rest.toList) :
    marks trimmed = (true, rest) := by
  have starred : Text.dropFront? "*" trimmed = some rest := Text.dropFront?_eq_some_iff.2 h
  rw [marks, starred]

theorem marks_of_ne_star {trimmed : String} {c : Char} {cs : List Char}
    (h : trimmed.toList = c :: cs) (other : c ≠ '*') : marks trimmed = (false, trimmed) := by
  have plain : Text.dropFront? "*" trimmed = none := by
    cases starred : Text.dropFront? "*" trimmed with
    | none => rfl
    | some rest =>
      have whole := Text.dropFront?_eq_some_iff.1 starred
      rw [h] at whole
      exact absurd (List.cons.inj whole).1 other
  rw [marks, plain]

/-- The default is cut off with its equals sign, and nothing else. -/
theorem exists_of_typePart (after : String) : ∃ value : List Char,
    after.toList = (typePart after).1.toList ++ if (typePart after).2 then '=' :: value else [] := by
  rw [typePart]
  cases cut : Text.cut? "=" after with
  | none => exact ⟨[], (List.append_nil _).symm⟩
  | some parts =>
    obtain ⟨expr, value⟩ := parts
    have whole := (Text.cut?_eq_some_iff.1 cut).whole
    rw [List.append_assoc] at whole
    exact ⟨value.toList, whole⟩

theorem typePart_of_default {after expr value : String} (h : '=' ∉ expr.toList)
    (whole : after.toList = expr.toList ++ '=' :: value.toList) :
    typePart after = (expr, true) := by
  have first := Text.cutsFirst_of_notMem h value.toList
  have cut : Text.cut? "=" after = some (expr, value) := by
    rw [Text.cut?_eq_some_iff, whole]
    exact first
  rw [typePart, cut]

theorem typePart_of_notMem {after : String} (h : '=' ∉ after.toList) :
    typePart after = (after, false) := by
  have uncut : Text.cut? "=" after = none := by
    rw [Text.cut?_eq_none_iff]
    exact fun occurs => h (occurs.subset (List.mem_singleton_self '='))
  rw [typePart, uncut]

/-! ### Its form -/

theorem toList_star (p : Parameter) :
    p.star.toList = if p.kind = .variadic then ['*'] else [] := by
  rw [star]
  split <;> rfl

/-- What is read has the form of a declaration. -/
theorem declares_of_read (h : read text afterVariadic = .ok p) : Declares p text := by
  obtain ⟨before, after, cut, ⟨name, named⟩, typed, judged⟩ := read_eq_ok_iff_cut.1 h
  obtain ⟨starred, defaulted, -⟩ := kindOf_eq_ok_iff.1 judged
  obtain ⟨front, back, hfront, hback, outer⟩ := Text.exists_trim text
  obtain ⟨gap, gap', hgap, hgap', inner⟩ := Text.exists_trim before
  obtain ⟨value, behind⟩ := exists_of_typePart after
  have whole := (Text.cut?_eq_some_iff.1 cut).whole
  rw [toList_of_marks (Text.trim text), whole, inner, name, behind, starred, defaulted,
    ← hasDefault_eq] at outer
  have blank : Text.isAllBlank (String.ofList front) ∧ Text.isAllBlank (String.ofList gap) ∧
      Text.isAllBlank (String.ofList gap') := by
    simpa only [Text.isAllBlank_iff, String.toList_ofList] using ⟨hfront, hgap, hgap'⟩
  by_cases default : p.hasDefault = true
  · refine ⟨_, _, _, (typePart after).1, String.ofList (value ++ back), ?_, blank, named, typed⟩
    rw [← String.toList_inj, outer]
    simp [toList_star, default]
  · -- without a default, the blanks at the end of the declaration follow the type
    have padded : TypeExpr.read (String.ofList ((typePart after).1.toList ++ back)) = .ok p.type :=
      (TypeExpr.read_padded_iff (List.forall_mem_nil _) hback (by simp)).2 typed
    refine ⟨_, _, _, _, "", ?_, blank, named, padded⟩
    rw [← String.toList_inj, outer]
    simp [toList_star, default]

/-- The star is cut off; without one, the blanks in front of the name are cut off with those in
front of the whole. -/
theorem exists_marks_trim {front gap gap' tail : List Char} (hfront : AllBlank front)
    (hgap : AllBlank gap) (named : isName p.name = true)
    (whole : text.toList
      = front ++ p.star.toList ++ gap ++ p.name.toList ++ gap' ++ ':' :: tail) :
    ∃ space, AllBlank space ∧ marks (Text.trim text) = (decide (p.kind = .variadic),
      String.ofList (space ++ p.name.toList ++ gap' ++ ':' :: Text.trimEnd tail)) := by
  have trimmed (c : Char) (cs : List Char) {blanks : List Char} (blank : AllBlank blanks)
      (dark : Text.isBlank c = false) (h : text.toList = blanks ++ c :: (cs ++ ':' :: tail)) :
      (Text.trim text).toList = c :: cs ++ ':' :: Text.trimEnd tail := by
    rw [Text.toList_trim_of_first blank dark h, Text.trimEnd_append_cons (by decide),
      List.cons_append]
  rw [toList_star] at whole
  by_cases variadic : p.kind = .variadic
  · refine ⟨gap, hgap, ?_⟩
    rw [if_pos variadic] at whole
    have starred := trimmed '*' (gap ++ p.name.toList ++ gap') hfront (by decide)
      (by simpa using whole)
    rw [decide_eq_true variadic]
    exact marks_of_star (by simpa using starred)
  · refine ⟨[], List.forall_mem_nil _, ?_⟩
    rw [if_neg variadic] at whole
    obtain ⟨some_char, chars⟩ := isName_iff.1 named
    obtain ⟨c, name, spelled⟩ := List.exists_cons_of_ne_nil some_char
    have word : TypeExpr.isWordChar c = true := chars c (by simp [spelled])
    have plain := trimmed c (name ++ gap') (hfront.append hgap)
      (TypeExpr.isBlank_of_isWordChar word) (by simpa [spelled] using whole)
    have other : c ≠ '*' := by
      rintro rfl
      cases word
    rw [decide_eq_false variadic, marks_of_ne_star plain other, Prod.mk.injEq, ← String.toList_inj,
      plain]
    simp [spelled]

/-- The default is cut off; without one, perhaps the blanks at the end are cut off. -/
theorem typePart_trimEnd {expr : String} (typed : TypeExpr.read expr = .ok p.type)
    (value : List Char) :
    let after := typePart (String.ofList (Text.trimEnd
      (expr.toList ++ if p.hasDefault then '=' :: value else [])))
    TypeExpr.read after.1 = .ok p.type ∧ after.2 = p.hasDefault := by
  have unequal : '=' ∉ expr.toList :=
    TypeExpr.notMem_of_read typed (by decide) (by decide) (by decide)
  by_cases default : p.hasDefault = true
  · let trimmed := String.ofList (Text.trimEnd value)
    have whole : (String.ofList (expr.toList ++ '=' :: Text.trimEnd value)).toList
        = expr.toList ++ '=' :: trimmed.toList := by simp [trimmed]
    rw [if_pos default, Text.trimEnd_append_cons (by decide), default,
      typePart_of_default unequal whole]
    exact ⟨typed, rfl⟩
  · rw [if_neg default, List.append_nil]
    obtain ⟨back, hback, whole⟩ := Text.exists_trimEnd expr.toList
    have kept : '=' ∉ (String.ofList (Text.trimEnd expr.toList)).toList := by
      rw [String.toList_ofList]
      rw [whole] at unequal
      exact fun h => unequal (List.mem_append_left _ h)
    rw [typePart_of_notMem kept]
    refine ⟨(TypeExpr.read_padded_iff (List.forall_mem_nil _) hback ?_).1 typed, ?_⟩
    · simpa using whole
    · simpa using default

/-- A declaration is read if its kind is allowed at its place. -/
theorem read_of_declares (declared : Declares p text) (allowed : Allowed afterVariadic p.kind) :
    read text afterVariadic = .ok p := by
  obtain ⟨front, gap, gap', expr, value, whole, ⟨hfront, hgap, hgap'⟩, named, typed⟩ := declared
  rw [Text.isAllBlank_iff] at hfront hgap hgap'
  obtain ⟨some_char, chars⟩ := isName_iff.1 named
  -- the text of the type and of the default
  let tail := expr.toList ++ if p.hasDefault then '=' :: value.toList else []
  have outer : text.toList = front.toList ++ p.star.toList ++ gap.toList ++ p.name.toList
      ++ gap'.toList ++ ':' :: tail := by
    rw [whole]
    by_cases h : p.hasDefault = true <;> simp [h, tail]
  obtain ⟨space, blank, marked⟩ := exists_marks_trim hfront hgap named outer
  obtain ⟨typed, defaulted⟩ := typePart_trimEnd typed value.toList
  have undivided : ':' ∉ space ++ p.name.toList ++ gap'.toList := by
    simp only [List.mem_append, not_or]
    refine ⟨⟨blank.notMem (by decide), fun h => ?_⟩, hgap'.notMem (by decide)⟩
    cases chars _ h
  have cut : Text.cut? ":" (marks (Text.trim text)).2
      = some (String.ofList (space ++ p.name.toList ++ gap'.toList),
          String.ofList (Text.trimEnd tail)) := by
    have first := Text.cutsFirst_of_notMem undivided (Text.trimEnd tail)
    rw [marked, Text.cut?_eq_some_iff]
    simp only [String.toList_ofList]
    exact first
  have trimmed : Text.trim (String.ofList (space ++ p.name.toList ++ gap'.toList)) = p.name := by
    rw [← String.toList_inj]
    exact Text.toList_trim_of_padded blank hgap' some_char
      (fun c hc => TypeExpr.isBlank_of_isWordChar (chars c hc)) String.toList_ofList
  refine read_eq_ok_iff_cut.2 ⟨_, _, cut, ⟨trimmed, named⟩, typed, ?_⟩
  rw [marked, kindOf_eq_ok_iff, ← hasDefault_eq]
  exact ⟨rfl, defaulted, allowed⟩

/-- One declaration is read exactly if it has the form, and the kind is allowed at its place. -/
theorem read_eq_ok_iff :
    read text afterVariadic = .ok p ↔ Declares p text ∧ Allowed afterVariadic p.kind := by
  constructor
  · intro h
    obtain ⟨before, after, cut, name, typed, judged⟩ := read_eq_ok_iff_cut.1 h
    exact ⟨declares_of_read h, (kindOf_eq_ok_iff.1 judged).2.2⟩
  · rintro ⟨declared, allowed⟩
    exact read_of_declares declared allowed

/-- A declaration starts with a star or with a name. -/
theorem Declares.exists_first (h : Declares p text) : ∃ c cs, (Text.trim text).toList = c :: cs ∧
    (c = '*' ∨ TypeExpr.isWordChar c = true) := by
  obtain ⟨front, gap, gap', expr, value, whole, ⟨hfront, hgap, -⟩, named, -⟩ := h
  rw [Text.isAllBlank_iff] at hfront hgap
  rw [← String.toList_inj] at whole
  simp only [String.toList_append, toList_star, List.append_assoc] at whole
  by_cases variadic : p.kind = .variadic
  · rw [if_pos variadic, List.singleton_append] at whole
    exact ⟨_, _, Text.toList_trim_of_first hfront (by decide) whole, .inl rfl⟩
  · obtain ⟨some_char, chars⟩ := isName_iff.1 named
    obtain ⟨c, name, spelled⟩ := List.exists_cons_of_ne_nil some_char
    have word : TypeExpr.isWordChar c = true := chars c (by simp [spelled])
    rw [if_neg variadic, List.nil_append, spelled, ← List.append_assoc, List.cons_append] at whole
    exact ⟨_, _, Text.toList_trim_of_first (hfront.append hgap)
      (TypeExpr.isBlank_of_isWordChar word) whole, .inr word⟩

/-! ## Lists of declarations -/

/-- The kinds are allowed at their places; `afterVariadic` tells whether a variadic parameter stands
in front of all of them. -/
def Arranged (afterVariadic : Bool) (ps : List Parameter) : Prop :=
  ∀ front p back, ps = front ++ p :: back →
    Allowed (afterVariadic || front.any (·.kind == .variadic)) p.kind

theorem arranged_nil (afterVariadic : Bool) : Arranged afterVariadic [] := by
  intro front p back split
  exact absurd split.symm (List.append_ne_nil_of_right_ne_nil _ (List.cons_ne_nil _ _))

/-- The first parameter counts for those behind it. -/
theorem arranged_cons_iff : Arranged afterVariadic (p :: ps) ↔
    Allowed afterVariadic p.kind ∧ Arranged (afterVariadic || p.kind == .variadic) ps := by
  constructor
  · intro h
    refine ⟨by simpa using h [] p ps rfl, fun front q back split => ?_⟩
    have later := h (p :: front) q back (congrArg (p :: ·) split)
    rwa [List.any_cons, ← Bool.or_assoc] at later
  · rintro ⟨first, others⟩ front q back split
    cases front with
    | nil =>
      obtain ⟨rfl, -⟩ := List.cons.inj split
      simpa using first
    | cons r front =>
      obtain ⟨rfl, rest⟩ := List.cons.inj split
      rw [List.any_cons, ← Bool.or_assoc]
      exact others front q back rest

/-- Some declarations are read exactly if each of them declares a parameter, and the kinds are
allowed at their places. -/
theorem readAll_eq_ok_iff_arranged : readAll afterVariadic texts = .ok ps ↔
    List.Forall₂ Declares ps texts ∧ Arranged afterVariadic ps := by
  induction texts generalizing afterVariadic ps with
  | nil =>
    rw [readAll, List.forall₂_nil_right_iff]
    constructor
    · intro h
      obtain rfl := Except.ok.inj h
      exact ⟨rfl, arranged_nil _⟩
    · rintro ⟨rfl, -⟩
      rfl
  | cons text rest ih =>
    simp only [readAll, bind_eq_ok_iff, read_eq_ok_iff, ih]
    constructor
    · rintro ⟨p, ⟨declared, allowed⟩, others, ⟨declares, arranged⟩, same⟩
      obtain rfl := Except.ok.inj same
      exact ⟨.cons declared declares, arranged_cons_iff.2 ⟨allowed, arranged⟩⟩
    · rintro ⟨declares, arranged⟩
      cases declares with
      | cons declared declares =>
        obtain ⟨allowed, arranged⟩ := arranged_cons_iff.1 arranged
        exact ⟨_, ⟨declared, allowed⟩, _, ⟨declares, arranged⟩, rfl⟩

/-- Parameters with words for names and canonical types. A variadic parameter stands in front of
none that is passed by position, and in front of each keyword parameter that has no default. -/
structure WellFormed (ps : List Parameter) : Prop where
  named : ∀ p ∈ ps, isName p.name = true
  canonical : ∀ p ∈ ps, p.type.Canonical
  positional : ∀ front p back, ps = front ++ p :: back → p.kind = .positional →
    ∀ q ∈ front, q.kind ≠ .variadic
  keyword : ∀ front p back, ps = front ++ p :: back → p.kind = .keyword false →
    ∃ q ∈ front, q.kind = .variadic

theorem wellFormed_iff : WellFormed ps ↔
    (∀ p ∈ ps, isName p.name = true ∧ p.type.Canonical) ∧ Arranged false ps := by
  have allowed (front : List Parameter) (p : Parameter) :
      Allowed (false || front.any (·.kind == .variadic)) p.kind ↔
        (p.kind = .positional → ∀ q ∈ front, q.kind ≠ .variadic) ∧
          (p.kind = .keyword false → ∃ q ∈ front, q.kind = .variadic) := by
    rcases p.kind with _ | ⟨_ | _⟩ | _ <;> simp [Allowed]
  constructor
  · intro h
    refine ⟨fun p hp => ⟨h.named p hp, h.canonical p hp⟩, fun front p back split => ?_⟩
    exact (allowed front p).2 ⟨h.positional front p back split, h.keyword front p back split⟩
  · rintro ⟨each, arranged⟩
    exact {
      named p hp := (each p hp).1
      canonical p hp := (each p hp).2
      positional front p back split := ((allowed front p).1 (arranged front p back split)).1
      keyword front p back split := ((allowed front p).1 (arranged front p back split)).2 }

/-- A declared parameter has a word for its name and a canonical type. -/
theorem Declares.proper (h : Declares p text) : isName p.name = true ∧ p.type.Canonical := by
  obtain ⟨front, gap, gap', expr, value, whole, blank, named, typed⟩ := h
  exact ⟨named, TypeExpr.canonical_of_read typed⟩

theorem readAll_eq_ok_iff :
    readAll false texts = .ok ps ↔ WellFormed ps ∧ List.Forall₂ Declares ps texts := by
  rw [readAll_eq_ok_iff_arranged, wellFormed_iff]
  constructor
  · rintro ⟨declares, arranged⟩
    have proper : List.Forall₂ (fun p text =>
        (isName p.name = true ∧ p.type.Canonical) ∧ Declares p text) ps texts :=
      declares.imp fun p text declared => ⟨declared.proper, declared⟩
    exact ⟨⟨((List.forall₂_and_left _ _).1 proper).1, arranged⟩, declares⟩
  · rintro ⟨⟨-, arranged⟩, declares⟩
    exact ⟨declares, arranged⟩

/-- The text is the notation of the parameter, which is `name: T`, `*name: T` for a variadic one or
`name: T = None` for one with a default, where `T` is the canonical text of its type. Blanks may
stand around each part. -/
def Written (p : Parameter) (text : String) : Prop :=
  ∃ front afterStar afterName beforeType afterType beforeDefault back : String,
    text = front ++ p.star ++ afterStar ++ p.name ++ afterName ++ ":" ++ beforeType
      ++ p.type.canonical ++ afterType
      ++ (if p.hasDefault then "=" ++ beforeDefault ++ "None" ++ back else "") ∧
    ∀ blanks ∈ [front, afterStar, afterName, beforeType, afterType, beforeDefault, back],
      Text.isAllBlank blanks

/-- The notation of a parameter declares it. -/
theorem Written.declares (h : Written p text) (named : isName p.name = true)
    (canonical : p.type.Canonical) : Declares p text := by
  obtain ⟨front, afterStar, afterName, beforeType, afterType, beforeDefault, back, rfl, blank⟩ := h
  simp only [List.forall_mem_cons, Text.isAllBlank_iff] at blank
  obtain ⟨hfront, hafterStar, hafterName, hbeforeType, hafterType, -⟩ := blank
  have padded : TypeExpr.read (beforeType ++ p.type.canonical ++ afterType) = .ok p.type :=
    (TypeExpr.read_padded_iff hbeforeType hafterType (by simp)).2 canonical.read_canonical
  refine ⟨front, afterStar, afterName, _, beforeDefault ++ "None" ++ back, ?_, ?_, named, padded⟩
  · simp only [String.append_assoc]
  · simp only [Text.isAllBlank_iff]
    exact ⟨hfront, hafterStar, hafterName⟩

/-- **Declarations are read onto exactly the well-formed lists of parameters.** A well-formed list,
each parameter written in its notation with any blanks around the parts, is read as this list. And
what a list of texts is read as is well formed and has one parameter for each text, which declares
it, in order; no other texts are read. That only keyword parameters have defaults is in their
type. -/
theorem readAll_onto_wellFormed :
    (∀ ps texts, WellFormed ps → List.Forall₂ Written ps texts → readAll false texts = .ok ps) ∧
    ∀ texts ps, readAll false texts = .ok ps ↔ WellFormed ps ∧ List.Forall₂ Declares ps texts := by
  refine ⟨fun ps texts formed written => ?_, fun texts ps => readAll_eq_ok_iff⟩
  have proper := (List.forall₂_and_left _ _).2 ⟨(wellFormed_iff.1 formed).1, written⟩
  exact readAll_eq_ok_iff.2 ⟨formed, proper.imp fun p text ⟨⟨named, canonical⟩, here⟩ =>
    here.declares named canonical⟩

/-- A parameter of each kind, those behind the variadic one passed by keyword. -/
def oneOfEachKind : List Parameter :=
  [⟨"name", .named "String", .positional⟩,
   ⟨"sources", .union [.named "String", .named "File"], .variadic⟩,
   ⟨"main_class", .array, .keyword false⟩, ⟨"x", .arrayOf .any, .keyword true⟩]

/-- Their notations, with some blanks. -/
def oneOfEachKindWritten : List String :=
  ["name: String", " * sources :Union[String,File] ", "main_class:\tArray", "x : Array[Any]= None"]

/-- The notations are read, and the parameter behind the variadic one is a keyword parameter. -/
theorem one_of_each_kind_is_read :
    WellFormed oneOfEachKind ∧ List.Forall₂ Written oneOfEachKind oneOfEachKindWritten ∧
      readAll false oneOfEachKindWritten = .ok oneOfEachKind := by
  have formed : WellFormed oneOfEachKind := by
    refine wellFormed_iff.2 ⟨?_, ?_⟩
    · have identifier (name : String) (h : name ∈ ["String", "File"]) :
          TypeExpr.Identifier name := by
        have words : ∀ word ∈ ["String", "File"],
            isName word = true ∧ word ∉ TypeExpr.reserved := by decide
        obtain ⟨word, free⟩ := words name h
        obtain ⟨some_char, chars⟩ := isName_iff.1 word
        exact ⟨some_char, chars, free⟩
      have union : TypeExpr.Flattened (.union [.named "String", .named "File"]) :=
        .union (by decide) (by decide) (by decide) (by
          intro arm harm
          simp only [List.mem_cons, List.not_mem_nil, or_false] at harm
          rcases harm with rfl | rfl <;> exact .named _)
      intro p hp
      simp only [oneOfEachKind, List.mem_cons, List.not_mem_nil, or_false] at hp
      rcases hp with rfl | rfl | rfl | rfl
      · exact ⟨by decide, .named _, fun name hn => identifier name (by simp_all [TypeExpr.names])⟩
      · exact ⟨by decide, union, fun name hn =>
          identifier name (by simpa [TypeExpr.names, TypeExpr.namesOfArms] using hn)⟩
      · exact ⟨by decide, .array, fun name hn => by cases hn⟩
      · exact ⟨by decide, .arrayOf .any, fun name hn => by cases hn⟩
    · simp [oneOfEachKind, arranged_cons_iff, arranged_nil, Allowed]
  have written : List.Forall₂ Written oneOfEachKind oneOfEachKindWritten := by
    refine .cons ?_ (.cons ?_ (.cons ?_ (.cons ?_ .nil)))
    · exact ⟨"", "", "", " ", "", "", "", by decide, by decide⟩
    · exact ⟨" ", " ", " ", "", " ", "", "", by decide, by decide⟩
    · exact ⟨"", "", "", "\t", "", "", "", by decide, by decide⟩
    · exact ⟨"", "", " ", " ", "", " ", "", by decide, by decide⟩
  exact ⟨formed, written, readAll_onto_wellFormed.1 _ _ formed written⟩

end Parameter

end SignatureAudit
