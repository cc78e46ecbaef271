import SignatureAudit.Proofs.Effect
import SignatureAudit.Proofs.Text.Search
import SignatureAudit.Proofs.TypeExpr.Canonical
import SignatureAudit.Signature.Parameter

/-!
# Parameters and their listings

The type of a declared parameter was read, so it is canonical. In a listing, a canonical type is
followed by the end or by a comma and a blank. Neither brackets nor the commas in them matter for
where it ends, because it has no blanks itself. So for given parameters a listing is of one list of
types only (`describeAll_inj`).
-/

namespace SignatureAudit.Parameter

variable {p q : Parameter} {type type' : TypeExpr}

/-! ## What is declared -/

/-- A declaration without marks is one of a positional parameter. -/
theorem read_positional {text before after : String}
    (plain : Text.dropFront? "*" (Text.trim text) = none)
    (cut : Text.cut? ":" (Text.trim text) = some (before, after))
    (named : isName (Text.trim before) = true) (required : Text.cut? "=" after = none)
    (parsed : TypeExpr.read (Text.trim after) = .ok type) :
    read text false = .ok ⟨Text.trim before, type, .positional⟩ := by
  unfold read
  simp only [plain, cut, named, required, parsed]
  rfl

/-- The type of a declared parameter was read. -/
theorem exists_read_type {text : String} {afterVariadic : Bool}
    (declared : read text afterVariadic = .ok p) : ∃ expr, TypeExpr.read expr = .ok p.type := by
  unfold read at declared
  dsimp only at declared
  -- the colon, the name, the type and the marks are judged in this order
  split at declared
  · cases declared
  split at declared
  · cases declared
  split at declared
  · cases declared
  next parsed =>
    split at declared
    · cases declared
    · rw [← Except.ok.inj declared]
      exact ⟨_, parsed⟩

/-- Each of some declared parameters was read from one of the declarations. -/
theorem exists_read_of_mem {texts : List String} {afterVariadic : Bool} {params : List Parameter}
    (declared : readAll afterVariadic texts = .ok params) (hp : p ∈ params) :
    ∃ text later, read text later = .ok p := by
  induction texts generalizing afterVariadic params with
  | nil =>
    rw [readAll] at declared
    rw [← Except.ok.inj declared] at hp
    cases hp
  | cons text rest ih =>
    rw [readAll, bind_eq_ok_iff] at declared
    obtain ⟨first, read, declared⟩ := declared
    rw [bind_eq_ok_iff] at declared
    obtain ⟨others, reads, same⟩ := declared
    rw [← Except.ok.inj same] at hp
    rcases List.mem_cons.1 hp with rfl | hp
    · exact ⟨text, afterVariadic, read⟩
    · exact ih reads hp

/-! ## Listings -/

/-- What stands in front of the type in a listing. -/
def lead (p : Parameter) : List Char :=
  match p.kind with
  | .keyword _ => (p.name ++ " : ").toList
  | .variadic => ['*']
  | .positional => []

theorem toList_describe (p : Parameter) (type : TypeExpr) :
    (p.describe type).toList = p.lead ++ type.canonical.toList := by
  rw [describe, lead]
  cases p.kind with
  | keyword hasDefault => simp
  | variadic => simp
  | positional => rfl

theorem toList_describeAll (args : List (Parameter × TypeExpr)) :
    (describeAll args).toList
      = [',', ' '].intercalate (args.map fun arg => arg.1.lead ++ arg.2.canonical.toList) := by
  rw [describeAll, String.toList_intercalate, List.map_map]
  congr 1
  exact List.map_congr_left fun arg _ => toList_describe arg.1 arg.2

/-- What follows a canonical type and a comma starts at the first blank. -/
theorem canonical_append_inj {rest rest' : List Char} (canonical : type.Canonical)
    (canonical' : type'.Canonical)
    (same : type.canonical.toList ++ ',' :: ' ' :: rest
      = type'.canonical.toList ++ ',' :: ' ' :: rest') : type = type' ∧ rest = rest' := by
  have solid {t : TypeExpr} (ht : t.Canonical) : ' ' ∉ t.canonical.toList ++ [','] := by
    intro blank
    rcases List.mem_append.1 blank with blank | comma
    · have := ht.not_blank blank
      revert this
      decide
    · exact absurd (List.mem_singleton.1 comma) (by decide)
  have cut := Text.cutsFirst_of_notMem (solid canonical) rest
  have cut' := Text.cutsFirst_of_notMem (solid canonical') rest'
  rw [List.append_assoc, List.singleton_append] at cut cut'
  rw [same] at cut
  obtain ⟨text, behind⟩ := cut.unique cut'
  exact ⟨canonical.canonical_inj canonical' (String.toList_inj.1 (List.append_cancel_right text)),
    behind⟩

/-- For given parameters, a listing is of one list of canonical types only. -/
theorem describeAll_inj {args args' : List (Parameter × TypeExpr)}
    (params : args.map Prod.fst = args'.map Prod.fst)
    (canonical : ∀ arg ∈ args, arg.2.Canonical) (canonical' : ∀ arg ∈ args', arg.2.Canonical)
    (texts : describeAll args = describeAll args') : args = args' := by
  rw [← String.toList_inj, toList_describeAll, toList_describeAll] at texts
  induction args generalizing args' with
  | nil => exact (List.map_eq_nil_iff.1 params.symm).symm
  | cons arg rest ih =>
    obtain ⟨⟨p, type'⟩, rest', rfl, same, others⟩ := List.map_eq_cons_iff.1 params.symm
    obtain ⟨_, type⟩ := arg
    subst same
    obtain ⟨here, later⟩ := List.forall_mem_cons.1 canonical
    obtain ⟨here', later'⟩ := List.forall_mem_cons.1 canonical'
    cases rest with
    | nil =>
      obtain rfl := List.map_eq_nil_iff.1 others
      have text : type.canonical.toList = type'.canonical.toList := by simpa using texts
      have type_eq : type = type' := here.canonical_inj here' (String.toList_inj.1 text)
      rw [type_eq]
    | cons next rest =>
      obtain ⟨next', rest', rfl, -, -⟩ := List.map_eq_cons_iff.1 others
      -- what stands in front of the first type is the same in both listings
      simp only [List.map_cons, List.intercalate_cons_cons, List.append_assoc,
        List.append_cancel_left_eq, List.cons_append, List.nil_append] at texts
      obtain ⟨type_eq, behind⟩ : type = type' ∧ _ := canonical_append_inj here here' texts
      rw [type_eq, ih others.symm later later' behind]

end SignatureAudit.Parameter
