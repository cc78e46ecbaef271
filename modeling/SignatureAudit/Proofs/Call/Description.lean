import SignatureAudit.Proofs.Call.Enumeration
import SignatureAudit.Proofs.Signature.Parameter
import Mathlib.Data.List.GetD
import Mathlib.Data.List.Nodup

/-!
# Combinations are told apart by their descriptions

Where no argument can be left out, a combination has one argument for every parameter, and what it
says of each is the type that stands for the chosen arm. Different arms are different types, as
unions are read, and all stand for themselves but the unconstrained one, which stands for a number.
So different choices give different arguments unless a union has the arm `Any` and the arm `Number`
(`chosenTypes_inj`), and the description tells these arguments apart (`Parameter.describeAll_inj`).

Main result:

> `descriptions_identify_combinations`: under these conditions no two combinations are the same, and
> no two have the same description.
-/

namespace SignatureAudit

/-- The arms of the type stand for arguments, no two of them for the same. -/
structure TypeExpr.ArmsApart (t : TypeExpr) : Prop where
  present : .none ∉ t.arms
  one_number : ¬(.any ∈ t.arms ∧ .named "Number" ∈ t.arms)

namespace TypeExpr

variable {s t arm : TypeExpr}

theorem ArmsApart.concrete_inj (apart : t.ArmsApart) {arm arm' : TypeExpr} (harm : arm ∈ t.arms)
    (harm' : arm' ∈ t.arms) (same : arm.concrete = arm'.concrete) : arm = arm' := by
  rw [concrete, concrete] at same
  split at same
  · next free =>
    split at same
    · next free' => rw [free, free']
    · -- an arm that is a number stands next to the unconstrained one
      rw [standIn] at same
      exact absurd ⟨free ▸ harm, same ▸ harm'⟩ apart.one_number
  · split at same
    · next free' =>
      rw [standIn] at same
      exact absurd ⟨free' ▸ harm', same ▸ harm⟩ apart.one_number
    · exact same

theorem canonical_standIn : Canonical standIn := by
  refine ⟨.named _, ?_⟩
  intro name hn
  rw [List.mem_singleton.1 hn]
  have chars : "Number".toList.all isWordChar = true := by decide
  exact ⟨by decide, List.all_eq_true.1 chars, by decide⟩

theorem Canonical.concrete (canonical : t.Canonical) : t.concrete.Canonical := by
  rw [TypeExpr.concrete]
  split
  · exact canonical_standIn
  · exact canonical

/-- The arms of a type that was read are all different. -/
theorem Flattened.nodup_arms (flat : Flattened t) : t.arms.Nodup := by
  cases flat with
  | union several different plain flat => exact different
  | _ => exact List.nodup_singleton _

end TypeExpr

/-- Where all chosen types are present, each is passed. -/
theorem argumentsOf_of_present {chosen : List ChosenType} (present : ∀ q ∈ chosen, q.2 ≠ .none) :
    argumentsOf chosen = chosen.map fun q => ⟨q.1, q.2.concrete⟩ := by
  induction chosen using List.reverseRecOn with
  | nil => rfl
  | append_singleton front last ih =>
    obtain ⟨before, here⟩ := List.forall_mem_append.1 present
    rw [List.forall_mem_singleton] at here
    rw [Combination.argumentsOf_concat, if_pos ⟨here, .inr before⟩, ih before, List.map_append]
    rfl

namespace Signature

variable {params : List Parameter} {choice choice' : List Nat}

theorem map_fst_chosenTypes (h : IsChoice params choice) :
    (chosenTypes params choice).map Prod.fst = params := by
  induction h with
  | nil => rfl
  | cons _ _ ih => exact congrArg (_ :: ·) ih

theorem mem_arms_of_mem_chosenTypes (h : IsChoice params choice) {q : ChosenType}
    (hq : q ∈ chosenTypes params choice) : q.1 ∈ params ∧ q.2 ∈ q.1.type.arms := by
  induction h with
  | nil => cases hq
  | @cons p i _ _ inside _ ih =>
    rcases List.mem_cons.1 hq with rfl | hq
    · refine ⟨List.mem_cons_self, ?_⟩
      show p.type.arms.getD i .none ∈ p.type.arms
      rw [List.getD_eq_getElem _ _ inside]
      exact List.getElem_mem inside
    · exact ⟨List.mem_cons_of_mem _ (ih hq).1, (ih hq).2⟩

/-- Different choices choose different arguments. -/
theorem chosenTypes_inj (different : ∀ p ∈ params, p.type.arms.Nodup)
    (apart : ∀ p ∈ params, p.type.ArmsApart) (h : IsChoice params choice)
    (h' : IsChoice params choice')
    (same : (chosenTypes params choice).map (·.2.concrete)
      = (chosenTypes params choice').map (·.2.concrete)) : choice = choice' := by
  induction h generalizing choice' with
  | nil =>
    cases h'
    rfl
  | @cons p i _ _ inside _ ih =>
    obtain ⟨different, others_different⟩ := List.forall_mem_cons.1 different
    obtain ⟨apart, others_apart⟩ := List.forall_mem_cons.1 apart
    cases h' with
    | @cons _ j _ _ inside' others' =>
      obtain ⟨here, later⟩ := List.cons.inj same
      simp only [List.getD_eq_getElem _ _ inside, List.getD_eq_getElem _ _ inside'] at here
      have arm := apart.concrete_inj (List.getElem_mem inside) (List.getElem_mem inside') here
      rw [different.getElem_inj_iff] at arm
      rw [arm, ih others_different others_apart others' later]

/-! ## Descriptions -/

section
variable {s : Signature}

theorem args_of_choice (apart : ∀ p ∈ s.params, p.type.ArmsApart) (h : IsChoice s.params choice) :
    (Combination.ofChosen (chosenTypes s.params choice)).args
      = (chosenTypes s.params choice).map fun q => ⟨q.1, q.2.concrete⟩ := by
  refine argumentsOf_of_present ?_
  intro q hq absent
  obtain ⟨hp, harm⟩ := mem_arms_of_mem_chosenTypes h hq
  rw [absent] at harm
  exact (apart q.1 hp).present harm

/-- A combination has an argument for every parameter. -/
theorem map_param_args (apart : ∀ p ∈ s.params, p.type.ArmsApart) {c : Combination}
    (hc : c ∈ s.combinations) : c.args.map (·.param) = s.params := by
  rw [combinations_eq_map_choices, List.mem_map] at hc
  obtain ⟨choice, hchoice, rfl⟩ := hc
  rw [mem_choices] at hchoice
  rw [args_of_choice apart hchoice, List.map_map]
  exact map_fst_chosenTypes hchoice

/-- The description lists the chosen types, a number for the unconstrained one. -/
theorem describe_of_choice (apart : ∀ p ∈ s.params, p.type.ArmsApart)
    (h : IsChoice s.params choice) (callable : String) :
    (Combination.ofChosen (chosenTypes s.params choice)).describe callable
      = callable ++ "(" ++ Parameter.describeAll
          ((chosenTypes s.params choice).map fun q => (q.1, q.2.concrete)) ++ ")" := by
  rw [Combination.describe, args_of_choice apart h, List.map_map]
  rfl

/-- Different choices are described differently. -/
theorem describe_inj (canonical : ∀ p ∈ s.params, p.type.Canonical)
    (apart : ∀ p ∈ s.params, p.type.ArmsApart) (h : IsChoice s.params choice)
    (h' : IsChoice s.params choice') (callable : String)
    (same : (Combination.ofChosen (chosenTypes s.params choice)).describe callable
      = (Combination.ofChosen (chosenTypes s.params choice')).describe callable) :
    choice = choice' := by
  rw [describe_of_choice apart h, describe_of_choice apart h', String.append_left_inj,
    String.append_right_inj] at same
  have params {choice : List Nat} (h : IsChoice s.params choice) :
      ((chosenTypes s.params choice).map fun q => (q.1, q.2.concrete)).map Prod.fst = s.params := by
    rw [List.map_map]
    exact map_fst_chosenTypes h
  have shown {choice : List Nat} (h : IsChoice s.params choice) :
      ∀ arg ∈ (chosenTypes s.params choice).map fun q => (q.1, q.2.concrete), arg.2.Canonical := by
    intro arg harg
    obtain ⟨q, hq, rfl⟩ := List.mem_map.1 harg
    obtain ⟨hp, harm⟩ := mem_arms_of_mem_chosenTypes h hq
    exact ((canonical q.1 hp).of_mem_arms harm).concrete
  have listings := Parameter.describeAll_inj ((params h).trans (params h').symm) (shown h)
    (shown h') same
  have types := congrArg (List.map Prod.snd) listings
  rw [List.map_map, List.map_map] at types
  exact chosenTypes_inj (fun p hp => (canonical p hp).flat.nodup_arms) apart h h' types

theorem nodup_map_describe (canonical : ∀ p ∈ s.params, p.type.Canonical)
    (apart : ∀ p ∈ s.params, p.type.ArmsApart) (callable : String) :
    (s.combinations.map (·.describe callable)).Nodup := by
  have once : (choices s.params).Nodup := by
    refine (pairwise_choices s.params).imp ?_
    rintro choice _ earlier rfl
    exact List.lex_irrefl Nat.lt_irrefl choice earlier
  rw [combinations_eq_map_choices, List.map_map]
  refine once.map_on ?_
  intro choice hc choice' hc' same
  exact describe_inj canonical apart (mem_choices.1 hc) (mem_choices.1 hc') callable same

end

/-- **Descriptions identify combinations.** If the parameters were declared, no argument can be left
out and no union has both an unconstrained arm and a number, then every combination has one argument
for each parameter, in the order of the parameters, and no two combinations of the list are the same
or have the same description. -/
theorem descriptions_identify_combinations (s : Signature)
    (declared : ∀ p ∈ s.params, ∃ text afterVariadic, Parameter.read text afterVariadic = .ok p)
    (apart : ∀ p ∈ s.params, p.type.ArmsApart) :
    (∀ c ∈ s.combinations, c.args.map (·.param) = s.params)
      ∧ s.combinations.Nodup
      ∧ ∀ callable, (s.combinations.map (·.describe callable)).Nodup := by
  have canonical : ∀ p ∈ s.params, p.type.Canonical := by
    intro p hp
    obtain ⟨text, afterVariadic, read⟩ := declared p hp
    obtain ⟨expr, read⟩ := Parameter.exists_read_type read
    exact TypeExpr.canonical_of_read read
  have described := nodup_map_describe canonical apart
  exact ⟨fun c hc => map_param_args apart hc, (described "").of_map, described⟩

/-- An unconstrained arm and a number next to it are described alike. -/
example :
    let s : Signature := ⟨"f", none, [⟨"x", .union [.any, .named "Number"], .positional⟩], .none⟩
    s.combinations.map (·.describe "f") = ["f(Number)", "f(Number)"] := by decide

/-- A function with two unions, one of them with an arm that has a comma in its text. -/
def takesUnions : Signature where
  name := "f"
  receiver := none
  params := [⟨"x", .union [.any, .arrayOf (.union [.named "String", .named "File"])], .positional⟩,
    ⟨"y", .union [.named "Number", .named "String"], .positional⟩]
  returns := .none

theorem readAll_takesUnions :
    Parameter.readAll false ["x:Union[Any,Array[Union[String,File]]]", "y:Union[Number,String]"]
      = .ok takesUnions.params := by
  let inner : TypeExpr.Phrase := .union (.name "String" (by decide)) [.name "File" (by decide)]
  let x : TypeExpr.Phrase := .union .any [.arrayOf inner]
  let y : TypeExpr.Phrase := .union (.name "Number" (by decide)) [.name "String" (by decide)]
  have readX : TypeExpr.read "Union[Any,Array[Union[String,File]]]" = .ok x.meaning :=
    TypeExpr.read_eq_ok_iff_exists_phrase.2
      ⟨x, (TypeExpr.spelled_iff fun c => x.stray_not_mem c).2 (by decide), rfl⟩
  have readY : TypeExpr.read "Union[Number,String]" = .ok y.meaning :=
    TypeExpr.read_eq_ok_iff_exists_phrase.2
      ⟨y, (TypeExpr.spelled_iff fun c => y.stray_not_mem c).2 (by decide), rfl⟩
  have cutX : Text.cut? ":" (Text.trim "x:Union[Any,Array[Union[String,File]]]")
      = some ("x", "Union[Any,Array[Union[String,File]]]") := by decide
  have cutY : Text.cut? ":" (Text.trim "y:Union[Number,String]")
      = some ("y", "Union[Number,String]") := by decide
  have first := Parameter.read_positional (by decide) cutX (by decide) (by decide) readX
  have second := Parameter.read_positional (by decide) cutY (by decide) (by decide) readY
  rw [Parameter.readAll, first]
  show (do let ps ← Parameter.readAll false ["y:Union[Number,String]"]; _) = _
  rw [Parameter.readAll, second]
  rfl

/-- Its four combinations are described differently. -/
theorem describe_takesUnions :
    (∀ p ∈ takesUnions.params, p.type.ArmsApart)
      ∧ (takesUnions.combinations.map (·.describe "f"))
        = ["f(Number, Number)", "f(Number, String)", "f(Array[Union[String,File]], Number)",
          "f(Array[Union[String,File]], String)"]
      ∧ (takesUnions.combinations.map (·.describe "f")).Nodup := by
  have apart : ∀ p ∈ takesUnions.params, p.type.ArmsApart :=
    List.forall_mem_cons.2 ⟨⟨by decide, by decide⟩,
      List.forall_mem_singleton.2 ⟨by decide, by decide⟩⟩
  obtain ⟨-, -, described⟩ := descriptions_identify_combinations takesUnions
    (fun _ hp => Parameter.exists_read_of_mem readAll_takesUnions hp) apart
  exact ⟨apart, by decide, described "f"⟩

end Signature

end SignatureAudit
