import SignatureAudit.Proofs.Call.Inline

/-!
# Which uses of a value are listed

The uses of a value are listed by four recursions: over the methods of its type, the overloads of a
method, the combinations of an overload, and the arguments of a combination. `Catalog.attempts` are
the combinations that are tried, in their order, without rendering any of them. Trying them gives
one answer for each, and `collect` says what becomes of the answers.

That the listing answers with what is collected (`Lists`) holds of no attempt, goes on over one
attempt (`lists_renderAll`), and is handed on where two listings are joined (`Lists.append`). Since
a fault does not depend on the names (`CallForm.run_render`), which attempt ends the listing can be
told without rendering (`collect_tryAll`).
-/

namespace SignatureAudit

open CallForm (Fault)

/-! ## Attempts -/

/-- A combination that is to be called in some form. -/
structure Attempt where
  form : CallForm
  combination : Combination
  deriving DecidableEq, Repr

namespace Attempt

/-- The lines of the attempt, with setup lines and without a variable for its value. -/
def render (a : Attempt) (templates : Templates) : ExceptT Fault Naming (List String) :=
  a.form.render templates a.combination none false

/-- What is wrong with the attempt. -/
def Fails (a : Attempt) (templates : Templates) (fault : Fault) : Prop :=
  a.form.Fails templates a.combination fault

/-- The fault of the attempt that ends a listing: any but a missing template. -/
def ending? (a : Attempt) (templates : Templates) : Option Fault :=
  (a.form.fault? templates a.combination).filter (!·.isMissing)

variable {a : Attempt} {templates : Templates} {fault : Fault}

theorem ending?_eq_some_iff :
    a.ending? templates = some fault ↔ a.Fails templates fault ∧ fault.isMissing = false := by
  unfold ending? Fails
  rw [Option.filter_eq_some_iff, CallForm.fault?_eq_some_iff, Bool.not_eq_true']

theorem ending?_eq_none_iff :
    a.ending? templates = none ↔ ∀ fault, a.Fails templates fault → fault.isMissing = true := by
  rw [Option.eq_none_iff_forall_ne_some]
  refine forall_congr' fun fault => ?_
  rw [ne_eq, ending?_eq_some_iff, not_and, Bool.not_eq_false]

end Attempt

/-- The answers to some attempts, each with the names that those in front of it left. -/
def tryAll (templates : Templates) (attempts : List Attempt) :
    Naming (List (Except Fault (List String))) :=
  attempts.mapM fun a => (a.render templates).run

/-- The lines of an answer; a fault has none. -/
def answerLines (answer : Except Fault (List String)) : List String := answer.toOption.getD []

/-- What a listing makes of some answers: their lines, up to the first fault that is no missing
template. -/
def collect : List (Except Fault (List String)) → Except Fault (List String)
  | [] => .ok []
  | .ok lines :: rest => (collect rest).map (lines ++ ·)
  | .error fault :: rest => if fault.isMissing then collect rest else .error fault

theorem collect_append (front back : List (Except Fault (List String))) :
    collect (front ++ back)
      = (collect front).bind fun lines => (collect back).map (lines ++ ·) := by
  induction front with
  | nil =>
    show collect back = (collect back).map ([] ++ ·)
    cases collect back <;> rfl
  | cons answer rest ih =>
    cases answer with
    | ok lines =>
      rw [List.cons_append, collect, collect, ih]
      cases collect rest with
      | error fault => rfl
      | ok more =>
        cases collect back with
        | error fault => rfl
        | ok last => exact congrArg Except.ok (List.append_assoc lines more last).symm
    | error fault =>
      rw [List.cons_append, collect, collect]
      by_cases missing : fault.isMissing = true
      · rw [if_pos missing, if_pos missing, ih]
      · rw [if_neg missing, if_neg missing]
        rfl

section

variable (templates : Templates) (n : NameSupply)

theorem run_tryAll_cons (a : Attempt) (rest : List Attempt) :
    let first := runOn (a.render templates) n
    let others := (tryAll templates rest).run first.2
    (tryAll templates (a :: rest)).run n = (first.1 :: others.1, others.2) := by
  intro first others
  unfold tryAll
  rw [List.mapM_cons]
  rfl

theorem run_tryAll_append (front back : List Attempt) :
    let first := (tryAll templates front).run n
    let others := (tryAll templates back).run first.2
    (tryAll templates (front ++ back)).run n = (first.1 ++ others.1, others.2) := by
  intro first others
  unfold tryAll
  rw [List.mapM_append]
  rfl

/-- There is one answer for each attempt. It is the attempt rendered with later names, so it is a
fault exactly if something is wrong with the attempt. -/
theorem answers_tryAll (attempts : List Attempt) :
    List.Forall₂ (fun a answer => (∃ m, n.Later m ∧ answer = (runOn (a.render templates) m).1) ∧
        ∀ fault, answer = .error fault ↔ a.Fails templates fault)
      attempts ((tryAll templates attempts).run n).1 := by
  induction attempts generalizing n with
  | nil => exact .nil
  | cons a rest ih =>
    have later : n.Later (runOn (a.render templates) n).2 :=
      (CallForm.draws_render a.form templates a.combination none false).later n
    rw [run_tryAll_cons]
    refine .cons ⟨⟨n, .refl n, rfl⟩, fun fault => CallForm.run_render_eq_error_iff⟩ ?_
    refine (ih (runOn (a.render templates) n).2).imp fun b answer => ?_
    rintro ⟨⟨m, after, rfl⟩, failed⟩
    exact ⟨⟨m, later.trans after, rfl⟩, failed⟩

/-- The listing ends with the first fault that is no missing template, if there is one. -/
theorem collect_tryAll (attempts : List Attempt) :
    collect ((tryAll templates attempts).run n).1
      = match attempts.findSome? (·.ending? templates) with
        | some fault => .error fault
        | none => .ok (((tryAll templates attempts).run n).1.flatMap answerLines) := by
  induction attempts generalizing n with
  | nil => rfl
  | cons a rest ih =>
    -- the rest is tried with the names that the attempt leaves, whatever it answers
    have same : runOn (a.render templates) n
        = runOn (a.form.render templates a.combination none false) n := rfl
    rw [run_tryAll_cons, List.findSome?_cons, Attempt.ending?, same]
    rcases answer : runOn (a.form.render templates a.combination none false) n with
      ⟨fault | lines, m⟩
    · have failed := congrArg Prod.fst answer
      have found : a.form.fault? templates a.combination = some fault :=
        CallForm.fault?_eq_some_iff.2 (CallForm.run_render_eq_error_iff.1 failed)
      by_cases missing : fault.isMissing = true
      · rw [found, Option.filter_some, missing, collect, if_pos missing, ih m]
        rfl
      · rw [Bool.not_eq_true] at missing
        rw [found, Option.filter_some, missing, collect, missing]
        rfl
    · have fine : a.form.fault? templates a.combination = none :=
        CallForm.fault?_eq_none_of_run_render (congrArg Prod.fst answer)
      rw [fine, Option.filter_none, collect, ih m]
      cases rest.findSome? (·.ending? templates) <;> rfl

end

/-! ## The listing -/

/-- The computation tries some attempts in their order and answers with what is collected. Unless a
fault ends it, it leaves the names that the attempts leave. -/
structure Lists (templates : Templates) (attempts : List Attempt)
    (x : ExceptT Fault Naming (List String)) : Prop where
  answer : ∀ n, (runOn x n).1 = collect ((tryAll templates attempts).run n).1
  names : ∀ n lines, (runOn x n).1 = .ok lines →
    (runOn x n).2 = ((tryAll templates attempts).run n).2

variable {templates : Templates}

theorem Lists.nil : Lists templates [] (pure []) := ⟨fun _ => rfl, fun _ _ _ => rfl⟩

theorem Lists.append {front back : List Attempt} {x y : ExceptT Fault Naming (List String)}
    (hx : Lists templates front x) (hy : Lists templates back y) :
    Lists templates (front ++ back) (do let lines ← x; return lines ++ (← y)) := by
  have join (lines : List String) (n : NameSupply) :
      runOn (do return lines ++ (← y)) n = ((runOn y n).1.map (lines ++ ·), (runOn y n).2) :=
    runOn_map (lines ++ ·) y n
  constructor
  · intro n
    have first := hx.answer n
    have left := hx.names n
    rw [runOn_bind, run_tryAll_append, collect_append, ← first]
    rcases ran : runOn x n with ⟨fault | lines, m⟩
    · rfl
    · -- the attempts of the second part start with the names that the first part leaves
      rw [ran] at left
      rw [← left lines rfl, ← hy.answer m]
      exact congrArg Prod.fst (join lines m)
  · intro n listed
    have left := hx.names n
    rw [runOn_bind, run_tryAll_append]
    rcases ran : runOn x n with ⟨fault | lines, m⟩
    · intro whole
      cases whole
    · rw [ran] at left
      have last := hy.names m
      rw [← left lines rfl]
      simp only [join]
      intro whole
      obtain ⟨more, rest, -⟩ := exists_of_map_eq_ok whole
      exact last more rest

/-- One combination in front: its lines come first if it is rendered, it is passed over if it has
no template, and any other fault is the answer. -/
theorem CallForm.run_renderAll_cons (form : CallForm) (templates : Templates) (c : Combination)
    (rest : List Combination) (n : NameSupply) :
    runOn (form.renderAll templates (c :: rest)) n
      = match runOn (form.render templates c none false) n with
        | (.ok lines, m) =>
          ((runOn (form.renderAll templates rest) m).1.map (lines ++ ·),
            (runOn (form.renderAll templates rest) m).2)
        | (.error fault, m) =>
          if fault.isMissing then runOn (form.renderAll templates rest) m
          else (.error fault, m) := by
  rw [renderAll, runOn_bind, runOn_lift_run]
  rcases runOn (form.render templates c none false) n with ⟨fault | lines, m⟩
  · by_cases missing : fault.isMissing = true
    · simp only [if_pos missing]
    · simp only [if_neg missing]
      rfl
  · exact runOn_map (lines ++ ·) (form.renderAll templates rest) m

theorem CallForm.lists_renderAll (form : CallForm) (combinations : List Combination) :
    Lists templates (combinations.map (Attempt.mk form))
      (form.renderAll templates combinations) := by
  induction combinations with
  | nil => exact .nil
  | cons c rest ih =>
    constructor
    · intro n
      rw [run_renderAll_cons, List.map_cons, run_tryAll_cons]
      unfold Attempt.render
      rcases runOn (form.render templates c none false) n with ⟨fault | lines, m⟩
      · rw [collect]
        by_cases missing : fault.isMissing = true
        · simp only [if_pos missing, ih.answer m]
        · simp only [if_neg missing]
      · rw [collect, ← ih.answer m]
    · intro n listed
      rw [run_renderAll_cons, List.map_cons, run_tryAll_cons]
      unfold Attempt.render
      rcases runOn (form.render templates c none false) n with ⟨fault | lines, m⟩
      · by_cases missing : fault.isMissing = true
        · simp only [if_pos missing]
          exact ih.names m listed
        · simp only [if_neg missing]
          intro ended
          cases ended
      · intro whole
        obtain ⟨more, rendered, -⟩ := exists_of_map_eq_ok whole
        exact ih.names m more rendered

namespace MethodRef

/-- What is tried to use some overloads of a method on a variable. -/
def attempts (m : MethodRef) (type receiver : String) (overloads : List Signature) :
    List Attempt :=
  overloads.flatMap fun s =>
    s.combinations.map (Attempt.mk ((CallForm.method s receiver).prefer (m.idOn type)))

theorem lists_usages (m : MethodRef) (type receiver : String) (overloads : List Signature) :
    Lists templates (m.attempts type receiver overloads)
      (m.usages templates type receiver overloads) := by
  induction overloads with
  | nil => exact .nil
  | cons s rest ih => exact (CallForm.lists_renderAll _ s.combinations).append ih

end MethodRef

theorem lists_usagesOf (type receiver : String) (methods : List MethodRef) :
    Lists templates
      ((methods.filter fun m => !m.needsReceiver templates type).flatMap fun m =>
        m.attempts type receiver m.callable.overloads)
      (usagesOf templates type receiver methods) := by
  induction methods with
  | nil => exact .nil
  | cons m rest ih =>
    unfold usagesOf
    by_cases own : m.needsReceiver templates type = true
    · rw [List.filter_cons_of_neg (by rw [own]; decide), if_pos own]
      exact ih
    · rw [if_neg own]
      rw [Bool.not_eq_true] at own
      rw [List.filter_cons_of_pos (by rw [own]; rfl), List.flatMap_cons]
      exact (m.lists_usages type receiver m.callable.overloads).append ih

namespace Catalog

/-- What is tried to use a value of a type: the methods of the type, less those that need a receiver
of their own, with each overload and each combination. -/
def attempts (c : Catalog) (templates : Templates) (type : TypeExpr) (receiver : String) :
    List Attempt :=
  match c.owner? type with
  | none => []
  | some owner =>
    let listed := (c.methodsOf owner.name).filter fun m => !m.needsReceiver templates owner.name
    listed.flatMap fun m => m.attempts owner.name receiver m.callable.overloads

theorem lists_usages (c : Catalog) (type : TypeExpr) (receiver : String) :
    Lists templates (c.attempts templates type receiver) (c.usages templates type receiver) := by
  unfold attempts usages
  cases c.owner? type with
  | none => exact .nil
  | some owner => exact lists_usagesOf owner.name receiver (c.methodsOf owner.name)

end Catalog

/-! ## Methods with a receiver of their own -/

/-- No computation of a text answers with every text. -/
theorem Naming.not_forall_eq_pure (x : Naming String) : ¬ ∀ text : String, x = pure text := by
  intro same
  have answers : ((pure "" : Naming String).run (.ofSeed 0)).1
      = ((pure "a" : Naming String).run (.ofSeed 0)).1 := by
    rw [← same "", ← same "a"]
  exact absurd answers (by decide)

namespace MethodRef

/-- The template of the receiver of a method that needs one of its own: overrides for the method of
the type come before those for the method where it is declared. -/
def ownReceiver? (m : MethodRef) (templates : Templates) (type : String) : Option String :=
  (templates.receiverTemplate? (m.idOn type)).or (templates.receiverTemplate? m.callable.id)

variable (m : MethodRef) (type : String)

theorem needsReceiver_eq (templates : Templates) :
    m.needsReceiver templates type = (m.ownReceiver? templates type).isSome := by
  unfold needsReceiver ownReceiver? Templates.requiresReceiver
  rw [Option.isSome_or]

/-- A method needs a receiver of its own if overrides give one, either for the method of the type or
for the method where it is declared. -/
theorem needsReceiver_iff : m.needsReceiver templates type = true ↔
    ∃ id ∈ [m.idOn type, m.callable.id], ∃ set template,
      templates.overridesOf? id = some set ∧ set.receiver = some template := by
  have required (id : String) : templates.requiresReceiver id = true ↔
      ∃ set template, templates.overridesOf? id = some set ∧ set.receiver = some template := by
    unfold Templates.requiresReceiver Templates.receiverTemplate?
    rw [Option.isSome_iff_exists]
    constructor
    · rintro ⟨template, found⟩
      obtain ⟨set, overrides, given⟩ := Option.bind_eq_some_iff.1 found
      exact ⟨set, template, overrides, given⟩
    · rintro ⟨set, template, overrides, given⟩
      exact ⟨template, Option.bind_eq_some_iff.2 ⟨set, overrides, given⟩⟩
  unfold needsReceiver
  rw [Bool.or_eq_true, required, required, List.exists_mem_cons_iff, List.exists_mem_cons_iff]
  simp only [List.not_mem_nil, false_and, exists_false, or_false]

/-- When the type of a method is audited, the method is called on its own receiver if it needs one,
and on the object else. -/
theorem methodReceiver_eq (a : Audit) (object : String) :
    a.methodReceiver m type object
      = match m.ownReceiver? a.templates type with
        | some template => a.templates.expand template
        | none => pure object := by
  unfold Audit.methodReceiver Templates.receiver? ownReceiver?
  cases a.templates.receiverTemplate? (m.idOn type) with
  | some template => rfl
  | none => cases a.templates.receiverTemplate? m.callable.id <;> rfl

/-- The methods that need a receiver of their own are those that an audit of the type calls on one
literal whatever the object is. -/
theorem needsReceiver_iff_expand (a : Audit) : m.needsReceiver a.templates type = true ↔
    ∃ template, ∀ object, a.methodReceiver m type object = a.templates.expand template := by
  rw [needsReceiver_eq, Option.isSome_iff_exists]
  constructor
  · rintro ⟨template, own⟩
    refine ⟨template, fun object => ?_⟩
    rw [methodReceiver_eq, own]
  · rintro ⟨template, called⟩
    cases own : m.ownReceiver? a.templates type with
    | some template => exact ⟨template, rfl⟩
    | none =>
      refine absurd (fun object => ?_) (Naming.not_forall_eq_pure (a.templates.expand template))
      rw [← called object, methodReceiver_eq, own]

/-- The other methods are those that are called on the object. -/
theorem needsReceiver_eq_false_iff (a : Audit) : m.needsReceiver a.templates type = false ↔
    ∀ object, a.methodReceiver m type object = pure object := by
  rw [needsReceiver_eq, Option.isSome_eq_false_iff, Option.isNone_iff_eq_none]
  constructor
  · intro own object
    rw [methodReceiver_eq, own]
  · intro called
    cases own : m.ownReceiver? a.templates type with
    | none => rfl
    | some template =>
      refine absurd (fun object => ?_) (Naming.not_forall_eq_pure (a.templates.expand template))
      rw [← called object, methodReceiver_eq, own]

end MethodRef

/-! ## The whole listing -/

namespace Catalog

/-- **Uses of a value.** Trying the methods of the type of a value, but those with a receiver of
their own, gives an answer for each combination of each overload. The listing fails with the first
fault that is no missing template. If there is none, it is made up of the lines of all combinations
that are rendered.

The methods that are left out have a receiver in the overrides, for the method of the type or for
the method where it is declared. They are those that an audit of the type calls on one literal, and
the others are those that it calls on the object. -/
theorem usages_complete (c : Catalog) (templates : Templates) (type : TypeExpr) (receiver : String)
    (n : NameSupply) :
    let attempts := c.attempts templates type receiver
    let answers := ((tryAll templates attempts).run n).1
    let listed := (runOn (c.usages templates type receiver) n).1
    List.Forall₂ (fun a answer => (∃ m, n.Later m ∧ answer = (runOn (a.render templates) m).1) ∧
        ∀ fault, answer = .error fault ↔ a.Fails templates fault) attempts answers ∧
    (∀ fault, listed = .error fault ↔
      ∃ front a back, attempts = front ++ a :: back ∧
        (a.Fails templates fault ∧ fault.isMissing = false) ∧
        ∀ b ∈ front, ∀ fault, b.Fails templates fault → fault.isMissing = true) ∧
    (∀ lines, listed = .ok lines ↔
      (∀ a ∈ attempts, ∀ fault, a.Fails templates fault → fault.isMissing = true) ∧
        lines = answers.flatMap answerLines) ∧
    ∀ (m : MethodRef) (owner : String),
      (m.needsReceiver templates owner = true ↔
        ∃ id ∈ [m.idOn owner, m.callable.id], ∃ set template,
          templates.overridesOf? id = some set ∧ set.receiver = some template) ∧
      ∀ a : Audit, a.templates = templates →
        (m.needsReceiver templates owner = true ↔
          ∃ template, ∀ object, a.methodReceiver m owner object = templates.expand template) ∧
        (m.needsReceiver templates owner = false ↔
          ∀ object, a.methodReceiver m owner object = pure object) := by
  intro attempts answers listed
  have whole : listed = match attempts.findSome? (·.ending? templates) with
      | some fault => .error fault
      | none => .ok (answers.flatMap answerLines) :=
    ((c.lists_usages type receiver).answer n).trans (collect_tryAll templates n attempts)
  refine ⟨answers_tryAll templates n attempts, ?_, ?_, ?_⟩
  · intro fault
    have ended : listed = .error fault ↔ attempts.findSome? (·.ending? templates) = some fault := by
      rw [whole]
      cases attempts.findSome? (·.ending? templates) <;> simp
    rw [ended, List.findSome?_eq_some_iff]
    simp only [Attempt.ending?_eq_some_iff, Attempt.ending?_eq_none_iff]
  · intro lines
    have reached : listed = .ok lines ↔ attempts.findSome? (·.ending? templates) = none ∧
        lines = answers.flatMap answerLines := by
      rw [whole]
      cases attempts.findSome? (·.ending? templates) <;> simp [eq_comm]
    rw [reached, List.findSome?_eq_none_iff]
    simp only [Attempt.ending?_eq_none_iff]
  · intro m owner
    refine ⟨m.needsReceiver_iff owner, ?_⟩
    rintro a rfl
    exact ⟨m.needsReceiver_iff_expand owner a, m.needsReceiver_eq_false_iff owner a⟩

end Catalog

end SignatureAudit
