import SignatureAudit.Proofs.Call.Rendering
import SignatureAudit.Proofs.Call.Script
import SignatureAudit.Proofs.Entries
import SignatureAudit.Proofs.Renumbering

/-!
# Literals in the call or in front of it

A combination is rendered in one of two ways: with setup lines, which assign the literals of its
arguments to variables, or inline, with the literals in the call itself. The two fail alike
(`CallForm.Fails`), and where they do not they agree (`CallForm.Agrees`): the call line with setup
lines becomes the inline line when each variable gives way to the literal that its setup line
assigns to it. The numbers of the names differ, as only the first way draws names for variables. So
the inline line is the one that is rendered from a supply without the names of the variables.

The induction is over the arguments (`exists_fills`). Its hypothesis on the second supply,
`NameSupply.Follows`, is about all names to come: where an argument is not bound, the two supplies
share the names of its literal, and one more name of the first is passed over for its variable.
-/

namespace SignatureAudit

open NameSupply (passOver strictMono_passOver exists_passOver_iff)

/-! ## Operators -/

namespace Operator

/-- The spelling of an operator that reads the arguments by their positions. There is none if a
position is read that is not there. -/
def spellAt? (op : Operator) (receiver : String) (args : List String) : Option String :=
  match op with
  | .binary sign => args[0]?.map fun a => receiver ++ " " ++ sign ++ " " ++ a
  | .getItem => args[0]?.map fun a => receiver ++ "[" ++ a ++ "]"
  | .setItem => args[0]?.bind fun a => args[1]?.map fun b => receiver ++ "[" ++ a ++ "] = " ++ b
  | .contains => args[0]?.map fun a => a ++ " in " ++ receiver

theorem spell_eq_spellAt? {op : Operator} {args : List String} (count : args.length = op.arity)
    (receiver : String) : op.spell receiver args = op.spellAt? receiver args := by
  cases op with
  | setItem =>
    obtain ⟨a, b, rfl⟩ := List.length_eq_two.1 count
    rfl
  | binary _ | getItem | contains =>
    obtain ⟨a, rfl⟩ := List.length_eq_one_iff.1 count
    rfl

end Operator

namespace CallForm

variable {form : CallForm} {templates : Templates} {arg : Argument} {args : List Argument}
  {c : Combination} {missing : Template.Missing} {fault : Fault} {token template : String}

/-- With the right number of arguments, an operator reads only arguments that are there. -/
theorem exists_spellAt {receiver : String} {op : Operator}
    (received : form.receiver = some receiver)
    (operator : Operator.ofName? form.name = some op) {args : List String}
    (count : args.length = op.arity) :
    ∃ call, op.spellAt? receiver args = some call ∧ form.expression args = .ok call := by
  have spelled := (op.spell_isSome_iff receiver args).2 count
  obtain ⟨call, written⟩ := Option.isSome_iff_exists.1 spelled
  refine ⟨call, ?_, ?_⟩
  · rw [← Operator.spell_eq_spellAt? count, written]
  · unfold expression
    simp only [received, operator, written]

/-! ## What goes wrong -/

/-- The argument can be written: it is bound to a token, or it has a template. -/
def Supplied (form : CallForm) (templates : Templates) (arg : Argument) : Prop :=
  (∃ token, form.bound.lookup arg.param.name = some token) ∨
    ∃ template, templates.lookup arg.type (form.context arg.param.name) = .ok template

/-- What is wrong with a combination: the first argument that is not bound and has no template; or
all arguments can be written, but the method is an operator that takes another number of them. -/
inductive Fails (form : CallForm) (templates : Templates) (c : Combination) : Fault → Prop
  | noTemplate {front back : List Argument} {arg : Argument} {missing : Template.Missing}
      (split : c.args = front ++ arg :: back) (supplied : ∀ a ∈ front, form.Supplied templates a)
      (unbound : form.bound.lookup arg.param.name = none)
      (lacks : templates.lookup arg.type (form.context arg.param.name) = .error missing) :
      Fails form templates c (.noTemplate missing)
  | arity {op : Operator} (supplied : ∀ a ∈ c.args, form.Supplied templates a)
      (received : form.receiver.isSome = true) (operator : Operator.ofName? form.name = some op)
      (count : c.args.length ≠ op.arity) :
      Fails form templates c (.arity form.name op.arity c.args.length)

theorem lacks?_eq_some_iff : form.lacks? templates arg = some missing ↔
    form.bound.lookup arg.param.name = none ∧
      templates.lookup arg.type (form.context arg.param.name) = .error missing := by
  unfold lacks?
  cases form.bound.lookup arg.param.name with
  | some token => simp
  | none => cases templates.lookup arg.type (form.context arg.param.name) <;> simp

theorem lacks?_eq_none_iff : form.lacks? templates arg = none ↔ form.Supplied templates arg := by
  unfold lacks? Supplied
  cases form.bound.lookup arg.param.name with
  | some token => simp
  | none => cases templates.lookup arg.type (form.context arg.param.name) <;> simp

theorem miscount?_eq_some_iff {count : Nat} : form.miscount? count = some fault ↔
    ∃ op, form.receiver.isSome = true ∧ Operator.ofName? form.name = some op ∧ count ≠ op.arity ∧
      fault = .arity form.name op.arity count := by
  unfold miscount?
  cases form.receiver with
  | none => simp
  | some receiver =>
    cases Operator.ofName? form.name with
    | none => simp
    | some op =>
      by_cases right : count = op.arity
      · simp [right]
      · simp [right, eq_comm]

theorem fault?_eq_some_iff :
    form.fault? templates c = some fault ↔ form.Fails templates c fault := by
  unfold fault?
  constructor
  · intro found
    cases lacks : c.args.findSome? (form.lacks? templates) with
    | some missing =>
      rw [lacks] at found
      obtain rfl := Option.some.inj found
      obtain ⟨front, arg, back, split, first, before⟩ := List.findSome?_eq_some_iff.1 lacks
      obtain ⟨unbound, missed⟩ := lacks?_eq_some_iff.1 first
      exact .noTemplate split (fun a ha => lacks?_eq_none_iff.1 (before a ha)) unbound missed
    | none =>
      rw [lacks] at found
      obtain ⟨op, received, operator, count, rfl⟩ := miscount?_eq_some_iff.1 found
      rw [List.findSome?_eq_none_iff] at lacks
      exact .arity (fun a ha => lacks?_eq_none_iff.1 (lacks a ha)) received operator count
  · intro fails
    cases fails with
    | @noTemplate front back arg missing split supplied unbound missed =>
      have lacks : c.args.findSome? (form.lacks? templates) = some missing :=
        List.findSome?_eq_some_iff.2 ⟨front, arg, back, split,
          lacks?_eq_some_iff.2 ⟨unbound, missed⟩, fun a ha => lacks?_eq_none_iff.2 (supplied a ha)⟩
      rw [lacks]
    | @arity op supplied received operator count =>
      have lacks : c.args.findSome? (form.lacks? templates) = none :=
        List.findSome?_eq_none_iff.2 fun a ha => lacks?_eq_none_iff.2 (supplied a ha)
      rw [lacks]
      exact miscount?_eq_some_iff.2 ⟨op, received, operator, count, rfl⟩

/-- Rendering fails with what is wrong with the combination, wherever the literals stand and
whichever names are drawn. -/
theorem run_render_eq_error_iff {returnAs : Option String} {inline : Bool} {n : NameSupply} :
    (runOn (form.render templates c returnAs inline) n).1 = .error fault ↔
      form.Fails templates c fault := by
  rw [← fault?_eq_some_iff]
  constructor
  · intro failed
    cases found : form.fault? templates c with
    | none =>
      obtain ⟨lines, rendered⟩ := exists_render found returnAs inline n
      rw [rendered] at failed
      cases failed
    | some other =>
      rw [render_fault found] at failed
      rw [Except.error.inj failed]
  · intro found
    exact render_fault found returnAs inline n

theorem fault?_eq_none_of_run_render {returnAs : Option String} {inline : Bool} {n : NameSupply}
    {lines : List String}
    (rendered : (runOn (form.render templates c returnAs inline) n).1 = .ok lines) :
    form.fault? templates c = none := by
  cases found : form.fault? templates c with
  | none => rfl
  | some fault =>
    rw [render_fault found] at rendered
    cases rendered

/-! ## Tokens of arguments -/

theorem run_token_bound (given : form.bound.lookup arg.param.name = some token) (inline : Bool)
    (n : NameSupply) : runOn (form.token templates inline arg) n = (.ok ([], token), n) := by
  unfold CallForm.token
  rw [given]
  rfl

section

variable (unbound : form.bound.lookup arg.param.name = none)
  (found : templates.lookup arg.type (form.context arg.param.name) = .ok template)

include unbound found

/-- Inline, the token is the literal. -/
theorem run_token_inline (n : NameSupply) :
    runOn (form.token templates true arg) n
      = (.ok ([], ((templates.expand template).run n).1),
        n.behind (Template.freshCount template)) := by
  have left := (Template.reads_expand templates.directory template).left n
  unfold CallForm.token Templates.resolve
  rw [unbound, found, ← left]
  rfl

/-- With setup lines, the token is the name that comes behind those of the literal. -/
theorem run_token_setup (n : NameSupply) :
    let var := n.name (n.drawn + Template.freshCount template)
    runOn (form.token templates false arg) n
      = (.ok ([Audit.assign var ((templates.expand template).run n).1], var),
        n.behind (Template.freshCount template + 1)) := by
  intro var
  have left := (Template.reads_expand templates.directory template).left n
  have drawn : Naming.draw.run ((templates.expand template).run n).2
      = (var, n.behind (Template.freshCount template + 1)) := by
    unfold Templates.expand
    rw [left]
    rfl
  have ran : runOn (form.token templates false arg) n
      = (.ok ([Audit.assign (Naming.draw.run ((templates.expand template).run n).2).1
          ((templates.expand template).run n).1],
          (Naming.draw.run ((templates.expand template).run n).2).1),
        (Naming.draw.run ((templates.expand template).run n).2).2) := by
    unfold CallForm.token Templates.resolve
    rw [unbound, found]
    rfl
  rw [ran, drawn]

end

/-! ## The arguments of a call -/

/-- Where the value of an argument comes from when there are setup lines: a bound argument has its
token. Any other has a variable, whose literal is its template expanded from some draw on; the
variable has the name that is drawn next. -/
inductive Sourced (form : CallForm) (templates : Templates) (n : NameSupply) (arg : Argument) :
    ArgumentSource → Prop
  | bound {token : String} (given : form.bound.lookup arg.param.name = some token) :
    Sourced form templates n arg (.passed token .direct)
  | unbound {template : String} {draw : Nat} (free : form.bound.lookup arg.param.name = none)
    (found : templates.lookup arg.type (form.context arg.param.name) = .ok template)
    (later : n.drawn ≤ draw) :
    Sourced form templates n arg (.kept (n.name (draw + Template.freshCount template))
      ((templates.expand template).run { n with drawn := draw }).1)

theorem Sourced.of_behind {n : NameSupply} {count : Nat} {source : ArgumentSource}
    (h : form.Sourced templates (n.behind count) arg source) :
    form.Sourced templates n arg source := by
  cases h with
  | bound given => exact .bound given
  | unbound free found later =>
    rw [NameSupply.drawn_behind] at later
    exact .unbound free found (by omega)

end CallForm

/-- What a setup line assigns for an argument: a literal to a variable. -/
def ArgumentSource.assigned? : ArgumentSource → Option (String × String)
  | .kept var literal => some (var, literal)
  | .passed .. | .inline _ => none

/-- How the value is written when variables give way to their literals. -/
def ArgumentSource.value : ArgumentSource → String
  | .kept _ literal => literal
  | .passed var fit => Audit.passed var fit
  | .inline literal => literal

/-- How the value is written when a variable gives way to what setup lines assign to it. -/
def ArgumentSource.substituted (assignments : List (String × String)) : ArgumentSource → String
  | .kept var _ => (assignments.lookup var).getD var
  | .passed var fit => Audit.passed var fit
  | .inline literal => literal

namespace WrittenCall

/-- What the setup lines of a call assign, in their order. -/
def assignments (call : WrittenCall) : List (String × String) :=
  call.args.filterMap (·.2.assigned?)

/-- The texts of the setup lines of a call. -/
def setupTexts (call : WrittenCall) : List String :=
  call.assignments.map fun (var, literal) => Audit.assign var literal

/-- The arguments with the literals in the place of the variables. -/
def literals (call : WrittenCall) : List String :=
  call.args.map fun (arg, source) => CallForm.written arg source.value

/-- The arguments of the call line, each variable of a setup line replaced by its literal. -/
def substituted (call : WrittenCall) : List String :=
  call.args.map fun (arg, source) =>
    CallForm.written arg (source.substituted call.assignments)

theorem kept_eq (call : WrittenCall) : call.kept = call.assignments.map (·.1) := by
  unfold kept assignments
  rw [List.map_filterMap]
  congr 1
  funext ⟨_, source⟩
  cases source <;> rfl

/-- Of different variables, each finds its own literal. -/
theorem substituted_eq_literals {call : WrittenCall} (different : call.kept.Nodup) :
    call.substituted = call.literals := by
  unfold substituted literals
  refine List.map_congr_left fun entry hentry => ?_
  obtain ⟨arg, source⟩ := entry
  cases source with
  | passed _ _ | inline _ => rfl
  | kept var literal =>
    have among : (var, literal) ∈ call.assignments := List.mem_filterMap.2 ⟨_, hentry, rfl⟩
    rw [kept_eq] at different
    have found := lookup_eq_some_of_mem different among
    show CallForm.written arg ((call.assignments.lookup var).getD var) = _
    rw [found, Option.getD_some]
    rfl

end WrittenCall

/-- The names to come of the second supply are those of the first, less those of some numbers. -/
def NameSupply.Follows (n m : NameSupply) (numbers : List Nat) : Prop :=
  ∀ i, m.name (m.drawn + i) = n.name (passOver numbers (n.drawn + i))

namespace CallForm

/-- The arguments are written in both ways: with variables, whose names have these numbers, and from
a supply without these names with the literals themselves. -/
structure Fills (form : CallForm) (templates : Templates) (n : NameSupply) (args : List Argument)
    (returnAs : Option String) (call : WrittenCall) (numbers : List Nat) (count : Nat) : Prop where
  sources : ∀ entry ∈ call.args, form.Sourced templates n entry.1 entry.2
  kept : call.kept = numbers.map n.name
  ascending : numbers.Pairwise (· < ·)
  within : ∀ i ∈ numbers, n.drawn ≤ i ∧ i < n.drawn + count
  assigned : runOn (form.arguments templates false args) n
    = (.ok (call.setupTexts, call.written), n.behind count)
  inline : ∀ m, n.Follows m numbers →
    ∃ m', runOn (form.arguments templates true args) m = (.ok ([], call.literals), m')
  form : call.form = form
  args : call.args.map (·.1) = args
  returnAs : call.returnAs = returnAs

namespace Fills

variable {form : CallForm} {templates : Templates} {n : NameSupply} {arg : Argument}
  {args : List Argument} {returnAs : Option String} {call : WrittenCall} {numbers : List Nat}
  {count : Nat} {token template : String}

theorem nil (form : CallForm) (templates : Templates) (n : NameSupply) (returnAs : Option String) :
    Fills form templates n [] returnAs ⟨form, [], returnAs⟩ [] 0 where
  form := rfl
  args := rfl
  returnAs := rfl
  sources := List.forall_mem_nil _
  kept := rfl
  ascending := .nil
  within := List.forall_mem_nil _
  assigned := rfl
  inline m _ := ⟨m, rfl⟩

/-- A bound argument has its token in both ways, and draws no name in either. -/
theorem cons_bound (h : Fills form templates n args returnAs call numbers count)
    (given : form.bound.lookup arg.param.name = some token) :
    Fills form templates n (arg :: args) returnAs
      { call with args := (arg, .passed token .direct) :: call.args } numbers count where
  form := h.form
  args := by rw [List.map_cons, h.args]
  returnAs := h.returnAs
  sources := List.forall_mem_cons.2 ⟨.bound given, h.sources⟩
  kept := h.kept
  ascending := h.ascending
  within := h.within
  assigned := by
    unfold CallForm.arguments
    rw [runOn_bind_ok (run_token_bound given false n), runOn_bind_ok h.assigned]
    rfl
  inline m follows := by
    obtain ⟨m', rest⟩ := h.inline m follows
    refine ⟨m', ?_⟩
    unfold CallForm.arguments
    rw [runOn_bind_ok (run_token_bound given true m), runOn_bind_ok rest]
    rfl

/-- Any other argument has the same literal in both ways. Behind it, the name of its variable is
passed over. -/
theorem cons_unbound (free : form.bound.lookup arg.param.name = none)
    (found : templates.lookup arg.type (form.context arg.param.name) = .ok template)
    (h : Fills form templates (n.behind (Template.freshCount template + 1)) args returnAs call
      numbers count) :
    Fills form templates n (arg :: args) returnAs
      { call with args := (arg, .kept (n.name (n.drawn + Template.freshCount template))
        ((templates.expand template).run n).1) :: call.args }
      ((n.drawn + Template.freshCount template) :: numbers)
      (Template.freshCount template + 1 + count) where
  form := h.form
  args := by rw [List.map_cons, h.args]
  returnAs := h.returnAs
  sources := by
    refine List.forall_mem_cons.2 ⟨.unbound free found (Nat.le_refl _), fun entry hentry => ?_⟩
    exact (h.sources entry hentry).of_behind
  kept := congrArg (n.name (n.drawn + Template.freshCount template) :: ·) h.kept
  ascending := by
    refine List.pairwise_cons.2 ⟨fun i hi => ?_, h.ascending⟩
    have := (h.within i hi).1
    rw [NameSupply.drawn_behind] at this
    omega
  within := by
    refine List.forall_mem_cons.2 ⟨⟨by omega, by omega⟩, fun i hi => ?_⟩
    have := h.within i hi
    rw [NameSupply.drawn_behind] at this
    omega
  assigned := by
    unfold CallForm.arguments
    rw [runOn_bind_ok (run_token_setup free found n), runOn_bind_ok h.assigned]
    unfold NameSupply.behind
    simp only [Nat.add_assoc]
    rfl
  inline m follows := by
    let k := Template.freshCount template
    -- the names of the literal come in front of the variable, so they are not passed over
    have next : n.SameNext m k := fun i hi => by
      rw [follows i, NameSupply.passOver_of_lt (by omega)]
    have literal : ((templates.expand template).run n).1 = ((templates.expand template).run m).1 :=
      (Template.reads_expand templates.directory template).value n m next
    have rest : (n.behind (k + 1)).Follows (m.behind k) numbers := fun i => by
      have later := follows (k + i)
      rw [NameSupply.passOver_of_le (by omega)] at later
      rw [NameSupply.name_behind, NameSupply.name_behind, NameSupply.drawn_behind,
        NameSupply.drawn_behind, Nat.add_assoc, later]
      congr 2
      omega
    obtain ⟨m', others⟩ := h.inline (m.behind k) rest
    refine ⟨m', ?_⟩
    unfold CallForm.arguments
    rw [runOn_bind_ok (run_token_inline free found m), runOn_bind_ok others, ← literal]
    rfl

end Fills

variable {form : CallForm} {templates : Templates} {c : Combination} {n : NameSupply}
  {returnAs : Option String} {inline : Bool}

/-- Arguments that can be written are written in both ways. -/
theorem exists_fills {args : List Argument} (supplied : ∀ arg ∈ args, form.Supplied templates arg)
    (n : NameSupply) (returnAs : Option String) :
    ∃ call numbers count, Fills form templates n args returnAs call numbers count := by
  induction args generalizing n with
  | nil => exact ⟨_, _, _, .nil form templates n returnAs⟩
  | cons arg rest ih =>
    obtain ⟨first, others⟩ := List.forall_mem_cons.1 supplied
    by_cases bound : ∃ token, form.bound.lookup arg.param.name = some token
    · obtain ⟨token, given⟩ := bound
      obtain ⟨call, numbers, count, fills⟩ := ih others n
      exact ⟨_, _, _, fills.cons_bound given⟩
    · have free : form.bound.lookup arg.param.name = none := by
        rw [Option.eq_none_iff_forall_ne_some]
        exact fun token given => bound ⟨token, given⟩
      obtain ⟨template, found⟩ := first.resolve_left bound
      obtain ⟨call, numbers, count, fills⟩ :=
        ih others (n.behind (Template.freshCount template + 1))
      exact ⟨_, _, _, fills.cons_unbound free found⟩

/-! ## The lines of a call -/

/-- The two ways of rendering a combination agree on a call. Its arguments are those of the
combination: bound ones have their tokens, and each of the others has a variable and a literal. The
variables have the names of some numbers, in the order of the arguments.

With setup lines, there is one of them for each variable, and then the call line. Inline there is
the call line only, in which each variable has given way to the literal of its setup line, provided
that the variables differ; the names in the literals are the same if the names of the variables are
left out of the supply, in which all other names are left in their order. -/
structure Agrees (form : CallForm) (templates : Templates) (c : Combination)
    (returnAs : Option String) (n : NameSupply) (call : WrittenCall) (numbers : List Nat) :
    Prop where
  sources : ∀ entry ∈ call.args, form.Sourced templates n entry.1 entry.2
  kept : call.kept = numbers.map n.name
  ascending : numbers.Pairwise (· < ·)
  drawn : ∀ i ∈ numbers, n.drawn ≤ i ∧
    i < (runOn (form.render templates c returnAs false) n).2.drawn
  others : StrictMono (passOver numbers) ∧ ∀ i, (∃ j, passOver numbers j = i) ↔ i ∉ numbers
  assigned : ∃ text, form.expression call.written = .ok text ∧
    (runOn (form.render templates c returnAs false) n).1
      = .ok (call.setupTexts ++ [line returnAs text])
  inline : call.kept.Nodup → ∃ text, form.expression call.substituted = .ok text ∧
    (runOn (form.render templates c returnAs true) (n.without numbers)).1
      = .ok [line returnAs text]
  form : call.form = form
  args : call.args.map (·.1) = c.args
  returnAs : call.returnAs = returnAs

/-- The variables differ if the names that are drawn do. -/
theorem Agrees.nodup_kept {call : WrittenCall} {numbers : List Nat}
    (h : form.Agrees templates c returnAs n call numbers)
    (distinct : ∀ i j, n.drawn ≤ i → i < j →
      j < (runOn (form.render templates c returnAs false) n).2.drawn → n.name i ≠ n.name j) :
    call.kept.Nodup := by
  rw [h.kept]
  refine List.pairwise_map.2 (h.ascending.imp_of_mem fun hi hj less => ?_)
  exact distinct _ _ (h.drawn _ hi).1 less (h.drawn _ hj).2

theorem run_render_of_arguments {n' : NameSupply} {setup tokens : List String} {text : String}
    (written : runOn (form.arguments templates inline c.args) n = (.ok (setup, tokens), n'))
    (expressed : form.expression tokens = .ok text) :
    runOn (form.render templates c returnAs inline) n
      = (.ok (setup ++ [line returnAs text]), n') := by
  unfold render
  rw [runOn_bind_ok written]
  simp only [expressed]
  rfl

/-- The call is written for as many arguments as it takes. -/
theorem exists_expression {count : Nat} (counted : form.miscount? count = none)
    {tokens : List String} (length : tokens.length = count) :
    ∃ text, form.expression tokens = .ok text := by
  have written := form.expression_eq tokens
  rw [length, counted] at written
  cases expressed : form.expression tokens with
  | ok text => exact ⟨text, rfl⟩
  | error fault =>
    rw [expressed] at written
    cases written

/-- Nothing stands in front of a call whose literals are inline. -/
theorem setup_eq_nil {call : WrittenCall} {vars : List String}
    (allowed : ∀ arg ∈ call.args, arg.2.Allowed vars true) : call.setup = [] := by
  refine List.filterMap_eq_nil_iff.2 fun entry hentry => ?_
  obtain ⟨arg, source⟩ := entry
  have allows := allowed _ hentry
  cases source with
  | kept var literal => cases allows
  | passed _ _ | inline _ => rfl

theorem exists_line_of_render_inline {lines : List String}
    (rendered : (runOn (form.render templates c returnAs true) n).1 = .ok lines) :
    ∃ text, lines = [text] := by
  -- every form passes the tokens that it binds
  have passes : form.Passes (form.bound.map (·.2)) := fun bound hbound =>
    ⟨bound.2, List.mem_map_of_mem hbound, .direct, rfl⟩
  obtain ⟨call, of, texts, -⟩ := exists_render_lines passes (Prod.ext rendered rfl)
  have single : call.lines = [.call call] := by
    rw [WrittenCall.lines, setup_eq_nil of.allowed]
    rfl
  have length := congrArg List.length texts
  rw [single, List.length_map, List.length_map, List.length_singleton] at length
  exact List.length_eq_one_iff.1 length.symm

/-- A combination with which nothing is wrong is rendered in both ways, and these agree. -/
theorem exists_agrees (fine : form.fault? templates c = none) (returnAs : Option String)
    (n : NameSupply) : ∃ call numbers, form.Agrees templates c returnAs n call numbers := by
  unfold fault? at fine
  cases lacks : c.args.findSome? (form.lacks? templates) with
  | some missing =>
    rw [lacks] at fine
    cases fine
  | none =>
    rw [lacks] at fine
    rw [List.findSome?_eq_none_iff] at lacks
    have supplied : ∀ arg ∈ c.args, form.Supplied templates arg := fun arg harg =>
      lacks?_eq_none_iff.1 (lacks arg harg)
    obtain ⟨call, numbers, count, fills⟩ := exists_fills supplied n returnAs
    have length : call.args.length = c.args.length := by rw [← fills.args, List.length_map]
    have written : call.written.length = c.args.length := by
      rw [WrittenCall.written, List.length_map, length]
    have literals : call.literals.length = c.args.length := by
      rw [WrittenCall.literals, List.length_map, length]
    obtain ⟨text, expressed⟩ := exists_expression fine written
    obtain ⟨inlineText, inlined⟩ := exists_expression fine literals
    have assigned : runOn (form.render templates c returnAs false) n
        = (.ok (call.setupTexts ++ [line returnAs text]), n.behind count) :=
      run_render_of_arguments fills.assigned expressed
    obtain ⟨m', unnamed⟩ := fills.inline (n.without numbers) fun _ => rfl
    have others : StrictMono (passOver numbers) ∧
        ∀ i, (∃ j, passOver numbers j = i) ↔ i ∉ numbers :=
      ⟨strictMono_passOver numbers, fun _ => exists_passOver_iff fills.ascending⟩
    refine ⟨call, numbers, fills.sources, fills.kept, fills.ascending, fun i hi => ?_, others,
      ⟨text, expressed, by rw [assigned]⟩, fun different => ⟨inlineText, ?_, ?_⟩, fills.form,
      fills.args, fills.returnAs⟩
    · rw [assigned]
      exact fills.within i hi
    · rw [WrittenCall.substituted_eq_literals different, inlined]
    · rw [run_render_of_arguments unnamed inlined]
      rfl

/-- **Literals inline or in setup lines.** Rendering a combination inline fails if and only if
rendering it with setup lines does, with the same fault, which says what is wrong with the
combination. A wrong number of arguments is found out before an operator reads one that is not
there. What is rendered inline is one line; and if the names that are drawn differ, it is the call
line that stands behind the setup lines, with their literals in the place of their variables. -/
theorem inline_agrees_with_setup (form : CallForm) (templates : Templates) (c : Combination)
    (returnAs : Option String) (n : NameSupply) :
    (∀ inline m fault, (runOn (form.render templates c returnAs inline) m).1 = .error fault ↔
      form.Fails templates c fault) ∧
    (∀ receiver op, form.receiver = some receiver → Operator.ofName? form.name = some op →
      ∀ args, args.length = op.arity →
        ∃ call, op.spellAt? receiver args = some call ∧ form.expression args = .ok call) ∧
    (∀ m lines, (runOn (form.render templates c returnAs true) m).1 = .ok lines →
      ∃ text, lines = [text]) ∧
    ((∃ fault, form.Fails templates c fault) ∨
      ∃ call numbers, form.Agrees templates c returnAs n call numbers ∧
        ((∀ i j, n.drawn ≤ i → i < j →
          j < (runOn (form.render templates c returnAs false) n).2.drawn → n.name i ≠ n.name j) →
          call.kept.Nodup)) := by
  refine ⟨fun inline m fault => run_render_eq_error_iff, ?_, ?_, ?_⟩
  · intro receiver op received operator args count
    exact exists_spellAt received operator count
  · intro m lines rendered
    exact exists_line_of_render_inline rendered
  · cases found : form.fault? templates c with
    | some fault => exact .inl ⟨fault, fault?_eq_some_iff.1 found⟩
    | none =>
      obtain ⟨call, numbers, agrees⟩ := exists_agrees found returnAs n
      exact .inr ⟨call, numbers, agrees, agrees.nodup_kept⟩

/-- A call `f(a, t, k : …)` with one argument of each kind: bound, drawn for, and keyword. -/
def targetCall : Combination where
  args := [⟨⟨"a", .named "String", .positional⟩, .named "String"⟩,
    ⟨⟨"t", .named "Target", .positional⟩, .named "Target"⟩,
    ⟨⟨"k", .named "String", .keyword false⟩, .named "String"⟩]

/-- Templates of which one needs a fresh name. -/
def targetTemplates : Templates where
  defaults := [("String", "'s'"), ("Target", "new($RANDOM_STRING$)")]
  overrides := []

/-- The first name is drawn for the literal of the target in both ways; the names of the variables
are the two behind it. -/
theorem target_is_made_inline :
    let form : CallForm := ⟨"f", none, ["f"], [("a", "obj")]⟩
    let names := NameSupply.ofSeed 0
    let apart := runOn (form.render targetTemplates targetCall none false) names
    (∀ i j, names.drawn ≤ i → i < j → j < apart.2.drawn → names.name i ≠ names.name j) ∧
      apart.1 = .ok [names.name 1 ++ " = new('" ++ names.name 0 ++ "')", names.name 2 ++ " = 's'",
        "f(obj," ++ names.name 1 ++ ",k : " ++ names.name 2 ++ ")"] ∧
      (runOn (form.render targetTemplates targetCall none true) (names.without [1, 2])).1
        = .ok ["f(obj,new('" ++ names.name 0 ++ "'),k : 's')"] ∧
      ∃ call numbers, form.Agrees targetTemplates targetCall none names call numbers ∧
        call.kept.Nodup := by
  intro form names apart
  have few : apart.2.drawn ≤ 52 ^ 10 := by decide
  have distinct : ∀ i j, names.drawn ≤ i → i < j → j < apart.2.drawn →
      names.name i ≠ names.name j := (NameSupply.distinct_ofSeed 0 few).ne
  refine ⟨distinct, by decide +kernel, by decide +kernel, ?_⟩
  obtain ⟨failures, -, -, agree⟩ :=
    inline_agrees_with_setup form targetTemplates targetCall none names
  rcases agree with ⟨fault, fails⟩ | ⟨call, numbers, agrees, differ⟩
  · have failed : apart.1 = .error fault := (failures false names fault).2 fails
    have fine : apart.1.toOption.isSome = true := rfl
    rw [failed] at fine
    cases fine
  · exact ⟨call, numbers, agrees, differ distinct⟩

end CallForm

end SignatureAudit
