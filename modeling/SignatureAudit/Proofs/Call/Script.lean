import SignatureAudit.Proofs.Effect
import SignatureAudit.Proofs.NameSupply

/-!
# Generated lines and their variables

A generated line is a text. `ScriptLine` keeps what it was made of, so that it can be said which
variable a line assigns and which variables it refers to; `ScriptLine.text` gives the text again.
Lines are closed (`ScriptLine.Closed`) if each refers to variables that stand assigned in front of
it.

What a call form renders is such a script (`CallForm.exists_render_lines`): the lines that assign
the arguments, then the call. The variables of the arguments are drawn for this call, so they are
assigned once and in front of it; other variables are referred to only as the receiver of the form
and where the form passes a variable.
-/

namespace SignatureAudit

open NameSupply (Drawn)

/-! ## Lines -/

/-- Where the value of an argument comes from. -/
inductive ArgumentSource
  /-- A variable of its own, which a line in front of the call assigns the literal to. -/
  | kept (var literal : String)
  /-- A variable that has its value from elsewhere. -/
  | passed (var : String) (fit : Fit)
  /-- A literal in the call itself. -/
  | inline (literal : String)
  deriving DecidableEq, Repr

namespace ArgumentSource

/-- How the value is written in the call. -/
def token : ArgumentSource → String
  | .kept var _ => var
  | .passed var fit => Audit.passed var fit
  | .inline literal => literal

/-- The variable that the token refers to. -/
def var? : ArgumentSource → Option String
  | .kept var _ | .passed var _ => some var
  | .inline _ => none

/-- The variable that is assigned for this argument. -/
def kept? : ArgumentSource → Option String
  | .kept var _ => some var
  | .passed .. | .inline _ => none

/-- Only some variables are passed, and literals stand in the calls only where calls are inline. -/
def Allowed (vars : List String) (inline : Bool) : ArgumentSource → Prop
  | .kept .. => inline = false
  | .passed var _ => var ∈ vars
  | .inline _ => inline = true

end ArgumentSource

/-- A call with what it is written with. -/
structure WrittenCall where
  form : CallForm
  args : List (Argument × ArgumentSource)
  returnAs : Option String
  deriving DecidableEq, Repr

/-- A generated line. -/
inductive ScriptLine
  | assign (var literal : String)
  | call (call : WrittenCall)
  deriving DecidableEq, Repr

/-- The line that is written for an argument. -/
def ArgumentSource.line? : ArgumentSource → Option ScriptLine
  | .kept var literal => some (.assign var literal)
  | .passed .. | .inline _ => none

namespace WrittenCall

/-- The arguments as they stand in the call. -/
def written (c : WrittenCall) : List String :=
  c.args.map fun (arg, source) => CallForm.written arg source.token

/-- The variables that are assigned for the arguments. -/
def kept (c : WrittenCall) : List String := c.args.filterMap (·.2.kept?)

/-- The lines that assign the arguments. -/
def setup (c : WrittenCall) : List ScriptLine := c.args.filterMap (·.2.line?)

/-- All lines of a call. -/
def lines (c : WrittenCall) : List ScriptLine := c.setup ++ [.call c]

/-- The call is one of a signature, with the arguments of one of its combinations. -/
def Calls (s : Signature) (c : WrittenCall) : Prop :=
  c.form.name = s.name ∧ ∃ combination ∈ s.combinations, c.args.map (·.1) = combination.args

end WrittenCall

namespace ScriptLine

/-- The text of a line. -/
def text : ScriptLine → Except CallForm.Fault String
  | .assign var literal => .ok (Audit.assign var literal)
  | .call c => (c.form.expression c.written).map (CallForm.line c.returnAs)

/-- The lines have these texts. -/
def Texts (lines : List ScriptLine) (texts : List String) : Prop :=
  lines.map text = texts.map .ok

/-- The variable that a line assigns. -/
def assigned? : ScriptLine → Option String
  | .assign var _ => some var
  | .call c => c.returnAs

/-- The variables that some lines assign, in their order. -/
def assigned (lines : List ScriptLine) : List String := lines.filterMap assigned?

/-- The variables that a line refers to: the receiver of a call, then its arguments. -/
def refers : ScriptLine → List String
  | .assign .. => []
  | .call c => c.form.receiver.toList ++ c.args.filterMap (·.2.var?)

/-- Each line refers to the given variables and to those that the lines in front of it assign. -/
def Closed (known : List String) : List ScriptLine → Prop
  | [] => True
  | line :: rest => line.refers ⊆ known ∧ Closed (known ++ line.assigned?.toList) rest

variable {known : List String} {front back : List ScriptLine} {texts texts' : List String}

theorem Texts.append (hfront : Texts front texts) (hback : Texts back texts') :
    Texts (front ++ back) (texts ++ texts') := by
  rw [Texts, List.map_append, List.map_append, hfront, hback]

@[simp] theorem assigned_nil : assigned [] = [] := rfl

@[simp] theorem assigned_append (front back : List ScriptLine) :
    assigned (front ++ back) = assigned front ++ assigned back := List.filterMap_append

theorem filterMap_cons_toList {α β : Type} (f : α → Option β) (a : α) (rest : List α) :
    (a :: rest).filterMap f = (f a).toList ++ rest.filterMap f := by
  rw [List.filterMap_cons]
  cases f a <;> rfl

theorem assigned_cons (line : ScriptLine) (rest : List ScriptLine) :
    assigned (line :: rest) = line.assigned?.toList ++ assigned rest :=
  filterMap_cons_toList assigned? line rest

theorem closed_append :
    Closed known (front ++ back) ↔ Closed known front ∧ Closed (known ++ assigned front) back := by
  induction front generalizing known with
  | nil => simp [Closed]
  | cons line rest ih =>
    rw [List.cons_append, Closed, Closed, ih, assigned_cons, List.append_assoc, and_assoc]

/-- In closed lines, a line refers to what stands in front of it. -/
theorem Closed.refers_subset {line : ScriptLine} (h : Closed known (front ++ line :: back)) :
    line.refers ⊆ known ++ assigned front := (closed_append.1 h).2.1

/-- More may be known. -/
theorem Closed.mono {more : List String} {lines : List ScriptLine} (subset : known ⊆ more)
    (h : Closed known lines) : Closed more lines := by
  induction lines generalizing known more with
  | nil => trivial
  | cons line rest ih =>
    obtain ⟨refers, closed⟩ := h
    refine ⟨List.Subset.trans refers subset, ih ?_ closed⟩
    exact List.append_subset.2
      ⟨List.subset_append_of_subset_left _ subset, List.subset_append_right _ _⟩

/-- Lines that assign refer to nothing. -/
theorem closed_of_refers_nil {lines : List ScriptLine} (h : ∀ line ∈ lines, line.refers = []) :
    Closed known lines := by
  induction lines generalizing known with
  | nil => trivial
  | cons line rest ih =>
    obtain ⟨first, others⟩ := List.forall_mem_cons.1 h
    exact ⟨by rw [first]; exact List.nil_subset _, ih others⟩

end ScriptLine

open ScriptLine (Closed Texts assigned)

/-! ## The lines of a call -/

namespace WrittenCall

variable {c : WrittenCall} {known : List String}

theorem assigned_setup (c : WrittenCall) : assigned c.setup = c.kept := by
  rw [assigned, setup, List.filterMap_filterMap, kept]
  congr 1
  funext ⟨_, source⟩
  cases source <;> rfl

theorem assigned_lines (c : WrittenCall) : assigned c.lines = c.kept ++ c.returnAs.toList := by
  rw [lines, ScriptLine.assigned_append, assigned_setup, ScriptLine.assigned_cons,
    ScriptLine.assigned_nil, List.append_nil]
  rfl

/-- The lines of a call are closed if the call refers to what is known and to its own variables. -/
theorem closed_lines (h : (ScriptLine.call c).refers ⊆ known ++ c.kept) : Closed known c.lines := by
  rw [lines, ScriptLine.closed_append, assigned_setup]
  refine ⟨ScriptLine.closed_of_refers_nil fun line hline => ?_, h, trivial⟩
  obtain ⟨⟨_, source⟩, -, assigns⟩ := List.mem_filterMap.1 hline
  change source.line? = some line at assigns
  cases source with
  | kept var literal =>
    obtain rfl := Option.some.inj assigns
    rfl
  | passed _ _ | inline _ => cases assigns

/-- The only call among the lines of a call is that call. -/
theorem eq_of_call_mem_lines {c' : WrittenCall} (h : .call c' ∈ c.lines) : c' = c := by
  rcases List.mem_append.1 h with setup | call
  · obtain ⟨⟨_, source⟩, -, line⟩ := List.mem_filterMap.1 setup
    cases source <;> cases line
  · simpa using call

theorem assigned_flatMap_lines {calls : List WrittenCall} (h : ∀ c ∈ calls, c.returnAs = none) :
    assigned (calls.flatMap lines) = calls.flatMap kept := by
  induction calls with
  | nil => rfl
  | cons c rest ih =>
    obtain ⟨first, others⟩ := List.forall_mem_cons.1 h
    rw [List.flatMap_cons, List.flatMap_cons, ScriptLine.assigned_append, assigned_lines, first,
      ih others, Option.toList_none, List.append_nil]

theorem closed_flatMap_lines {calls : List WrittenCall}
    (h : ∀ c ∈ calls, (ScriptLine.call c).refers ⊆ known ++ c.kept) :
    Closed known (calls.flatMap lines) := by
  induction calls with
  | nil => trivial
  | cons c rest ih =>
    obtain ⟨first, others⟩ := List.forall_mem_cons.1 h
    rw [List.flatMap_cons, ScriptLine.closed_append]
    exact ⟨closed_lines first, (ih others).mono (List.subset_append_left _ _)⟩

/-- A call refers to its receiver, to what it passes and to its own variables. -/
theorem refers_subset {vars : List String} {inline : Bool}
    (allowed : ∀ arg ∈ c.args, arg.2.Allowed vars inline) :
    (ScriptLine.call c).refers ⊆ c.form.receiver.toList ++ vars ++ c.kept := by
  intro var hvar
  rcases List.mem_append.1 hvar with receiver | argument
  · simp [receiver]
  · obtain ⟨⟨arg, source⟩, harg, refers⟩ := List.mem_filterMap.1 argument
    have allows := allowed _ harg
    change source.var? = some var at refers
    cases source with
    | kept var' literal =>
      obtain rfl := Option.some.inj refers
      have : var' ∈ c.kept := List.mem_filterMap.2 ⟨_, harg, rfl⟩
      simp [this]
    | passed var' fit =>
      obtain rfl := Option.some.inj refers
      have : var' ∈ vars := allows
      simp [this]
    | inline literal => cases refers

end WrittenCall

/-! ## Rendering -/

/-- What names a computation draws in front of its answer are gone behind it. -/
theorem Naming.Draws.later_of_run {ε α : Type} {x : ExceptT ε Naming α} (hx : Naming.Draws x.run)
    {n n' : NameSupply} {answer : Except ε α} (ran : runOn x n = (answer, n')) : n.Later n' := by
  have later : n.Later (runOn x n).2 := hx.later n
  rwa [ran] at later

/-- The call is written in some form for some arguments: it may pass some variables. -/
structure WrittenCall.Of (form : CallForm) (vars : List String) (inline : Bool)
    (args : List Argument) (returnAs : Option String) (c : WrittenCall) : Prop where
  form : c.form = form
  args : c.args.map (·.1) = args
  returnAs : c.returnAs = returnAs
  allowed : ∀ arg ∈ c.args, arg.2.Allowed vars inline

namespace CallForm

variable {form : CallForm} {templates : Templates} {inline : Bool} {vars : List String}
  {n n' : NameSupply}

/-- Each token that the form binds passes one of some variables. -/
def Passes (form : CallForm) (vars : List String) : Prop :=
  ∀ bound ∈ form.bound, ∃ var ∈ vars, ∃ fit, bound.2 = Audit.passed var fit

theorem passes_of_unbound (unbound : form.bound = []) (vars : List String) : form.Passes vars := by
  rw [Passes, unbound]
  exact List.forall_mem_nil _

@[simp] theorem name_prefer (form : CallForm) (callable : String) :
    (form.prefer callable).name = form.name := by
  rw [prefer]
  split <;> rfl

@[simp] theorem receiver_prefer (form : CallForm) (callable : String) :
    (form.prefer callable).receiver = form.receiver := by
  rw [prefer]
  split <;> rfl

@[simp] theorem bound_prefer (form : CallForm) (callable : String) :
    (form.prefer callable).bound = form.bound := by
  rw [prefer]
  split <;> rfl

/-- An argument is passed, stands in the call or is kept in the next variable. -/
theorem exists_source (passes : form.Passes vars) {arg : Argument} {setup : List String}
    {token : String}
    (ran : runOn (form.token templates inline arg) n = (.ok (setup, token), n')) :
    ∃ source : ArgumentSource, source.token = token ∧ Texts source.line?.toList setup ∧
      Drawn n n' source.kept?.toList ∧ source.Allowed vars inline := by
  rw [CallForm.token] at ran
  cases bound : form.bound.lookup arg.param.name with
  | some passed =>
    rw [bound] at ran
    obtain ⟨⟨rfl, rfl⟩, rfl⟩ : (setup = [] ∧ token = passed) ∧ n' = n := by
      cases ran
      exact ⟨⟨rfl, rfl⟩, rfl⟩
    obtain ⟨front, back, among, -⟩ := List.lookup_eq_some_iff.1 bound
    obtain ⟨var, hvar, fit, same⟩ := passes (arg.param.name, token) (by simp [among])
    exact ⟨.passed var fit, same.symm, rfl, .nil _ _, hvar⟩
  | none =>
    rw [bound] at ran
    obtain ⟨literal, m, resolved, ran⟩ := exists_of_runOn_bind_ok ran
    cases inline with
    | true =>
      cases ran
      exact ⟨.inline token, rfl, rfl, .nil _ _, rfl⟩
    | false =>
      -- the literal may have drawn names of its own before the variable is drawn
      have later : n.Later m := (Naming.Draws.adapt Fault.noTemplate
        (templates.draws_resolve arg.type (form.context arg.param.name))).later_of_run resolved
      cases ran
      exact ⟨.kept _ literal, rfl, rfl, (Drawn.draw m).mono later (.refl _), rfl⟩

/-- The arguments of a call are written with variables that are drawn for it. -/
theorem exists_sources (passes : form.Passes vars) (returnAs : Option String)
    {args : List Argument} {setup tokens : List String}
    (ran : runOn (form.arguments templates inline args) n = (.ok (setup, tokens), n')) :
    ∃ c : WrittenCall, c.Of form vars inline args returnAs ∧ c.written = tokens ∧
      Texts c.setup setup ∧ Drawn n n' c.kept := by
  induction args generalizing n setup tokens with
  | nil =>
    cases ran
    exact ⟨⟨form, [], returnAs⟩, ⟨rfl, rfl, rfl, List.forall_mem_nil _⟩, rfl, rfl, .nil _ _⟩
  | cons arg rest ih =>
    rw [arguments] at ran
    obtain ⟨⟨setup, token⟩, m, first, ran⟩ := exists_of_runOn_bind_ok ran
    obtain ⟨⟨setups, others⟩, m', second, ran⟩ := exists_of_runOn_bind_ok ran
    cases ran
    have later := (form.draws_token templates inline arg).later_of_run first
    have later' := (form.draws_arguments templates inline rest).later_of_run second
    obtain ⟨source, rfl, texts, drawn, allowed⟩ := exists_source passes first
    obtain ⟨c, of, rfl, texts', drawn'⟩ := ih second
    refine ⟨⟨form, (arg, source) :: c.args, returnAs⟩, ⟨rfl, ?_, rfl, ?_⟩, ?_, ?_, ?_⟩
    · rw [List.map_cons, of.args]
    · exact List.forall_mem_cons.2 ⟨allowed, of.allowed⟩
    · rfl
    · rw [WrittenCall.setup, ScriptLine.filterMap_cons_toList]
      exact texts.append texts'
    · rw [WrittenCall.kept, ScriptLine.filterMap_cons_toList]
      exact (drawn.append later later' drawn').1

/-- The lines that a combination is rendered to are those of a call. -/
theorem exists_render_lines (passes : form.Passes vars) {c : Combination}
    {returnAs : Option String} {lines : List String}
    (ran : runOn (form.render templates c returnAs inline) n = (.ok lines, n')) :
    ∃ call : WrittenCall, call.Of form vars inline c.args returnAs ∧ Texts call.lines lines ∧
      Drawn n n' call.kept := by
  rw [render] at ran
  obtain ⟨⟨setup, tokens⟩, m, written, ran⟩ := exists_of_runOn_bind_ok ran
  obtain ⟨call, of, rfl, texts, drawn⟩ := exists_sources passes returnAs written
  simp only at ran
  cases expressed : form.expression call.written with
  | error fault =>
    rw [expressed] at ran
    cases ran
  | ok expression =>
    rw [expressed] at ran
    cases ran
    refine ⟨call, of, texts.append ?_, drawn⟩
    rw [Texts, List.map_singleton, List.map_singleton, ScriptLine.text, of.form, of.returnAs,
      expressed]
    rfl

end CallForm

/-! ## Usages -/

/-- The calls use a value: they are made on its variable and pass nothing. -/
structure WrittenCall.Uses (signatures : List Signature) (receiver : String)
    (c : WrittenCall) : Prop where
  receiver : c.form.receiver = some receiver
  returnAs : c.returnAs = none
  allowed : ∀ arg ∈ c.args, arg.2.Allowed [] false
  calls : ∃ s ∈ signatures, c.Calls s

theorem WrittenCall.Of.calls {form : CallForm} {vars : List String} {inline : Bool}
    {combination : Combination} {returnAs : Option String} {c : WrittenCall} {s : Signature}
    (name : form.name = s.name) (among : combination ∈ s.combinations)
    (of : c.Of form vars inline combination.args returnAs) : c.Calls s :=
  ⟨by rw [of.form, name], combination, among, of.args⟩

theorem WrittenCall.Uses.mono {signatures more : List Signature} {receiver : String}
    {c : WrittenCall} (subset : signatures ⊆ more) (h : c.Uses signatures receiver) :
    c.Uses more receiver := by
  obtain ⟨s, among, calls⟩ := h.calls
  exact ⟨h.receiver, h.returnAs, h.allowed, s, subset among, calls⟩

/-- The texts are those of some calls, for which names have been drawn on the way from the first
supply to the second. -/
structure Listed (good : WrittenCall → Prop) (n n' : NameSupply) (texts : List String)
    (calls : List WrittenCall) : Prop where
  texts : Texts (calls.flatMap WrittenCall.lines) texts
  drawn : Drawn n n' (calls.flatMap WrittenCall.kept)
  good : ∀ c ∈ calls, good c

namespace Listed

variable {good good' : WrittenCall → Prop} {n n' n'' : NameSupply} {texts texts' : List String}
  {calls calls' : List WrittenCall}

theorem nil (good : WrittenCall → Prop) (n n' : NameSupply) : Listed good n n' [] [] :=
  ⟨rfl, .nil _ _, List.forall_mem_nil _⟩

theorem append (first : n.Later n') (last : n'.Later n'') (h : Listed good n n' texts calls)
    (h' : Listed good n' n'' texts' calls') :
    Listed good n n'' (texts ++ texts') (calls ++ calls') where
  texts := by
    rw [List.flatMap_append]
    exact h.texts.append h'.texts
  drawn := by
    rw [List.flatMap_append]
    exact (h.drawn.append first last h'.drawn).1
  good := List.forall_mem_append.2 ⟨h.good, h'.good⟩

theorem mono {m m' : NameSupply} (first : m.Later n) (last : n'.Later m')
    (h : Listed good n n' texts calls) : Listed good m m' texts calls :=
  ⟨h.texts, h.drawn.mono first last, h.good⟩

theorem imp (h : Listed good n n' texts calls) (weaker : ∀ c, good c → good' c) :
    Listed good' n n' texts calls := ⟨h.texts, h.drawn, fun c hc => weaker c (h.good c hc)⟩

end Listed

/-- The calls of some combinations are written in the one form. -/
theorem CallForm.exists_calls_renderAll {form : CallForm} (passes : form.Passes [])
    {templates : Templates} {combinations : List Combination} {n n' : NameSupply}
    {texts : List String}
    (ran : runOn (form.renderAll templates combinations) n = (.ok texts, n')) :
    ∃ calls, Listed (fun call => ∃ c ∈ combinations, call.Of form [] false c.args none)
      n n' texts calls := by
  induction combinations generalizing n n' texts with
  | nil =>
    cases ran
    exact ⟨[], .nil _ _ _⟩
  | cons c rest ih =>
    rw [renderAll] at ran
    obtain ⟨rendered, m, first, ran⟩ := exists_of_runOn_bind_ok ran
    have first : runOn (form.render templates c none false) n = (rendered, m) := by
      rw [runOn_lift_run] at first
      cases first
      rfl
    have later := (form.draws_render templates c none false).later_of_run first
    have tail {m' : NameSupply} {texts' : List String}
        (second : runOn (form.renderAll templates rest) m = (.ok texts', m')) :
        m.Later m' ∧ ∃ calls, Listed (fun call => ∃ c' ∈ c :: rest,
          call.Of form [] false c'.args none) m m' texts' calls := by
      obtain ⟨calls, listed⟩ := ih second
      refine ⟨(form.draws_renderAll templates rest).later_of_run second, calls, listed.imp ?_⟩
      rintro call ⟨c', among, of⟩
      exact ⟨c', List.mem_cons_of_mem _ among, of⟩
    cases rendered with
    | ok lines =>
      obtain ⟨others, m', second, ran⟩ := exists_of_runOn_bind_ok ran
      cases ran
      obtain ⟨later', calls, listed⟩ := tail second
      obtain ⟨call, of, written, drawn⟩ := exists_render_lines passes first
      have one : Listed (fun call => ∃ c' ∈ c :: rest, call.Of form [] false c'.args none)
          n m lines [call] := by
        refine ⟨?_, ?_, List.forall_mem_singleton.2 ⟨c, List.mem_cons_self, of⟩⟩
        · rwa [List.flatMap_singleton]
        · rwa [List.flatMap_singleton]
      exact ⟨_, one.append later later' listed⟩
    | error fault =>
      -- a missing template leaves the call out, with the names that it has drawn
      by_cases missing : fault.isMissing = true
      · simp only [if_pos missing] at ran
        obtain ⟨-, calls, listed⟩ := tail ran
        exact ⟨calls, listed.mono later (.refl _)⟩
      · simp only [if_neg missing] at ran
        cases ran

/-- A method is used by calls of its overloads. -/
theorem MethodRef.exists_calls_usages {m : MethodRef} {templates : Templates}
    {type receiver : String} {overloads : List Signature} {n n' : NameSupply} {texts : List String}
    (ran : runOn (m.usages templates type receiver overloads) n = (.ok texts, n')) :
    ∃ calls, Listed (WrittenCall.Uses overloads receiver) n n' texts calls := by
  induction overloads generalizing n n' texts with
  | nil =>
    cases ran
    exact ⟨[], .nil _ _ _⟩
  | cons s rest ih =>
    rw [usages] at ran
    obtain ⟨lines, m', first, ran⟩ := exists_of_runOn_bind_ok ran
    obtain ⟨others, m'', second, ran⟩ := exists_of_runOn_bind_ok ran
    cases ran
    let form := (CallForm.method s receiver).prefer (m.idOn type)
    have unbound : form.bound = [] := CallForm.bound_prefer _ _
    have later := (form.draws_renderAll templates s.combinations).later_of_run first
    have later' := (m.draws_usages templates type receiver rest).later_of_run second
    obtain ⟨calls, listed⟩ := CallForm.exists_calls_renderAll
      (CallForm.passes_of_unbound unbound _) first
    obtain ⟨calls', listed'⟩ := ih second
    refine ⟨calls ++ calls', (listed.imp ?_).append later later' (listed'.imp ?_)⟩
    · rintro call ⟨c, among, of⟩
      have receives : call.form.receiver = some receiver := by
        rw [of.form]
        exact CallForm.receiver_prefer _ _
      exact ⟨receives, of.returnAs, of.allowed, s, List.mem_cons_self,
        of.calls (CallForm.name_prefer _ _) among⟩
    · intro call uses
      exact uses.mono (List.subset_cons_self _ _)

theorem exists_calls_usagesOf {templates : Templates} {type receiver : String}
    {methods : List MethodRef} {n n' : NameSupply} {texts : List String}
    (ran : runOn (usagesOf templates type receiver methods) n = (.ok texts, n')) :
    ∃ calls, Listed (WrittenCall.Uses (methods.flatMap (·.callable.overloads)) receiver)
      n n' texts calls := by
  induction methods generalizing n n' texts with
  | nil =>
    cases ran
    exact ⟨[], .nil _ _ _⟩
  | cons m rest ih =>
    rw [usagesOf] at ran
    rw [List.flatMap_cons]
    -- a method with a receiver of its own is not called on the value
    by_cases own : m.needsReceiver templates type = true
    · rw [if_pos own] at ran
      obtain ⟨calls, listed⟩ := ih ran
      exact ⟨calls, listed.imp fun call uses => uses.mono (List.subset_append_right _ _)⟩
    · rw [if_neg own] at ran
      obtain ⟨lines, m', first, ran⟩ := exists_of_runOn_bind_ok ran
      obtain ⟨others, m'', second, ran⟩ := exists_of_runOn_bind_ok ran
      cases ran
      have later := (m.draws_usages templates type receiver _).later_of_run first
      have later' := (draws_usagesOf templates type receiver rest).later_of_run second
      obtain ⟨calls, listed⟩ := m.exists_calls_usages first
      obtain ⟨calls', listed'⟩ := ih second
      refine ⟨calls ++ calls', (listed.imp ?_).append later later' (listed'.imp ?_)⟩
      · intro call uses
        exact uses.mono (List.subset_append_left _ _)
      · intro call uses
        exact uses.mono (List.subset_append_right _ _)

namespace Catalog

variable {c : Catalog}

/-- The signatures of everything that can be called. -/
def signatures (c : Catalog) : List Signature := c.callables.flatMap (·.overloads)

theorem callable_mem_of_methodsOf {type : String} {m : MethodRef} (h : m ∈ c.methodsOf type) :
    m.callable ∈ c.callables := by
  rw [methodsOf_eq_distinctOn] at h
  have declared := (distinctOn_sublist _).subset h
  obtain ⟨t, ht, hm⟩ := List.mem_flatMap.1 declared
  obtain ⟨name, -, found⟩ := List.mem_filterMap.1 ht
  obtain ⟨method, hmethod, rfl⟩ := List.mem_map.1 hm
  have among : t ∈ c.types := List.mem_of_find?_eq_some found
  exact List.mem_append.2 (.inr (List.mem_flatMap.2 ⟨t, among, hmethod⟩))

theorem overloads_methodsOf_subset (type : String) :
    (c.methodsOf type).flatMap (·.callable.overloads) ⊆ c.signatures := by
  intro s hs
  obtain ⟨m, hm, among⟩ := List.mem_flatMap.1 hs
  exact List.mem_flatMap.2 ⟨m.callable, callable_mem_of_methodsOf hm, among⟩

/-- A value is used by calls of the methods of its type on its variable. -/
theorem exists_calls_usages {templates : Templates} {type : TypeExpr} {receiver : String}
    {n n' : NameSupply} {texts : List String}
    (ran : runOn (c.usages templates type receiver) n = (.ok texts, n')) :
    ∃ calls, Listed (WrittenCall.Uses c.signatures receiver) n n' texts calls := by
  rw [usages] at ran
  cases owner : c.owner? type with
  | none =>
    rw [owner] at ran
    cases ran
    exact ⟨[], .nil _ _ _⟩
  | some owner' =>
    rw [owner] at ran
    obtain ⟨calls, listed⟩ := exists_calls_usagesOf ran
    exact ⟨calls, listed.imp fun call uses => uses.mono (overloads_methodsOf_subset _)⟩

end Catalog

end SignatureAudit
