import SignatureAudit.Proofs.Audit.Submission
import SignatureAudit.Proofs.Call.Script
import SignatureAudit.Proofs.Call.Slot

/-!
# Self-contained probes

The lines of a probe are put together from pieces that were rendered at different times: the lines
that use a returned value before the calls that return it, and the first of these calls once more
in front of what its value is passed to. As each probe is taken back, a line can only rely on those
in front of it.

`Script` is the shape of a probe. Its lines are *sound* (`ScriptLine.Sound`) if each refers to what
stands assigned in front of it, and if what they assign are names from the supply, each drawn once,
and some of the three variables `obj`, `ret` and `recv`. Lines behind lines stay sound when their
names were drawn apart, whichever were drawn first (`Sound.append`, `Sound.append_drawn_first`).
`Planning.Plans` says of a way of planning that it makes such probes only, with names that are drawn
when it ends; it follows the plans of the audit part by part.
-/

namespace SignatureAudit

open NameSupply (Drawn)
open ScriptLine (Closed Texts assigned)
open Audit (objectVariable receiverVariable returnVariable)

/-! ## Sound lines -/

/-- The call is one of some signatures, and literals stand in it only if calls are inline. -/
structure WrittenCall.Proper (signatures : List Signature) (inline : Bool) (c : WrittenCall) :
    Prop where
  calls : ∃ s ∈ signatures, c.Calls s
  literals : ∀ arg ∈ c.args, ∀ literal, arg.2 = .inline literal → inline = true

theorem WrittenCall.Of.proper {form : CallForm} {vars : List String} {inline : Bool}
    {combination : Combination} {returnAs : Option String} {c : WrittenCall} {s : Signature}
    {signatures : List Signature} (of : c.Of form vars inline combination.args returnAs)
    (name : form.name = s.name) (among : combination ∈ s.combinations) (hs : s ∈ signatures) :
    c.Proper signatures inline where
  calls := ⟨s, hs, of.calls name among⟩
  literals arg harg literal same := by
    have allowed := of.allowed arg harg
    rwa [same] at allowed

theorem WrittenCall.Uses.proper {signatures : List Signature} {receiver : String} {c : WrittenCall}
    (uses : c.Uses signatures receiver) : c.Proper signatures false where
  calls := uses.calls
  literals arg harg literal same := by
    have allowed := uses.allowed arg harg
    rwa [same] at allowed

namespace ScriptLine

/-- Behind lines that assign the known variables, the lines refer to assigned variables only. They
assign the fixed variables and some that were drawn on the way from the first supply to the
second. -/
structure Sound (signatures : List Signature) (inline : Bool) (n n' : NameSupply)
    (known fixed : List String) (lines : List ScriptLine) : Prop where
  assigned : ∃ fresh, Drawn n n' fresh ∧ (assigned lines).Perm (fresh ++ fixed)
  closed : Closed known lines
  proper : ∀ c, .call c ∈ lines → c.Proper signatures inline

namespace Sound

variable {signatures : List Signature} {inline : Bool} {n n' n'' : NameSupply}
  {known fixed fixed' : List String} {front back : List ScriptLine} {c : WrittenCall}

theorem mono {m m' : NameSupply} (first : m.Later n) (last : n'.Later m')
    (h : Sound signatures inline n n' known fixed front) :
    Sound signatures inline m m' known fixed front where
  assigned := by
    obtain ⟨fresh, drawn, perm⟩ := h.assigned
    exact ⟨fresh, drawn.mono first last, perm⟩
  closed := h.closed
  proper := h.proper

theorem nil : Sound signatures inline n n' known [] [] :=
  ⟨⟨[], .nil _ _, .nil⟩, trivial, fun _ h => by cases h⟩

theorem assign (var literal : String) :
    Sound signatures inline n n' known [var] [.assign var literal] :=
  ⟨⟨[], .nil _ _, .refl _⟩, ⟨List.nil_subset _, trivial⟩, fun _ h => by simp at h⟩

/-- The lines of a call that refers to what is known. -/
theorem lines (drawn : Drawn n n' c.kept)
    (refers : (ScriptLine.call c).refers ⊆ known ++ c.kept) (proper : c.Proper signatures inline) :
    Sound signatures inline n n' known c.returnAs.toList c.lines where
  assigned := ⟨c.kept, drawn, by rw [c.assigned_lines]⟩
  closed := c.closed_lines refers
  proper c' h := by
    obtain rfl := WrittenCall.eq_of_call_mem_lines h
    exact proper

/-- Calls that use a known value. -/
theorem uses {receiver : String} {texts : List String} {calls : List WrittenCall}
    (listed : Listed (WrittenCall.Uses signatures receiver) n n' texts calls)
    (held : receiver ∈ known) :
    Sound signatures false n n' known [] (calls.flatMap WrittenCall.lines) where
  assigned := by
    refine ⟨_, listed.drawn, ?_⟩
    rw [WrittenCall.assigned_flatMap_lines fun c hc => (listed.good c hc).returnAs, List.append_nil]
  closed := by
    refine WrittenCall.closed_flatMap_lines fun c hc => ?_
    have uses := listed.good c hc
    have refers := WrittenCall.refers_subset uses.allowed
    rw [uses.receiver, List.append_nil] at refers
    refine List.Subset.trans refers (List.append_subset.2 ⟨?_, List.subset_append_right _ _⟩)
    intro var hvar
    obtain rfl : var = receiver := by simpa using hvar
    exact List.mem_append_left _ held
  proper c h := by
    obtain ⟨c', among, hc⟩ := List.mem_flatMap.1 h
    obtain rfl := WrittenCall.eq_of_call_mem_lines hc
    exact (listed.good c among).proper

/-- Lines behind lines, with names that were drawn apart. -/
theorem join {m m' k k' : NameSupply} (hfront : Sound signatures inline n n' known fixed front)
    (hback : Sound signatures inline m m' (known ++ fixed) fixed' back)
    (apart : ∀ fresh fresh', Drawn n n' fresh → Drawn m m' fresh' → Drawn k k' (fresh ++ fresh')) :
    Sound signatures inline k k' known (fixed ++ fixed') (front ++ back) where
  assigned := by
    obtain ⟨fresh, drawn, perm⟩ := hfront.assigned
    obtain ⟨fresh', drawn', perm'⟩ := hback.assigned
    refine ⟨fresh ++ fresh', apart _ _ drawn drawn', ?_⟩
    rw [ScriptLine.assigned_append]
    refine (perm.append perm').trans ?_
    rw [List.append_assoc, List.append_assoc]
    refine List.Perm.append_left fresh ?_
    rw [← List.append_assoc, ← List.append_assoc]
    exact List.perm_append_comm.append_right fixed'
  closed := by
    obtain ⟨fresh, -, perm⟩ := hfront.assigned
    refine ScriptLine.closed_append.2 ⟨hfront.closed, hback.closed.mono ?_⟩
    refine List.append_subset.2 ⟨List.subset_append_left _ _, ?_⟩
    exact List.subset_append_of_subset_right _
      (List.Subset.trans (List.subset_append_right _ _) perm.symm.subset)
  proper c h := by
    rcases List.mem_append.1 h with first | second
    · exact hfront.proper c first
    · exact hback.proper c second

/-- The names for the lines behind are drawn last. -/
theorem append (first : n.Later n') (last : n'.Later n'')
    (hfront : Sound signatures inline n n' known fixed front)
    (hback : Sound signatures inline n' n'' (known ++ fixed) fixed' back) :
    Sound signatures inline n n'' known (fixed ++ fixed') (front ++ back) :=
  hfront.join hback fun _ _ drawn drawn' => (drawn.append first last drawn').1

/-- The names for the lines behind are drawn first. -/
theorem append_drawn_first (first : n.Later n') (last : n'.Later n'')
    (hfront : Sound signatures inline n' n'' known fixed front)
    (hback : Sound signatures inline n n' (known ++ fixed) fixed' back) :
    Sound signatures inline n n'' known (fixed ++ fixed') (front ++ back) :=
  hfront.join hback fun _ _ drawn drawn' => (drawn'.append first last drawn).2

end Sound

end ScriptLine

/-! ## Scripts of probes -/

/-- What the lines of a probe are made of. -/
structure Script where
  /-- The literal that is assigned to the object. -/
  object : Option String := none
  /-- The call whose value is passed on. -/
  first : Option WrittenCall := none
  /-- The literal that is assigned to the variable that a method is called on. -/
  receiver : Option String := none
  /-- The call under test. -/
  call : WrittenCall
  /-- The calls that use its value. -/
  usage : List WrittenCall := []

namespace Script

/-- The line that assigns a literal, if there is one. -/
def assignment (var : String) (literal : Option String) : List ScriptLine :=
  (literal.map (.assign var ·)).toList

/-- The variable, if a literal is assigned to it. -/
def holder (var : String) (literal : Option String) : List String :=
  (literal.map fun _ => var).toList

/-- The lines that lead to the value that is passed on or that a method is called on. -/
def opening (object : Option String) (first : Option WrittenCall) : List ScriptLine :=
  assignment objectVariable object ++ (first.map WrittenCall.lines).getD []

/-- The lines in front of the call under test. -/
def setup (s : Script) : List ScriptLine :=
  opening s.object s.first ++ assignment receiverVariable s.receiver

/-- All lines. -/
def lines (s : Script) : List ScriptLine :=
  s.setup ++ s.call.lines ++ s.usage.flatMap WrittenCall.lines

/-- The parts of the probe have the texts of the script. -/
structure Writes (s : Script) (p : Probe) : Prop where
  setup : Texts s.setup p.setup
  call : Texts s.call.lines p.call
  usage : Texts (s.usage.flatMap WrittenCall.lines) p.usage

end Script

theorem Script.holder_sublist (var : String) (literal : Option String) :
    (Script.holder var literal).Sublist [var] := by
  cases literal with
  | none => exact List.nil_sublist _
  | some literal => exact .refl _

theorem ScriptLine.Sound.assignment {signatures : List Signature} {inline : Bool}
    {n n' : NameSupply} {known : List String} (var : String) (literal : Option String) :
    ScriptLine.Sound signatures inline n n' known (Script.holder var literal)
      (Script.assignment var literal) := by
  cases literal with
  | none => exact .nil
  | some literal => exact .assign var literal

/-- The probe has a script with sound lines that assign each of the three variables at most once. -/
def Probe.Scripted (signatures : List Signature) (inline : Bool) (names n : NameSupply)
    (p : Probe) : Prop :=
  ∃ (s : Script) (fixed : List String), s.Writes p ∧
    ScriptLine.Sound signatures inline names n [] fixed s.lines ∧
    fixed.Sublist [objectVariable, returnVariable, receiverVariable]

theorem Probe.Scripted.mono {signatures : List Signature} {inline : Bool}
    {names n n' : NameSupply} {p : Probe} (later : n.Later n')
    (h : p.Scripted signatures inline names n) : p.Scripted signatures inline names n' := by
  obtain ⟨s, fixed, writes, sound, sublist⟩ := h
  exact ⟨s, fixed, writes, sound.mono (.refl _) later, sublist⟩

/-! ## Plans of scripted probes -/

/-- Planning that goes on with later names, makes scripted probes only and finds something out. -/
structure Planning.Plans {α : Type} (signatures : List Signature) (inline : Bool)
    (names start : NameSupply) (found : NameSupply → α → Prop) (x : Planning α) : Prop where
  later : ∀ n, start.Later n → n.Later (x.run n).value.2
  probes : ∀ n, start.Later n → ∀ p ∈ (x.run n).probes,
    p.Scripted signatures inline names (x.run n).value.2
  value : ∀ n, start.Later n → found (x.run n).value.2 (x.run n).value.1

namespace Planning.Plans

variable {α β : Type} {signatures : List Signature} {inline : Bool} {names start : NameSupply}
  {found : NameSupply → α → Prop} {found' : NameSupply → β → Prop}

theorem pure {a : α} (h : ∀ n, start.Later n → found n a) :
    Plans signatures inline names start found (Pure.pure a) :=
  ⟨fun n _ => .refl n, fun _ _ _ hp => (by cases hp), h⟩

theorem done : Plans signatures inline names start (fun _ _ => True) (Pure.pure ()) :=
  pure fun _ _ => trivial

theorem step {step : Step}
    (h : ∀ p, step.probe? = some p → p.Scripted signatures inline names start) :
    Plans signatures inline names start (fun _ _ => True) (Planning.take step) := by
  refine ⟨fun n _ => .refl n, fun n later p hp => ?_, fun _ _ => trivial⟩
  obtain ⟨step', hstep, probe⟩ := List.mem_filterMap.1 hp
  obtain rfl : step' = step := List.mem_singleton.1 hstep
  exact (h p probe).mono later

theorem checkpoint :
    Plans signatures inline names start (fun _ _ => True) (Planning.take .checkpoint) :=
  step fun _ h => by cases h

theorem notice (text : String) :
    Plans signatures inline names start (fun _ _ => True) (Planning.take (.notice text)) :=
  step fun _ h => by cases h

theorem probe {p : Probe} (h : p.Scripted signatures inline names start) :
    Plans signatures inline names start (fun _ _ => True) (Planning.take (.probe p)) :=
  step fun _ same => by cases same; exact h

/-- Drawing names makes no probe. -/
theorem draw {x : Naming α} (hx : x.Draws) :
    Plans signatures inline names start (fun n' a => ∃ n, start.Later n ∧ x.run n = (a, n'))
      (x : Planning α) :=
  ⟨fun n _ => hx.later n, fun _ _ _ hp => (by cases hp), fun n later => ⟨n, later, rfl⟩⟩

theorem bind {x : Planning α} {f : α → Planning β}
    (hx : Plans signatures inline names start found x)
    (hf : ∀ n a, start.Later n → found n a → Plans signatures inline names n found' (f a)) :
    Plans signatures inline names start found' (x >>= f) := by
  have second (n : NameSupply) (later : start.Later n) :=
    hf _ (x.run n).value.1 (later.trans (hx.later n later)) (hx.value n later)
  constructor
  · intro n later
    rw [StateT.run_bind, Plan.value_bind]
    exact (hx.later n later).trans ((second n later).later _ (.refl _))
  · intro n later p hp
    rw [Plan.probes, StateT.run_bind, Plan.steps_bind, List.filterMap_append] at hp
    rw [StateT.run_bind, Plan.value_bind]
    rcases List.mem_append.1 hp with front | back
    · exact (hx.probes n later p front).mono ((second n later).later _ (.refl _))
    · exact (second n later).probes _ (.refl _) p back
  · intro n later
    rw [StateT.run_bind, Plan.value_bind]
    exact (second n later).value _ (.refl _)

end Planning.Plans

namespace Audit

open Planning (Plans)

variable (a : Audit) {signatures : List Signature} {names start n n' : NameSupply}

/-! ## Calls of a signature -/

/-- The lines are those of a call under test, which may be made on the object. -/
structure Tests (signatures : List Signature) (n n' : NameSupply) (object returnAs : Option String)
    (texts : List String) (call : WrittenCall) : Prop where
  texts : Texts call.lines texts
  returnAs : call.returnAs = returnAs
  drawn : Drawn n n' call.kept
  refers : (ScriptLine.call call).refers ⊆ Script.holder objectVariable object ++ call.kept
  proper : call.Proper signatures false

section

variable {object returnAs : Option String} {texts setup usage : List String} {call : WrittenCall}
  {s : Signature} {form : CallForm} {c : Combination}

theorem Tests.mono {m m' : NameSupply} (first : m.Later n) (last : n'.Later m')
    (h : Tests signatures n n' object returnAs texts call) :
    Tests signatures m m' object returnAs texts call :=
  { h with drawn := h.drawn.mono first last }

/-- The probe of a call, whose value is used by calls that have been listed before. -/
theorem Tests.scripted (later : names.Later n) (later' : n.Later n')
    (tests : Tests signatures n n' object returnAs texts call)
    (returned : returnAs.toList.Sublist [returnVariable])
    (hsetup : Texts (Script.assignment objectVariable object) setup) {uses : List WrittenCall}
    (husage : Texts (uses.flatMap WrittenCall.lines) usage)
    (used : ScriptLine.Sound signatures false names n
      (Script.holder objectVariable object ++ returnAs.toList) []
      (uses.flatMap WrittenCall.lines)) (description : String) :
    Probe.Scripted signatures false names n' { description, setup, call := texts, usage } := by
  let script : Script := { object, call, usage := uses }
  have setup_eq : script.setup = Script.assignment objectVariable object := by
    simp [script, Script.setup, Script.opening, Script.assignment]
  have called : ScriptLine.Sound signatures false n n' []
      (Script.holder objectVariable object ++ call.returnAs.toList)
      (script.setup ++ call.lines) := by
    rw [setup_eq]
    exact (ScriptLine.Sound.assignment objectVariable object).append (.refl n) later'
      (.lines tests.drawn tests.refers tests.proper)
  rw [tests.returnAs] at called
  -- the usages stand last but were rendered first, so their names are the earlier ones
  have sound := called.append_drawn_first later later' used
  rw [List.append_nil] at sound
  have fixed : (Script.holder objectVariable object ++ returnAs.toList).Sublist
      [objectVariable, returnVariable] :=
    (Script.holder_sublist objectVariable object).append returned
  exact ⟨script, _, ⟨by rw [setup_eq]; exact hsetup, tests.texts, husage⟩, sound,
    fixed.trans (List.sublist_append_left _ [receiverVariable])⟩

/-- The lines that are kept to be written again, if there are any, are those of a tested call. -/
def FirstTests (signatures : List Signature) (names n : NameSupply)
    (object returnAs : Option String) (first? : Option (List String)) : Prop :=
  ∀ texts ∈ first?, ∃ call, Tests signatures names n object returnAs texts call

theorem FirstTests.mono {first? : Option (List String)} (later : n.Later n')
    (h : FirstTests signatures names n object returnAs first?) :
    FirstTests signatures names n' object returnAs first? := fun texts htexts => by
  obtain ⟨call, tests⟩ := h texts htexts
  exact ⟨call, tests.mono (.refl _) later⟩

end

/-! ## Passing a value on -/

/-- Some lines give a variable its value. They are the opening of a script. -/
structure Gives (signatures : List Signature) (names n : NameSupply) (setup : List String)
    (var : String) (object : Option String) (first : Option WrittenCall) (fixed : List String) :
    Prop where
  texts : Texts (Script.opening object first) setup
  sound : ScriptLine.Sound signatures false names n [] fixed (Script.opening object first)
  sublist : fixed.Sublist [objectVariable, returnVariable]
  held : var ∈ fixed

section

variable {setup : List String} {var : String} {object : Option String}
  {first : Option WrittenCall} {fixed : List String}

theorem Gives.mono (later : n.Later n')
    (gives : Gives signatures names n setup var object first fixed) :
    Gives signatures names n' setup var object first fixed :=
  { gives with sound := gives.sound.mono (.refl _) later }

/-- The probe of a call that is passed the value, on a variable of its own if it is that of a
method. -/
theorem Gives.scripted (gives : Gives signatures names n setup var object first fixed)
    (later : names.Later n) (later' : n.Later n') {literal : Option String}
    {receiver texts : List String}
    (assigns : Texts (Script.assignment receiverVariable literal) receiver) {call : WrittenCall}
    (htexts : Texts call.lines texts) (returnAs : call.returnAs = none)
    (drawn : Drawn n n' call.kept)
    (refers : (ScriptLine.call call).refers
      ⊆ Script.holder receiverVariable literal ++ [var] ++ call.kept)
    (proper : call.Proper signatures false) (description : String) :
    Probe.Scripted signatures false names n'
      { description, setup := setup ++ receiver, call := texts } := by
  let script : Script := { object, first, receiver := literal, call }
  have opened : ScriptLine.Sound signatures false names n []
      (fixed ++ Script.holder receiverVariable literal) script.setup :=
    gives.sound.append later (.refl n) (.assignment receiverVariable literal)
  -- the passed variable is one of those that the opening assigns
  have known : (ScriptLine.call call).refers
      ⊆ (fixed ++ Script.holder receiverVariable literal) ++ call.kept := by
    intro v hv
    rcases List.mem_append.1 (refers hv) with outer | kept
    · rcases List.mem_append.1 outer with receiver | passed
      · exact List.mem_append_left _ (List.mem_append_right _ receiver)
      · obtain rfl := List.mem_singleton.1 passed
        exact List.mem_append_left _ (List.mem_append_left _ gives.held)
    · exact List.mem_append_right _ kept
  have sound := opened.append later later' (.lines drawn known proper)
  rw [returnAs, Option.toList_none, List.append_nil] at sound
  have sublist : (fixed ++ Script.holder receiverVariable literal).Sublist
      [objectVariable, returnVariable, receiverVariable] :=
    gives.sublist.append (Script.holder_sublist receiverVariable literal)
  refine ⟨script, _, ⟨gives.texts.append assigns, htexts, rfl⟩, ?_, sublist⟩
  -- nothing uses the value of such a call
  have lines : script.lines = script.setup ++ call.lines := List.append_nil _
  rwa [lines]

end

section

variable {a} {s : Signature} {object : Option String} {form : CallForm} {setup : List String}

end

/-! ## The whole audit -/

/-- Whether the calls of a check are inline. -/
def Check.inline : Check → Bool
  | .type _ => false
  | .function f => isProjectCall f.name f.receiver

variable {a}

end Audit

end SignatureAudit
