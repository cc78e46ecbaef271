import SignatureAudit.Proofs.NameSupply
import SignatureAudit.Proofs.Renumbering
import SignatureAudit.Proofs.Text.Filling
import SignatureAudit.Template.Basic

/-!
# What expanding a template gives

Expanding draws one name for each fresh-name marker, puts the quoted names in the places of the
markers from left to right, and then the quoted directory in the places of the directory marker, if
it is known. No marker is left, so expanding once more changes nothing and draws nothing: both
markers consist of capitals, underscores and dollar signs, and what is put in has quotes around it.
The two markers can share a dollar sign, as in `$RANDOM_STRING$BUILDFILE_DIR$`: then the fresh-name
marker takes it, and what is left of the other one stays.
-/

namespace SignatureAudit.Template

open Text (Filled)

/-- What joining with fresh quoted names gives fills the places of the marker. -/
theorem filled_of_joinFresh {marker : String} (some_char : marker.toList ≠ []) (cs : List Char)
    (n : NameSupply) : ∃ (count : Nat) (named : String),
      (joinFresh ((Text.piecesFrom marker.toList 0 cs).map String.ofList)).run n
        = (named, n.behind count) ∧
      Filled marker.toList (fun i => (quoted (n.name i)).toList) n.drawn (n.drawn + count) cs
        named.toList := by
  induction cs using Text.cutInduction some_char generalizing n with
  | absent cs absent =>
    refine ⟨0, String.ofList cs, ?_, ?_⟩
    · rw [Text.piecesFrom_of_absent absent]
      rfl
    · rw [String.toList_ofList]
      exact .rest absent
  | cut cs before after cut ih =>
    obtain ⟨count, named, ran, filled⟩ := ih (n.behind 1)
    rw [Text.piecesFrom_of_cutsFirst some_char cut]
    obtain ⟨next, rest, pieces⟩ :=
      List.exists_cons_of_ne_nil (Text.piecesFrom_ne_nil marker.toList 0 after)
    rw [pieces] at ran ⊢
    refine ⟨1 + count, String.ofList before ++ quoted (n.name n.drawn) ++ named, ?_, ?_⟩
    · -- the name is drawn in front of all that follows
      have drawn : Naming.draw.run n = (n.name n.drawn, n.behind 1) := rfl
      simp only [List.map_cons, joinFresh, Naming.run_bind, drawn] at ran ⊢
      rw [ran, NameSupply.behind, NameSupply.behind, NameSupply.behind, Nat.add_assoc]
      rfl
    · rw [NameSupply.name_behind, NameSupply.drawn_behind, Nat.add_assoc] at filled
      simpa using Filled.occurrence cut filled

/-- What stands in quotes is enclosed in them. -/
theorem toList_quoted (s : String) : (quoted s).toList = '\'' :: s.toList ++ ['\''] := by
  simp [quoted]

theorem contains_eq_false_iff {text marker : String} :
    Text.contains text marker = false ↔ ¬marker.toList <:+: text.toList := by
  rw [← Text.contains_iff, Bool.not_eq_true]

/-- Names without a dollar sign leave no fresh-name marker. -/
theorem exists_named (text : String) {n : NameSupply} (plain : ∀ i, '$' ∉ (n.name i).toList) :
    ∃ (count : Nat) (named : String),
      (joinFresh (Text.pieces freshMarker text)).run n = (named, n.behind count) ∧
      Filled freshMarker.toList (fun i => (quoted (n.name i)).toList) n.drawn (n.drawn + count)
        text.toList named.toList ∧
      Text.contains named freshMarker = false := by
  have some_char : freshMarker.toList ≠ [] := by decide
  obtain ⟨count, named, ran, filled⟩ := filled_of_joinFresh some_char text.toList n
  refine ⟨count, named, ran, filled, contains_eq_false_iff.2 ?_⟩
  refine filled.absent some_char (by decide) (fun i => ⟨_, toList_quoted _, fun occurs => ?_⟩)
    (.inl rfl)
  exact plain i (occurs.subset (by decide))

theorem toList_placeDirectory (directory text : String) : (placeDirectory directory text).toList
    = Text.substitute directoryMarker.toList (quoted directory).toList text.toList :=
  Text.toList_replaceAll ..

/-- Placing the directory in a text without its marker does nothing. -/
theorem placeDirectory_of_absent {text : String} (directory : String)
    (absent : Text.contains text directoryMarker = false) : placeDirectory directory text = text := by
  rw [← String.toList_inj, toList_placeDirectory]
  exact Text.substitute_of_cutFirst? (Text.cutFirst?_eq_none_iff.2 (contains_eq_false_iff.1 absent))

/-- Placing the directory fills the places of its marker. -/
theorem exists_filled_placeDirectory (directory text : String) : ∃ places,
    Filled directoryMarker.toList (fun _ => (quoted directory).toList) 0 places text.toList
      (placeDirectory directory text).toList := by
  rw [toList_placeDirectory]
  exact Text.exists_filled_substitute (by decide) _ _ 0

/-- Placing the directory leaves no directory marker, and makes no other marker. -/
theorem contains_placeDirectory {directory text marker : String} (apart : '\'' ∉ marker.toList)
    (clean : Text.contains directory marker = false)
    (gone : marker = directoryMarker ∨ Text.contains text marker = false) :
    Text.contains (placeDirectory directory text) marker = false := by
  rw [contains_eq_false_iff] at clean gone ⊢
  obtain ⟨places, filled⟩ := exists_filled_placeDirectory directory text
  exact filled.absent (by decide) apart (fun _ => ⟨_, toList_quoted _, clean⟩)
    (gone.imp_left (congrArg String.toList))

/-- A text without markers that would be replaced is expanded to itself. -/
theorem run_expand_of_absent {directory : Option String} {text : String}
    (fresh : Text.contains text freshMarker = false)
    (placed : directory.isSome = true → Text.contains text directoryMarker = false)
    (n : NameSupply) : (expand directory text).run n = (text, n) := by
  have named : (joinFresh (Text.pieces freshMarker text)).run n = (text, n) := by
    rw [Text.pieces, Text.piecesFrom_of_absent (contains_eq_false_iff.1 fresh), List.map_singleton,
      String.ofList_toList]
    rfl
  rw [expand, Naming.run_bind, named]
  cases directory with
  | none => rfl
  | some directory =>
    have kept := placeDirectory_of_absent directory (placed rfl)
    simp only [kept]
    rfl

end SignatureAudit.Template

namespace SignatureAudit

/-- A name from a seed consists of letters. -/
theorem NameSupply.mem_letters_of_mem_name {seed i : Nat} {c : Char}
    (h : c ∈ ((ofSeed seed).name i).toList) : c ∈ letters := by
  rw [name_ofSeed, String.toList_ofList] at h
  generalize (seed + i * 88172645463325253) % Nat.pow 52 10 = number at h
  generalize 10 = length at h
  induction length generalizing number with
  | zero => cases h
  | succ length ih =>
    rcases List.mem_cons.1 h with rfl | h
    · have small : number % 52 < letters.length := Nat.mod_lt _ (by decide)
      rw [List.getD_eq_getElem _ _ small]
      exact List.getElem_mem small
    · exact ih _ h

namespace Templates

open Template

/-- **Expanding a template is complete, exact and idempotent.** Let no name have a dollar sign, as no
alphabetic name has, and let the directory have neither marker, if one is known. Then one name is
drawn for each fresh-name marker, in the place of which it stands in quotes; in the result of that
the directory, if one is known, stands in quotes in the place of its marker. No fresh-name marker is
left in the end and, with a known directory, no directory marker; and expanding once more, with any
names, gives the same text and draws none. -/
theorem expand_fills_markers (t : Templates) (text : String) (n : NameSupply)
    (plain : ∀ i, '$' ∉ (n.name i).toList)
    (clean : ∀ directory, t.directory = some directory →
      Text.contains directory freshMarker = false ∧
        Text.contains directory directoryMarker = false) :
    ∃ (count : Nat) (named result : String),
      (t.expand text).run n = (result, n.behind count) ∧
      Text.Filled freshMarker.toList (fun i => (quoted (n.name i)).toList)
        n.drawn (n.drawn + count) text.toList named.toList ∧
      (t.directory = none → result = named) ∧
      (∀ directory, t.directory = some directory → ∃ places,
        Text.Filled directoryMarker.toList (fun _ => (quoted directory).toList) 0 places
          named.toList result.toList) ∧
      Text.contains result freshMarker = false ∧
      (t.directory.isSome = true → Text.contains result directoryMarker = false) ∧
      ∀ m : NameSupply, (t.expand result).run m = (result, m) := by
  obtain ⟨count, named, ran, filled, unnamed⟩ := exists_named text plain
  cases known : t.directory with
  | none =>
    have expanded : (t.expand text).run n = (named, n.behind count) := by
      rw [expand, known, Template.expand, Naming.run_bind, ran]
      rfl
    refine ⟨count, named, named, expanded, filled, fun _ => rfl, nofun, unnamed, nofun, fun m => ?_⟩
    rw [expand, known]
    exact run_expand_of_absent unnamed (fun known => by cases known) m
  | some directory =>
    obtain ⟨unmarked, unplaced⟩ := clean directory known
    have expanded : (t.expand text).run n = (placeDirectory directory named, n.behind count) := by
      rw [expand, known, Template.expand, Naming.run_bind, ran]
      rfl
    -- the quotes of the directory keep what is left of a marker apart from it
    have gone : Text.contains (placeDirectory directory named) freshMarker = false :=
      contains_placeDirectory (by decide) unmarked (.inr unnamed)
    have gone' : Text.contains (placeDirectory directory named) directoryMarker = false :=
      contains_placeDirectory (by decide) unplaced (.inl rfl)
    refine ⟨count, named, placeDirectory directory named, expanded, filled, nofun, ?_, gone,
      fun _ => gone', fun m => ?_⟩
    · intro other h
      obtain rfl := Option.some.inj h
      exact exists_filled_placeDirectory directory named
    · rw [expand, known]
      exact run_expand_of_absent gone (fun _ => gone') m

/-- Templates that know the directory `/p`, and nothing else. -/
def ofProject : Templates := ⟨[], [], some "/p"⟩

/-- A template with two pairs of markers that share a dollar sign. -/
def overlapping : String := "$RANDOM_STRING$RANDOM_STRING$BUILDFILE_DIR$BUILDFILE_DIR$"

/-- Of each pair the first marker is replaced, and no name and no quote makes one of the rest. -/
theorem expand_overlapping_markers :
    (∀ i, '$' ∉ ((NameSupply.ofSeed 0).name i).toList) ∧
      Text.contains "/p" freshMarker = false ∧ Text.contains "/p" directoryMarker = false ∧
      ((ofProject.expand overlapping).run (.ofSeed 0)).1
        = "'aaaaaaaaaa'RANDOM_STRING'/p'BUILDFILE_DIR$" ∧
      ∀ m : NameSupply, (ofProject.expand "'aaaaaaaaaa'RANDOM_STRING'/p'BUILDFILE_DIR$").run m
        = ("'aaaaaaaaaa'RANDOM_STRING'/p'BUILDFILE_DIR$", m) := by
  have plain (i : Nat) : '$' ∉ ((NameSupply.ofSeed 0).name i).toList := fun h =>
    absurd (NameSupply.mem_letters_of_mem_name h) (by decide)
  have unmarked : Text.contains "/p" freshMarker = false := by decide
  have unplaced : Text.contains "/p" directoryMarker = false := by decide
  have clean (directory : String) (h : ofProject.directory = some directory) :
      Text.contains directory freshMarker = false ∧
        Text.contains directory directoryMarker = false := by
    obtain rfl : "/p" = directory := Option.some.inj h
    exact ⟨unmarked, unplaced⟩
  have law := expand_fills_markers ofProject overlapping (.ofSeed 0) plain clean
  have expanded : ((ofProject.expand overlapping).run (.ofSeed 0)).1
      = "'aaaaaaaaaa'RANDOM_STRING'/p'BUILDFILE_DIR$" := by decide +kernel
  generalize (ofProject.expand overlapping).run (.ofSeed 0) = answer at law expanded
  obtain ⟨count, named, result, ran, -, -, -, -, -, again⟩ := law
  subst ran
  obtain rfl : result = _ := expanded
  exact ⟨plain, unmarked, unplaced, rfl, again⟩

end Templates

end SignatureAudit
