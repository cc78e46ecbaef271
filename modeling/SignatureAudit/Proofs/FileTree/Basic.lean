import SignatureAudit.FileTree.Basic
import SignatureAudit.Proofs.Entries

/-!
# Copying trees

What putting an entry into a directory, or copying entries over it, does to the entries of the other
names: nothing.

A tree can be copied over another if no path is a file in one and a directory in the other
(`Compatible`). Then nothing stops the copying (`overlay_complete`), every path of the source leads
to what it leads to there, and every other path to what it led to before (`get?_overlay`). The
induction is on the path; that a directory is copied name by name (`exists_overlay_directory`) needs
distinct names in it (`Distinct`), as of two entries with one name the second would be copied over
the first. So the order in which directories are listed does not matter (`overlay_same`,
`Relisted.same`), and copying the same tree once more changes nothing (`overlay_overlay`).
-/

namespace SignatureAudit.FileNode

variable {name other : String} {node source tree : FileNode} {place : Option FileNode}
  {entries sources : List (String × FileNode)} {path : List String}

/-! ## Entries -/

theorem lookup_setEntry_self : (setEntry name node entries).lookup name = some node := by
  induction entries with
  | nil => simp [setEntry]
  | cons entry rest ih =>
    obtain ⟨n, old⟩ := entry
    by_cases hn : n = name
    · subst hn
      simp [setEntry]
    · rw [setEntry, if_neg hn, List.lookup_cons, beq_eq_false_iff_ne.2 (Ne.symm hn)]
      exact ih

theorem lookup_setEntry_ne (h : other ≠ name) :
    (setEntry name node entries).lookup other = entries.lookup other := by
  induction entries with
  | nil => simpa [setEntry] using h
  | cons entry rest ih =>
    obtain ⟨n, old⟩ := entry
    by_cases hn : n = name
    · subst hn
      simp [setEntry, List.lookup_cons, beq_eq_false_iff_ne.2 h]
    · rw [setEntry, if_neg hn, List.lookup_cons, List.lookup_cons, ih]

/-- An entry that is put in where it stands already changes nothing. -/
theorem setEntry_of_lookup (found : entries.lookup name = some node) :
    setEntry name node entries = entries := by
  induction entries with
  | nil => cases found
  | cons entry rest ih =>
    obtain ⟨n, old⟩ := entry
    rw [List.lookup_cons] at found
    by_cases hn : n = name
    · subst hn
      rw [beq_self_eq_true] at found
      obtain rfl := Option.some.inj found
      rw [setEntry, if_pos rfl]
    · rw [beq_eq_false_iff_ne.2 (Ne.symm hn)] at found
      rw [setEntry, if_neg hn, ih found]

/-- Copied entries leave every name alone that they do not have. -/
theorem lookup_overlayEntries (h : sources.lookup other = none) :
    (overlayEntries sources entries).1.lookup other = entries.lookup other := by
  induction sources generalizing entries with
  | nil => rw [overlayEntries]
  | cons source rest ih =>
    obtain ⟨name, node⟩ := source
    have hne : other ≠ name := by
      rintro rfl
      simp at h
    have hrest : rest.lookup other = none := by
      rwa [List.lookup_cons, beq_eq_false_iff_ne.2 hne] at h
    rw [overlayEntries]
    by_cases complete : (overlay node (entries.lookup name)).2 = true
    · simp only [complete, if_true]
      rw [ih hrest, lookup_setEntry_ne hne]
    · simp only [complete]
      exact lookup_setEntry_ne hne

/-! ## What stands at a path -/

/-- A statement holds of every node if it passes from the entries of a directory to that. -/
theorem entryInduction {motive : FileNode → Prop}
    (file : ∀ bytes runnable, motive (.file bytes runnable))
    (directory : ∀ entries, (∀ entry ∈ entries, motive entry.2) → motive (.directory entries))
    (node : FileNode) : motive node := by
  refine @FileNode.rec motive (fun entries => ∀ entry ∈ entries, motive entry.2)
    (fun entry => motive entry.2) file directory ?nil ?cons ?entry node
  case nil => exact List.forall_mem_nil _
  case cons => exact fun entry rest first others => List.forall_mem_cons.2 ⟨first, others⟩
  case entry => exact fun _ node holds => holds

/-- The bytes of a file and whether it is a program; a directory has none. -/
def contents? : FileNode → Option (ByteArray × Bool)
  | .file bytes runnable => some (bytes, runnable)
  | .directory _ => none

/-- The same paths lead to directories in both trees, and the same to files with equal contents. -/
def Same (tree tree' : FileNode) : Prop :=
  ∀ path, (tree.get? path).map contents? = (tree'.get? path).map contents?

/-- No path leads to a file in the one tree and to a directory in the other. -/
def Compatible (source tree : FileNode) : Prop :=
  ∀ path a b, source.get? path = some a → tree.get? path = some b → a.isDirectory = b.isDirectory

/-- No directory in the tree has two entries of one name. -/
inductive Distinct : FileNode → Prop
  | file (bytes : ByteArray) (runnable : Bool) : Distinct (.file bytes runnable)
  | directory {entries : List (String × FileNode)} (names : (entries.map (·.1)).Nodup)
    (below : ∀ entry ∈ entries, Distinct entry.2) : Distinct (.directory entries)

theorem get?_cons (name : String) (path : List String) (entries : List (String × FileNode)) :
    get? (name :: path) (.directory entries) = (entries.lookup name).bind (get? path) := rfl

theorem isDirectory_eq (node : FileNode) : node.isDirectory = node.contents?.isNone := by
  cases node <;> rfl

theorem compatible_file {bytes bytes' : ByteArray} {runnable runnable' : Bool} :
    (file bytes runnable).Compatible (file bytes' runnable') := by
  intro path a b ha hb
  cases path with
  | nil =>
    obtain rfl := Option.some.inj ha
    obtain rfl := Option.some.inj hb
    rfl
  | cons name path => cases ha

/-- Directories are compatible if what stands under the same names is. -/
theorem compatible_directory (h : ∀ name a b, sources.lookup name = some a →
    entries.lookup name = some b → a.Compatible b) :
    (directory sources).Compatible (directory entries) := by
  intro path c d hc hd
  cases path with
  | nil =>
    obtain rfl := Option.some.inj hc
    obtain rfl := Option.some.inj hd
    rfl
  | cons name path =>
    obtain ⟨a, ha, hc⟩ := Option.bind_eq_some_iff.1 hc
    obtain ⟨b, hb, hd⟩ := Option.bind_eq_some_iff.1 hd
    exact h name a b ha hb path c d hc hd

/-! ## Copying a tree -/

/-- Compatible with what stands at a place, if anything. -/
def CompatibleAt (source : FileNode) (place : Option FileNode) : Prop :=
  ∀ tree ∈ place, source.Compatible tree

/-- What stands under a name in the directory at a place. -/
def child? (place : Option FileNode) (name : String) : Option FileNode :=
  place.bind fun node => node.entries.lookup name

/-- Entries with distinct names are copied one by one, each over what stands under its name. -/
theorem overlayEntries_of_nodup (names : (sources.map (·.1)).Nodup)
    (each : ∀ entry ∈ sources, (overlay entry.2 (entries.lookup entry.1)).2 = true) :
    (overlayEntries sources entries).2 = true ∧ ∀ entry ∈ sources,
      (overlayEntries sources entries).1.lookup entry.1
        = some (overlay entry.2 (entries.lookup entry.1)).1 := by
  induction sources generalizing entries with
  | nil => exact ⟨by rw [overlayEntries], List.forall_mem_nil _⟩
  | cons source rest ih =>
    obtain ⟨name, node⟩ := source
    obtain ⟨fresh, names⟩ := List.nodup_cons.1 names
    obtain ⟨first, others⟩ := List.forall_mem_cons.1 each
    rw [overlayEntries]
    simp only [first, if_true]
    generalize copied : setEntry name (overlay node (entries.lookup name)).1 entries = entries'
    -- the entry that was copied first leaves what stands under the other names
    have still : ∀ entry ∈ rest, entries'.lookup entry.1 = entries.lookup entry.1 := by
      intro entry hentry
      rw [← copied]
      exact lookup_setEntry_ne fun same => fresh (List.mem_map.2 ⟨entry, hentry, same⟩)
    have each' : ∀ entry ∈ rest, (overlay entry.2 (entries'.lookup entry.1)).2 = true := by
      intro entry hentry
      rw [still entry hentry]
      exact others entry hentry
    obtain ⟨complete, placed⟩ := ih names each'
    refine ⟨complete, List.forall_mem_cons.2 ⟨?_, fun entry hentry => ?_⟩⟩
    · rw [lookup_overlayEntries (lookup_eq_none_of_notMem fresh), ← copied, lookup_setEntry_self]
    · rw [placed entry hentry, still entry hentry]

/-- Copying a directory over no file copies its entries. -/
theorem overlay_directory (clear : ∀ tree ∈ place, tree.isDirectory = true) :
    overlay (.directory sources) place
      = (.directory (overlayEntries sources ((place.map FileNode.entries).getD [])).1,
        (overlayEntries sources ((place.map FileNode.entries).getD [])).2) := by
  rcases place with _ | ⟨bytes, runnable⟩ | ⟨entries⟩
  · rw [overlay]
    rfl
  · cases clear _ rfl
  · rw [overlay]
    rfl

theorem child?_eq (place : Option FileNode) (name : String) :
    child? place name = ((place.map FileNode.entries).getD []).lookup name := by
  cases place <;> rfl

theorem bind_get?_cons (place : Option FileNode) (name : String) (path : List String) :
    place.bind (get? (name :: path)) = (child? place name).bind (get? path) := by
  rcases place with _ | ⟨bytes, runnable⟩ | ⟨entries⟩ <;> rfl

/-- What is compatible is compatible below each name. -/
theorem CompatibleAt.child? {a : FileNode} (h : CompatibleAt (.directory sources) place)
    (ha : sources.lookup name = some a) : CompatibleAt a (child? place name) := by
  rintro b hb path c d hc hd
  obtain ⟨tree, there, hb⟩ := Option.bind_eq_some_iff.1 hb
  refine h tree there (name :: path) c d ?_ ?_
  · rw [get?_cons, ha, Option.bind_some, hc]
  · cases tree with
    | file bytes runnable => cases hb
    | directory entries =>
      have hb : entries.lookup name = some b := hb
      rw [get?_cons, hb, Option.bind_some, hd]

/-- A file is copied over no directory. -/
theorem overlay_file {bytes : ByteArray} {runnable : Bool}
    (clear : ∀ tree ∈ place, tree.isDirectory = false) :
    overlay (.file bytes runnable) place = (.file bytes runnable, true) := by
  rcases place with _ | ⟨old, runs⟩ | ⟨entries⟩
  · rw [overlay]
    exact fun _ there => nomatch there
  · rw [overlay]
    exact fun _ there => nomatch there
  · cases clear _ rfl

theorem CompatibleAt.isDirectory_eq (h : CompatibleAt source place) :
    ∀ tree ∈ place, tree.isDirectory = source.isDirectory :=
  fun tree there => (h tree there [] source tree rfl rfl).symm

theorem Distinct.of_lookup (distinct : (FileNode.directory sources).Distinct)
    (found : sources.lookup name = some node) : node.Distinct := by
  cases distinct with
  | directory names below => exact below _ (mem_of_lookup found)

/-- A directory is copied by copying each entry over what stands under its name. -/
theorem exists_overlay_directory (distinct : (directory sources).Distinct)
    (compatible : CompatibleAt (.directory sources) place)
    (each : ∀ name node, sources.lookup name = some node →
      (overlay node (child? place name)).2 = true) :
    ∃ merged, overlay (.directory sources) place = (.directory merged, true) ∧
      ∀ name, merged.lookup name = match sources.lookup name with
        | some node => some (overlay node (child? place name)).1
        | none => child? place name := by
  cases distinct with
  | directory names below =>
    simp only [child?_eq] at each ⊢
    obtain ⟨complete, copied⟩ := overlayEntries_of_nodup names fun entry hentry =>
      each entry.1 entry.2 (lookup_eq_some_of_mem names hentry)
    refine ⟨_, by rw [overlay_directory compatible.isDirectory_eq, complete], fun name => ?_⟩
    cases found : sources.lookup name with
    | some node => exact copied (name, node) (mem_of_lookup found)
    | none => exact lookup_overlayEntries found

/-- Nothing stops the copying of a tree that is compatible with what is there. -/
theorem overlay_complete (distinct : source.Distinct) (compatible : CompatibleAt source place) :
    (overlay source place).2 = true := by
  induction source using entryInduction generalizing place with
  | file bytes runnable => rw [overlay_file compatible.isDirectory_eq]
  | directory sources ih =>
    obtain ⟨merged, copied, -⟩ := exists_overlay_directory distinct compatible
      fun name node found => ih (name, node) (mem_of_lookup found) (distinct.of_lookup found)
        (compatible.child? found)
    rw [copied]

/-- After copying, a path of the source leads to what it leads to there, and every other path to
what it led to before. -/
theorem get?_overlay (distinct : source.Distinct) (compatible : CompatibleAt source place)
    (path : List String) :
    (∀ node, source.get? path = some node → ∃ copy,
      (overlay source place).1.get? path = some copy ∧ copy.contents? = node.contents?) ∧
    (source.get? path = none →
      (overlay source place).1.get? path = place.bind (get? path)) := by
  induction path generalizing source place with
  | nil =>
    refine ⟨fun node hnode => ⟨_, rfl, ?_⟩, fun h => nomatch h⟩
    obtain rfl : source = node := Option.some.inj hnode
    cases source with
    | file bytes runnable => rw [overlay_file compatible.isDirectory_eq]
    | directory sources =>
      rw [overlay_directory compatible.isDirectory_eq]
      rfl
  | cons name path ih =>
    rw [bind_get?_cons]
    cases source with
    | file bytes runnable =>
      -- a file has no paths below, and neither has what it is copied over
      have leaf := compatible.isDirectory_eq
      rw [overlay_file leaf]
      refine ⟨fun node h => (nomatch h), fun _ => ?_⟩
      rcases place with _ | ⟨old, runs⟩ | ⟨entries⟩
      · rfl
      · rfl
      · cases leaf _ rfl
    | directory sources =>
      obtain ⟨merged, copied, under⟩ := exists_overlay_directory distinct compatible
        fun name node found => overlay_complete (distinct.of_lookup found) (compatible.child? found)
      rw [copied, get?_cons, get?_cons, under]
      cases found : sources.lookup name with
      | none => exact ⟨fun node h => (nomatch h), fun _ => rfl⟩
      | some node => exact ih (distinct.of_lookup found) (compatible.child? found)

/-- Entries that are there already are copied without a change. -/
theorem overlayEntries_of_lookup (there : ∀ entry ∈ sources, ∃ node,
    entries.lookup entry.1 = some node ∧ overlay entry.2 (some node) = (node, true)) :
    overlayEntries sources entries = (entries, true) := by
  induction sources with
  | nil => rw [overlayEntries]
  | cons source rest ih =>
    obtain ⟨⟨node, found, same⟩, others⟩ := List.forall_mem_cons.1 there
    rw [overlayEntries, found, same]
    simp only [if_true, setEntry_of_lookup found]
    exact ih others

/-- Copying the same tree once more changes nothing. -/
theorem overlay_overlay (distinct : source.Distinct) (compatible : CompatibleAt source place) :
    overlay source (some (overlay source place).1) = ((overlay source place).1, true) := by
  induction source using entryInduction generalizing place with
  | file bytes runnable =>
    rw [overlay_file compatible.isDirectory_eq]
    exact overlay_file fun tree there => Option.some.inj there ▸ rfl
  | directory sources ih =>
    obtain ⟨merged, copied, under⟩ := exists_overlay_directory distinct compatible
      fun name node found => overlay_complete (distinct.of_lookup found) (compatible.child? found)
    have again : overlayEntries sources merged = (merged, true) := by
      refine overlayEntries_of_lookup fun entry hentry => ?_
      cases distinct with
      | directory names below =>
        have found := lookup_eq_some_of_mem names hentry
        refine ⟨_, by rw [under, found], ?_⟩
        exact ih entry hentry (below entry hentry) (compatible.child? found)
    rw [copied, overlay, again]

/-! ## Trees that are listed differently -/

theorem Same.exists_get? {a b : FileNode} (same : a.Same b) {node : FileNode}
    (found : b.get? path = some node) :
    ∃ other, a.get? path = some other ∧ other.contents? = node.contents? := by
  have here := same path
  rw [found, Option.map_some] at here
  exact Option.map_eq_some_iff.1 here

/-- What is compatible with a tree depends only on what stands at its paths. -/
theorem Compatible.of_same {source' tree' : FileNode} (sources : source.Same source')
    (trees : tree.Same tree') (h : source.Compatible tree) : source'.Compatible tree' := by
  intro path a b ha hb
  obtain ⟨x, hx, xa⟩ := sources.exists_get? ha
  obtain ⟨y, hy, yb⟩ := trees.exists_get? hb
  rw [isDirectory_eq, isDirectory_eq, ← xa, ← yb, ← isDirectory_eq, ← isDirectory_eq]
  exact h path x y hx hy

theorem compatibleAt_some : CompatibleAt source (some tree) ↔ source.Compatible tree := by
  simp [CompatibleAt]

/-- What copying leaves depends only on what stands at the paths of both trees. -/
theorem overlay_same {source' tree' : FileNode} (distinct : source.Distinct)
    (distinct' : source'.Distinct) (compatible : source.Compatible tree)
    (sources : source.Same source') (trees : tree.Same tree') :
    (overlay source (some tree)).1.Same (overlay source' (some tree')).1 := by
  intro path
  have compatible' := compatible.of_same sources trees
  obtain ⟨there, elsewhere⟩ := get?_overlay distinct (compatibleAt_some.2 compatible) path
  obtain ⟨there', elsewhere'⟩ := get?_overlay distinct' (compatibleAt_some.2 compatible') path
  cases found' : source'.get? path with
  | none =>
    have absent : source.get? path = none := by simpa [found'] using sources path
    rw [elsewhere absent, elsewhere' found']
    exact trees path
  | some node' =>
    obtain ⟨node, found, same⟩ := sources.exists_get? found'
    obtain ⟨copy, hcopy, contents⟩ := there node found
    obtain ⟨copy', hcopy', contents'⟩ := there' node' found'
    rw [hcopy, hcopy', Option.map_some, Option.map_some, contents, contents', same]

/-- The second tree is the first with the entries of some directories in another order. -/
inductive Relisted : FileNode → FileNode → Prop
  | perm {entries entries' : List (String × FileNode)} (perm : entries.Perm entries') :
    Relisted (.directory entries) (.directory entries')
  | inside {front back : List (String × FileNode)} {name : String} {node node' : FileNode}
    (inner : Relisted node node') : Relisted (.directory (front ++ (name, node) :: back))
      (.directory (front ++ (name, node') :: back))
  | trans {a b c : FileNode} (first : Relisted a b) (second : Relisted b c) : Relisted a c

/-- Where the names differ, the order of the entries does not matter. -/
theorem Relisted.same {a b : FileNode} (h : Relisted a b) (distinct : a.Distinct) :
    b.Distinct ∧ a.Same b := by
  induction h with
  | perm perm =>
    cases distinct with
    | directory names below =>
      refine ⟨.directory ((perm.map (·.1)).nodup_iff.1 names) fun entry hentry =>
        below entry (perm.mem_iff.2 hentry), fun path => ?_⟩
      cases path with
      | nil => rfl
      | cons name path => rw [get?_cons, get?_cons, lookup_eq_of_perm names perm]
  | @inside front back name node node' inner ih =>
    cases distinct with
    | directory names below =>
      obtain ⟨distinct, same⟩ := ih (below (name, node) (by simp))
      refine ⟨.directory (by simpa using names) fun entry hentry => ?_, fun path => ?_⟩
      · simp only [List.mem_append, List.mem_cons] at hentry below
        rcases hentry with hentry | rfl | hentry
        · exact below entry (.inl hentry)
        · exact distinct
        · exact below entry (.inr (.inr hentry))
      · cases path with
        | nil => rfl
        | cons key path =>
          rw [get?_cons, get?_cons, List.lookup_append, List.lookup_append, List.lookup_cons,
            List.lookup_cons]
          cases front.lookup key with
          | some found => rfl
          | none =>
            cases key == name with
            | true => exact same path
            | false => rfl
  | trans first second ih ih' =>
    obtain ⟨between, same⟩ := ih distinct
    obtain ⟨last, same'⟩ := ih' between
    exact ⟨last, fun path => (same path).trans (same' path)⟩

end SignatureAudit.FileNode
