import SignatureAudit.Proofs.Project.Session

/-!
# Fixtures

Fixtures are the entries of a directory that are copied into the project, and the copying is the one
of the directory over the tree of the project (`run_addFixtures`). So the fixtures come to stand in
the project as they stand in their directory, and all else in the project stays as it was
(`addFixtures_overlays`).
-/

namespace SignatureAudit.Session

open FileNode (Compatible Distinct Relisted Same contents? get? overlay)

variable {s : Session} {sources : List (String × FileNode)} {tree : FileNode}

/-- Fixtures that can be copied are laid over the tree of the project; nothing else changes. -/
theorem run_addFixtures (copied : overlay (.directory sources) (some s.tree) = (tree, true)) :
    runOn (addFixtures (.ok (.directory sources))) s = (.ok (), s.onTree tree) := by
  cases project : s.tree with
  | file bytes runnable =>
    rw [project, overlay] at copied
    cases copied
  | directory entries =>
    rw [project, overlay] at copied
    obtain ⟨rfl, complete⟩ := Prod.mk.inj copied
    simp only [addFixtures]
    rw [runOn_bind_ok (runOn_get s), project]
    simp only [FileNode.entries, complete]
    rw [runOn_bind_ok (runOn_set ..)]
    rfl

/-- **Fixtures are laid over the project.** If their directories list each name once, and no path is
a file in the fixtures and a directory in the project or the other way round, they are copied. Then
every path of the fixtures leads to what it leads to there, and every other path to what it led to
before. It does not matter in which order the directories of the fixtures or those of the project
are listed, and copying the fixtures once more changes nothing. -/
theorem addFixtures_overlays (distinct : (FileNode.directory sources).Distinct)
    (compatible : (FileNode.directory sources).Compatible s.tree) :
    ∃ tree, runOn (addFixtures (.ok (.directory sources))) s = (.ok (), s.onTree tree) ∧
      (∀ path node, get? path (.directory sources) = some node →
        ∃ copy, tree.get? path = some copy ∧ copy.contents? = node.contents?) ∧
      (∀ path, get? path (.directory sources) = none → tree.get? path = s.tree.get? path) ∧
      (∀ sources' project, Relisted (.directory sources) (.directory sources') →
        s.tree.Same project → ∃ tree',
          runOn (addFixtures (.ok (.directory sources'))) (s.onTree project)
            = (.ok (), s.onTree tree') ∧ tree.Same tree') ∧
      runOn (addFixtures (.ok (.directory sources))) (s.onTree tree)
        = (.ok (), s.onTree tree) := by
  have there := FileNode.compatibleAt_some.2 compatible
  have copied : overlay (.directory sources) (some s.tree) = (_, true) :=
    Prod.ext rfl (FileNode.overlay_complete distinct there)
  have lies := FileNode.get?_overlay distinct there
  refine ⟨_, run_addFixtures copied, fun path => (lies path).1, fun path => (lies path).2,
    fun sources' project listed same => ?_, ?_⟩
  · obtain ⟨distinct', sources_same⟩ := listed.same distinct
    have compatible' := compatible.of_same sources_same same
    have copied' : overlay (.directory sources') (some project) = (_, true) :=
      Prod.ext rfl (FileNode.overlay_complete distinct' (FileNode.compatibleAt_some.2 compatible'))
    exact ⟨_, run_addFixtures (s := s.onTree project) copied',
      FileNode.overlay_same distinct distinct' compatible sources_same same⟩
  · exact run_addFixtures (s := s.onTree _) (FileNode.overlay_overlay distinct there)

/-- A program, and a directory that the project has as well. -/
def someFixtures : List (String × FileNode) :=
  [("run.sh", .file "exit\n".toUTF8 true),
    ("sub", .directory [("meson.build", .file "x = 1\n".toUTF8 false), ("deep", .directory [])])]

/-- A project with two files in a directory, one of which the fixtures have as well. -/
def someProject : Session :=
  (empty "/p" {}).onTree (.directory
    [("sub", .directory [("old", .file "o".toUTF8 false), ("meson.build", .file .empty false)])])

/-- The directory has the file of the fixtures afterwards, and the other one of its own. -/
theorem addFixtures_merges_directory :
    (FileNode.directory someFixtures).Distinct ∧
    (FileNode.directory someFixtures).Compatible someProject.tree ∧
    ∃ tree, runOn (addFixtures (.ok (.directory someFixtures))) someProject
        = (.ok (), someProject.onTree tree) ∧
      (tree.get? ["sub", "meson.build"]).map contents? = some (some ("x = 1\n".toUTF8, false)) ∧
      tree.get? ["sub", "old"] = some (.file "o".toUTF8 false) := by
  have distinct : (FileNode.directory someFixtures).Distinct := by
    have inner : (FileNode.directory
        [("meson.build", .file "x = 1\n".toUTF8 false), ("deep", .directory [])]).Distinct := by
      refine .directory (by decide) (List.forall_mem_cons.2 ⟨.file _ _, ?_⟩)
      exact List.forall_mem_singleton.2 (.directory .nil (List.forall_mem_nil _))
    refine .directory (by decide) (List.forall_mem_cons.2 ⟨.file _ _, ?_⟩)
    exact List.forall_mem_singleton.2 inner
  have compatible : (FileNode.directory someFixtures).Compatible someProject.tree := by
    refine FileNode.compatible_directory fun name a b ha hb => ?_
    obtain ⟨rfl, rfl⟩ := Prod.mk.inj (List.mem_singleton.1 (mem_of_lookup hb))
    obtain rfl := Option.some.inj ha
    refine FileNode.compatible_directory fun name a b ha hb => ?_
    have among := mem_of_lookup hb
    simp only [List.mem_cons, List.not_mem_nil, or_false, Prod.mk.injEq] at among
    rcases among with ⟨rfl, rfl⟩ | ⟨rfl, rfl⟩
    · cases ha
    · obtain rfl := Option.some.inj ha
      exact FileNode.compatible_file
  obtain ⟨tree, copied, there, elsewhere, -⟩ := addFixtures_overlays distinct compatible
  obtain ⟨copy, found, contents⟩ := there ["sub", "meson.build"] _ rfl
  refine ⟨distinct, compatible, tree, copied, ?_, elsewhere ["sub", "old"] rfl⟩
  rw [found, Option.map_some, contents]
  rfl

end SignatureAudit.Session
