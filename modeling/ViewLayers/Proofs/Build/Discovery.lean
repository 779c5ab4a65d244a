import Mathlib
import ViewLayers.CommandLine.Build
import ViewLayers.Proofs.Files.Places
import ViewLayers.Proofs.Text.ByteOrder

/-!
# Finding modules

In a tree as file systems have them every node stands in a directory under a name of its own. There
the modules of a directory are exactly the names with a view file below them, in byte order, and
the path of a module leads to that file.
-/

namespace ViewLayers

namespace FileTree

/-- Every node stands in a directory, and no other has its place. -/
structure WellFormed (t : FileTree) : Prop where
  distinct : Entries.Distinct t.nodes
  named : ∀ e ∈ t.nodes, ∀ name ∈ e.1, IsName name
  inside : ∀ e ∈ t.nodes, t.node? e.1.dropLast = some .directory

namespace WellFormed

variable {t : FileTree} (h : t.WellFormed) {here : Place} {name : String} {node : FileNode}
include h

omit h in
theorem mem_nodes_of_node? (hnode : t.node? (here ++ [name]) = some node) :
    (here ++ [name], node) ∈ t.nodes := by
  rw [node?_of_ne _ (by simp)] at hnode
  exact Entries.mem_of_get? hnode

theorem isName (hnode : t.node? (here ++ [name]) = some node) : IsName name :=
  h.named _ (mem_nodes_of_node? hnode) name (by simp)

theorem directory_of_node? (hnode : t.node? (here ++ [name]) = some node) :
    t.node? here = some .directory := by
  have hinside := h.inside _ (mem_nodes_of_node? hnode)
  rwa [List.dropLast_concat] at hinside

omit h in
theorem child_eq_some_iff {e : Place × FileNode} {child : String × FileNode} :
    (match e.1.getLast? with
      | some last => if e.1.dropLast = here then some (last, e.2) else none
      | none => none) = some child ↔ e = (here ++ [child.1], child.2) := by
  obtain ⟨p, n⟩ := e
  constructor
  · intro hchild
    cases hlast : p.getLast? with
    | none => simp [hlast] at hchild
    | some last =>
      simp only [hlast] at hchild
      split at hchild
      · rename_i habove
        cases hchild
        rw [← habove, List.dropLast_append_getLast? last hlast]
      · cases hchild
  · intro he
    cases he
    simp

theorem mem_children_iff :
    (name, node) ∈ t.children here ↔ t.node? (here ++ [name]) = some node := by
  rw [children, List.mem_mergeSort, List.mem_filterMap]
  constructor
  · rintro ⟨e, hmem, hchild⟩
    cases child_eq_some_iff.1 hchild
    rw [node?_of_ne _ (by simp), h.distinct.get?_eq_some_of_mem hmem]
  · intro hnode
    exact ⟨_, mem_nodes_of_node? hnode, child_eq_some_iff.2 rfl⟩

theorem pairwise_children (here : Place) :
    (t.children here).Pairwise fun a b => a.1 < b.1 := by
  have hsorted : (t.children here).Pairwise fun a b => decide (a.1 ≤ b.1) = true := by
    apply List.pairwise_mergeSort
    · intro a b c hab hbc
      rw [decide_eq_true_eq] at hab hbc ⊢
      exact le_trans hab hbc
    · intro a b
      simpa using le_total a.1 b.1
  have hnames : (t.children here).Pairwise fun a b => a.1 ≠ b.1 := by
    rw [children, (List.mergeSort_perm _ _).pairwise_iff Ne.symm]
    apply List.Pairwise.filterMap _ _ h.distinct
    intro e f hne a ha b hb heq
    rw [child_eq_some_iff.1 ha, child_eq_some_iff.1 hb, heq, beq_self_eq_true] at hne
    cases hne
  apply hsorted.imp₂ _ hnames
  intro a b hle hne
  exact lt_of_le_of_ne (of_decide_eq_true hle) hne

end WellFormed

end FileTree

namespace ViewModule

def viewFile (dir name : String) : String := (name :: fileParts).foldl FileTree.join dir

structure Discovered (files : FileTree) (dir : String) (modules : List ViewModule) : Prop where
  ordered : modules.Pairwise fun m n => utf8Bytes m.name < utf8Bytes n.name
  isName : ∀ m ∈ modules, FileTree.IsName m.name
  path_eq : ∀ m ∈ modules, m.path = viewFile dir m.name
  found_iff : ∀ name, FileTree.IsName name →
    ((∃ m ∈ modules, m.name = name) ↔
      ∃ content, files.find (viewFile dir name) = .ok (.file content))

section Discover

variable {files : FileTree} {dir name : String} {here : Place} {content : ByteArray}

theorem isName_config : FileTree.IsName "config" := by
  decide

theorem isName_view : FileTree.IsName "view.yml" := by
  decide

theorem find_viewFile_iff (hwell : files.WellFormed) (hplace : files.place dir = .ok here)
    (hdir : files.node? here = some .directory) (hname : FileTree.IsName name) :
    files.find (viewFile dir name) = .ok (.file content) ↔
      files.node? (here ++ [name] ++ fileParts) = some (.file content) := by
  have hne : dir ≠ "" := by
    rintro rfl
    cases hplace
  have hparts : here ++ [name] ++ fileParts = here ++ [name] ++ ["config"] ++ ["view.yml"] := by
    simp [fileParts]
  rw [hparts, FileTree.find_eq_ok_iff]
  constructor
  · rintro ⟨p, hp, hnode, -⟩
    obtain ⟨q, hq, -, rfl⟩ :=
      FileTree.of_place_join isName_view (FileTree.join_ne_empty _ isName_config) hp
    obtain ⟨r, hr, -, rfl⟩ :=
      FileTree.of_place_join isName_config (FileTree.join_ne_empty _ hname) hq
    obtain ⟨here', hhere, -, rfl⟩ := FileTree.of_place_join hname hne hr
    rw [hplace] at hhere
    cases hhere
    exact hnode
  · intro hnode
    have hconfig := hwell.directory_of_node? hnode
    have hmodule := hwell.directory_of_node? hconfig
    refine ⟨_, ?_, hnode, ?_⟩
    · exact FileTree.place_join isName_view (FileTree.place_join isName_config
        (FileTree.place_join hname hplace hdir) hmodule) hconfig
    · intro hasks
      rw [viewFile, fileParts, List.foldl_cons, List.foldl_cons, List.foldl_cons, List.foldl_nil,
        FileTree.asksDirectory_join _ isName_view] at hasks
      cases hasks

theorem isAt_iff : isAt files here = true ↔
    ∃ content, files.node? (here ++ fileParts) = some (.file content) := by
  rw [isAt]
  split
  · rename_i content hnode
    simp [hnode]
  · rename_i hnot
    simpa using hnot

theorem directory_of_viewFile (hwell : files.WellFormed)
    (hnode : files.node? (here ++ [name] ++ fileParts) = some (.file content)) :
    files.node? (here ++ [name]) = some .directory := by
  have hparts : here ++ [name] ++ fileParts = here ++ [name] ++ ["config"] ++ ["view.yml"] := by
    simp [fileParts]
  rw [hparts] at hnode
  exact hwell.directory_of_node? (hwell.directory_of_node? hnode)

theorem mem_discover_iff (hwell : files.WellFormed) (hplace : files.place dir = .ok here)
    {m : ViewModule} :
    m ∈ discover files dir ↔ m.path = viewFile dir m.name ∧
      ∃ content, files.node? (here ++ [m.name] ++ fileParts) = some (.file content) := by
  rw [discover, hplace, List.mem_filterMap]
  constructor
  · rintro ⟨child, -, hchild⟩
    split at hchild
    · rename_i hat
      cases hchild
      exact ⟨rfl, isAt_iff.1 hat⟩
    · cases hchild
  · obtain ⟨name, path⟩ := m
    rintro ⟨hpath, content, hnode⟩
    simp only at hpath hnode
    subst hpath
    refine ⟨(name, .directory), ?_, ?_⟩
    · exact hwell.mem_children_iff.2 (directory_of_viewFile hwell hnode)
    · rw [if_pos (isAt_iff.2 ⟨content, hnode⟩)]
      rfl

theorem discovered (hwell : files.WellFormed) (hdir : files.isDirectory dir = true) :
    Discovered files dir (discover files dir) := by
  obtain ⟨here, hplace, hhere⟩ : ∃ here, files.place dir = .ok here ∧
      files.node? here = some .directory := by
    rw [FileTree.isDirectory] at hdir
    split at hdir
    · rename_i hfind
      obtain ⟨here, hplace, hhere, -⟩ := FileTree.find_eq_ok_iff.1 hfind
      exact ⟨here, hplace, hhere⟩
    · cases hdir
  constructor
  case ordered =>
    rw [discover, hplace]
    apply List.Pairwise.filterMap _ _ (hwell.pairwise_children here)
    intro a b hlt m hm n hn
    split at hm
    · split at hn
      · cases hm
        cases hn
        exact utf8Bytes_lt_iff.2 hlt
      · cases hn
    · cases hm
  case isName =>
    intro m hm
    obtain ⟨-, content, hnode⟩ := (mem_discover_iff hwell hplace).1 hm
    exact hwell.isName (directory_of_viewFile hwell hnode)
  case path_eq =>
    intro m hm
    exact ((mem_discover_iff hwell hplace).1 hm).1
  case found_iff =>
    intro name hname
    simp only [find_viewFile_iff hwell hplace hhere hname]
    constructor
    · rintro ⟨m, hm, rfl⟩
      exact ((mem_discover_iff hwell hplace).1 hm).2
    · intro hnode
      exact ⟨⟨name, viewFile dir name⟩, (mem_discover_iff hwell hplace).2 ⟨rfl, hnode⟩, rfl⟩

end Discover

end ViewModule

end ViewLayers
