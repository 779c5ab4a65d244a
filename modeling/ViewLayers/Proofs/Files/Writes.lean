import Mathlib
import ViewLayers.Proofs.Files.Places
import ViewLayers.Proofs.Sources.Layering

/-!
# Writing files and creating directories

A file that is written is read back, and nothing else changes. Creating directories leaves all
that is there as it is, and what it adds are directories.
-/

namespace ViewLayers.FileTree

variable {t t' : FileTree} {path text : String} {p : Place}

/-- A file can be written by this path, and it will stand at this place. -/
structure Writable (t : FileTree) (path : String) (p : Place) : Prop where
  place_eq : t.place path = .ok p
  not_directory : t.node? p ≠ some .directory
  above : t.node? p = none → t.node? p.dropLast = some .directory
  asks_file : asksDirectory path = false

theorem writeText_eq_ok_iff :
    t.writeText path text = .ok t' ↔
      ∃ p, Writable t path p ∧ t' = ⟨Entries.put t.nodes p (.file text.toUTF8)⟩ := by
  rw [writeText]
  cases hplace : t.place path with
  | error e =>
    constructor
    · intro h
      cases h
    · rintro ⟨p, hp, -⟩
      rw [hp.place_eq] at hplace
      cases hplace
  | ok p =>
    have hwritable : Writable t path p ↔ (t.node? p ≠ some .directory ∧
        (t.node? p = none → t.node? p.dropLast = some .directory) ∧
        asksDirectory path = false) :=
      ⟨fun h => ⟨h.not_directory, h.above, h.asks_file⟩, fun h => ⟨hplace, h.1, h.2.1, h.2.2⟩⟩
    have hunique : (∃ q, Writable t path q ∧
          t' = ⟨Entries.put t.nodes q (.file text.toUTF8)⟩) ↔
        Writable t path p ∧ t' = ⟨Entries.put t.nodes p (.file text.toUTF8)⟩ := by
      constructor
      · rintro ⟨q, hq, ht⟩
        have hpq : q = p := Except.ok.inj (hq.place_eq.symm.trans hplace)
        exact hpq ▸ ⟨hq, ht⟩
      · exact fun h => ⟨p, h⟩
    rw [hunique, hwritable]
    cases hnode : t.node? p with
    | none =>
      cases habove : t.node? p.dropLast with
      | none => simp [bind, Except.bind, hnode, habove]
      | some above =>
        cases above with
        | file content => simp [bind, Except.bind, hnode, habove]
        | directory =>
          cases hasks : asksDirectory path <;>
            simp [bind, Except.bind, hnode, habove, eq_comm]
    | some node =>
      cases node with
      | directory => simp [bind, Except.bind, hnode]
      | file content =>
        cases hasks : asksDirectory path <;> simp [bind, Except.bind, hnode, eq_comm]

namespace Writable

theorem ne_nil (h : Writable t path p) : p ≠ [] := ne_nil_of_node? h.not_directory

theorem node?_put (h : Writable t path p) (node : FileNode) (q : Place) :
    (⟨Entries.put t.nodes p node⟩ : FileTree).node? q = if q = p then some node else t.node? q :=
  FileTree.node?_put t h.ne_nil node q

theorem keeps_put (h : Writable t path p) (node : FileNode) :
    Keeps t ⟨Entries.put t.nodes p node⟩ := by
  intro q hq
  have hne : q ≠ p := by
    rintro rfl
    exact h.not_directory hq
  rw [h.node?_put, if_neg hne, hq]

theorem of_keeps (h : Writable t path p) (hkeeps : Keeps t t')
    (hfree : t'.node? p ≠ some .directory) (hthere : t'.node? p = none → t.node? p = none) :
    Writable t' path p where
  place_eq := place_of_keeps hkeeps h.place_eq
  not_directory := hfree
  above := fun hnone => hkeeps _ (h.above (hthere hnone))
  asks_file := h.asks_file

theorem readText_eq (h : Writable t path p) (hkeeps : Keeps t t')
    (hnode : t'.node? p = some (.file text.toUTF8)) : t'.readText path = .ok text := by
  apply readText_of_find
  rw [find_eq_ok_iff]
  refine ⟨p, place_of_keeps hkeeps h.place_eq, hnode, ?_⟩
  intro hasks
  rw [h.asks_file] at hasks
  cases hasks

end Writable

section Written

variable (h : t.writeText path text = .ok t')
include h

theorem readText_of_writeText : t'.readText path = .ok text := by
  obtain ⟨p, hp, rfl⟩ := writeText_eq_ok_iff.1 h
  apply hp.readText_eq (hp.keeps_put _)
  rw [hp.node?_put, if_pos rfl]

theorem node?_of_writeText {q : Place} (hq : t.place path ≠ .ok q) :
    t'.node? q = t.node? q := by
  obtain ⟨p, hp, rfl⟩ := writeText_eq_ok_iff.1 h
  have hne : q ≠ p := by
    rintro rfl
    exact hq hp.place_eq
  rw [hp.node?_put, if_neg hne]

end Written

section Directories

def Enlarges (t t' : FileTree) : Prop :=
  ∀ q, t'.node? q = t.node? q ∨ (t.node? q = none ∧ t'.node? q = some .directory)

theorem Enlarges.node?_of_some (h : Enlarges t t') {q : Place} {node : FileNode}
    (hq : t.node? q = some node) : t'.node? q = some node := by
  rcases h q with heq | ⟨hnone, -⟩
  · rw [heq, hq]
  · rw [hnone] at hq
    cases hq

theorem Enlarges.node?_file_iff (h : Enlarges t t') {q : Place} {content : ByteArray} :
    t'.node? q = some (.file content) ↔ t.node? q = some (.file content) := by
  rcases h q with heq | ⟨hnone, hdir⟩
  · rw [heq]
  · rw [hnone, hdir]
    exact ⟨nofun, nofun⟩

theorem Enlarges.keeps (h : Enlarges t t') : Keeps t t' := fun _ hq => h.node?_of_some hq

theorem Enlarges.find_eq (h : Enlarges t t') {node : FileNode} (hfind : t.find path = .ok node) :
    t'.find path = .ok node :=
  find_of_keeps h.keeps (fun _ _ hthere => h.node?_of_some hthere) hfind

theorem Enlarges.fst_ofFile_eq (h : Enlarges t t') {layer : Record}
    (hlayer : (Record.ofFile t path).1 = .ok layer) : (Record.ofFile t' path).1 = .ok layer := by
  cases hfind : t.find path with
  | error e => simp [Record.ofFile, readText, hfind, bind, Except.bind] at hlayer
  | ok node =>
    have hsame : t'.find path = t.find path := by
      rw [hfind, h.find_eq hfind]
    rwa [Record.ofFile, readText_congr hsame]

theorem enlarges_of_createDown {here : Place} {names : List String}
    (h : t.createDown here names = .ok t') : Enlarges t t' := by
  induction names generalizing t here with
  | nil =>
    cases h
    exact fun q => .inl rfl
  | cons name rest ih =>
    rw [createDown] at h
    split at h
    · split at h
      · cases h
      · exact ih h
    · simp only at h
      split at h
      · exact ih h
      · cases h
      · rename_i hnone
        have hne : here ++ [name] ≠ [] := by simp
        intro q
        have hput := node?_put t hne .directory q
        by_cases hq : q = here ++ [name]
        · subst hq
          rw [if_pos rfl] at hput
          exact .inr ⟨hnone, (ih h).node?_of_some hput⟩
        · rw [if_neg hq] at hput
          rw [← hput]
          exact ih h q

theorem enlarges_of_createDirectories (h : t.createDirectories path = .ok t') :
    Enlarges t t' := by
  rw [createDirectories] at h
  split at h
  · cases h
    exact fun q => .inl rfl
  split at h
  · cases h
  · exact enlarges_of_createDown h

end Directories

end ViewLayers.FileTree
