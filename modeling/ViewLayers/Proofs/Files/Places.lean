import ViewLayers.Proofs.Entries
import ViewLayers.Proofs.Files.Names

/-!
# Places of paths

Going down a path needs a directory at every place that is left again. So a path leads to the same
place in every tree that keeps the directories, and what is found there depends on that place
alone. A file that is written changes one place and keeps every directory.
-/

namespace ViewLayers.FileTree

variable {t t' : FileTree} {path : String} {p q : Place} {node : FileNode}

@[simp] theorem node?_nil (t : FileTree) : t.node? [] = some .directory := if_pos rfl

theorem node?_of_ne (t : FileTree) (h : p ≠ []) : t.node? p = Entries.get? t.nodes p := if_neg h

theorem ne_nil_of_node? (h : t.node? p ≠ some .directory) : p ≠ [] := by
  rintro rfl
  exact h t.node?_nil

theorem node?_put (t : FileTree) (hp : p ≠ []) (node : FileNode) (q : Place) :
    (⟨Entries.put t.nodes p node⟩ : FileTree).node? q = if q = p then some node else t.node? q := by
  by_cases hq : q = p
  · subst hq
    rw [if_pos rfl, node?_of_ne _ hp, Entries.get?_put_self]
  · rw [if_neg hq]
    by_cases hnil : q = []
    · rw [hnil, node?_nil, node?_nil]
    · have hne : (p == q) = false := beq_eq_false_iff_ne.2 fun h => hq h.symm
      rw [node?_of_ne _ hnil, node?_of_ne _ hnil, Entries.get?_put_of_ne t.nodes node hne]

section Walk

theorem walk_append (t : FileTree) (here : Place) (xs ys : List String) :
    t.walk here (xs ++ ys) = (t.walk here xs).bind fun there => t.walk there ys := by
  induction xs generalizing here with
  | nil => rfl
  | cons name rest ih =>
    rw [List.cons_append, walk, walk]
    cases t.node? here with
    | none => rfl
    | some node =>
      cases node with
      | file content => rfl
      | directory =>
        simp only
        split
        · split
          · rfl
          · exact ih here.dropLast
        · exact ih (here ++ [name])

theorem walk_singleton {here : Place} {name : String} (hdir : t.node? here = some .directory)
    (hname : name ≠ "..") : t.walk here [name] = .ok (here ++ [name]) := by
  rw [walk, hdir]
  simp only [if_neg hname, walk]

theorem of_walk_singleton {here there : Place} {name : String} (hname : name ≠ "..")
    (h : t.walk here [name] = .ok there) :
    t.node? here = some .directory ∧ there = here ++ [name] := by
  cases hnode : t.node? here with
  | none => simp [walk, hnode] at h
  | some node =>
    cases node with
    | file content => simp [walk, hnode] at h
    | directory =>
      rw [walk_singleton hnode hname] at h
      exact ⟨rfl, (Except.ok.inj h).symm⟩

def Keeps (t t' : FileTree) : Prop :=
  ∀ q, t.node? q = some .directory → t'.node? q = some .directory

theorem walk_of_keeps (h : Keeps t t') {here there : Place} {names : List String}
    (hwalk : t.walk here names = .ok there) : t'.walk here names = .ok there := by
  induction names generalizing here with
  | nil => exact hwalk
  | cons name rest ih =>
    rw [walk] at hwalk ⊢
    cases hnode : t.node? here with
    | none => simp [hnode] at hwalk
    | some node =>
      cases node with
      | file content => simp [hnode] at hwalk
      | directory =>
        rw [h here hnode]
        rw [hnode] at hwalk
        simp only at hwalk ⊢
        split at hwalk
        · split at hwalk
          · cases hwalk
          · rename_i hup hroot
            rw [if_pos hup, if_neg hroot]
            exact ih hwalk
        · rename_i hup
          rw [if_neg hup]
          exact ih hwalk

end Walk

section Place

theorem place_of_keeps (h : Keeps t t') (hplace : t.place path = .ok p) :
    t'.place path = .ok p := by
  rw [place] at hplace ⊢
  split at hplace
  · cases hplace
  split at hplace
  · cases hplace
  · rename_i hempty habsolute
    rw [if_neg hempty, if_neg habsolute]
    exact walk_of_keeps h hplace

theorem place_eq_walk (hempty : path ≠ "") (habsolute : isAbsolute path = false) :
    t.place path = t.walk [] (names path) := by
  rw [place, if_neg hempty, if_neg (by simp [habsolute])]

theorem place_join {name : String} (hname : IsName name) (hplace : t.place path = .ok p)
    (hdir : t.node? p = some .directory) : t.place (join path name) = .ok (p ++ [name]) := by
  rw [place] at hplace
  split at hplace
  · cases hplace
  split at hplace
  · cases hplace
  · rename_i hempty habsolute
    rw [Bool.not_eq_true] at habsolute
    rw [place_eq_walk (join_ne_empty path hname) (isAbsolute_join path hname habsolute),
      names_join path hname, walk_append, hplace]
    exact walk_singleton hdir hname.ne_above

theorem of_place_join {name : String} (hname : IsName name) (hne : path ≠ "")
    (h : t.place (join path name) = .ok p) :
    ∃ here, t.place path = .ok here ∧ t.node? here = some .directory ∧ p = here ++ [name] := by
  rw [place, if_neg (join_ne_empty path hname), isAbsolute_join_of_ne path hne] at h
  split at h
  · cases h
  · rename_i habsolute
    rw [Bool.not_eq_true] at habsolute
    rw [names_join path hname, walk_append] at h
    rw [place_eq_walk hne habsolute]
    cases hwalk : t.walk [] (names path) with
    | error e =>
      rw [hwalk] at h
      cases h
    | ok here =>
      rw [hwalk] at h
      obtain ⟨hdir, hp⟩ := of_walk_singleton hname.ne_above h
      exact ⟨here, rfl, hdir, hp⟩

theorem getLast?_of_place_join {name : String} (hname : IsName name)
    (h : t.place (join path name) = .ok p) : p.getLast? = some name := by
  rw [place] at h
  split at h
  · cases h
  split at h
  · cases h
  · rw [names_join path hname, walk_append] at h
    cases hwalk : t.walk [] (names path) with
    | error e =>
      rw [hwalk] at h
      cases h
    | ok here =>
      rw [hwalk] at h
      rw [(of_walk_singleton hname.ne_above h).2, List.getLast?_concat]

end Place

section Find

theorem find_eq_ok_iff :
    t.find path = .ok node ↔
      ∃ p, t.place path = .ok p ∧ t.node? p = some node ∧
        (asksDirectory path = true → node = .directory) := by
  rw [find]
  cases t.place path with
  | error e => simp [bind, Except.bind]
  | ok p =>
    cases hnode : t.node? p with
    | none => simp [bind, Except.bind, hnode]
    | some found =>
      cases found with
      | directory =>
        simp only [bind, Except.bind, hnode, Except.ok.injEq, exists_eq_left', Option.some.injEq]
        exact ⟨fun h => ⟨h, fun _ => h.symm⟩, fun h => h.1⟩
      | file content =>
        cases hasks : asksDirectory path with
        | true =>
          simp only [bind, Except.bind, hnode, ↓reduceIte, forall_const, reduceCtorEq, false_iff]
          rintro ⟨q, hq, hfile, rfl⟩
          cases hq
          rw [hnode] at hfile
          cases hfile
        | false => simp [bind, Except.bind, hnode]

theorem find_of_keeps (h : Keeps t t')
    (hnode : ∀ p, t.place path = .ok p → t.node? p = some node → t'.node? p = some node)
    (hfind : t.find path = .ok node) : t'.find path = .ok node := by
  rw [find_eq_ok_iff] at hfind ⊢
  obtain ⟨p, hplace, hthere, hasks⟩ := hfind
  exact ⟨p, place_of_keeps h hplace, hnode p hplace hthere, hasks⟩

theorem find_congr (h : ∀ q, t'.node? q = t.node? q) (path : String) :
    t'.find path = t.find path := by
  have hwalk : ∀ names here, t'.walk here names = t.walk here names := by
    intro names
    induction names with
    | nil => exact fun _ => rfl
    | cons name rest ih =>
      intro here
      simp only [walk, h, ih]
  rw [find, find, place, place]
  simp only [hwalk, h]

theorem readText_congr (h : t'.find path = t.find path) : t'.readText path = t.readText path := by
  rw [readText, readText, h]

end Find

end ViewLayers.FileTree
