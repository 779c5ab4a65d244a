import Mathlib.Data.List.Basic
import ViewLayers.FileTree

/-!
# Names in paths

The text of a path is read as the names between its slashes. Joining a name to a path puts the
name behind the names of the path, and such a path neither asks for a directory nor starts at
another place than the path did.
-/

namespace ViewLayers

theorem endsWith_iff (s ending : String) :
    s.endsWith ending = true ↔ ending.toList <:+ s.toList := by
  rw [← String.endsWith_toSlice, String.Slice.endsWith_string_iff, String.copy_toSlice]

namespace FileTree

structure IsName (name : String) : Prop where
  ne_empty : name ≠ ""
  ne_here : name ≠ "."
  ne_above : name ≠ ".."
  slash_notMem : '/' ∉ name.toList

theorem isName_iff {name : String} :
    IsName name ↔ name ≠ "" ∧ name ≠ "." ∧ name ≠ ".." ∧ '/' ∉ name.toList := by
  constructor
  · rintro ⟨hempty, hhere, habove, hslash⟩
    exact ⟨hempty, hhere, habove, hslash⟩
  · rintro ⟨hempty, hhere, habove, hslash⟩
    exact ⟨hempty, hhere, habove, hslash⟩

instance (name : String) : Decidable (IsName name) := decidable_of_iff' _ isName_iff

@[simp] theorem names_empty : names "" = [] := by
  decide

@[simp] theorem names_append_slash (path rest : String) :
    names (path ++ "/" ++ rest) = names path ++ names rest := by
  have hchars : (path ++ "/" ++ rest).toList = path.toList ++ '/' :: rest.toList := by
    simp [String.toList_append]
  rw [names, hchars, List.splitOn_append_cons_self, List.map_append, List.filter_append]
  rfl

theorem IsName.names_eq {name : String} (h : IsName name) : names name = [name] := by
  rw [names, List.splitOn_eq_singleton h.slash_notMem, List.map_singleton, String.ofList_toList,
    List.filter_cons_of_pos (by simpa using ⟨h.ne_empty, h.ne_here⟩), List.filter_nil]

theorem exists_of_endsWith_slash {path : String} (h : path.endsWith "/" = true) :
    ∃ start, path = start ++ "/" := by
  obtain ⟨start, hstart⟩ := (endsWith_iff path "/").1 h
  refine ⟨String.ofList start, String.toList_inj.1 ?_⟩
  rw [String.toList_append, String.toList_ofList, hstart]

section Join

variable {name : String} (path : String)

theorem join_cases (name : String) :
    (path = "" ∧ join path name = name) ∨
      (∃ start, path = start ++ "/" ∧ join path name = start ++ "/" ++ name) ∨
      (path ≠ "" ∧ join path name = path ++ "/" ++ name) := by
  rw [join]
  by_cases hempty : path = ""
  · exact .inl ⟨hempty, if_pos hempty⟩
  rw [if_neg hempty]
  by_cases hslash : path.endsWith "/" = true
  · obtain ⟨start, rfl⟩ := exists_of_endsWith_slash hslash
    exact .inr (.inl ⟨start, rfl, if_pos hslash⟩)
  · exact .inr (.inr ⟨hempty, if_neg hslash⟩)

theorem names_join (h : IsName name) : names (join path name) = names path ++ [name] := by
  rcases join_cases path name with ⟨rfl, hjoin⟩ | ⟨start, rfl, hjoin⟩ | ⟨-, hjoin⟩
  · rw [hjoin, h.names_eq, names_empty, List.nil_append]
  · have hstart : names (start ++ "/") = names start := by
      have happend := names_append_slash start ""
      rwa [String.append_empty, names_empty, List.append_nil] at happend
    rw [hjoin, names_append_slash, hstart, h.names_eq]
  · rw [hjoin, names_append_slash, h.names_eq]

theorem join_ne_empty (h : IsName name) : join path name ≠ "" := by
  intro hjoin
  have hnames := names_join path h
  rw [hjoin, names_empty] at hnames
  simp at hnames

theorem isAbsolute_append (start rest : String) (h : start ≠ "") :
    isAbsolute (start ++ rest) = isAbsolute start := by
  rw [Bool.eq_iff_iff, isAbsolute, isAbsolute, String.startsWith_string_iff,
    String.startsWith_string_iff, String.toList_append]
  have hchars : start.toList ≠ [] := by simpa using h
  cases hstart : start.toList with
  | nil => exact absurd hstart hchars
  | cons c cs =>
    have hslash : "/".toList = ['/'] := by decide
    simp [hslash, List.cons_prefix_cons]

theorem isAbsolute_join_of_ne (hne : path ≠ "") (name : String) :
    isAbsolute (join path name) = isAbsolute path := by
  rcases join_cases path name with ⟨hempty, -⟩ | ⟨start, rfl, hjoin⟩ | ⟨-, hjoin⟩
  · exact absurd hempty hne
  · rw [hjoin, isAbsolute_append _ _ (by simp)]
  · rw [hjoin, String.append_assoc, isAbsolute_append _ _ hne]

theorem isAbsolute_join (h : IsName name) (habsolute : isAbsolute path = false) :
    isAbsolute (join path name) = false := by
  by_cases hempty : path = ""
  · have hfree : ¬ "/".toList <+: name.toList := by
      intro hstarts
      exact h.slash_notMem (hstarts.subset (by decide))
    rw [hempty, join, if_pos rfl, isAbsolute, ← Bool.not_eq_true, String.startsWith_string_iff]
    exact hfree
  · rw [isAbsolute_join_of_ne path hempty, habsolute]

theorem eq_of_append_slash {as bs cs ds : List Char} (hb : '/' ∉ bs) (hd : '/' ∉ ds)
    (h : as ++ '/' :: bs = cs ++ '/' :: ds) : bs = ds := by
  rcases List.append_eq_append_iff.1 h with ⟨between, -, heq⟩ | ⟨between, -, heq⟩
  · cases between with
    | nil => exact (List.cons.inj heq).2
    | cons c between =>
      rw [(List.cons.inj heq).2] at hb
      exact absurd (List.mem_append_right _ List.mem_cons_self) hb
  · cases between with
    | nil => exact (List.cons.inj heq).2.symm
    | cons c between =>
      rw [(List.cons.inj heq).2] at hd
      exact absurd (List.mem_append_right _ List.mem_cons_self) hd

theorem not_endsWith_join (h : IsName name) {ending : String} {cs : List Char}
    (hending : ending.toList = '/' :: cs) (hcs : '/' ∉ cs) (hne : cs ≠ name.toList) :
    (join path name).endsWith ending = false := by
  rw [← Bool.not_eq_true, endsWith_iff, hending]
  rintro ⟨front, hfront⟩
  have hlast : ∀ start : String, (join path name) = start ++ "/" ++ name → False := by
    intro start hjoin
    have hchars : (join path name).toList = start.toList ++ '/' :: name.toList := by
      rw [hjoin]
      simp [String.toList_append]
    exact hne (eq_of_append_slash hcs h.slash_notMem (hfront.trans hchars))
  rcases join_cases path name with ⟨-, hjoin⟩ | ⟨start, -, hjoin⟩ | ⟨-, hjoin⟩
  · rw [hjoin] at hfront
    apply h.slash_notMem
    rw [← hfront]
    exact List.mem_append_right _ List.mem_cons_self
  · exact hlast start hjoin
  · exact hlast path hjoin

theorem asksDirectory_join (h : IsName name) : asksDirectory (join path name) = false := by
  have hempty : [] ≠ name.toList := by
    intro heq
    exact h.ne_empty (String.toList_inj.1 (heq.symm.trans (by decide)))
  have hhere : ['.'] ≠ name.toList := by
    intro heq
    exact h.ne_here (String.toList_inj.1 (heq.symm.trans (by decide)))
  have habove : ['.', '.'] ≠ name.toList := by
    intro heq
    exact h.ne_above (String.toList_inj.1 (heq.symm.trans (by decide)))
  have hself : join path name ≠ "." ∧ join path name ≠ ".." := by
    have hlast : ∀ s, join path name = s → names s = names path ++ [name] := by
      rintro s rfl
      exact names_join path h
    constructor
    · intro hjoin
      have hnames := hlast "." hjoin
      rw [show names "." = [] by decide] at hnames
      simp at hnames
    · intro hjoin
      have hnames := hlast ".." hjoin
      rw [show names ".." = [] ++ [".."] by decide] at hnames
      exact h.ne_above (List.append_inj' hnames rfl |>.2 |> List.cons.inj |>.1).symm
  rw [asksDirectory, not_endsWith_join path h (by decide) (by decide) hempty,
    not_endsWith_join path h (by decide) (by decide) hhere,
    not_endsWith_join path h (by decide) (by decide) habove]
  simp [hself.1, hself.2]

end Join

end FileTree

end ViewLayers
