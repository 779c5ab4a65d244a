import ViewLayers.Proofs.Script.Characters

/-!
# Scripts without their literals

A reader goes through a script and drops what stands between quotes of either kind. Two texts
have the same code if the reader leaves both in code and keeps the same of them. Any two
literals have the same code, and so have texts put together from texts that have.
-/

namespace ViewLayers.Script

/-- Where a reader stands: in code, between two marks, or behind a backslash between them. -/
inductive Place where
  | code
  | quoted (mark : Char)
  | escaped (mark : Char)
  deriving DecidableEq

def Place.next : Place → Char → Place
  | .code, c => if c = '\'' ∨ c = '"' then .quoted c else .code
  | .quoted m, c => if c = '\\' then .escaped m else if c = m then .code else .quoted m
  | .escaped m, _ => .quoted m

def placeAfter (p : Place) (cs : List Char) : Place := cs.foldl Place.next p

def blankFrom : Place → List Char → List Char
  | _, [] => []
  | p, c :: rest =>
    if p = .code ∨ p.next c = .code then c :: blankFrom (p.next c) rest
    else blankFrom (p.next c) rest

def blanked (s : String) : String := String.ofList (blankFrom .code s.toList)

example : blanked "f('it\\'s \"x\"', [\"a\\\"\",\"b'\"]);" = "f('', [\"\",\"\"]);" := by
  decide +kernel

@[simp] theorem placeAfter_append (p : Place) (as bs : List Char) :
    placeAfter p (as ++ bs) = placeAfter (placeAfter p as) bs :=
  List.foldl_append

@[simp] theorem blankFrom_append (p : Place) (as bs : List Char) :
    blankFrom p (as ++ bs) = blankFrom p as ++ blankFrom (placeAfter p as) bs := by
  induction as generalizing p with
  | nil => rfl
  | cons c as ih =>
    simp only [List.cons_append, blankFrom, ih]
    split_ifs
    · rfl
    · rfl

/-- Both texts end in code and keep the same when their literals are emptied. -/
structure SameCode (s t : String) : Prop where
  left : placeAfter .code s.toList = .code
  right : placeAfter .code t.toList = .code
  blank : blankFrom .code s.toList = blankFrom .code t.toList

namespace SameCode

theorem append {s s' t t' : String} (h : SameCode s s') (h' : SameCode t t') :
    SameCode (s ++ t) (s' ++ t') where
  left := by rw [String.toList_append, placeAfter_append, h.left, h'.left]
  right := by rw [String.toList_append, placeAfter_append, h.right, h'.right]
  blank := by
    rw [String.toList_append, String.toList_append, blankFrom_append, blankFrom_append, h.left,
      h.right, h.blank, h'.blank]

theorem ofList {cs : List Char} (h : placeAfter .code cs = .code) :
    SameCode (String.ofList cs) (String.ofList cs) := by
  have htoList : placeAfter .code (String.ofList cs).toList = .code := by
    rw [String.toList_ofList, h]
  exact ⟨htoList, htoList, rfl⟩

end SameCode

theorem next_code_of_isBare {c : Char} (h : isBare c = true) : Place.next .code c = .code := by
  simp only [isBare, Bool.and_eq_true, decide_eq_true_eq] at h
  simp [Place.next, h.1.2, h.2]

theorem placeAfter_of_bare {cs : List Char} (h : ∀ c ∈ cs, isBare c = true) :
    placeAfter .code cs = .code := by
  induction cs with
  | nil => rfl
  | cons c cs ih =>
    rw [placeAfter, List.foldl_cons, next_code_of_isBare (h c List.mem_cons_self)]
    exact ih fun d hd => h d (List.mem_cons_of_mem _ hd)

theorem Bare.sameCode {s : String} (h : Bare s) : SameCode s s :=
  ⟨placeAfter_of_bare h, placeAfter_of_bare h, rfl⟩

section Literals

structure Inert (mark : Char) (cs : List Char) : Prop where
  place : placeAfter (.quoted mark) cs = .quoted mark
  blank : blankFrom (.quoted mark) cs = []

theorem inert_nil (mark : Char) : Inert mark [] := ⟨rfl, rfl⟩

theorem Inert.append {mark : Char} {as bs : List Char} (ha : Inert mark as)
    (hb : Inert mark bs) : Inert mark (as ++ bs) where
  place := by rw [placeAfter_append, ha.place, hb.place]
  blank := by rw [blankFrom_append, ha.place, ha.blank, hb.blank, List.nil_append]

theorem inert_singleton {mark c : Char} (hm : c ≠ mark) (hb : c ≠ '\\') : Inert mark [c] := by
  have hnext : Place.next (.quoted mark) c = .quoted mark := by simp [Place.next, hm, hb]
  exact ⟨hnext, by simp [blankFrom, hnext]⟩

theorem inert_of_forall {mark : Char} {cs : List Char} (h : ∀ c ∈ cs, c ≠ mark ∧ c ≠ '\\') :
    Inert mark cs := by
  induction cs with
  | nil => exact inert_nil mark
  | cons c cs ih =>
    have hc := h c List.mem_cons_self
    exact (inert_singleton hc.1 hc.2).append (ih fun d hd => h d (List.mem_cons_of_mem _ hd))

theorem inert_escape (mark c : Char) : Inert mark ['\\', c] := by
  have hfirst : Place.next (.quoted mark) '\\' = .escaped mark := by simp [Place.next]
  have hsecond : Place.next (.escaped mark) c = .quoted mark := rfl
  exact ⟨by simp [placeAfter, hfirst, hsecond], by simp [blankFrom, hfirst, hsecond]⟩

theorem inert_unicode {mark : Char} (hm : isBare mark = false) (n : Nat) :
    Inert mark ('\\' :: 'u' :: Json.hexDigits 4 n) := by
  have hdigits : Inert mark (Json.hexDigits 4 n) := by
    refine inert_of_forall ?_
    intro c hc
    obtain ⟨d, hd, rfl⟩ := exists_of_mem_hexDigits hc
    refine ⟨?_, digitChar_ne_backslash hd⟩
    intro hmark
    rw [← hmark, isBare_digitChar hd] at hm
    exact absurd hm (by decide)
  exact (inert_escape mark 'u').append hdigits

theorem inert_escapedChar (c : Char) : Inert '\'' (escapedChar c) := by
  unfold escapedChar
  split_ifs with hb hq
  · exact inert_escape _ _
  · exact inert_escape _ _
  · exact inert_escape _ _
  · exact inert_escape _ _
  · exact inert_escape _ _
  · exact inert_unicode (by decide) _
  · exact inert_singleton hq hb

theorem inert_jsonEscapedChar (c : Char) : Inert '"' (Json.escapedChar c) := by
  unfold Json.escapedChar
  split_ifs with hq hb
  · exact inert_escape _ _
  · exact inert_escape _ _
  · exact inert_escape _ _
  · exact inert_escape _ _
  · exact inert_escape _ _
  · exact inert_escape _ _
  · exact inert_escape _ _
  · exact inert_unicode (by decide) _
  · exact inert_singleton hq hb

theorem inert_flatMap {mark : Char} {f : Char → List Char} (h : ∀ c, Inert mark (f c))
    (cs : List Char) : Inert mark (cs.flatMap f) := by
  induction cs with
  | nil => exact inert_nil mark
  | cons c cs ih =>
    rw [List.flatMap_cons]
    exact (h c).append ih

theorem Inert.placeAfter_marks {mark : Char} (hm : mark = '\'' ∨ mark = '"') {cs : List Char}
    (h : Inert mark cs) : placeAfter .code (mark :: (cs ++ [mark])) = .code := by
  have hopen : Place.next .code mark = .quoted mark := by simp [Place.next, hm]
  have hclose : placeAfter (.quoted mark) [mark] = .code := by
    rcases hm with rfl | rfl <;> rfl
  rw [placeAfter, List.foldl_cons, hopen]
  change placeAfter (.quoted mark) (cs ++ [mark]) = .code
  rw [placeAfter_append, h.place, hclose]

theorem Inert.blankFrom_marks {mark : Char} (hm : mark = '\'' ∨ mark = '"') {cs : List Char}
    (h : Inert mark cs) : blankFrom .code (mark :: (cs ++ [mark])) = [mark, mark] := by
  have hopen : Place.next .code mark = .quoted mark := by simp [Place.next, hm]
  have hclose : blankFrom (.quoted mark) [mark] = [mark] := by
    rcases hm with rfl | rfl <;> rfl
  rw [blankFrom, if_pos (.inl rfl), hopen, blankFrom_append, h.blank, h.place, hclose]
  rfl

theorem sameCode_literal (s t : String) : SameCode (literal s) (literal t) := by
  have hmark : '\'' = '\'' ∨ '\'' = '"' := .inl rfl
  have hs := inert_flatMap inert_escapedChar s.toList
  have ht := inert_flatMap inert_escapedChar t.toList
  refine ⟨?_, ?_, ?_⟩
  · rw [toList_literal, encode, hs.placeAfter_marks hmark]
  · rw [toList_literal, encode, ht.placeAfter_marks hmark]
  · rw [toList_literal, toList_literal, encode, encode, hs.blankFrom_marks hmark,
      ht.blankFrom_marks hmark]

theorem sameCode_quoted (s t : String) : SameCode (Json.quoted s) (Json.quoted t) := by
  have hmark : '"' = '\'' ∨ '"' = '"' := .inr rfl
  have hs := inert_flatMap inert_jsonEscapedChar s.toList
  have ht := inert_flatMap inert_jsonEscapedChar t.toList
  refine ⟨?_, ?_, ?_⟩
  · rw [Json.quoted, String.toList_ofList, hs.placeAfter_marks hmark]
  · rw [Json.quoted, String.toList_ofList, ht.placeAfter_marks hmark]
  · rw [Json.quoted, Json.quoted, String.toList_ofList, String.toList_ofList,
      hs.blankFrom_marks hmark, ht.blankFrom_marks hmark]

end Literals

end ViewLayers.Script
