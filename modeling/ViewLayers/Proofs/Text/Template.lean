import ViewLayers.Proofs.Text.PercentSigns

/-!
# Templates

A template is a text with named gaps, each written as its name between percent signs. When no
other sign stands in it, every gap is filled once with the value of its name, whatever signs the
values have. Lines are read one by one, so a stray sign does no harm beyond its line.
-/

namespace ViewLayers.Text

/-- What comes first, then for each gap its name and the text behind it. -/
structure Template where
  start : String
  gaps : List (String × String)

namespace Template

def fillGaps (filling : String → String) : List (String × String) → String
  | [] => ""
  | (name, behind) :: rest => filling name ++ behind ++ fillGaps filling rest

def fill (t : Template) (filling : String → String) : String :=
  t.start ++ fillGaps filling t.gaps

def written (name : String) : String := "%" ++ name ++ "%"

def value (lookup : String → Option String) (name : String) : String :=
  (lookup (lowercase name)).getD (written name)

structure WellDelimited (t : Template) : Prop where
  start : '%' ∉ t.start.toList
  gaps : ∀ gap ∈ t.gaps, IsName gap.1 ∧ '%' ∉ gap.2.toList

instance (t : Template) : Decidable t.WellDelimited :=
  decidable_of_iff
    ('%' ∉ t.start.toList ∧ ∀ gap ∈ t.gaps, IsName gap.1 ∧ '%' ∉ gap.2.toList)
    ⟨fun h => ⟨h.1, h.2⟩, fun h => ⟨h.start, h.gaps⟩⟩

end Template

section Substitution

variable {lookup : String → Option String}

theorem substitute_of_notMem {s : String} (h : '%' ∉ s.toList) : substitute lookup s = s :=
  substitute_eq_self fun _ _ hin => absurd (hin.subset List.mem_cons_self) h

theorem substitute_append_of_notMem {s : String} (h : '%' ∉ s.toList) (t : String) :
    substitute lookup (s ++ t) = s ++ substitute lookup t := by
  rw [substitute_append (Standing.after_outside_of_notMem h), substitute_of_notMem h]

theorem substitute_fillGaps {gaps : List (String × String)}
    (h : ∀ gap ∈ gaps, IsName gap.1 ∧ '%' ∉ gap.2.toList) :
    substitute lookup (Template.fillGaps Template.written gaps) =
      Template.fillGaps (Template.value lookup) gaps := by
  induction gaps with
  | nil => exact substitute_of_notMem List.not_mem_nil
  | cons gap rest ih =>
    obtain ⟨name, behind⟩ := gap
    obtain ⟨⟨(hname : IsName name), (hbehind : '%' ∉ behind.toList)⟩, hrest⟩ :=
      List.forall_mem_cons.1 h
    simp only [Template.fillGaps, Template.written, Template.value]
    rw [String.append_assoc, substitute_placeholder hname.placeholderName,
      substitute_append_of_notMem hbehind, ih hrest, ← String.append_assoc]

theorem substitute_append_line (s t : String) :
    substitute lookup (s ++ "\n" ++ t) = substitute lookup s ++ "\n" ++ substitute lookup t := by
  have hlist : (s ++ "\n" ++ t).toList = s.toList ++ '\n' :: t.toList := by simp
  rw [substitute, hlist, substituteChars_append_newline, ← String.toList_inj]
  simp [substitute]

end Substitution

/-- Every gap of a well delimited template is filled once, and lines are read one by one. -/
theorem substitute_template (lookup : String → Option String) :
    (∀ t : Template, t.WellDelimited →
      substitute lookup (t.fill Template.written) = t.fill (Template.value lookup)) ∧
      ∀ s t : String,
        substitute lookup (s ++ "\n" ++ t) =
          substitute lookup s ++ "\n" ++ substitute lookup t := by
  refine ⟨fun t ht => ?_, substitute_append_line⟩
  rw [Template.fill, substitute_append_of_notMem ht.start, substitute_fillGaps ht.gaps]
  rfl

def rateLine : Template := ⟨"Paid ", [("Rate", ""), ("site", " or "), ("tax", ".\n")]⟩

theorem substitute_template_rateLine :
    rateLine.WellDelimited ∧
      rateLine.fill Template.written = "Paid %Rate%%site% or %tax%.\n" ∧
      substitute siteConstants.lookup (rateLine.fill Template.written) =
        "Paid 5%example or %tax%.\n" := by
  have hplain : rateLine.WellDelimited := by decide +kernel
  refine ⟨hplain, by decide +kernel, ?_⟩
  rw [(substitute_template siteConstants.lookup).1 rateLine hplain]
  decide +kernel

end ViewLayers.Text
