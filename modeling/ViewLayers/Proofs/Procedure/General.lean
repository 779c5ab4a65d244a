import ViewLayers.Proofs.Procedure.Reach

/-!
# The general case

Both phases fall back to the general case, which stands on `all`. What the views say has no
part in it, with one exception: the general case goes by the empty name, and a view that is
really called so is asked for the layout mode in its place.
-/

namespace ViewLayers.ViewTree

theorem Agree.general {s t : ViewTree} (h : s.common? = t.common?) : Agree s t generalView where
  common := h
  own := fun hne => absurd rfl hne

/-- Trees with the same `all` fall back to the same statements, but for the layout mode: they
have the same one exactly when both or neither have a nameless view that sets a layout. -/
theorem fallback_eq_of_common_eq {s t : ViewTree} (h : s.common? = t.common?) (date : Moment) :
    (s.procedure date).templatePhase.fallback = (t.procedure date).templatePhase.fallback ∧
      (∃ layout rest,
        (s.procedure date).setupPhase.fallback =
            .applyLayout layout (s.layoutMode generalView) :: rest ∧
          (t.procedure date).setupPhase.fallback =
            .applyLayout layout (t.layoutMode generalView) :: rest) ∧
      ((s.procedure date).setupPhase.fallback = (t.procedure date).setupPhase.fallback ↔
        s.setsLayout generalView = t.setsLayout generalView) := by
  have hagree := Agree.general h
  refine ⟨hagree.templateStatements_eq, ?_, hagree.setupStatements_eq_iff⟩
  refine ⟨s.layoutName? generalView, s.furnishing generalView,
    s.setupStatements_eq_cons generalView, ?_⟩
  rw [hagree.layoutName?_eq, hagree.furnishing_eq]
  exact t.setupStatements_eq_cons generalView

def baseLayout : ViewTree :=
  ⟨[("all", [(.string "has_layout", .bool true), (.string "layout", .string "base"),
    (.string "stylesheets", .list [.string "main"])])]⟩

def templateLayout : ViewTree :=
  ⟨("", [(.string "template", .string "odd"), (.string "stylesheets", .list [.string "-main"]),
      (.string "components", .record [(.string "side", .null)])]) ::
    baseLayout.views ++ [("show", [(.string "layout", .string "wide")])]⟩

theorem fallback_eq_templateLayout :
    baseLayout.common? = templateLayout.common? ∧
      (baseLayout.procedure default).templatePhase.fallback =
        (templateLayout.procedure default).templatePhase.fallback ∧
      (baseLayout.procedure default).setupPhase.fallback =
        (templateLayout.procedure default).setupPhase.fallback := by
  have h : baseLayout.common? = templateLayout.common? := by decide
  obtain ⟨htemplate, -, hsetup⟩ := fallback_eq_of_common_eq h default
  exact ⟨h, htemplate, hsetup.2 (by decide)⟩

def namelessLayout : ViewTree := baseLayout.insert "" [(.string "layout", .string "odd")]

/-- The layout of `all` becomes one that overrides what was set before. -/
theorem fallback_ne_namelessLayout :
    baseLayout.common? = namelessLayout.common? ∧
      (baseLayout.procedure default).setupPhase.fallback =
        [.applyLayout (some "base") .inherited, .addAsset .stylesheet ⟨"main", "", []⟩] ∧
      (namelessLayout.procedure default).setupPhase.fallback =
        [.applyLayout (some "base") .own, .addAsset .stylesheet ⟨"main", "", []⟩] ∧
      (baseLayout.procedure default).setupPhase.fallback ≠
        (namelessLayout.procedure default).setupPhase.fallback := by
  decide +kernel

end ViewLayers.ViewTree
