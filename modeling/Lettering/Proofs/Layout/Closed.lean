import Lettering.Layout.Compose
import Lettering.Proofs.Layout.GlyphTable
import Lettering.Proofs.Outline.Closed

/-!
# Composed texts are closed

Placing and anchoring only put the paths of glyphs one after the other and move them, which keeps
them closed. What a line or a whole text draws is `WellDrawn` from its glyphs, those of its run that
the face can load: closed, never short of a current point, and empty only if no glyph has anything
to draw (`wellDrawn_compose`).
-/

namespace Lettering

/-- A path that is well drawn from some glyphs. -/
structure WellDrawn (glyphs : List RawGlyph) (path : List PathCommand) : Prop where
  closed : ClosedPath path
  /-- No element ever lacks a current point. -/
  drawable : (elements path).foldlM PathElement.draw? none = some none
  /-- The path is empty exactly if every glyph is traced to nothing. -/
  eq_nil_iff : path = [] ↔ ∀ raw ∈ glyphs, raw.outline.trace.path = []

namespace WellDrawn

theorem of_closed {glyphs : List RawGlyph} {path : List PathCommand} (h : ClosedPath path)
    (hnil : path = [] ↔ ∀ raw ∈ glyphs, raw.outline.trace.path = []) : WellDrawn glyphs path :=
  ⟨h, h.foldlM_draw?, hnil⟩

theorem nil : WellDrawn [] [] := of_closed .nil (by simp)

/-- A glyph is well drawn by its trace. -/
theorem trace (raw : RawGlyph) : WellDrawn [raw] raw.outline.trace.path :=
  of_closed raw.outline.closedPath_trace (by simp)

theorem append {gs hs : List RawGlyph} {xs ys : List PathCommand} (hx : WellDrawn gs xs)
    (hy : WellDrawn hs ys) : WellDrawn (gs ++ hs) (xs ++ ys) := by
  refine of_closed (hx.closed.append hy.closed) ?_
  rw [List.append_eq_nil_iff, hx.eq_nil_iff, hy.eq_nil_iff, List.forall_mem_append]

/-- Moving a path does not change from which glyphs it is drawn. -/
theorem shift {gs : List RawGlyph} {xs : List PathCommand} (h : WellDrawn gs xs) (v : Vec) :
    WellDrawn gs (xs.map (·.shift v)) := by
  refine of_closed (h.closed.map (·.shift v)) ?_
  rw [List.map_eq_nil_iff, h.eq_nil_iff]

end WellDrawn

/-- The glyphs of a run that are placed: those that the face can load. -/
def Face.placedGlyphs (face : Face) (gridFit : Bool) (run : List GlyphId) : List RawGlyph :=
  run.filterMap (face.loadGlyph · gridFit)

section

variable (face : Face) (spacing : Spacing)

/-- A walk along a run draws the glyphs of the run, if the table answers for them as the face. -/
theorem PlacedLine.wellDrawn_walk (table : GlyphTable) (pen : Pen) (run : List GlyphId)
    (h : ∀ id ∈ run, table.get? id = (face.loadGlyph id spacing.gridFit).map Glyph.ofRaw) :
    WellDrawn (face.placedGlyphs spacing.gridFit run) (walk face spacing table pen run).1 := by
  induction run generalizing pen with
  | nil => exact .nil
  | cons id rest ih =>
    have hid := h id List.mem_cons_self
    have hrest := fun pen => ih pen fun other hother => h other (List.mem_cons_of_mem id hother)
    rw [Face.placedGlyphs, List.filterMap_cons]
    cases hload : face.loadGlyph id spacing.gridFit with
    | none =>
      rw [hload, Option.map_none] at hid
      simp only [walk, hid]
      exact hrest _
    | some raw =>
      rw [hload, Option.map_some] at hid
      simp only [walk, hid]
      exact ((WellDrawn.trace raw).shift _).append (hrest _)

/-- What holds of every placed run on any baseline holds of all lines. -/
theorem TextBlock.forall₂_placeLines (table : GlyphTable) (step baseline : Float)
    {R : List GlyphId → PlacedLine → Prop} {runs : List (List GlyphId)}
    (h : ∀ run ∈ runs, ∀ height, R run (.place face spacing table height run)) :
    List.Forall₂ R runs (placeLines face spacing table step baseline runs) := by
  induction runs generalizing baseline with
  | nil => exact .nil
  | cons run rest ih =>
    exact .cons (h run List.mem_cons_self baseline)
      (ih _ fun other hother => h other (List.mem_cons_of_mem run hother))

/-- The lines of a block draw the glyphs of their runs. -/
theorem TextBlock.forall₂_wellDrawn (runs : List (List GlyphId)) :
    List.Forall₂ (fun run line => WellDrawn (face.placedGlyphs spacing.gridFit run) line.path) runs
      (layout face spacing (.build face runs spacing.gridFit) runs).lines := by
  refine forall₂_placeLines face spacing _ _ _ fun run hrun baseline => ?_
  refine PlacedLine.wellDrawn_walk face spacing _ _ run fun id hid => ?_
  rw [GlyphTable.get?_build, if_pos (List.mem_flatten_of_mem hrun hid)]

/-- An anchored block draws the glyphs of all runs. -/
theorem TextBlock.wellDrawn_anchored (b : TextBlock) (anchor : Vec)
    {glyphs : List GlyphId → List RawGlyph} {runs : List (List GlyphId)}
    (h : List.Forall₂ (fun run line => WellDrawn (glyphs run) line.path) runs b.lines) :
    WellDrawn (runs.flatMap glyphs) (b.anchored anchor) := by
  rw [anchored]
  generalize b.lines = lines at h ⊢
  induction h with
  | nil => exact .nil
  | cons hline _ ih =>
    rw [List.flatMap_cons, List.flatMap_cons]
    exact (hline.shift _).append ih

/-- **Every composed text is closed and drawable, and so is each of its lines**, whatever outlines
the face has. A line is empty exactly if all glyphs placed on it are traced to nothing, and a text
exactly if all of its glyphs are. -/
theorem wellDrawn_compose (lines : List Line) (shaper : Shaper) (anchor : Vec) :
    let runs := shaper.runs face lines
    let composed := compose face lines shaper spacing anchor
    WellDrawn (runs.flatMap (face.placedGlyphs spacing.gridFit)) composed.path ∧
      List.Forall₂ (fun run line => WellDrawn (face.placedGlyphs spacing.gridFit run) line.path)
        runs composed.block.lines := by
  have hlines := TextBlock.forall₂_wellDrawn face spacing (shaper.runs face lines)
  exact ⟨TextBlock.wellDrawn_anchored _ anchor hlines, hlines⟩

end

end Lettering
