import Lettering.Proofs.Layout.Closed
import Lettering.Proofs.Text.FirstFailure

/-!
# All of a text or none of it

Shaping asks the shaper for the spans that have characters, line by line and in each line from left
to right, and stops at the first failure (`Shaper.asks_shapeLines`). Then nothing of the text is
left. Otherwise every line has a run, which is what its spans were shaped to one after the other
(`Shaper.forall₂_of_runs?_eq_ok`), and every run is placed on a line of its own
(`forall₂_compose`).

`compose_all_or_nothing` follows a text from its lines to its block. The height of a block without
lines is no lines times the line step: nothing, but only if the step is a finite number.
-/

namespace Lettering

/-- The spans of a line that have characters. -/
def Line.filled (l : Line) : List Span := l.spans.filter fun span => !span.chars.isEmpty

theorem Line.chars_ne_nil_of_mem_filled (l : Line) {span : Span} (h : span ∈ l.filled) :
    span.chars ≠ [] := by
  simpa using (List.mem_filter.1 h).2

namespace Shaper

/-- Shape lines with the effects of `m`. -/
def shapeLines {m : Type → Type} [Monad m] (shape : Span → m (List GlyphId)) (lines : List Line) :
    m (List (List GlyphId)) :=
  lines.mapM fun line => do return (← line.filled.mapM shape).flatten

variable (s : Shaper) (face : Face) (lines : List Line)

theorem runs?_eq_shapeLines : s.runs? face lines = shapeLines (s.shape · face) lines := rfl

/-- Shaping asks for the spans with characters, up to the first failure. -/
theorem asks_shapeLines :
    Asks (s.shape · face) (lines.flatMap Line.filled)
      (shapeLines (recording (s.shape · face)) lines) (s.runs? face lines) := by
  rw [runs?_eq_shapeLines]
  refine Asks.mapM (fun line => ?_) lines
  exact (asks_mapM_recording (s.shape · face) line.filled).map List.flatten

variable {s face lines}

/-- If shaping does not fail, there is one run for each line, put together from its spans. -/
theorem forall₂_of_runs?_eq_ok {runs : List (List GlyphId)} (h : s.runs? face lines = .ok runs) :
    List.Forall₂ (fun line run => ∃ parts : List (List GlyphId), run = parts.flatten ∧
      List.Forall₂ (fun span glyphs => s.shape span face = .ok glyphs) line.filled parts)
      lines runs := by
  refine (mapM_eq_ok_iff.1 h).imp fun line run hrun => ?_
  change List.flatten <$> line.filled.mapM (s.shape · face) = .ok run at hrun
  cases hparts : line.filled.mapM (s.shape · face) with
  | error e => rw [hparts] at hrun; cases hrun
  | ok parts =>
    rw [hparts] at hrun
    exact ⟨parts, (Except.ok.inj hrun).symm, mapM_eq_ok_iff.1 hparts⟩

/-- A shaper is not asked about spans without characters. -/
theorem runs?_congr {s' : Shaper}
    (h : ∀ span, span.chars ≠ [] → s'.shape span face = s.shape span face) :
    s'.runs? face lines = s.runs? face lines := by
  refine mapM_congr fun line _ => ?_
  have hparts : line.filled.mapM (s'.shape · face) = line.filled.mapM (s.shape · face) :=
    mapM_congr fun span hspan => h span (line.chars_ne_nil_of_mem_filled hspan)
  exact congrArg (List.flatten <$> ·) hparts

end Shaper

/-! ## Blocks -/

/-- Zero times a number is zero, but zero times what is none is none. -/
theorem zero_add_zero_mul (x : Float) :
    0 + Float.ofNat 0 * x = if x.isFinite then 0 else 0 / 0 := by
  have hzero : (Float.ofNat 0).toModel.unpack = .zero .positive := rfl
  have hmul : Float.ofNat 0 * x = ⟨.pack (.mul .binary64 (.zero .positive) x.toModel.unpack)⟩ := by
    rw [← hzero]
    rfl
  have hfinite : x.isFinite = x.toModel.unpack.isFinite := rfl
  rw [hmul, hfinite]
  cases x.toModel.unpack with
  | notANumber => decide
  | infinity sign => cases sign <;> decide
  | zero sign => cases sign <;> decide
  | finite sign mantissa exponent hpos =>
    change 0 + Float.ofModel (.pack (.zero (.positive * sign))) = 0
    cases sign <;> decide

section

variable (face : Face) (lines : List Line) (shaper : Shaper) (spacing : Spacing) (anchor : Vec)

/-- Every run has a placed line. -/
theorem forall₂_compose : List.Forall₂ (fun run placed => ∃ baseline, placed =
      .place face spacing (.build face (shaper.runs face lines) spacing.gridFit) baseline run)
    (shaper.runs face lines) (compose face lines shaper spacing anchor).block.lines :=
  TextBlock.forall₂_placeLines face spacing _ _ _ fun _ _ baseline => ⟨baseline, rfl⟩

variable {face lines shaper}

/-- A failure leaves a block without lines. -/
theorem compose_of_runs?_eq_error {e : Error} (h : shaper.runs? face lines = .error e) :
    compose face lines shaper spacing anchor =
      { path := []
        block := {
          lines := []
          ascent := 0
          height := if (face.lineHeight * spacing.vcompress).isFinite then 0 else 0 / 0
          lineStep := face.lineHeight * spacing.vcompress } } := by
  have hruns : shaper.runs face lines = [] := by rw [Shaper.runs, h]
  rw [compose, hruns, ← zero_add_zero_mul]
  rfl

end

/-- **All of a text or none of it.** Segmenting fails exactly if the reorderer does for a piece that
is not empty, and with the first such failure; then there are no lines, and otherwise one for each
piece. Shaping fails exactly if the shaper does for a span that is not empty, and with the first such
failure; it asks for no other spans, and for none behind the failure. Then there are no runs, no
placed lines and no contours, and the height is zero if the line step is a finite number. Otherwise
there is one run for each line, of the glyphs of its spans, and one placed line for each run. -/
theorem compose_all_or_nothing (s : Segmenter) (text : String) (direction : Direction)
    (shaper : Shaper) (face : Face) (lines : List Line) (spacing : Spacing) (anchor : Vec) :
    let pieces := splitLines (normalizeText text.toList)
    let spans := lines.flatMap Line.filled
    let composed := compose face lines shaper spacing anchor
    let step := face.lineHeight * spacing.vcompress
    failure? (s.segment? text direction) = (s.reorderer.bind fun r =>
        firstFailure (r.reorder · direction) (pieces.filter (!·.isEmpty))) ∧
      (∀ e, s.segment? text direction = .error e → s.segment text direction = []) ∧
      (∀ segmented, s.segment? text direction = .ok segmented →
        s.segment text direction = segmented ∧
        List.Forall₂ (fun piece line => s.order direction piece = .ok line.chars ∧
          line.spans = s.spans line.chars) pieces segmented) ∧
      failure? (shaper.runs? face lines) = firstFailure (shaper.shape · face) spans ∧
      (Shaper.shapeLines (recording (shaper.shape · face)) lines).run.run [] =
        (shaper.runs? face lines, askedFor (shaper.shape · face) spans) ∧
      (∀ span ∈ askedFor (shaper.shape · face) spans, span.chars ≠ []) ∧
      (∀ shaper' : Shaper,
        (∀ span, span.chars ≠ [] → shaper'.shape span face = shaper.shape span face) →
        shaper'.runs? face lines = shaper.runs? face lines) ∧
      (∀ e, shaper.runs? face lines = .error e → shaper.runs face lines = [] ∧
        composed.block.lines = [] ∧ composed.path = [] ∧
        composed.block.height = if step.isFinite then 0 else 0 / 0) ∧
      ∀ runs, shaper.runs? face lines = .ok runs → shaper.runs face lines = runs ∧
        List.Forall₂ (fun line run => ∃ parts : List (List GlyphId), run = parts.flatten ∧
          List.Forall₂ (fun span glyphs => shaper.shape span face = .ok glyphs) line.filled parts)
          lines runs ∧
        List.Forall₂ (fun run placed => ∃ baseline,
          placed = .place face spacing (.build face runs spacing.gridFit) baseline run)
          runs composed.block.lines := by
  intro pieces spans composed step
  have hasks := shaper.asks_shapeLines face lines
  refine ⟨s.failure?_segment? text direction, fun e he => ?_, fun segmented hsegmented => ?_,
    hasks.failure, hasks.run [], fun span hspan => ?_, fun _ => Shaper.runs?_congr,
    fun e he => ?_, fun runs hruns => ?_⟩
  · rw [Segmenter.segment, he]
  · exact ⟨by rw [Segmenter.segment, hsegmented], Segmenter.forall₂_of_segment?_eq_ok hsegmented⟩
  · obtain ⟨line, -, hfilled⟩ := List.mem_flatMap.1 (askedFor_subset _ _ hspan)
    exact line.chars_ne_nil_of_mem_filled hfilled
  · have hcomposed : composed = _ := compose_of_runs?_eq_error spacing anchor he
    rw [hcomposed]
    exact ⟨by rw [Shaper.runs, he], rfl, rfl, rfl⟩
  · have heq : shaper.runs face lines = runs := by rw [Shaper.runs, hruns]
    have hplaced := forall₂_compose face lines shaper spacing anchor
    rw [heq] at hplaced
    exact ⟨heq, Shaper.forall₂_of_runs?_eq_ok hruns, hplaced⟩

/-- With lines infinitely far apart, the block of a text that cannot be shaped has no lines and no
contours, but its height is not zero. -/
theorem height_of_infinite_step :
    let shaper : Shaper := ⟨"none", fun _ _ => .error (.shaping .invalidText)⟩
    let lines : List Line := [⟨[⟨['H', 'i'], none⟩]⟩]
    let composed := compose default lines shaper { vcompress := 1 / 0 } centreAnchor
    shaper.runs? default lines = .error (.shaping .invalidText) ∧ composed.block.lines = [] ∧
      composed.path = [] ∧ composed.block.height ≠ 0 := by
  refine ⟨rfl, rfl, rfl, ?_⟩
  decide

end Lettering
