import Lettering.Proofs.Layout.Aligned

/-!
# Scripts and the character map

Scripts decide where a line is cut into spans, and nothing else: whatever is left of the cuts is the
line in display order (`Segmenter.map_chars_segment`). The character map takes characters one by
one, so the run of a line does not show where it was cut (`Shaper.runs_characterMap`), and a text
is composed alike whatever scripts its characters are taken for (`compose_scripts`).
-/

namespace Lettering

theorem mapM_map_right {α β γ ε : Type} (g : β → γ) (f : α → Except ε β) (as : List α) :
    as.mapM (fun a => g <$> f a) = List.map g <$> as.mapM f := by
  induction as with
  | nil => rfl
  | cons a rest ih =>
    rw [List.mapM_cons, List.mapM_cons, ih]
    cases f a with
    | error e => rfl
    | ok b => cases rest.mapM f <;> rfl

/-! ## Lines without their cuts -/

namespace Segmenter

/-- The lines of a text in display order, not yet cut into spans. -/
def ordered? (r : Option Reorderer) (text : String) (direction : Direction) :
    Except Error (List (List Char)) :=
  (splitLines (normalizeText text.toList)).mapM (order ⟨r, none⟩ direction)

/-- The lines of a text in display order, none if it cannot be put into it. -/
def ordered (r : Option Reorderer) (text : String) (direction : Direction) : List (List Char) :=
  match ordered? r text direction with
  | .ok lines => lines
  | .error _ => []

variable (r : Option Reorderer) (scripts : Option (Char → ScriptTag)) (text : String)
  (direction : Direction)

/-- Lines are put into display order first and cut into spans then. -/
theorem segment?_eq_ordered? : segment? ⟨r, scripts⟩ text direction =
    List.map (fun line => ⟨spans ⟨r, scripts⟩ line⟩) <$> ordered? r text direction :=
  mapM_map_right (fun line => Line.mk (spans ⟨r, scripts⟩ line)) _ _

/-- The characters of the lines do not depend on scripts. -/
theorem map_chars_segment :
    (segment ⟨r, scripts⟩ text direction).map Line.chars = ordered r text direction := by
  rw [segment, segment?_eq_ordered?, ordered]
  cases ordered? r text direction with
  | error e => rfl
  | ok lines =>
    have hchars : Line.chars ∘ (fun line => ⟨spans ⟨r, scripts⟩ line⟩) = id :=
      funext fun line => flatMap_chars_spans _ line
    change (lines.map _).map _ = lines
    rw [List.map_map, hchars, List.map_id]

end Segmenter

/-! ## One glyph for each character -/

theorem Line.flatMap_chars_filled (l : Line) : l.filled.flatMap (·.chars) = l.chars := by
  rw [Line.filled, Line.chars]
  induction l.spans with
  | nil => rfl
  | cons span rest ih =>
    by_cases hspan : span.chars = []
    · rw [List.filter_cons_of_neg (by simp [hspan]), List.flatMap_cons, hspan, ih, List.nil_append]
    · rw [List.filter_cons_of_pos (by simp [hspan]), List.flatMap_cons, List.flatMap_cons, ih]

namespace Shaper

theorem run?_characterMap (face : Face) (line : Line) :
    characterMap.run? face line = .ok (line.chars.map face.glyphOrMissing) := by
  have hparts : line.filled.mapM (characterMap.shape · face) =
      .ok (line.filled.map fun span => span.chars.map face.glyphOrMissing) := List.mapM_pure
  have hrun : characterMap.run? face line =
      List.flatten <$> line.filled.mapM (characterMap.shape · face) := rfl
  rw [hrun, hparts, ← line.flatMap_chars_filled, List.map_flatMap]
  rfl

/-- The character map shapes every line, character by character. -/
theorem runs_characterMap (face : Face) (lines : List Line) :
    characterMap.runs face lines = lines.map fun line => line.chars.map face.glyphOrMissing := by
  have hruns : characterMap.runs? face lines =
      .ok (lines.map fun line => line.chars.map face.glyphOrMissing) :=
    (mapM_congr fun line _ => run?_characterMap face line).trans List.mapM_pure
  rw [runs, hruns]

end Shaper

/-- What is composed depends on the runs of the shaper only. -/
theorem compose_congr {face : Face} {lines lines' : List Line} {shaper shaper' : Shaper}
    (h : shaper'.runs face lines' = shaper.runs face lines) (spacing : Spacing) (anchor : Vec) :
    compose face lines' shaper' spacing anchor = compose face lines shaper spacing anchor := by
  rw [compose, compose, h]

/-- **The character map does not see scripts.** A text that is cut into spans by any two scripts, or
not at all, is composed to the same contours and the same block, since the run of each line is made
of the glyphs of its characters in display order, zero where the face has none. -/
theorem compose_scripts (r : Option Reorderer) (scripts scripts' : Option (Char → ScriptTag))
    (text : String) (direction : Direction) (face : Face) (spacing : Spacing) (anchor : Vec) :
    let lines := Segmenter.segment ⟨r, scripts⟩ text direction
    let lines' := Segmenter.segment ⟨r, scripts'⟩ text direction
    compose face lines' .characterMap spacing anchor =
        compose face lines .characterMap spacing anchor ∧
      lines.map Line.chars = Segmenter.ordered r text direction ∧
      Shaper.characterMap.runs face lines =
        (Segmenter.ordered r text direction).map fun line =>
          line.map fun c => (face.glyphOf c).getD 0 := by
  intro lines lines'
  have hruns : ∀ scripts,
      Shaper.characterMap.runs face (Segmenter.segment ⟨r, scripts⟩ text direction) =
        (Segmenter.ordered r text direction).map (·.map face.glyphOrMissing) := by
    intro scripts
    rw [Shaper.runs_characterMap, ← Segmenter.map_chars_segment r scripts, List.map_map]
    rfl
  refine ⟨compose_congr ?_ spacing anchor, Segmenter.map_chars_segment .., hruns scripts⟩
  rw [hruns, hruns]

/-- A line shown from behind, cut before its letters or before its last letter only. -/
theorem compose_scripts_from_behind :
    let r : Reorderer := { name := "from behind", reorder := fun line _ => .ok line.reverse }
    let digits : Char → ScriptTag := fun c => if c.isDigit then .common else .unknown
    let first : Char → ScriptTag := fun c => if c = 'a' then .common else .unknown
    let face : Face := { (default : Face) with
      glyphOf := fun c => if c = 'a' then some 7 else if c = 'b' then some 8 else none }
    let lines := Segmenter.segment ⟨some r, some digits⟩ "ab1" .auto
    let lines' := Segmenter.segment ⟨some r, some first⟩ "ab1" .auto
    lines = [⟨[⟨['1'], some .common⟩, ⟨['b', 'a'], some .unknown⟩]⟩] ∧
      lines' = [⟨[⟨['1', 'b'], some .unknown⟩, ⟨['a'], some .common⟩]⟩] ∧
      Shaper.characterMap.runs face lines = [[0, 8, 7]] ∧
      compose face lines' .characterMap {} ⟨0, 0⟩ = compose face lines .characterMap {} ⟨0, 0⟩ := by
  intro r digits first face lines lines'
  obtain ⟨hsame, -, hruns⟩ :=
    compose_scripts (some r) (some digits) (some first) "ab1" .auto face {} ⟨0, 0⟩
  refine ⟨by decide +kernel, by decide +kernel, hruns.trans ?_, hsame⟩
  decide +kernel

end Lettering
