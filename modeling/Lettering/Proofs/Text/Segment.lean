import Lettering.Text.Segment
import Lettering.Proofs.Text.Lines
import Mathlib.Data.List.Forall2

/-!
# Segmented lines and the pieces they come from

Each line of a segmented text stands for one piece of its cut, with tabs expanded and put into
display order; cutting it into spans loses nothing (`Segmenter.flatMap_chars_spans`).
`Segmenter.segment_pieces` says what the lines are, with a reorderer and without one.
-/

namespace Lettering

/-- Values are collected exactly if there is one for every element. -/
theorem mapM_eq_ok_iff {α β ε : Type} {f : α → Except ε β} {as : List α} {bs : List β} :
    as.mapM f = .ok bs ↔ List.Forall₂ (fun a b => f a = .ok b) as bs := by
  induction as generalizing bs with
  | nil =>
    rw [List.mapM_nil, List.forall₂_nil_left_iff]
    exact ⟨fun h => (Except.ok.inj h).symm, fun h => congrArg _ h.symm⟩
  | cons a rest ih =>
    rw [List.mapM_cons, List.forall₂_cons_left_iff]
    constructor
    · intro h
      cases ha : f a with
      | error e => rw [ha] at h; cases h
      | ok b =>
        cases hrest : rest.mapM f with
        | error e => rw [ha, hrest] at h; cases h
        | ok more =>
          rw [ha, hrest] at h
          exact ⟨b, more, rfl, ih.1 hrest, (Except.ok.inj h).symm⟩
    · rintro ⟨b, more, ha, hrest, rfl⟩
      rw [ha, ih.2 hrest]
      rfl

theorem mapM_congr {α β ε : Type} {f g : α → Except ε β} {as : List α}
    (h : ∀ a ∈ as, f a = g a) : as.mapM f = as.mapM g := by
  induction as with
  | nil => rfl
  | cons a rest ih =>
    rw [List.mapM_cons, List.mapM_cons, h a List.mem_cons_self,
      ih fun b hb => h b (List.mem_cons_of_mem a hb)]

/-- Cutting a line into spans keeps its characters. -/
theorem flatMap_chars_splitSpans (script : Char → ScriptTag) (line : List Char) :
    (splitSpans script line).flatMap (·.chars) = line := by
  fun_induction splitSpans script line with
  | case1 => rfl
  | case2 c rest joins ih =>
    rw [List.flatMap_cons, ih, List.cons_append, List.takeWhile_append_dropWhile]

namespace Segmenter

/-- The spans of a line cover it. -/
theorem flatMap_chars_spans (s : Segmenter) (line : List Char) :
    (s.spans line).flatMap (·.chars) = line := by
  unfold spans
  split
  · rfl
  · exact List.append_nil _
  · exact flatMap_chars_splitSpans _ _

theorem spans_nil (s : Segmenter) : s.spans [] = [] := by
  cases h : s.scripts <;> simp [spans]

/-- A line is cut from ordered characters exactly if they are its own and its spans are theirs. -/
theorem spans_eq_ok_iff (s : Segmenter) (ordered : Except Error (List Char)) (line : Line) :
    (do return ⟨s.spans (← ordered)⟩ : Except Error Line) = .ok line ↔
      ordered = .ok line.chars ∧ line.spans = s.spans line.chars := by
  cases ordered with
  | error e => exact ⟨fun h => (by cases h), fun h => (by cases h.1)⟩
  | ok ordered =>
    constructor
    · intro h
      obtain rfl := Except.ok.inj h
      have hchars : Line.chars ⟨s.spans ordered⟩ = ordered := s.flatMap_chars_spans ordered
      exact ⟨by rw [hchars], by rw [hchars]⟩
    · rintro ⟨hchars, hspans⟩
      obtain rfl := Except.ok.inj hchars
      exact congrArg Except.ok (by rw [← hspans])

theorem order_none (scripts : Option (Char → ScriptTag)) (direction : Direction)
    (line : List Char) : order ⟨none, scripts⟩ direction line = .ok line := by
  cases line <;> rfl

theorem order_some (r : Reorderer) (scripts : Option (Char → ScriptTag)) (direction : Direction)
    (line : List Char) : order ⟨some r, scripts⟩ direction line =
      if line = [] then .ok [] else r.reorder line direction := by
  cases line <;> rfl

/-- Of expanded pieces, a reorderer is asked for those that are not empty. -/
theorem order_some_expandTabs (r : Reorderer) (scripts : Option (Char → ScriptTag))
    (direction : Direction) (piece : List Char) :
    order ⟨some r, scripts⟩ direction (expandTabs piece) =
      if piece = [] then .ok [] else r.reorder (expandTabs piece) direction := by
  rw [order_some]
  simp only [expandTabs_eq_nil_iff]

section

variable {text : String} {pieces breaks : List (List Char)} (h : Cut text.toList pieces breaks)
  (direction : Direction)

include h

/-- The lines of a text are the ordered pieces of its cut, cut into spans. -/
theorem segment?_of_cut (s : Segmenter) : s.segment? text direction =
    pieces.mapM fun piece => do return ⟨s.spans (← s.order direction (expandTabs piece))⟩ := by
  rw [segment?, h.splitLines_normalizeText, List.mapM_map]
  rfl

/-- Segmenting succeeds exactly if every piece can be put into display order, and the characters of
each line are then those of its ordered piece. -/
theorem segment?_eq_ok_iff (s : Segmenter) (lines : List Line) :
    s.segment? text direction = .ok lines ↔
      List.Forall₂ (fun piece line => s.order direction (expandTabs piece) = .ok line.chars ∧
        line.spans = s.spans line.chars) pieces lines := by
  rw [segment?_of_cut h, mapM_eq_ok_iff]
  exact ⟨.imp fun _ line => (s.spans_eq_ok_iff _ line).1,
    .imp fun _ line => (s.spans_eq_ok_iff _ line).2⟩

variable (scripts : Option (Char → ScriptTag))

/-- Without a reorderer the lines are the pieces with their tabs expanded. -/
theorem exists_segment?_none : ∃ lines, segment? ⟨none, scripts⟩ text direction = .ok lines ∧
    lines.map (·.chars) = pieces.map expandTabs ∧
    (∀ line ∈ lines, ∀ c ∈ line.chars, c ∉ breakChars ∧ c ≠ '\t') ∧
    List.Forall₂ (fun piece line => piece = [] → line.spans = []) pieces lines := by
  let line := fun piece => Line.mk (spans ⟨none, scripts⟩ (expandTabs piece))
  have hchars : ∀ piece, (line piece).chars = expandTabs piece := fun piece =>
    flatMap_chars_spans _ _
  refine ⟨pieces.map line, ?_, ?_, ?_, ?_⟩
  · refine (segment?_eq_ok_iff h direction _ _).2 ?_
    rw [List.forall₂_map_right_iff, List.forall₂_same]
    intro piece _
    rw [hchars, order_none]
    exact ⟨rfl, rfl⟩
  · rw [List.map_map]
    exact List.map_congr_left fun piece _ => hchars piece
  · intro l hl c hc
    obtain ⟨piece, hpiece, rfl⟩ := List.mem_map.1 hl
    rw [hchars] at hc
    exact (h.breakFree piece hpiece).forall_mem_expandTabs c hc
  · rw [List.forall₂_map_right_iff, List.forall₂_same]
    rintro _ _ rfl
    exact spans_nil ⟨none, scripts⟩

/-- With a reorderer the lines are its answers. -/
theorem forall₂_of_segment?_some {r : Reorderer} {lines : List Line}
    (hlines : segment? ⟨some r, scripts⟩ text direction = .ok lines) :
    List.Forall₂ (fun piece line => if piece = [] then line.spans = [] else
      r.reorder (expandTabs piece) direction = .ok line.chars) pieces lines := by
  refine ((segment?_eq_ok_iff h direction _ _).1 hlines).imp fun piece line ⟨hordered, hspans⟩ => ?_
  rw [order_some_expandTabs] at hordered
  by_cases hnil : piece = []
  · rw [if_pos hnil] at hordered ⊢
    rw [hspans, ← Except.ok.inj hordered, spans_nil]
  · rwa [if_neg hnil] at hordered ⊢

/-- Reorderers that agree on the pieces that are not empty give the same. -/
theorem segment?_some_congr {r r' : Reorderer} (hagree : ∀ piece ∈ pieces, piece ≠ [] →
      r'.reorder (expandTabs piece) direction = r.reorder (expandTabs piece) direction) :
    segment? ⟨some r', scripts⟩ text direction = segment? ⟨some r, scripts⟩ text direction := by
  rw [segment?_of_cut h, segment?_of_cut h]
  refine mapM_congr fun piece hpiece => ?_
  have horder : order ⟨some r', scripts⟩ direction (expandTabs piece) =
      order ⟨some r, scripts⟩ direction (expandTabs piece) := by
    rw [order_some_expandTabs, order_some_expandTabs]
    exact ite_congr rfl (fun _ => rfl) (hagree piece hpiece)
  rw [horder]
  rfl

end

/-- **A text is segmented into its pieces.** The text has one cut, with one piece more than breaks.
Without a reorderer segmenting succeeds, and the lines are the pieces with their tabs expanded. With
a reorderer, if segmenting succeeds, they are its answers on these, and nothing depends on what it
answers elsewhere: it is not called for an empty piece. Empty pieces give lines without spans. -/
theorem segment_pieces (scripts : Option (Char → ScriptTag)) (text : String)
    (direction : Direction) :
    ∃ pieces breaks, Cut text.toList pieces breaks ∧
      (∀ pieces' breaks', Cut text.toList pieces' breaks' → pieces' = pieces ∧ breaks' = breaks) ∧
      pieces.length = breaks.length + 1 ∧
      (∃ lines, segment? ⟨none, scripts⟩ text direction = .ok lines ∧
        lines.map (·.chars) = pieces.map expandTabs ∧
        (∀ line ∈ lines, ∀ c ∈ line.chars, c ∉ breakChars ∧ c ≠ '\t') ∧
        List.Forall₂ (fun piece line => piece = [] → line.spans = []) pieces lines) ∧
      ∀ r : Reorderer,
        (∀ lines, segment? ⟨some r, scripts⟩ text direction = .ok lines →
          List.Forall₂ (fun piece line => if piece = [] then line.spans = [] else
            r.reorder (expandTabs piece) direction = .ok line.chars) pieces lines) ∧
        ∀ r' : Reorderer, (∀ piece ∈ pieces, piece ≠ [] →
            r'.reorder (expandTabs piece) direction = r.reorder (expandTabs piece) direction) →
          segment? ⟨some r', scripts⟩ text direction =
            segment? ⟨some r, scripts⟩ text direction := by
  obtain ⟨pieces, breaks, h⟩ := exists_cut text.toList
  refine ⟨pieces, breaks, h, fun _ _ h' => h.unique h', h.length_pieces,
    exists_segment?_none h direction scripts, fun r => ⟨fun lines hlines => ?_, fun r' hagree => ?_⟩⟩
  · exact forall₂_of_segment?_some h direction scripts hlines
  · exact segment?_some_congr h direction scripts hagree

end Segmenter

end Lettering
