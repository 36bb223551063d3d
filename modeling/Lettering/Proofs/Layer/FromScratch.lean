import Lettering.Proofs.Layer.Scene

/-!
# Layers made from scratch

What a layer should hold follows from its parameters, its document and its face alone:
`TextContext.linesOf`, `TextContext.composedOf` and `TextContext.geometryOf` compute it from
nothing else. A layer holds it in pieces instead and remakes only the pieces that the pending
changes name.

`TextLayer.Tracked` is what makes this right: every piece that no pending change names is what it
would be if it were made from scratch. Writes keep it (`Tracked.put`), and so do documents, which
move little (`setDocument_cases`, `Tracked.setDocument`). A sync of such a layer leaves all pieces as
if made from scratch, whatever face it finds (`Tracked.sync`). After any run of any layers over one
context, in a world that may answer every question for a file as it likes, a sync therefore answers
what the pipeline answers from scratch (`TextContext.sync_from_scratch`).
-/

namespace Lettering

open FontQuery

/-! ## Sets of changes -/

namespace Changes

theorem needsLines_iff {a : Changes} : a.needsLines ↔ ∃ c, a.contains c ∧ c.touchesLines := by
  simp only [needsLines, List.any_eq_true, mem_toList]

theorem needsLayout_iff {a : Changes} : a.needsLayout ↔ ∃ c, a.contains c ∧ c.touchesLayout := by
  simp only [needsLayout, List.any_eq_true, mem_toList]

theorem needsLines_union (a b : Changes) :
    (a ∪ b).needsLines = (a.needsLines || b.needsLines) := by
  rw [Bool.eq_iff_iff, Bool.or_eq_true]
  simp only [needsLines_iff, contains_union, Bool.or_eq_true, or_and_right, exists_or]

theorem needsLayout_union (a b : Changes) :
    (a ∪ b).needsLayout = (a.needsLayout || b.needsLayout) := by
  rw [Bool.eq_iff_iff, Bool.or_eq_true]
  simp only [needsLayout_iff, contains_union, Bool.or_eq_true, or_and_right, exists_or]

theorem isEmpty_union {a b : Changes} : (a ∪ b).isEmpty ↔ a.isEmpty ∧ b.isEmpty := by
  constructor
  · intro h
    have hnone : ∀ c, a.contains c = false ∧ b.contains c = false := by
      intro c
      have hc : (a ∪ b).contains c = false := by rw [isEmpty_iff.1 h, contains_empty]
      rwa [contains_union, Bool.or_eq_false_iff] at hc
    refine ⟨isEmpty_iff.2 ?_, isEmpty_iff.2 ?_⟩
    · ext c
      exact (hnone c).1
    · ext c
      exact (hnone c).2
  · rintro ⟨ha, hb⟩
    rw [isEmpty_iff.1 ha, isEmpty_iff.1 hb, union_empty]
    rfl

theorem needsLines_only (c : Change) : (only c).needsLines = c.touchesLines := by
  cases c <;> rfl

theorem needsLayout_only (c : Change) : (only c).needsLayout = c.touchesLayout := by
  cases c <;> rfl

@[simp] theorem everything_union (a : Changes) : everything ∪ a = everything := by
  ext c
  simp

/-- A new face asks for new lines. -/
theorem needsLines_of_needsFace {a : Changes} (h : a.needsFace) : a.needsLines :=
  needsLines_iff.2 ⟨.font, h, rfl⟩

/-- New lines ask for a new layout. -/
theorem needsLayout_of_needsLines {a : Changes} (h : a.needsLines) : a.needsLayout := by
  obtain ⟨c, hc, htouch⟩ := needsLines_iff.1 h
  refine needsLayout_iff.2 ⟨c, hc, ?_⟩
  cases c <;> first | rfl | cases htouch

theorem needsLines_eq_false {a : Changes} (h : a.needsLayout = false) : a.needsLines = false := by
  rw [← Bool.not_eq_true] at h ⊢
  exact mt needsLayout_of_needsLines h

theorem needsLayout_of_isEmpty {a : Changes} (h : a.isEmpty) : a.needsLayout = false := by
  rw [isEmpty_iff.1 h]
  rfl

theorem needsFace_of_isEmpty {a : Changes} (h : a.isEmpty) : a.needsFace = false := by
  rw [isEmpty_iff.1 h]
  rfl

end Changes

/-! ## What a layer should hold -/

namespace TextContext

variable {F : Type} (ctx : TextContext F)

/-- The lines of a text in a document. -/
def linesOf (p : LayerParams) (document : Option String) : List Line :=
  ctx.segmenter.segment (p.expandedText (document.bind Path.fileStem?)) p.direction

/-- The composed text in a face. -/
def composedOf (p : LayerParams) (document : Option String) : Option F → ComposedText
  | none => {}
  | some face =>
    compose (ctx.view face) (ctx.linesOf p document) ctx.shaper p.spacing p.orient

/-- The units per em of a face. -/
def unitsPerEmOf : Option F → Nat
  | none => fallbackUnitsPerEm
  | some face => (ctx.view face).unitsPerEm

/-- The whole pipeline. -/
def geometryOf (p : LayerParams) (document : Option String) (face : Option F) : TextGeometry :=
  .place (ctx.composedOf p document face).path p.origin p.size (ctx.unitsPerEmOf face)

end TextContext

namespace TextLayer

variable {F : Type}

/-- The face in use. -/
def face? (l : TextLayer F) : Option F := l.face.map (·.face)

/-- The lines are what they would be from scratch. -/
def LinesCurrent (ctx : TextContext F) (l : TextLayer F) : Prop :=
  l.lines = ctx.linesOf l.params l.document

/-- The path and the block are what they would be from scratch. -/
def PathCurrent (ctx : TextContext F) (l : TextLayer F) : Prop :=
  ComposedText.mk l.path l.block = ctx.composedOf l.params l.document l.face?

/-- The geometry is what it would be from scratch. -/
def GeometryCurrent (ctx : TextContext F) (l : TextLayer F) : Prop :=
  l.geometry = some (ctx.geometryOf l.params l.document l.face?)

/-- What no pending change names is current. -/
structure Tracked (ctx : TextContext F) (l : TextLayer F) : Prop where
  new : l.geometry = none → l.pending = .everything
  lines : l.pending.needsLines = false → l.LinesCurrent ctx
  path : l.pending.needsLayout = false → l.PathCurrent ctx
  geometry : l.pending.isEmpty → l.GeometryCurrent ctx

/-- Nothing is pending and everything is current. -/
structure Current (ctx : TextContext F) (l : TextLayer F) : Prop where
  settled : l.pending = .empty
  lines : l.LinesCurrent ctx
  path : l.PathCurrent ctx
  geometry : l.GeometryCurrent ctx

variable {ctx : TextContext F}

theorem tracked_start (p : LayerParams) (document : Option String) :
    Tracked ctx ({ params := p, document } : TextLayer F) where
  new _ := rfl
  lines h := by cases h
  path h := by cases h
  geometry h := by cases h

theorem Current.tracked {l : TextLayer F} (h : l.Current ctx) : l.Tracked ctx where
  new hnone := by
    have := h.geometry
    rw [GeometryCurrent, hnone] at this
    cases this
  lines _ := h.lines
  path _ := h.path
  geometry _ := h.geometry

/-! ## Edits -/

/-- An edit is tracked if it reports every piece that it moves. -/
theorem Tracked.mark {l : TextLayer F} (h : l.Tracked ctx) {p : LayerParams}
    {document : Option String} {changes : Changes}
    (hlines : changes.needsLines = false →
      ctx.linesOf p document = ctx.linesOf l.params l.document)
    (hpath : changes.needsLayout = false →
      p.spacing = l.params.spacing ∧ p.orient = l.params.orient)
    (hgeometry : changes.isEmpty →
      p.origin = l.params.origin ∧ p.size = l.params.size) :
    ({ l with params := p, document }.mark changes).Tracked ctx := by
  have hcomposed : changes.needsLayout = false → ∀ face : Option F,
      ctx.composedOf p document face = ctx.composedOf l.params l.document face := by
    intro hlayout face
    have hl := hlines (Changes.needsLines_eq_false hlayout)
    obtain ⟨hs, ho⟩ := hpath hlayout
    cases face with
    | none => rfl
    | some face => simp only [TextContext.composedOf, hl, hs, ho]
  constructor
  · intro hnone
    change l.pending ∪ changes = .everything
    rw [h.new hnone, Changes.everything_union]
  · intro hn
    change (l.pending ∪ changes).needsLines = false at hn
    rw [Changes.needsLines_union, Bool.or_eq_false_iff] at hn
    exact (h.lines hn.1).trans (hlines hn.2).symm
  · intro hn
    change (l.pending ∪ changes).needsLayout = false at hn
    rw [Changes.needsLayout_union, Bool.or_eq_false_iff] at hn
    exact (h.path hn.1).trans (hcomposed hn.2 _).symm
  · intro hn
    change (l.pending ∪ changes).isEmpty at hn
    rw [Changes.isEmpty_union] at hn
    have hlayout := Changes.needsLayout_of_isEmpty hn.2
    obtain ⟨ho, hs⟩ := hgeometry hn.2
    have hsame : ctx.geometryOf p document l.face? =
        ctx.geometryOf l.params l.document l.face? := by
      simp only [TextContext.geometryOf, hcomposed hlayout, ho, hs]
    exact (h.geometry hn.1).trans (congrArg some hsame.symm)

/-- A write is tracked. -/
theorem Tracked.put {l : TextLayer F} (h : l.Tracked ctx) (w : ParamWrite) :
    (l.put w).Tracked ctx := by
  unfold TextLayer.put
  rcases w.apply_cases l.params with ⟨-, hw⟩ | ⟨-, hw⟩
  · rw [hw]
    exact h.mark (fun _ => rfl) (fun _ => ⟨rfl, rfl⟩) fun _ => ⟨rfl, rfl⟩
  · rw [hw]
    refine h.mark (fun hn => ?_) (fun hn => ?_) fun hn => ?_
    · rw [Changes.needsLines_only] at hn
      obtain ⟨ht, hd⟩ := w.text_of_not_touchesLines l.params hn
      simp only [TextContext.linesOf, LayerParams.expandedText, ht, hd]
    · rw [Changes.needsLayout_only] at hn
      exact w.spacing_of_not_touchesLayout l.params hn
    · cases hc : w.change <;> rw [hc] at hn <;> cases hn

/-- Only a text that stands for the name of its document depends on the document. -/
theorem expandedText_congr {p : LayerParams} (h : p.text ≠ fileNameSentinel)
    (stem stem' : Option String) : p.expandedText stem = p.expandedText stem' := by
  have hplain : ∀ s, p.expandedText s = p.text := by
    intro s
    cases s with
    | none => rfl
    | some s => exact if_neg h
  rw [hplain, hplain]

/-- **What a layer does with a document**: nothing if it is in it already. Otherwise it keeps the
path; for a family that is the name of a file it forgets the file found earlier, and the face is
stale; and a text that stands for the name of the document is stale. Nothing else moves, and no
other change is reported. -/
theorem setDocument_cases (l : TextLayer F) (document : Option String) :
    (samePath? l.document document ∧ l.setDocument document = (.empty, l)) ∨
      samePath? l.document document = false ∧ ∃ changes,
        l.setDocument document = (changes, { l with
          document
          params := { l.params with
            font := if l.familyIsRelativeFile then "" else l.params.font }
          pending := l.pending ∪ changes }) ∧
        ∀ c, changes.contains c ↔
          c = .font ∧ l.familyIsRelativeFile ∨ c = .text ∧ l.params.text = fileNameSentinel := by
  unfold setDocument
  cases hsame : samePath? l.document document with
  | true => exact .inl ⟨rfl, rfl⟩
  | false =>
    refine .inr ⟨rfl, (if l.familyIsRelativeFile then .only .font else .empty) ∪
      (if l.params.text == fileNameSentinel then .only .text else .empty), ?_, ?_⟩
    · rw [if_neg Bool.false_ne_true]
      cases l.familyIsRelativeFile <;> rfl
    · intro c
      rw [Changes.contains_union, Bool.or_eq_true]
      refine or_congr ?_ ?_
      · cases l.familyIsRelativeFile <;> simp
      · by_cases ht : l.params.text = fileNameSentinel <;> simp [ht]

/-- A new document is tracked. -/
theorem Tracked.setDocument {l : TextLayer F} (h : l.Tracked ctx) (document : Option String) :
    (l.setDocument document).2.Tracked ctx := by
  rcases l.setDocument_cases document with ⟨-, hmove⟩ | ⟨-, changes, hmove, hchanges⟩
  · rw [hmove]
    exact h
  · rw [hmove]
    refine h.mark (fun hn => ?_) (fun _ => ⟨rfl, rfl⟩) fun _ => ⟨rfl, rfl⟩
    -- a text that stands for the name of the document is marked
    have ht : l.params.text ≠ fileNameSentinel := by
      intro ht
      have hlines := Changes.needsLines_iff.2 ⟨.text, (hchanges .text).2 (.inr ⟨rfl, ht⟩), rfl⟩
      rw [hn] at hlines
      cases hlines
    exact congrArg (ctx.segmenter.segment · l.params.direction) (expandedText_congr ht _ _)

/-! ## Syncs -/

/-- Finding the face moves no parameter but the one that names its file. -/
theorem findFace_frame (ctx : TextContext F) (l : TextLayer F) :
    (l.findFace ctx).Always fun found =>
      found.params = { l.params with font := found.params.font } ∧
        found.document = l.document ∧ found.pending = l.pending := by
  unfold findFace
  split
  · exact ⟨rfl, rfl, rfl⟩
  · rw [bind_eq, always_bind]
    exact always_of_forall (fun _ => ⟨rfl, rfl, rfl⟩) _

theorem renewLines_current (ctx : TextContext F) (l : TextLayer F) :
    (l.renewLines ctx).LinesCurrent ctx := rfl

theorem renewPath_current {l : TextLayer F} (h : l.LinesCurrent ctx) :
    (l.renewPath ctx).PathCurrent ctx := by
  unfold LinesCurrent at h
  change l.composed ctx = ctx.composedOf l.params l.document l.face?
  unfold composed face?
  cases l.face with
  | none => rfl
  | some resolved => exact h ▸ rfl

theorem placed_eq {l : TextLayer F} (h : l.PathCurrent ctx) :
    l.placed ctx = ctx.geometryOf l.params l.document l.face? := by
  unfold PathCurrent at h
  rw [TextContext.geometryOf, ← h]
  unfold placed face?
  cases l.face <;> rfl

/-- The stages after the face. -/
def renew (ctx : TextContext F) (changes : Changes) (first : Bool) (l : TextLayer F) :
    TextLayer F :=
  let l := if changes.needsLines then l.renewLines ctx else l
  let l := if changes.needsLayout || first then l.renewPath ctx else l
  l.renewGeometry ctx

theorem update_eq (ctx : TextContext F) (changes : Changes) (l : TextLayer F) :
    l.update ctx changes =
      (if changes.needsFace then l.findFace ctx else .done l).bind fun found =>
        .done (found.renew ctx changes l.geometry.isNone) := by
  unfold update
  by_cases h : changes.needsFace
  · rw [if_pos h, if_pos h]
    rfl
  · rw [if_neg h, if_neg h]
    rfl

/-- Two layers with the same request and the same face. -/
structure SameFace (l k : TextLayer F) : Prop where
  params : l.params = k.params
  document : l.document = k.document
  face : l.face = k.face
  pending : l.pending = k.pending
  asked : l.asked = k.asked

/-- The later stages leave the request and the face. -/
theorem renew_sameFace (ctx : TextContext F) (changes : Changes) (first : Bool) (l : TextLayer F) :
    (l.renew ctx changes first).SameFace l := by
  simp only [renew, renewGeometry, renewPath, renewLines]
  split <;> split <;> exact ⟨rfl, rfl, rfl, rfl, rfl⟩

/-- The later stages make everything current if what they keep is. -/
theorem renew_current {changes : Changes} {first : Bool} {l : TextLayer F}
    (hpending : l.pending = .empty) (hlines : changes.needsLines = false → l.LinesCurrent ctx)
    (hpath : changes.needsLayout = false → first = false → l.PathCurrent ctx) :
    (l.renew ctx changes first).Current ctx := by
  let cut := if changes.needsLines then l.renewLines ctx else l
  have hcut : cut.LinesCurrent ctx := by
    by_cases h : changes.needsLines
    · rw [show cut = l.renewLines ctx from if_pos h]
      exact renewLines_current ctx l
    · rw [show cut = l from if_neg h]
      exact hlines (by simpa using h)
  let laid := if changes.needsLayout || first then cut.renewPath ctx else cut
  have hlaid : laid.LinesCurrent ctx ∧ laid.PathCurrent ctx := by
    by_cases h : changes.needsLayout || first
    · rw [show laid = cut.renewPath ctx from if_pos h]
      exact ⟨hcut, renewPath_current hcut⟩
    · rw [show laid = cut from if_neg h]
      simp only [Bool.not_eq_true, Bool.or_eq_false_iff] at h
      have hkept : cut = l := if_neg (by simp [Changes.needsLines_eq_false h.1])
      exact ⟨hcut, hkept ▸ hpath h.1 h.2⟩
  refine ⟨(renew_sameFace ctx changes first l).pending.trans hpending, hlaid.1, hlaid.2, ?_⟩
  exact congrArg some (placed_eq hlaid.2)

/-- An update with the pending changes makes everything current. -/
theorem Tracked.update {l : TextLayer F} (h : l.Tracked ctx) :
    (({ l with pending := .empty } : TextLayer F).update ctx l.pending).Always
      fun (next : TextLayer F) => next.Current ctx ∧ next.document = l.document ∧
        next.params = { l.params with font := next.params.font } := by
  let rest : TextLayer F := { l with pending := .empty }
  change (rest.update ctx l.pending).Always _
  rw [update_eq, always_bind]
  by_cases hface : l.pending.needsFace
  · have hlines := Changes.needsLines_of_needsFace hface
    have hlayout := Changes.needsLayout_of_needsLines hlines
    rw [if_pos hface]
    refine (findFace_frame ctx rest).mono fun found hfound => ?_
    obtain ⟨hparams, hdocument, hpending⟩ := hfound
    have hsame := renew_sameFace ctx l.pending rest.geometry.isNone found
    rw [always_done, hsame.params, hsame.document]
    refine ⟨renew_current hpending (fun hn => ?_) fun hn => ?_, hdocument, hparams⟩
    · rw [hlines] at hn
      cases hn
    · rw [hlayout] at hn
      cases hn
  · have hsame := renew_sameFace ctx l.pending rest.geometry.isNone rest
    have hcurrent : (rest.renew ctx l.pending rest.geometry.isNone).Current ctx :=
      renew_current rfl h.lines fun hn _ => h.path hn
    rw [if_neg hface, always_done]
    refine ⟨hcurrent, hsame.document, ?_⟩
    rw [hsame.params]

/-- A sync has nothing to do, or updates the layer with what is pending. -/
theorem sync_cases (ctx : TextContext F) (l : TextLayer F) :
    (l.pending.isEmpty ∧ ∃ geometry, l.geometry = some geometry ∧
      l.sync ctx = .done (geometry, { l with pending := .empty })) ∨
    l.sync ctx = (({ l with pending := .empty } : TextLayer F).update ctx l.pending).bind
      fun next => .done (next.placed ctx, next) := by
  unfold TextLayer.sync
  split
  · rename_i geometry hp hg
    exact .inl ⟨hp, geometry, hg, rfl⟩
  · exact .inr rfl

/-- A sync leaves all pieces as if they were made from scratch, and moves no parameter but the one
that names the file of the face. -/
theorem Tracked.sync {l : TextLayer F} (h : l.Tracked ctx) :
    (l.sync ctx).Always fun (answer : TextGeometry × TextLayer F) =>
      answer.2.Current ctx ∧ answer.2.geometry = some answer.1 ∧
        answer.2.document = l.document ∧
        answer.2.params = { l.params with font := answer.2.params.font } := by
  rcases sync_cases ctx l with ⟨hp, geometry, hg, hsync⟩ | hsync
  · have hlayout := Changes.needsLayout_of_isEmpty hp
    have hlines := Changes.needsLines_eq_false hlayout
    rw [hsync, always_done]
    exact ⟨⟨rfl, h.lines hlines, h.path hlayout, h.geometry hp⟩, hg, rfl, rfl⟩
  · rw [hsync, always_bind]
    refine h.update.mono fun next hnext => ⟨hnext.1, ?_, hnext.2⟩
    exact hnext.1.geometry.trans (congrArg some (placed_eq hnext.1.path).symm)

/-- Every call keeps a layer tracked. -/
theorem Tracked.after {l : TextLayer F} (h : l.Tracked ctx) (c : LayerCall) :
    (l.after ctx c).Always (Tracked ctx) := by
  cases c with
  | setParam name v =>
    rw [after_setParam, always_done]
    cases hw : ParamWrite.read? name v with
    | error =>
      rw [offered_of_error hw]
      exact h
    | ok w =>
      rw [offered_of_ok hw]
      exact h.put w
  | setDocument document => exact h.setDocument document
  | sync =>
    unfold TextLayer.after
    rw [always_bind]
    exact h.sync.mono fun answer hanswer => hanswer.1.tracked

end TextLayer

namespace TextContext

variable {F ι σ : Type} [DecidableEq ι]

/-- **A sync answers as if from scratch**: whatever was asked of the layers of a context before, and
whatever the files were at each moment, after a sync of one of them nothing is pending, its lines,
block and path are those of its parameters, its document and its face, and so is the answer. The
sync has kept the document and all parameters but the one that names the file of the face. -/
theorem sync_from_scratch (ctx : TextContext F) (source : FontSource (StateM σ) F) (world : σ)
    (params : ι → LayerParams) (cache : FaceCache F) (calls : List (ι × LayerCall)) (i : ι) :
    let reached := ((Scene.start params cache).run ctx source calls).run world
    let before := reached.1.layers i
    let synced := ((before.sync ctx).run source reached.1.cache).run reached.2
    let geometry := synced.1.1.1
    let l := synced.1.1.2
    let composed := ctx.composedOf l.params l.document (l.face.map (·.face))
    l.pending = .empty ∧
      l.lines = ctx.linesOf l.params l.document ∧
      l.block = composed.block ∧ l.path = composed.path ∧
      geometry = ctx.geometryOf l.params l.document (l.face.map (·.face)) ∧
      l.geometry = some geometry ∧
      l.document = before.document ∧
      l.params = { before.params with font := l.params.font } := by
  intro reached before synced geometry l composed
  have htracked : before.Tracked ctx :=
    Scene.run_keeps (P := fun _ => TextLayer.Tracked ctx) (fun _ _ c h => h.after c)
      (fun i => TextLayer.tracked_start (params i) none) source calls world i
  obtain ⟨hcurrent, hgeometry, hdocument, hparams⟩ :=
    always_run_state htracked.sync source reached.1.cache reached.2
  have hpath : ComposedText.mk l.path l.block = composed := hcurrent.path
  refine ⟨hcurrent.settled, hcurrent.lines, ?_, ?_, ?_, hgeometry, hdocument, hparams⟩
  · exact congrArg ComposedText.block hpath
  · exact congrArg ComposedText.path hpath
  · exact Option.some.inj (hgeometry.symm.trans hcurrent.geometry)

end TextContext

end Lettering
