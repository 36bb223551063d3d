import Lettering.Proofs.Layer.Following

/-!
# Edits with and without syncs between them

Many writes between two syncs cost one pass. That the pass draws the same as if there had been a
sync after each write is another matter: a sync names the file it found, and a later request tries
that file first if its family, or the default family, names a file.

`TextContext.HintsAgree` says that a former file as a hint leads to the same drawing as no hint. On
files that do not change, extra syncs between the writes to a new layer change nothing about what it
answers in the end, whatever is written, exactly if hints agree for the families that are written
(`TextContext.rendered_filter_isWrite_iff`). They agree for families that are no files
(`TextContext.hintsAgree_of_not_namesFile`).
-/

namespace Lettering

open FontQuery

variable {F : Type} {families : String → Prop}

/-! ## Runs of one layer -/

/-- The layer after some calls. -/
def TextLayer.afterAll (ctx : TextContext F) :
    TextLayer F → List LayerCall → FontQuery F (TextLayer F)
  | l, [] => .done l
  | l, c :: rest => (l.after ctx c).bind fun next => next.afterAll ctx rest

theorem TextLayer.afterAll_append (ctx : TextContext F) (l : TextLayer F) (xs ys : List LayerCall) :
    l.afterAll ctx (xs ++ ys) = (l.afterAll ctx xs).bind fun next => next.afterAll ctx ys := by
  induction xs generalizing l with
  | nil => rfl
  | cons c rest ih =>
    simp only [List.cons_append, afterAll, bind_assoc, ih]

namespace LayerCall

/-- Whether a call is a write. -/
def isWrite : LayerCall → Bool
  | setParam .. => true
  | _ => false

theorem foldl_written_filter (p : LayerParams) (calls : List LayerCall) :
    (calls.filter isWrite).foldl written p = calls.foldl written p := by
  induction calls generalizing p with
  | nil => rfl
  | cons c rest ih =>
    cases c with
    | setParam name v => exact ih _
    | setDocument => exact ih p
    | sync => exact ih p

theorem written_font {p : LayerParams} (hp : p.font = "" ∧ families p.family) {c : LayerCall}
    (hc : c.Permitted families) : (c.written p).font = "" ∧ families (c.written p).family := by
  cases c with
  | setParam name v =>
    simp only [written]
    cases hw : ParamWrite.read? name v with
    | error => exact hp
    | ok w =>
      have hpermitted := w.permitted_of_read? hw hc
      refine ⟨?_, w.families_apply hp.2 hpermitted⟩
      change (w.apply p).1.font = ""
      rcases w.apply_cases p with ⟨-, happly⟩ | ⟨-, happly⟩
      · rw [happly]
        exact hp.1
      · rw [happly]
        rcases w.put_font_cases p hpermitted with hfont | ⟨hfont, -⟩
        · exact hfont
        · exact hfont.trans hp.1
  | setDocument => exact hp
  | sync => exact hp

end LayerCall

namespace TextLayer

/-! ### New layers -/

/-- Everything about a new layer is stale already. -/
theorem put_new (p : LayerParams) (w : ParamWrite) :
    ({ params := p } : TextLayer F).put w = { params := (w.apply p).1 } := by
  simp [put, mark]

theorem setDocument_new {p : LayerParams} (hp : p.font = "") (document : Option String) :
    (({ params := p } : TextLayer F).setDocument document).2 = { params := p, document } := by
  rcases ({ params := p } : TextLayer F).setDocument_cases document with
    ⟨hsame, hmove⟩ | ⟨-, changes, hmove, -⟩ <;> rw [hmove]
  · cases document with
    | none => rfl
    | some path => cases hsame
  · simp [← hp]

theorem afterAll_setDocument_new (ctx : TextContext F) {p : LayerParams} (hp : p.font = "")
    (document : Option String) (calls : List LayerCall) :
    ({ params := p } : TextLayer F).afterAll ctx (.setDocument document :: calls) =
      ({ params := p, document } : TextLayer F).afterAll ctx calls := by
  rw [afterAll, after, done_bind, setDocument_new hp]

theorem offered_new (p : LayerParams) (name : String) (v : ParamValue) :
    ({ params := p } : TextLayer F).offered name v =
      { params := (LayerCall.setParam name v).written p } := by
  simp only [offered, LayerCall.written]
  cases ParamWrite.read? name v with
  | error => rfl
  | ok w => exact put_new p w

theorem afterAll_new (ctx : TextContext F) {p : LayerParams} {opening : List LayerCall}
    (hopening : ∀ c ∈ opening, c.isWrite) :
    ({ params := p } : TextLayer F).afterAll ctx opening =
      .done { params := opening.foldl LayerCall.written p } := by
  induction opening generalizing p with
  | nil => rfl
  | cons c rest ih =>
    have hrest : ∀ d ∈ rest, d.isWrite := fun d hd => hopening d (by simp [hd])
    cases c with
    | setParam name v =>
      rw [afterAll, after_setParam, offered_new, done_bind, ih hrest]
      rfl
    | setDocument => simpa [LayerCall.isWrite] using hopening _ List.mem_cons_self
    | sync => simpa [LayerCall.isWrite] using hopening _ List.mem_cons_self

end TextLayer

namespace TextContext

variable (ctx : TextContext F) (files : FontFileRef → Option F)
  (find : String → Slant → Weight → Option FontFileRef) (document : Option String)

/-! ## Hints that agree -/

/-- A former file as a hint leads to the same drawing as no hint. -/
def HintsAgree (families : String → Prop) : Prop :=
  ∀ (p : LayerParams) (slant : Slant) (weight : Weight) (first : (Nat × Candidate) × F),
    families p.family → (slant, weight) ≠ (p.slant, p.weight) →
    (p.weight = weight ∨ 0 < p.weight.value) →
    ctx.found files find document ⟨p.family, slant, weight, none⟩ "" = some first →
    ctx.geometryOf p document
        ((ctx.found files find document p.identity first.1.2.file.path).map (·.2)) =
      ctx.geometryOf p document ((ctx.found files find document p.identity "").map (·.2))

variable {ctx files find document}

theorem HintsAgree.geometryOf_eq (h : ctx.HintsAgree files find document families)
    {p : LayerParams} (hp : families p.family) {face : Option F}
    (hface : ctx.Served files find document p.identity face) :
    ctx.geometryOf p document face =
      ctx.geometryOf p document ((ctx.found files find document p.identity "").map (·.2)) := by
  obtain ⟨font, hfont, hfound⟩ := hface
  rw [hfound]
  rcases hfont with hfont | ⟨slant, weight, first, hne, hweight, hfirst, hpath⟩
  · rw [hfont]
  · rw [← hpath]
    exact h p slant weight first hp hne hweight hfirst

/-- Families that are no files do not look at hints. -/
theorem hintsAgree_of_not_namesFile
    (hfamilies : ∀ family, families family → namesFile (trimBlanks family) = false)
    (hdefault : namesFile (trimBlanks ctx.config.defaultFamily) = false) :
    ctx.HintsAgree files find document families := by
  intro p slant weight first hp _ _ _
  have h := ctx.config.choice_of_not_namesFile find files
    (r := p.identity.requestIn document first.1.2.file.path) (hfamilies _ hp) hdefault
  rw [found, h, found_withoutHint]

/-! ## What is drawn in the end -/

theorem geometryOf_unnamed (p : LayerParams) (document : Option String) (face : Option F) :
    ctx.geometryOf p.unnamed document face = ctx.geometryOf p document face := by
  cases face <;> rfl

/-- Parameters that agree but for the file of the face draw the same in the same face. -/
theorem geometryOf_congr {p q : LayerParams} (h : p.unnamed = q.unnamed) (document : Option String)
    (face : Option F) : ctx.geometryOf p document face = ctx.geometryOf q document face := by
  rw [← geometryOf_unnamed p, h, geometryOf_unnamed]

theorem identity_congr {p q : LayerParams} (h : p.unnamed = q.unnamed) :
    p.identity = q.identity := by
  have hidentity : p.unnamed.identity = q.unnamed.identity := by rw [h]
  exact hidentity

theorem InStep.afterAll {p : LayerParams} {l : TextLayer F} {cache : FaceCache F}
    (h : ctx.InStep files find document families p l cache) {calls : List LayerCall}
    (hcalls : ∀ c ∈ calls, c.Permitted families) :
    ctx.InStep files find document families (calls.foldl LayerCall.written p)
      ((l.afterAll ctx calls).run (.fixed files find) cache).1
      ((l.afterAll ctx calls).run (.fixed files find) cache).2 := by
  induction calls generalizing p l cache with
  | nil => exact h
  | cons c rest ih =>
    rw [TextLayer.afterAll, run_bind]
    exact ih (h.after (hcalls c (by simp))) fun d hd => hcalls d (by simp [hd])

/-- If hints agree, a sync draws what the writes alone lead to, in the face found without a hint. -/
theorem InStep.geometry_eq {p : LayerParams} {l : TextLayer F} {cache : FaceCache F}
    (h : ctx.InStep files find document families p l cache)
    (hagree : ctx.HintsAgree files find document families) :
    ((l.sync ctx).run (.fixed files find) cache).1.1 =
      ctx.geometryOf p document ((ctx.found files find document p.identity "").map (·.2)) := by
  obtain ⟨hcurrent, hgeometry, -, -⟩ := always_run h.tracked.sync (.fixed files find) cache
  have hnext := h.sync
  obtain ⟨hfollowing, q, hq, hidentity⟩ := h.following.sync h.asked
  have hserved := hfollowing.held q hq
  have hdrawn := hgeometry.symm.trans hcurrent.geometry
  rw [hidentity] at hserved
  rw [Option.some.inj hdrawn, hfollowing.place, hagree.geometryOf_eq hnext.family hserved,
    identity_congr hnext.params, geometryOf_congr hnext.params]

variable (ctx files find) in
/-- What a new layer, alone on its context, answers to a sync after some calls. -/
def rendered (p : LayerParams) (calls : List LayerCall) : TextGeometry :=
  (((({ params := p } : TextLayer F).afterAll ctx calls).bind fun l => l.sync ctx).run
    (.fixed files find) .empty).1.1

theorem foldl_written_font {p : LayerParams} (hp : p.font = "" ∧ families p.family)
    {calls : List LayerCall} (hcalls : ∀ c ∈ calls, c.Permitted families) :
    (calls.foldl LayerCall.written p).font = "" ∧
      families (calls.foldl LayerCall.written p).family := by
  induction calls generalizing p with
  | nil => exact hp
  | cons c rest ih =>
    exact ih (LayerCall.written_font hp (hcalls c (by simp))) fun d hd => hcalls d (by simp [hd])

/-- The document is there before the first sync, and so are the first writes. -/
theorem rendered_eq {p : LayerParams} (hp : p.font = "" ∧ families p.family)
    {opening : List LayerCall} (hopening : ∀ c ∈ opening, c.isWrite ∧ c.Permitted families)
    (calls : List LayerCall) :
    ctx.rendered files find p (opening ++ .setDocument document :: calls) =
      (((({ params := opening.foldl LayerCall.written p, document } : TextLayer F).afterAll ctx
        calls).bind fun l => l.sync ctx).run (.fixed files find) .empty).1.1 := by
  have hfont := (foldl_written_font hp fun c hc => (hopening c hc).2).1
  rw [rendered, TextLayer.afterAll_append, TextLayer.afterAll_new ctx fun c hc => (hopening c hc).1,
    done_bind, TextLayer.afterAll_setDocument_new ctx hfont]

/-- If hints agree, what is drawn in the end follows from the writes. -/
theorem HintsAgree.rendered_eq (hagree : ctx.HintsAgree files find document families)
    {p : LayerParams} (hp : p.font = "" ∧ families p.family) {opening calls : List LayerCall}
    (hopening : ∀ c ∈ opening, c.isWrite ∧ c.Permitted families)
    (hcalls : ∀ c ∈ calls, c.Permitted families) :
    let q := calls.foldl LayerCall.written (opening.foldl LayerCall.written p)
    ctx.rendered files find p (opening ++ .setDocument document :: calls) =
      ctx.geometryOf q document ((ctx.found files find document q.identity "").map (·.2)) := by
  obtain ⟨hfont, hfamily⟩ := foldl_written_font hp fun c hc => (hopening c hc).2
  have hstart : ctx.InStep files find document families (opening.foldl LayerCall.written p)
      { params := opening.foldl LayerCall.written p, document } .empty :=
    inStep_start hfont hfamily
  rw [TextContext.rendered_eq hp hopening, run_bind]
  exact (hstart.afterAll hcalls).geometry_eq hagree

/-! ## Former files are found again -/

/-- A search for a face that the cache does not know decides what is drawn. -/
theorem sync_of_miss {l : TextLayer F} {cache : FaceCache F} (h : l.Tracked ctx)
    (hplace : l.document = document) (hneeds : l.pending.needsFace)
    (hnew : ¬l.asked.any l.question.same) (hmiss : remembered? cache l.request.keys = none) :
    ((l.sync ctx).run (.fixed files find) cache).1.1 =
      ctx.geometryOf l.params document
        ((ctx.found files find document l.params.identity l.params.font).map (·.2)) := by
  obtain ⟨hcurrent, hgeometry, hdocument, hparams⟩ :=
    always_run h.sync (.fixed files find) cache
  have hface : ((l.sync ctx).run (.fixed files find) cache).1.2.face? =
      (ctx.found files find document l.params.identity l.params.font).map (·.2) := by
    have hfind := ({ l with pending := .empty } : TextLayer F).run_findFace_of_not_same ctx
      (.fixed files find) cache hnew
    rw [TextLayer.face?, (l.run_sync_sameFace ctx (.fixed files find) cache).1.face,
      TextLayer.refreshFace, if_pos hneeds, hfind]
    have hanswer := ctx.config.toOption_run_resolve_of_miss find files hmiss
    rw [TextLayer.request, hplace] at hanswer
    subst hplace
    exact hanswer
  have hdrawn := hgeometry.symm.trans hcurrent.geometry
  rw [Option.some.inj hdrawn, hface, hdocument, hplace, hparams]
  refine geometryOf_congr ?_ document _
  rfl

/-- The writes of a slant and a weight. -/
def restyle (slant : Slant) (weight : Weight) : List LayerCall :=
  [.setParam "style" (.integer slant.code), .setParam "weight" (.integer weight.value)]

theorem read?_style (slant : Slant) :
    ParamWrite.read? "style" (.integer slant.code) = .ok (.style slant) := by
  cases slant <;> rfl

theorem read?_weight {weight : Weight} (h : 0 < weight.value) :
    ParamWrite.read? "weight" (.integer weight.value) = .ok (.weight weight) := by
  have hweight : Weight.ofInt? weight.value = some weight := if_pos h
  have hread : (ParamValue.integer weight.value).choice? "weight" Weight.ofInt? = .ok weight :=
    ParamValue.choice?_eq_ok_iff.2 ⟨_, rfl, hweight⟩
  exact congrArg (ParamWrite.weight <$> ·) hread

theorem apply_style (p : LayerParams) (slant : Slant) :
    ((ParamWrite.style slant).apply p).1 = { p with slant } := by
  refine ParamWrite.apply_eq_put fun h => ?_
  have hslant : p.slant = slant := eq_of_beq h
  rw [ParamWrite.put, ← hslant]

theorem apply_weight (p : LayerParams) (weight : Weight) :
    ((ParamWrite.weight weight).apply p).1 = { p with weight } := by
  refine ParamWrite.apply_eq_put fun h => ?_
  have hweight : p.weight = weight := eq_of_beq h
  rw [ParamWrite.put, ← hweight]

theorem needsFace_put {l : TextLayer F} {w : ParamWrite} (hw : w.change = .font)
    (h : (l.put w).pending.needsFace = false) :
    l.pending.needsFace = false ∧ w.isThere l.params := by
  unfold TextLayer.put at h
  rcases w.apply_cases l.params with ⟨hthere, happly⟩ | ⟨-, happly⟩
  · rw [happly] at h
    exact ⟨by simpa [TextLayer.mark, Changes.needsFace] using h, hthere⟩
  · rw [happly, hw] at h
    simp [TextLayer.mark, Changes.needsFace] at h

variable (ctx) in
/-- Writing a slant and a weight changes these two and asks for a face if they are new. -/
theorem afterAll_restyle (l : TextLayer F) (slant : Slant) {weight : Weight}
    (hweight : weight = l.params.weight ∨ 0 < weight.value) :
    ∃ next : TextLayer F, l.afterAll ctx (restyle slant weight) = .done next ∧
      next.params = { l.params with slant, weight } ∧ next.document = l.document ∧
      next.asked = l.asked ∧ (l.Tracked ctx → next.Tracked ctx) ∧
      (next.pending.needsFace = false →
        l.pending.needsFace = false ∧ l.params.slant = slant ∧ l.params.weight = weight) := by
  let styled := l.put (.style slant)
  have hparams : styled.params = { l.params with slant } := apply_style l.params slant
  have hcalls : l.afterAll ctx (restyle slant weight) =
      .done (styled.offered "weight" (.integer weight.value)) := by
    simp only [restyle, TextLayer.afterAll, TextLayer.after_setParam, done_bind,
      TextLayer.offered_of_ok (read?_style slant)]
    rfl
  by_cases hpos : 0 < weight.value
  · rw [TextLayer.offered_of_ok (read?_weight hpos)] at hcalls
    refine ⟨_, hcalls, ?_, rfl, rfl, fun h => (h.put _).put _, fun hneeds => ?_⟩
    · exact (apply_weight styled.params weight).trans (by rw [hparams])
    · obtain ⟨hstyled, hw⟩ := needsFace_put rfl hneeds
      obtain ⟨hl, hs⟩ := needsFace_put rfl hstyled
      rw [hparams] at hw
      exact ⟨hl, eq_of_beq hs, eq_of_beq hw⟩
  · have hkept : weight = l.params.weight := hweight.resolve_right hpos
    have hrefused : ParamWrite.read? "weight" (.integer weight.value) =
        .error (.outOfRange "weight" weight.value) := by
      have hnone : Weight.ofInt? weight.value = none := if_neg hpos
      have hread : (ParamValue.integer weight.value).choice? "weight" Weight.ofInt? =
          .error (.outOfRange "weight" weight.value) := by
        rw [ParamValue.choice?_integer, hnone]
      exact congrArg (ParamWrite.weight <$> ·) hread
    rw [TextLayer.offered_of_error hrefused] at hcalls
    refine ⟨_, hcalls, ?_, rfl, rfl, fun h => h.put _, fun hneeds => ?_⟩
    · rw [hparams, hkept]
    · obtain ⟨hl, hs⟩ := needsFace_put rfl hneeds
      exact ⟨hl, eq_of_beq hs, hkept.symm⟩

/-- Once slant and weight are written, a sync searches with the file that the layer names, if it was
not asked and does not remember anything for them. -/
theorem sync_restyled {l : TextLayer F} {cache : FaceCache F} {p : LayerParams}
    (htracked : l.Tracked ctx) (hplace : l.document = document)
    (hp : { l.params with slant := p.slant, weight := p.weight }.unnamed = p.unnamed)
    (hweight : p.weight = l.params.weight ∨ 0 < p.weight.value)
    (hneeds : l.pending.needsFace ∨ (l.params.slant, l.params.weight) ≠ (p.slant, p.weight))
    (hnew : ∀ q, l.asked = some q → q.identity ≠ p.identity)
    (hmiss : ∀ key face, cache.get? key = some face → key.unscoped ≠ p.identity) :
    (((l.afterAll ctx (restyle p.slant p.weight)).bind fun next => next.sync ctx).run
        (.fixed files find) cache).1.1 =
      ctx.geometryOf p document
        ((ctx.found files find document p.identity l.params.font).map (·.2)) := by
  obtain ⟨next, hcalls, hparams, hdocument, hasked, hkeep, hface⟩ :=
    ctx.afterAll_restyle l p.slant hweight
  have hsame : next.params.unnamed = p.unnamed := by rw [hparams, hp]
  have hidentity := identity_congr hsame
  have hunasked : ¬next.asked.any next.question.same := by
    intro h
    obtain ⟨q, hq, hquestion⟩ := TextLayer.asked_of_same h
    exact hnew q (hasked ▸ hq) (hquestion.trans hidentity)
  have hunknown : remembered? cache next.request.keys = none := by
    refine Option.eq_none_iff_forall_ne_some.2 fun known hknown => ?_
    obtain ⟨hget, hkey⟩ := FaceCache.get?_of_remembered? hknown
    exact hmiss _ _ hget (hkey.trans hidentity)
  have hasks : next.pending.needsFace := by
    refine Decidable.byContradiction fun h => ?_
    obtain ⟨hl, hs, hw⟩ := hface (by simpa using h)
    rcases hneeds with hneeds | hneeds
    · rw [hl] at hneeds
      cases hneeds
    · exact hneeds (by rw [hs, hw])
  have hfont : next.params.font = l.params.font := by rw [hparams]
  rw [hcalls, done_bind, sync_of_miss (hkeep htracked) (hdocument.trans hplace) hasks hunasked
    hunknown, hidentity, hfont, geometryOf_congr hsame]

theorem permitted_restyle (slant : Slant) (weight : Weight) :
    ∀ c ∈ restyle slant weight, c.Permitted families := by
  intro c hc
  rcases List.mem_cons.1 hc with rfl | hc
  · exact ⟨by decide, fun h => absurd h (by decide)⟩
  · obtain rfl := List.mem_singleton.1 hc
    exact ⟨by decide, fun h => absurd h (by decide)⟩

/-- A first sync names the file it finds, and remembers it for nothing but its own identity. -/
theorem first_sync {q : LayerParams} (hq : q.font = "") {n : Nat} {c : Candidate} {face : F}
    (hfirst : ctx.found files find document q.identity "" = some ((n, c), face)) :
    let synced :=
      (({ params := q, document } : TextLayer F).sync ctx).run (.fixed files find) .empty
    synced.1.2.params = { q with font := c.file.path } ∧ synced.1.2.document = document ∧
      (∀ question, synced.1.2.asked = some question → question.identity = q.identity) ∧
      ∀ key f, synced.2.get? key = some f → key.unscoped = q.identity := by
  intro synced
  let new : TextLayer F := { params := q, document }
  let rest : TextLayer F := { new with pending := .empty }
  obtain ⟨hsame, hcache⟩ := new.run_sync_sameFace ctx (.fixed files find) .empty
  have hchoice : ctx.config.choice find files rest.request = some ((n, c), face) := by
    rw [← hfirst, found, TextLayer.request, ← hq]
  have hrun := ctx.config.run_resolve_of_choice find files (FaceCache.remembered?_empty _) hchoice
  have hfound := rest.run_findFace_of_not_same ctx (.fixed files find) .empty (by simp [rest, new])
  rw [hrun] at hfound
  have hrefresh : (new.refreshFace ctx).run (.fixed files find) .empty = _ := hfound
  rw [hrefresh] at hsame hcache
  refine ⟨hsame.params, hsame.document, fun question hquestion => ?_, fun key f hkey => ?_⟩
  · rw [hsame.asked] at hquestion
    exact Option.some.inj hquestion ▸ rfl
  · rw [hcache] at hkey
    rcases FaceCache.get?_put_cases hkey with ⟨rfl, -⟩ | hold
    · exact rest.request.unscoped_keyFor c
    · rw [FaceCache.get?_empty] at hold
      cases hold

/-- If a sync between two styles changes nothing, then the file found for the first is as good a
hint for the second as none. -/
theorem geometryOf_former {p : LayerParams} {slant : Slant} {weight : Weight}
    {first : (Nat × Candidate) × F} (hne : (slant, weight) ≠ (p.slant, p.weight))
    (hweight : p.weight = weight ∨ 0 < p.weight.value)
    (hfirst : ctx.found files find document ⟨p.family, slant, weight, none⟩ "" = some first) :
    let q := { p with slant, weight, font := "" }
    ctx.rendered files find q (.setDocument document :: .sync :: restyle p.slant p.weight) =
        ctx.geometryOf p document
          ((ctx.found files find document p.identity first.1.2.file.path).map (·.2)) ∧
      ctx.rendered files find q (.setDocument document :: restyle p.slant p.weight) =
        ctx.geometryOf p document ((ctx.found files find document p.identity "").map (·.2)) := by
  intro q
  let new : TextLayer F := { params := q, document }
  have hnone : ∀ c ∈ ([] : List LayerCall), c.isWrite ∧ c.Permitted fun _ => True := by simp
  have hstart (calls : List LayerCall) :
      ctx.rendered files find q (.setDocument document :: calls) =
        (((new.afterAll ctx calls).bind fun l => l.sync ctx).run (.fixed files find) .empty).1.1 :=
    rendered_eq ⟨rfl, trivial⟩ hnone calls
  have htracked : new.Tracked ctx := TextLayer.tracked_start q document
  constructor
  · -- the first sync finds a file and names it
    obtain ⟨⟨n, c⟩, face⟩ := first
    have hother : q.identity ≠ p.identity := by
      intro h
      obtain ⟨-, hs, hw, -⟩ := FontIdentity.mk.inj h
      exact hne (Prod.ext hs hw)
    obtain ⟨hparams, hplace, hasked, hcache⟩ := first_sync (q := q) rfl hfirst
    obtain ⟨hcurrent, -⟩ := always_run htracked.sync (.fixed files find) .empty
    have hsynced : ((new.sync ctx).run (.fixed files find) .empty).1.2.Tracked ctx :=
      hcurrent.tracked
    rw [hstart, TextLayer.afterAll, TextLayer.after, bind_assoc, bind_assoc, run_bind]
    refine (sync_restyled hsynced hplace ?_ ?_ (.inr ?_) ?_ ?_).trans ?_
    · rw [hparams]
      rfl
    · rw [hparams]
      exact hweight
    · rw [hparams]
      exact hne
    · exact fun question h => hasked question h ▸ hother
    · exact fun key f h => hcache key f h ▸ hother
    · rw [hparams]
  · rw [hstart]
    exact sync_restyled htracked rfl rfl hweight (.inl rfl) (by simp [new])
      (by simp [FaceCache.get?_empty])

variable (ctx files find document families)

/-- **Edits coalesce exactly if hints agree**: for all writes to a new layer that name no file of a
face and take families only from some, with its document attached before the first sync, syncs
between the writes leave the answer of the last sync as it is without them, exactly if for these
families a former file as a hint leads to the same drawing as no hint. -/
theorem rendered_filter_isWrite_iff :
    (∀ (p : LayerParams) (opening calls : List LayerCall), p.font = "" → families p.family →
      (∀ c ∈ opening, c.isWrite ∧ c.Permitted families) → (∀ c ∈ calls, c.Permitted families) →
      ctx.rendered files find p (opening ++ .setDocument document :: calls) =
        ctx.rendered files find p
          (opening ++ .setDocument document :: calls.filter LayerCall.isWrite)) ↔
      ctx.HintsAgree files find document families := by
  constructor
  · intro h p slant weight first hfamily hne hweight hfirst
    obtain ⟨hformer, hfresh⟩ := geometryOf_former hne hweight hfirst
    rw [← hformer, ← hfresh]
    refine h { p with slant, weight, font := "" } [] (.sync :: restyle p.slant p.weight) rfl hfamily
      (by simp) fun c hc => ?_
    rcases List.mem_cons.1 hc with rfl | hc
    · trivial
    · exact permitted_restyle p.slant p.weight c hc
  · intro hagree p opening calls hfont hfamily hopening hcalls
    rw [hagree.rendered_eq ⟨hfont, hfamily⟩ hopening hcalls,
      hagree.rendered_eq ⟨hfont, hfamily⟩ hopening fun c hc => hcalls c (List.mem_filter.1 hc).1,
      LayerCall.foldl_written_filter]

/-- Italics of a missing file come from the italic stand-in, but from the upright one once that has
been found. -/
theorem rendered_filter_isWrite_ne :
    let files : FontFileRef → Option Bool := fun file =>
      if file.path = "arial.ttf" then some false
      else if file.path = "ariali.ttf" then some true else none
    let ctx : TextContext Bool := {
      view := fun italic => { (default : Face) with unitsPerEm := if italic then 2048 else 1000 }
      config := { useMatcher := false, useSystemDirs := false } }
    let calls : List LayerCall := [.setParam "family" (.string "missing.ttf"), .sync,
      .setParam "style" (.integer 2)]
    (∀ c ∈ calls, c.Permitted fun _ => True) ∧
      ctx.rendered files (fun _ _ _ => none) {} (.setDocument none :: calls) ≠
        ctx.rendered files (fun _ _ _ => none) {}
          (.setDocument none :: calls.filter LayerCall.isWrite) := by
  intro files ctx calls
  have hscale :
      (ctx.rendered files (fun _ _ _ => none) {} (.setDocument none :: calls)).transform.a ≠
        (ctx.rendered files (fun _ _ _ => none) {}
          (.setDocument none :: calls.filter LayerCall.isWrite)).transform.a := by
    decide +kernel
  refine ⟨?_, fun h => hscale (congrArg (·.transform.a) h)⟩
  simp [calls, LayerCall.Permitted]

end TextContext

end Lettering
