import Lettering.Proofs.Font.Hint
import Lettering.Proofs.Layer.FindFace

/-!
# The files that a layer has found

A sync writes the path of the file it loads into the parameters. When the host changes slant or
weight afterwards, that path goes along with the next request, and is tried before anything else if
the family, or the default family, names a file.

On files that do not change, and as long as the host does not name a file itself, such a hint is
always a former file: one that was found without a hint for the same family in another slant or
weight (`TextContext.FormerFile`). `TextContext.Following` says that all faces remembered or held
were found with no hint or a former one. Syncs and writes keep it (`Following.sync`,
`Following.put`); `TextContext.InStep` adds what else calls keep.
-/

namespace Lettering

open FontQuery

variable {F : Type}

/-! ## Writes that leave the file of the face alone -/

section Permitted

variable (families : String → Prop)

/-- A write of anything but the file of the face, of a family only from `families`. -/
def ParamWrite.Permitted : ParamWrite → Prop
  | .font _ => False
  | .family s => families s
  | .weight w => 0 < w.value
  | _ => True

/-- A sync, or a write that does not name the file of the face and takes a family only from
`families`. -/
def LayerCall.Permitted : LayerCall → Prop
  | .setParam name v => name ≠ "font" ∧ (name = "family" → ∀ s, v = .string s → families s)
  | .setDocument _ => False
  | .sync => True

end Permitted

variable {families : String → Prop}

namespace ParamWrite

/-- What is read from a permitted call is permitted. -/
theorem permitted_of_read? {name : String} {v : ParamValue} {w : ParamWrite}
    (h : read? name v = .ok w) (hc : (LayerCall.setParam name v).Permitted families) :
    w.Permitted families := by
  have hmap {α : Type} {f : α → ParamWrite} {q : Except ParamError α} (hq : f <$> q = .ok w) :
      ∃ a, q = .ok a ∧ f a = w := by
    cases q with
    | error => cases hq
    | ok a => exact ⟨a, rfl, Except.ok.inj hq⟩
  unfold read? at h
  cases hn : ParamName.ofString? name with
  | none =>
    rw [hn] at h
    cases h
  | some n =>
    rw [hn] at h
    have htable := ParamName.mem_table_of_ofString? hn
    cases n with
    | font =>
      have hname : name = "font" := by simpa [ParamName.table] using htable
      exact absurd hname hc.1
    | family =>
      have hname : name = "family" := by simpa [ParamName.table] using htable
      obtain ⟨s, hs, rfl⟩ := hmap h
      cases v with
      | string s' => exact Except.ok.inj hs ▸ hc.2 hname s' rfl
      | _ => cases hs
    | weight =>
      obtain ⟨x, hx, rfl⟩ := hmap h
      obtain ⟨n, -, hn⟩ := ParamValue.choice?_eq_ok_iff.1 hx
      unfold Weight.ofInt? at hn
      by_cases hpos : 0 < n
      · rw [if_pos hpos] at hn
        exact Option.some.inj hn ▸ hpos
      · rw [if_neg hpos] at hn
        cases hn
    | _ =>
      obtain ⟨a, -, rfl⟩ := hmap h
      trivial

/-- A permitted write forgets the file of the face, or keeps it with the family. -/
theorem put_font_cases (p : LayerParams) {w : ParamWrite} (hw : w.Permitted families) :
    (w.put p).font = "" ∨ (w.put p).font = p.font ∧ (w.put p).family = p.family ∧
      ((w.put p).weight = p.weight ∨ 0 < (w.put p).weight.value) := by
  cases w with
  | font => exact hw.elim
  | family => exact .inl rfl
  | weight => exact .inr ⟨rfl, rfl, .inr hw⟩
  | _ => exact .inr ⟨rfl, rfl, .inl rfl⟩

theorem families_apply {p : LayerParams} (hp : families p.family) {w : ParamWrite}
    (hw : w.Permitted families) : families (w.apply p).1.family := by
  rcases w.apply_cases p with ⟨-, happly⟩ | ⟨-, happly⟩
  · rw [happly]
    exact hp
  · rw [happly]
    cases w with
    | family => exact hw
    | _ => exact hp

theorem identity_put (p : LayerParams) {w : ParamWrite} (h : w.change ≠ .font) :
    (w.put p).identity = p.identity := by
  cases w with
  | family | style | weight | font => exact absurd rfl h
  | _ => rfl

end ParamWrite

/-- The parameters without the file of the face. -/
def LayerParams.unnamed (p : LayerParams) : LayerParams := { p with font := "" }

namespace ParamWrite

theorem unnamed_put (p : LayerParams) (w : ParamWrite) :
    (w.put p).unnamed = (w.put p.unnamed).unnamed := by
  cases w <;> rfl

/-- A permitted write does not look at the file of the face. -/
theorem unnamed_apply (p : LayerParams) {w : ParamWrite} (hw : w.Permitted families) :
    (w.apply p).1.unnamed = (w.apply p.unnamed).1.unnamed := by
  have hthere : w.isThere p = w.isThere p.unnamed := by
    cases w with
    | font => exact hw.elim
    | _ => rfl
  rcases w.apply_cases p with ⟨h, happly⟩ | ⟨h, happly⟩
  · rw [happly, apply, ← hthere, h]
    rfl
  · rw [happly, apply, ← hthere, h]
    exact w.unnamed_put p

end ParamWrite

/-- The parameters after a call, as far as writes move them. -/
def LayerCall.written (p : LayerParams) : LayerCall → LayerParams
  | .setParam name v =>
    match ParamWrite.read? name v with
    | .ok w => (w.apply p).1
    | .error _ => p
  | _ => p

/-! ## What is found -/

namespace TextContext

variable (ctx : TextContext F) (files : FontFileRef → Option F)
  (find : String → Slant → Weight → Option FontFileRef) (document : Option String)

/-- What is found for an identity in the document, with the file found earlier. -/
def found (i : FontIdentity) (font : String) : Option ((Nat × Candidate) × F) :=
  ctx.config.choice find files (i.requestIn document font)

/-- No hint, or the file that is found without a hint for another slant and weight of the same
family. A weight that is not the same was written. -/
def FormerFile (i : FontIdentity) (font : String) : Prop :=
  font = "" ∨ ∃ slant weight first, (slant, weight) ≠ (i.slant, i.weight) ∧
    (i.weight = weight ∨ 0 < i.weight.value) ∧
    ctx.found files find document ⟨i.family, slant, weight, none⟩ "" = some first ∧
    first.1.2.file.path = font

/-- What is found for an identity with no hint or with a former one. -/
def Served (i : FontIdentity) (face : Option F) : Prop :=
  ∃ font, ctx.FormerFile files find document i font ∧
    face = (ctx.found files find document i font).map (·.2)

/-- An empty path is no hint. -/
theorem found_withoutHint (i : FontIdentity) (font : String) :
    ctx.config.choice find files (i.requestIn document font).withoutHint =
      ctx.found files find document i "" := by
  unfold found
  exact ctx.config.choice_congr find files rfl rfl rfl

/-- With a hint, what is found is what is found without, or it comes from the hint. -/
theorem found_cases (i : FontIdentity) (font : String) :
    ctx.found files find document i font = ctx.found files find document i "" ∨
      ∃ m face, ctx.found files find document i font = some ((m, .hinted font), face) := by
  rcases ctx.config.choice_hint_cases find files (i.requestIn document font) with
    h | ⟨path, m, face, hpath, h⟩
  · exact .inl (h.trans (found_withoutHint ctx files find document i font))
  · have hbuilt : (some font).filter (!·.isEmpty) = some path := hpath
    obtain rfl := Option.some.inj (Option.filter_eq_some_iff.1 hbuilt).1
    exact .inr ⟨m, face, h⟩

/-! ## The invariant of a run -/

/-- Parameters name no file, or one that was found without a hint for their family in some slant and
weight that the cache knows. -/
def NamesFormerFile (p : LayerParams) (cache : FaceCache F) : Prop :=
  p.font = "" ∨ ∃ slant weight first, (p.weight = weight ∨ 0 < p.weight.value) ∧
    ctx.found files find document ⟨p.family, slant, weight, none⟩ "" = some first ∧
    first.1.2.file.path = p.font ∧
    remembered? cache
      ((⟨p.family, slant, weight, none⟩ : FontIdentity).requestIn document "").keys ≠ none

/-- What a cache remembers was found with no hint or a former one. -/
def ServedCache (cache : FaceCache F) : Prop :=
  ∀ key face, cache.get? key = some face →
    ctx.Served files find document key.unscoped (some face)

/-- The layer is in the document, names no file or a former one, and what is remembered or held was
found with no hint or a former one. -/
structure Following (l : TextLayer F) (cache : FaceCache F) : Prop where
  place : l.document = document
  font : ctx.NamesFormerFile files find document l.params cache
  cache : ctx.ServedCache files find document cache
  held : ∀ q, l.asked = some q → ctx.Served files find document q.identity l.face?

variable {ctx files find document}

theorem following_start (p : LayerParams) (hp : p.font = "") :
    ctx.Following files find document { params := p, document } .empty where
  place := rfl
  font := .inl hp
  cache _ _ h := by cases h
  held _ h := by cases h

theorem Following.of_sameFace {l k : TextLayer F} {cache : FaceCache F}
    (h : ctx.Following files find document k cache) (hsame : l.SameFace k) :
    ctx.Following files find document l cache where
  place := hsame.document.trans h.place
  font := hsame.params ▸ h.font
  cache := h.cache
  held q hq := by
    rw [TextLayer.face?, hsame.face]
    exact h.held q (hsame.asked ▸ hq)

/-- While its identity is unknown to the cache, the file that a layer names is a former one. -/
theorem NamesFormerFile.formerFile {l : TextLayer F} {cache : FaceCache F}
    (h : ctx.NamesFormerFile files find document l.params cache) (hplace : l.document = document)
    (hmiss : remembered? cache l.request.keys = none) :
    ctx.FormerFile files find document l.params.identity l.params.font := by
  rcases h with hfont | ⟨slant, weight, first, hweight, hfirst, hpath, hknown⟩
  · exact .inl hfont
  · refine .inr ⟨slant, weight, first, ?_, hweight, hfirst, hpath⟩
    intro hsame
    obtain ⟨rfl, rfl⟩ := Prod.mk.inj hsame
    rw [TextLayer.request, hplace] at hmiss
    exact hknown hmiss

theorem choice_request {l : TextLayer F} (hplace : l.document = document) :
    ctx.config.choice find files l.request =
      ctx.found files find document l.params.identity l.params.font := by
  rw [TextLayer.request, hplace, found]

/-- What a search finds is served. -/
theorem Following.served {l : TextLayer F} {cache : FaceCache F}
    (h : ctx.Following files find document l cache)
    (hmiss : remembered? cache l.request.keys = none) :
    ctx.Served files find document l.params.identity
      ((ctx.config.choice find files l.request).map (·.2)) :=
  ⟨_, h.font.formerFile h.place hmiss, choice_request h.place ▸ rfl⟩

/-- A former file stays one while the cache grows. -/
theorem NamesFormerFile.mono {p : LayerParams} {cache cache' : FaceCache F}
    (h : ctx.NamesFormerFile files find document p cache)
    (hgrow : cache.KnownTo cache') :
    ctx.NamesFormerFile files find document p cache' :=
  h.imp_right fun ⟨slant, weight, first, hweight, hfirst, hpath, hknown⟩ =>
    ⟨slant, weight, first, hweight, hfirst, hpath, hgrow _ hknown⟩

/-- The file of a search is the one that was named before, or it was found without a hint. -/
theorem NamesFormerFile.searched {l : TextLayer F} {cache : FaceCache F}
    (h : ctx.NamesFormerFile files find document l.params cache) (hplace : l.document = document)
    {n : Nat} {c : Candidate} {face : F}
    (hfound : ctx.config.choice find files l.request = some ((n, c), face)) :
    ctx.NamesFormerFile files find document { l.params with font := c.file.path }
      (cache.put (l.request.keyFor c) face) := by
  rw [choice_request hplace] at hfound
  rcases ctx.found_cases files find document l.params.identity l.params.font with
    hsame | ⟨m, f, hhint⟩
  · have hput : (cache.put (l.request.keyFor c) face).get? (l.request.keyFor c) ≠ none := by
      rw [FaceCache.get?_put_self]
      exact Option.some_ne_none face
    have hkeys : l.request.keys = (l.params.identity.requestIn document "").keys := by
      rw [TextLayer.request, hplace]
      rfl
    have hknown := FaceCache.remembered?_ne_none_iff.2 ⟨_, l.request.keyFor_mem_keys c, hput⟩
    rw [hkeys] at hknown
    refine .inr ⟨l.params.slant, l.params.weight, ((n, c), face), .inl rfl, ?_, rfl, ?_⟩
    · exact hsame.symm.trans hfound
    · exact hknown
  · obtain ⟨hc, -⟩ := Prod.mk.inj (Option.some.inj (hfound.symm.trans hhint))
    obtain ⟨-, rfl⟩ := Prod.mk.inj hc
    exact h.mono (cache.knownTo_put _ face)

theorem ServedCache.put {cache : FaceCache F} (h : ctx.ServedCache files find document cache)
    {key : FontIdentity} {face : F}
    (hface : ctx.Served files find document key.unscoped (some face)) :
    ctx.ServedCache files find document (cache.put key face) := by
  intro k f hk
  rcases FaceCache.get?_put_cases hk with ⟨rfl, rfl⟩ | hold
  · exact hface
  · exact h k f hold

/-- The answer to the request of a layer, whoever gives it. -/
theorem Following.answered {l : TextLayer F} {cache : FaceCache F}
    (h : ctx.Following files find document l cache) :
    ctx.Following files find document
      (l.answered ((ctx.config.resolve l.request).run (.fixed files find) cache).1.toOption)
      ((ctx.config.resolve l.request).run (.fixed files find) cache).2 := by
  rcases ctx.config.run_resolve_cases find files l.request cache with
    ⟨key, face, hknown, hrun⟩ | ⟨hmiss, hfound, hrun⟩ | ⟨n, c, face, hmiss, hfound, hrun⟩
  · obtain ⟨hface, hkey⟩ := FaceCache.get?_of_remembered? hknown
    have hserved := h.cache key face hface
    rw [hkey] at hserved
    rw [hrun]
    exact ⟨h.place, h.font, h.cache, fun q hq => Option.some.inj hq ▸ hserved⟩
  · have hserved := h.served hmiss
    rw [hfound] at hserved
    rw [hrun]
    exact ⟨h.place, h.font, h.cache, fun q hq => Option.some.inj hq ▸ hserved⟩
  · have hserved := h.served hmiss
    rw [hfound] at hserved
    rw [hrun]
    refine ⟨h.place, h.font.searched h.place hfound, h.cache.put ?_,
      fun q hq => Option.some.inj hq ▸ hserved⟩
    rw [FaceRequest.unscoped_keyFor]
    exact hserved

theorem Following.findFace {l : TextLayer F} {cache : FaceCache F}
    (h : ctx.Following files find document l cache) :
    ctx.Following files find document ((l.findFace ctx).run (.fixed files find) cache).1
        ((l.findFace ctx).run (.fixed files find) cache).2 ∧
      ((l.findFace ctx).run (.fixed files find) cache).1.Asked := by
  by_cases hsame : l.asked.any l.question.same
  · rw [l.run_findFace_of_same ctx _ cache hsame]
    exact ⟨h, TextLayer.asked_of_same hsame⟩
  · rw [l.run_findFace_of_not_same ctx _ cache hsame]
    exact ⟨h.answered, _, rfl, rfl⟩

theorem Following.refreshFace {l : TextLayer F} {cache : FaceCache F}
    (h : ctx.Following files find document l cache)
    (hasked : l.pending.needsFace = false → l.Asked) :
    ctx.Following files find document ((l.refreshFace ctx).run (.fixed files find) cache).1
        ((l.refreshFace ctx).run (.fixed files find) cache).2 ∧
      ((l.refreshFace ctx).run (.fixed files find) cache).1.Asked := by
  have hrest : ctx.Following files find document { l with pending := .empty } cache :=
    ⟨h.place, h.font, h.cache, h.held⟩
  unfold TextLayer.refreshFace
  cases hface : l.pending.needsFace with
  | true => exact hrest.findFace
  | false => exact ⟨hrest, hasked hface⟩

/-- A sync keeps what is remembered and held in order, and then the layer holds what its identity
was served. -/
theorem Following.sync {l : TextLayer F} {cache : FaceCache F}
    (h : ctx.Following files find document l cache)
    (hasked : l.pending.needsFace = false → l.Asked) :
    ctx.Following files find document ((l.sync ctx).run (.fixed files find) cache).1.2
        ((l.sync ctx).run (.fixed files find) cache).2 ∧
      ((l.sync ctx).run (.fixed files find) cache).1.2.Asked := by
  obtain ⟨hsame, hcache⟩ := l.run_sync_sameFace ctx (.fixed files find) cache
  obtain ⟨hfollowing, q, hq, hidentity⟩ := h.refreshFace hasked
  rw [hcache]
  refine ⟨hfollowing.of_sameFace hsame, q, hsame.asked.trans hq, ?_⟩
  rw [hsame.params]
  exact hidentity

theorem NamesFormerFile.apply {p : LayerParams} {cache : FaceCache F}
    (h : ctx.NamesFormerFile files find document p cache) {w : ParamWrite}
    (hw : w.Permitted families) :
    ctx.NamesFormerFile files find document (w.apply p).1 cache := by
  rcases w.apply_cases p with ⟨-, happly⟩ | ⟨-, happly⟩
  · rw [happly]
    exact h
  · rw [happly]
    rcases w.put_font_cases p hw with hfont | ⟨hfont, hfamily, hweight⟩
    · exact .inl hfont
    · rcases h with hnone | ⟨slant, weight, first, hold, hfirst, hpath, hknown⟩
      · exact .inl (hfont.trans hnone)
      · refine .inr ⟨slant, weight, first, ?_, ?_, ?_, ?_⟩
        · rcases hweight with hweight | hweight
          · rw [hweight]
            exact hold
          · exact .inr hweight
        · rw [hfamily]
          exact hfirst
        · rw [hfont]
          exact hpath
        · rw [hfamily]
          exact hknown

theorem Following.put {l : TextLayer F} {cache : FaceCache F}
    (h : ctx.Following files find document l cache) {w : ParamWrite} (hw : w.Permitted families) :
    ctx.Following files find document (l.put w) cache :=
  ⟨h.place, h.font.apply hw, h.cache, h.held⟩

/-- A write that leaves the face alone leaves the identity alone. -/
theorem asked_put {l : TextLayer F} (hasked : l.pending.needsFace = false → l.Asked)
    (w : ParamWrite) (hface : (l.put w).pending.needsFace = false) : (l.put w).Asked := by
  unfold TextLayer.put at hface ⊢
  rcases w.apply_cases l.params with ⟨-, happly⟩ | ⟨-, happly⟩
  · rw [happly] at hface ⊢
    exact hasked (by simpa [TextLayer.mark, Changes.needsFace] using hface)
  · rw [happly] at hface ⊢
    simp only [TextLayer.mark, Changes.needsFace, Changes.contains_union, Changes.contains_only,
      Bool.or_eq_false_iff, beq_eq_false_iff_ne] at hface
    obtain ⟨q, hq, hidentity⟩ := hasked hface.1
    exact ⟨q, hq, hidentity.trans (w.identity_put l.params (Ne.symm hface.2)).symm⟩

/-! ## Runs -/

variable (ctx files find document)

/-- Everything that calls keep of a layer whose writes alone lead to `p`. -/
structure InStep (families : String → Prop) (p : LayerParams) (l : TextLayer F)
    (cache : FaceCache F) : Prop where
  tracked : l.Tracked ctx
  following : ctx.Following files find document l cache
  asked : l.pending.needsFace = false → l.Asked
  family : families l.params.family
  params : l.params.unnamed = p.unnamed

variable {ctx files find document}

theorem inStep_start {p : LayerParams} (hfont : p.font = "") (hfamily : families p.family) :
    ctx.InStep files find document families p { params := p, document } .empty where
  tracked := TextLayer.tracked_start p document
  following := following_start p hfont
  asked h := by cases h
  family := hfamily
  params := rfl

theorem InStep.put {p : LayerParams} {l : TextLayer F} {cache : FaceCache F}
    (h : ctx.InStep files find document families p l cache) {w : ParamWrite}
    (hw : w.Permitted families) :
    ctx.InStep files find document families (w.apply p).1 (l.put w) cache where
  tracked := h.tracked.put w
  following := h.following.put hw
  asked := asked_put h.asked w
  family := w.families_apply h.family hw
  params := by
    change (w.apply l.params).1.unnamed = _
    rw [w.unnamed_apply l.params hw, h.params, ← w.unnamed_apply p hw]

theorem InStep.sync {p : LayerParams} {l : TextLayer F} {cache : FaceCache F}
    (h : ctx.InStep files find document families p l cache) :
    ctx.InStep files find document families p ((l.sync ctx).run (.fixed files find) cache).1.2
      ((l.sync ctx).run (.fixed files find) cache).2 := by
  obtain ⟨hcurrent, -, -, hparams⟩ := always_run h.tracked.sync (.fixed files find) cache
  obtain ⟨hfollowing, hasked⟩ := h.following.sync h.asked
  refine ⟨hcurrent.tracked, hfollowing, fun _ => hasked, ?_, ?_⟩
  · rw [hparams]
    exact h.family
  · rw [hparams]
    exact h.params

theorem InStep.after {p : LayerParams} {l : TextLayer F} {cache : FaceCache F}
    (h : ctx.InStep files find document families p l cache) {c : LayerCall}
    (hc : c.Permitted families) :
    ctx.InStep files find document families (c.written p)
      ((l.after ctx c).run (.fixed files find) cache).1
      ((l.after ctx c).run (.fixed files find) cache).2 := by
  cases c with
  | setParam name v =>
    rw [TextLayer.after_setParam]
    simp only [LayerCall.written, TextLayer.offered]
    cases hw : ParamWrite.read? name v with
    | error => exact h
    | ok w => exact h.put (w.permitted_of_read? hw hc)
  | setDocument => exact hc.elim
  | sync =>
    rw [TextLayer.after, run_bind]
    exact h.sync

end TextContext

end Lettering
