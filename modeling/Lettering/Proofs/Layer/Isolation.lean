import Lettering.Proofs.Font.Place
import Lettering.Proofs.Layer.Coalesce

/-!
# Documents and each other's fonts

Layers of several documents share what they remember. A file next to a document is
`TextContext.OutOfReach` of a layer if its directory is searched for that document but not for the
layer's own. Faces found next to a document are remembered for it alone, and yet there is a way for
them to get out: the file that a layer has found goes along with its next request, and when it
answers that as a hint, its face is remembered for all documents.

`TextContext.HintsStay` says that no file out of reach of some layer answers as a hint. On files
that do not change, without a matcher that answers and for families without a directory part, layers
never hold a face out of their reach, whatever is asked of them in whatever order, exactly if this
is so (`TextContext.isolation_iff`). It is so for families that are no files
(`TextContext.hintsStay_of_not_namesFile`).
-/

namespace Lettering

open FontQuery

variable {F ι : Type}

namespace TextContext

/-! ## Out of reach -/

section Reach

variable (ctx : TextContext F) (documents : ι → Option String)

/-- The path is that of a file next to the document of some layer, in a directory that is not
searched for the layer `i`. -/
def OutOfReach (i : ι) (path : String) : Prop :=
  ∃ j dir, (documents j).bind Path.parent? = some dir ∧ Path.Within dir path ∧
    ∀ d ∈ ctx.config.dirs ((documents i).bind Path.parent?), ¬Path.same dir d.path

/-- A candidate of the layer `j` lies next to its document if it has its origin there, and within
reach of all layers otherwise. -/
structure Placed (j : ι) (c : Candidate) : Prop where
  own : c.origin = .document → ∃ dir,
    ((documents j).bind Path.parent?).filter (!·.isEmpty) = some dir ∧ Path.Within dir c.file.path
  shared : c.origin ≠ .document → ∀ i, ¬ctx.OutOfReach documents i c.file.path

variable {ctx documents}

/-- What lies in a directory that is searched for a layer is within its reach. -/
theorem not_outOfReach {i : ι} {path : String} {d : SearchDir}
    (hd : d ∈ ctx.config.dirs ((documents i).bind Path.parent?)) (hpath : Path.Within d.path path) :
    ¬ctx.OutOfReach documents i path := by
  rintro ⟨j, dir, -, hwithin, hother⟩
  exact hother d hd (hwithin.same hpath)

theorem placed_of_liesIn {j : ι} {c : Candidate}
    (h : c.LiesIn (ctx.config.dirs ((documents j).bind Path.parent?))) :
    ctx.Placed documents j c := by
  obtain ⟨⟨dir, origin⟩, hdir, horigin, hwithin⟩ := h
  refine ⟨fun hdoc => ?_, fun hdoc i => ?_⟩
  · obtain rfl : origin = .document := horigin.symm.trans hdoc
    exact ⟨dir, SearchConfig.mem_dirs_document_iff.1 hdir, hwithin⟩
  · exact not_outOfReach (SearchConfig.mem_dirs_of_ne_document hdir (horigin ▸ hdoc) _) hwithin

theorem Placed.not_outOfReach {j : ι} {c : Candidate} (h : ctx.Placed documents j c) :
    ¬ctx.OutOfReach documents j c.file.path := by
  by_cases horigin : c.origin = .document
  · obtain ⟨dir, hdir, hwithin⟩ := h.own horigin
    exact TextContext.not_outOfReach (SearchConfig.mem_dirs_document_iff.2 hdir) hwithin
  · exact h.shared horigin j

end Reach

variable (ctx : TextContext (FontFileRef × F)) (files : FontFileRef → Option F)
  (find : String → Slant → Weight → Option FontFileRef) (documents : ι → Option String)
  (families : String → Prop)

/-- No file out of reach of some layer, found without a hint, answers as a hint for another slant
and weight. A weight that is not the same was written. -/
def HintsStay : Prop :=
  ∀ (j : ι) (i : FontIdentity) (slant : Slant) (weight : Weight)
    (first : (Nat × Candidate) × FontFileRef × F), families i.family →
    (slant, weight) ≠ (i.slant, i.weight) → (i.weight = weight ∨ 0 < i.weight.value) →
    ctx.found (tagged files) find (documents j) ⟨i.family, slant, weight, none⟩ "" = some first →
    (∃ k, ctx.OutOfReach documents k first.1.2.file.path) →
    ∀ m face, ctx.found (tagged files) find (documents j) i first.1.2.file.path ≠
      some ((m, .hinted first.1.2.file.path), face)

/-- What is asked of the matcher, and which families: the matcher never answers, and no family has a
directory part. -/
structure Plain : Prop where
  unmatched : ∀ a, ctx.config.asked find a = none
  family : ∀ family, families family → FamilyIsBare family
  default : FamilyIsBare ctx.config.defaultFamily

variable {ctx files find documents families}

/-- A matcher that knows no font. -/
theorem plain_of_find (hfind : ∀ name slant weight, find name slant weight = none)
    (hfamilies : ∀ family, families family → FamilyIsBare family)
    (hdefault : FamilyIsBare ctx.config.defaultFamily) : ctx.Plain find families := by
  refine ⟨fun a => ?_, hfamilies, hdefault⟩
  unfold SearchConfig.asked
  split
  · exact hfind ..
  · rfl

theorem Plain.placed (h : ctx.Plain find families) {j : ι} {i : FontIdentity}
    (hfamily : families i.family) {n : Nat} {c : Candidate} {face : FontFileRef × F}
    (hfound : ctx.found (tagged files) find (documents j) i "" = some ((n, c), face)) :
    ctx.Placed documents j c :=
  placed_of_liesIn
    (ctx.config.liesIn_of_choice find (tagged files) h.unmatched (h.family _ hfamily) h.default rfl
      hfound)

/-- Families that are no files do not look at hints. -/
theorem hintsStay_of_not_namesFile (h : ctx.Plain find families)
    (hfamilies : ∀ family, families family → namesFile (trimBlanks family) = false)
    (hdefault : namesFile (trimBlanks ctx.config.defaultFamily) = false) :
    ctx.HintsStay files find documents families := by
  rintro j i slant weight ⟨⟨n, c⟩, face⟩ hfamily - - hfirst ⟨k, hk⟩ m f hhint
  have hunhinted := ctx.config.choice_of_not_namesFile find (tagged files)
    (r := i.requestIn (documents j) c.file.path) (hfamilies _ hfamily) hdefault
  rw [found_withoutHint] at hunhinted
  have hplaced := h.placed hfamily (hunhinted.symm.trans hhint)
  exact hplaced.shared (fun horigin => (nomatch horigin)) k hk

/-- What a layer searches for is placed, if hints stay. -/
theorem HintsStay.placed (h : ctx.HintsStay files find documents families)
    (hplain : ctx.Plain find families) {j : ι} {l : TextLayer (FontFileRef × F)}
    {cache : FaceCache (FontFileRef × F)} (hplace : l.document = documents j)
    (hfamily : families l.params.family)
    (hfont : ctx.NamesFormerFile (tagged files) find (documents j) l.params cache)
    (hmiss : remembered? cache l.request.keys = none) {n : Nat} {c : Candidate}
    {face : FontFileRef × F}
    (hfound : ctx.config.choice find (tagged files) l.request = some ((n, c), face)) :
    ctx.Placed documents j c := by
  rw [choice_request hplace] at hfound
  rcases hfont.formerFile hplace hmiss with
    hnone | ⟨slant, weight, first, hne, hweight, hfirst, hpath⟩
  · rw [hnone] at hfound
    exact hplain.placed hfamily hfound
  · rcases ctx.found_cases (tagged files) find (documents j) l.params.identity l.params.font with
      hsame | ⟨m, f, hhint⟩
    · exact hplain.placed hfamily (hsame ▸ hfound)
    · -- the former file answers, which only a file within everybody's reach does
      obtain ⟨hc, -⟩ := Prod.mk.inj (Option.some.inj (hfound.symm.trans hhint))
      obtain ⟨-, rfl⟩ := Prod.mk.inj hc
      refine ⟨fun hdoc => (nomatch hdoc), fun _ k hk => ?_⟩
      exact h j l.params.identity slant weight first hfamily hne hweight hfirst ⟨k, hpath ▸ hk⟩ m f
        (hpath ▸ hhint)

/-! ## What calls keep -/

variable (ctx documents) in
/-- The faces remembered for all documents are within reach of all, and those for one document lie
next to it. -/
structure CacheApart (cache : FaceCache (FontFileRef × F)) : Prop where
  shared : ∀ key face, cache.get? key = some face → key.scope = none →
    ∀ i, ¬ctx.OutOfReach documents i face.1.path
  own : ∀ key face dir, cache.get? key = some face → key.scope = some dir →
    Path.Within dir face.1.path

variable (ctx files find documents families) in
/-- The layer is in its document, holds no face out of its reach, and names no file or a former
one. -/
structure LayerApart (i : ι) (l : TextLayer (FontFileRef × F))
    (cache : FaceCache (FontFileRef × F)) : Prop where
  place : l.document = documents i
  family : families l.params.family
  font : ctx.NamesFormerFile (tagged files) find (documents i) l.params cache
  held : ∀ a, l.face = some a → ¬ctx.OutOfReach documents i a.face.1.path

theorem CacheApart.put {cache : FaceCache (FontFileRef × F)} (h : ctx.CacheApart documents cache)
    {j : ι} {r : FaceRequest} (hr : r.documentDir = (documents j).bind Path.parent?) {c : Candidate}
    {face : FontFileRef × F} (hface : face.1 = c.file) (hplaced : ctx.Placed documents j c) :
    ctx.CacheApart documents (cache.put (r.keyFor c) face) := by
  have hscope : r.scope = ((documents j).bind Path.parent?).filter (!·.isEmpty) := by
    rw [FaceRequest.scope, hr]
  constructor
  · intro key f hkey hnone
    rcases FaceCache.get?_put_cases hkey with ⟨rfl, rfl⟩ | hold
    · rw [hface]
      refine hplaced.shared fun horigin => ?_
      obtain ⟨dir, hdir, -⟩ := hplaced.own horigin
      rw [FaceRequest.keyFor, if_pos horigin] at hnone
      rw [← hscope] at hdir
      exact absurd (hdir.symm.trans hnone) (by simp)
    · exact h.shared key f hold hnone
  · intro key f dir hkey hdir
    rcases FaceCache.get?_put_cases hkey with ⟨rfl, rfl⟩ | hold
    · rw [hface]
      by_cases horigin : c.origin = .document
      · obtain ⟨dir', hdir', hwithin⟩ := hplaced.own horigin
        rw [FaceRequest.keyFor, if_pos horigin] at hdir
        rw [← hscope] at hdir'
        obtain rfl := Option.some.inj (hdir'.symm.trans hdir)
        exact hwithin
      · rw [FaceRequest.keyFor, if_neg horigin] at hdir
        cases hdir
    · exact h.own key f dir hold hdir

/-- What the cache has for a layer is within its reach. -/
theorem CacheApart.not_outOfReach {cache : FaceCache (FontFileRef × F)}
    (h : ctx.CacheApart documents cache) {j : ι} {r : FaceRequest}
    (hr : r.documentDir = (documents j).bind Path.parent?) {key : FontIdentity}
    {face : FontFileRef × F} (hknown : remembered? cache r.keys = some (key, face)) :
    ¬ctx.OutOfReach documents j face.1.path := by
  obtain ⟨hkey, hface⟩ := FaceCache.mem_of_remembered? hknown
  rcases FaceRequest.mem_keys.1 hkey with ⟨dir, hdir, rfl⟩ | rfl
  · rw [FaceRequest.scope, hr] at hdir
    exact TextContext.not_outOfReach (SearchConfig.mem_dirs_document_iff.2 hdir)
      (h.own _ face dir hface rfl)
  · exact h.shared _ face hface rfl j

theorem LayerApart.mono {j : ι} {l : TextLayer (FontFileRef × F)}
    {cache cache' : FaceCache (FontFileRef × F)}
    (h : ctx.LayerApart files find documents families j l cache)
    (hgrow : cache.KnownTo cache') :
    ctx.LayerApart files find documents families j l cache' :=
  ⟨h.place, h.family, h.font.mono hgrow, h.held⟩

theorem LayerApart.offered {j : ι} {l : TextLayer (FontFileRef × F)}
    {cache : FaceCache (FontFileRef × F)}
    (h : ctx.LayerApart files find documents families j l cache) {name : String} {v : ParamValue}
    (hc : (LayerCall.setParam name v).Permitted families) :
    ctx.LayerApart files find documents families j (l.offered name v) cache := by
  cases hw : ParamWrite.read? name v with
  | error e =>
    rw [TextLayer.offered_of_error hw]
    exact h
  | ok w =>
    have hpermitted := w.permitted_of_read? hw hc
    rw [TextLayer.offered_of_ok hw]
    exact ⟨h.place, w.families_apply h.family hpermitted, h.font.apply hpermitted, h.held⟩

theorem LayerApart.of_sameFace {j : ι} {l k : TextLayer (FontFileRef × F)}
    {cache : FaceCache (FontFileRef × F)}
    (h : ctx.LayerApart files find documents families j k cache) (hsame : l.SameFace k) :
    ctx.LayerApart files find documents families j l cache :=
  ⟨hsame.document ▸ h.place, hsame.params ▸ h.family, hsame.params ▸ h.font,
    fun a ha => h.held a (hsame.face ▸ ha)⟩

/-- A search of a layer that is apart leaves it so. -/
theorem LayerApart.answered (hstay : ctx.HintsStay files find documents families)
    (hplain : ctx.Plain find families) {j : ι} {l : TextLayer (FontFileRef × F)}
    {cache : FaceCache (FontFileRef × F)}
    (h : ctx.LayerApart files find documents families j l cache)
    (hcache : ctx.CacheApart documents cache) :
    let out := (ctx.config.resolve l.request).run (.fixed (tagged files) find) cache
    ctx.LayerApart files find documents families j (l.answered out.1.toOption) out.2 ∧
      ctx.CacheApart documents out.2 ∧ cache.KnownTo out.2 := by
  have hdir : l.request.documentDir = (documents j).bind Path.parent? := by
    rw [← h.place]
    rfl
  intro out
  rcases ctx.config.run_resolve_cases find (tagged files) l.request cache with
    ⟨key, face, hknown, hrun⟩ | ⟨hmiss, hfound, hrun⟩ | ⟨n, c, face, hmiss, hfound, hrun⟩
  · rw [show out = _ from hrun]
    refine ⟨⟨h.place, h.family, h.font, fun a ha => ?_⟩, hcache, .refl cache⟩
    obtain rfl := Option.some.inj ha
    exact hcache.not_outOfReach hdir hknown
  · rw [show out = _ from hrun]
    exact ⟨⟨h.place, h.family, h.font, fun a ha => (nomatch ha)⟩, hcache, .refl cache⟩
  · have hplaced := hstay.placed hplain h.place h.family h.font hmiss hfound
    have hface := SearchConfig.fst_of_choice hfound
    rw [show out = _ from hrun]
    refine ⟨⟨h.place, h.family, h.font.searched h.place hfound, fun a ha => ?_⟩,
      hcache.put hdir hface hplaced,
      cache.knownTo_put _ face⟩
    obtain rfl := Option.some.inj ha
    rw [show (⟨face, l.request.keyFor c, .file n c⟩ : ResolvedFace _).face.1 = c.file from hface]
    exact hplaced.not_outOfReach

/-- Every permitted call on a layer that is apart leaves it and the cache so. -/
theorem LayerApart.after (hstay : ctx.HintsStay files find documents families)
    (hplain : ctx.Plain find families) {j : ι} {l : TextLayer (FontFileRef × F)}
    {cache : FaceCache (FontFileRef × F)}
    (h : ctx.LayerApart files find documents families j l cache)
    (hcache : ctx.CacheApart documents cache) {c : LayerCall} (hc : c.Permitted families) :
    let out := (l.after ctx c).run (.fixed (tagged files) find) cache
    ctx.LayerApart files find documents families j out.1 out.2 ∧
      ctx.CacheApart documents out.2 ∧ cache.KnownTo out.2 := by
  cases c with
  | setDocument document => exact hc.elim
  | setParam name v =>
    rw [TextLayer.after_setParam]
    exact ⟨h.offered hc, hcache, .refl cache⟩
  | sync =>
    have hrest :
        ctx.LayerApart files find documents families j { l with pending := .empty } cache :=
      ⟨h.place, h.family, h.font, h.held⟩
    rw [TextLayer.run_after_sync]
    dsimp only
    rcases l.run_sync_cases ctx (.fixed (tagged files) find) cache with
      ⟨hsame, hkept, -⟩ | ⟨-, -, hsame, hkept⟩
    · rw [hkept]
      exact ⟨hrest.of_sameFace hsame, hcache, .refl cache⟩
    · obtain ⟨hanswered, hcached, hgrow⟩ := hrest.answered hstay hplain hcache
      rw [hkept]
      exact ⟨hanswered.of_sameFace hsame, hcached, hgrow⟩

/-! ## Runs -/

/-- A host that attaches the document once may write before, and asks for nothing but what is
permitted afterwards. Without a document it need not attach any. -/
def AttachedOnce (families : String → Prop) (document : Option String) : List LayerCall → Prop
  | [] => True
  | .setParam name v :: rest =>
    (LayerCall.setParam name v).Permitted families ∧ AttachedOnce families document rest
  | .setDocument path :: rest => path = document ∧ ∀ c ∈ rest, c.Permitted families
  | .sync :: rest => document = none ∧ ∀ c ∈ rest, c.Permitted families

variable (ctx files find documents families) in
/-- What is asked of a layer from now on leaves it apart: it is so already, or it is new and is put
in its document first. -/
inductive LayerReady (i : ι) (l : TextLayer (FontFileRef × F)) (cache : FaceCache (FontFileRef × F))
    (calls : List LayerCall) : Prop
  | new (p : LayerParams) (layer : l = { params := p }) (params : p.font = "" ∧ families p.family)
    (calls : AttachedOnce families (documents i) calls)
  | apart (layer : ctx.LayerApart files find documents families i l cache)
    (calls : ∀ c ∈ calls, c.Permitted families)

theorem layerApart_new {p : LayerParams} (hp : p.font = "" ∧ families p.family) (i : ι)
    (cache : FaceCache (FontFileRef × F)) :
    ctx.LayerApart files find documents families i { params := p, document := documents i }
      cache where
  place := rfl
  family := hp.2
  font := .inl hp.1
  held _ h := nomatch h

theorem LayerReady.mono {i : ι} {l : TextLayer (FontFileRef × F)}
    {cache cache' : FaceCache (FontFileRef × F)} {calls : List LayerCall}
    (h : ctx.LayerReady files find documents families i l cache calls)
    (hgrow : cache.KnownTo cache') :
    ctx.LayerReady files find documents families i l cache' calls := by
  cases h with
  | new p layer params calls => exact .new p layer params calls
  | apart layer calls => exact .apart (layer.mono hgrow) calls

theorem LayerReady.held {i : ι} {l : TextLayer (FontFileRef × F)}
    {cache : FaceCache (FontFileRef × F)} {calls : List LayerCall}
    (h : ctx.LayerReady files find documents families i l cache calls)
    {a : ResolvedFace (FontFileRef × F)} (ha : l.face = some a) :
    ¬ctx.OutOfReach documents i a.face.1.path := by
  cases h with
  | new p layer => rw [layer] at ha; cases ha
  | apart layer => exact layer.held a ha

/-- A layer that is ready for some calls is ready for the others after the first of them. -/
theorem LayerReady.after (hstay : ctx.HintsStay files find documents families)
    (hplain : ctx.Plain find families) {i : ι} {l : TextLayer (FontFileRef × F)}
    {cache : FaceCache (FontFileRef × F)} {c : LayerCall} {rest : List LayerCall}
    (h : ctx.LayerReady files find documents families i l cache (c :: rest))
    (hcache : ctx.CacheApart documents cache) :
    let out := (l.after ctx c).run (.fixed (tagged files) find) cache
    ctx.LayerReady files find documents families i out.1 out.2 rest ∧
      ctx.CacheApart documents out.2 ∧ cache.KnownTo out.2 := by
  cases h with
  | apart layer calls =>
    obtain ⟨hlayer, hrest⟩ := layer.after hstay hplain hcache (calls c List.mem_cons_self)
    exact ⟨.apart hlayer fun d hd => calls d (List.mem_cons_of_mem c hd), hrest⟩
  | new p layer params calls =>
    subst layer
    cases c with
    | setParam name v =>
      obtain ⟨hc, hrest⟩ := calls
      rw [TextLayer.after_setParam, TextLayer.offered_new]
      exact ⟨.new _ rfl (LayerCall.written_font params hc) hrest, hcache, .refl cache⟩
    | setDocument path =>
      obtain ⟨rfl, hrest⟩ := calls
      rw [TextLayer.after, TextLayer.setDocument_new params.1]
      exact ⟨.apart (layerApart_new params i cache) hrest, hcache, .refl cache⟩
    | sync =>
      obtain ⟨hdocument, hrest⟩ := calls
      have hnew : ctx.LayerApart files find documents families i
          { params := p, document := documents i } cache := layerApart_new params i cache
      rw [hdocument] at hnew
      obtain ⟨hlayer, hkept⟩ := hnew.after hstay hplain hcache (c := .sync) trivial
      exact ⟨.apart hlayer hrest, hkept⟩

section Scene

variable [DecidableEq ι]

/-- What is asked of a layer. -/
def callsOn (i : ι) (calls : List (ι × LayerCall)) : List LayerCall :=
  (calls.filter (·.1 = i)).map (·.2)

theorem callsOn_cons_self (i : ι) (c : LayerCall) (calls : List (ι × LayerCall)) :
    callsOn i ((i, c) :: calls) = c :: callsOn i calls := by
  simp [callsOn]

theorem callsOn_cons_of_ne {i j : ι} (h : j ≠ i) (c : LayerCall) (calls : List (ι × LayerCall)) :
    callsOn i ((j, c) :: calls) = callsOn i calls := by
  simp [callsOn, h]

variable (ctx files find documents families) in
/-- All layers are ready for what is asked of them. -/
structure SceneReady (s : Scene (FontFileRef × F) ι) (calls : List (ι × LayerCall)) : Prop where
  cache : ctx.CacheApart documents s.cache
  layers : ∀ i,
    ctx.LayerReady files find documents families i (s.layers i) s.cache (callsOn i calls)

theorem SceneReady.call (hstay : ctx.HintsStay files find documents families)
    (hplain : ctx.Plain find families) {s : Scene (FontFileRef × F) ι} {c : ι × LayerCall}
    {rest : List (ι × LayerCall)}
    (h : ctx.SceneReady files find documents families s (c :: rest)) :
    ctx.SceneReady files find documents families (s.call ctx (.fixed (tagged files) find) c)
      rest := by
  obtain ⟨j, c⟩ := c
  have hj := h.layers j
  rw [callsOn_cons_self] at hj
  obtain ⟨hlayer, hcache, hgrow⟩ := hj.after hstay hplain h.cache
  refine ⟨hcache, fun i => ?_⟩
  change ctx.LayerReady files find documents families i (Function.update s.layers j _ i) _ _
  by_cases hi : i = j
  · subst hi
    rw [Function.update_self]
    exact hlayer
  · have hother := h.layers i
    rw [callsOn_cons_of_ne (Ne.symm hi)] at hother
    rw [Function.update_of_ne hi]
    exact hother.mono hgrow

theorem SceneReady.run (hstay : ctx.HintsStay files find documents families)
    (hplain : ctx.Plain find families) {s : Scene (FontFileRef × F) ι}
    {calls : List (ι × LayerCall)} (h : ctx.SceneReady files find documents families s calls) :
    ctx.SceneReady files find documents families
      (s.run ctx (.fixed (tagged files) find) calls) [] := by
  induction calls generalizing s with
  | nil => exact h
  | cons c rest ih =>
    rw [Scene.run_cons]
    exact ih (h.call hstay hplain)

theorem sceneReady_start {params : ι → LayerParams}
    (hparams : ∀ i, (params i).font = "" ∧ families (params i).family)
    {calls : List (ι × LayerCall)}
    (hcalls : ∀ i, AttachedOnce families (documents i) (callsOn i calls)) :
    ctx.SceneReady files find documents families (.start params .empty) calls where
  cache := ⟨fun _ _ h => (nomatch h), fun _ _ _ h => (nomatch h)⟩
  layers i := .new (params i) rfl (hparams i) (hcalls i)

end Scene

end TextContext

/-! ## The way out -/

namespace TextContext

section WayOut

variable {ctx : TextContext F} {files : FontFileRef → Option F}
  {find : String → Slant → Weight → Option FontFileRef} {document : Option String}

/-- A file that answers as a hint, after a new layer has found it and got another slant and weight,
is remembered for all documents. -/
theorem get?_of_hinted {q p : LayerParams} (hq : q.font = "") (hfamily : p.family = q.family)
    (hne : (q.slant, q.weight) ≠ (p.slant, p.weight))
    (hweight : p.weight = q.weight ∨ 0 < p.weight.value) {n m : Nat} {c : Candidate} {f face : F}
    (hfirst : ctx.found files find document q.identity "" = some ((n, c), f))
    (hhint : ctx.found files find document p.identity c.file.path =
      some ((m, .hinted c.file.path), face)) :
    let out : TextLayer F × FaceCache F := (({ params := q, document } : TextLayer F).afterAll ctx
      (.sync :: (restyle p.slant p.weight ++ [.sync]))).run (.fixed files find) .empty
    out.2.get? p.identity = some face ∧
      ∀ dir, out.2.get? (p.identity.within (some dir)) = none := by
  intro out
  obtain ⟨hparams, hplace, hasked, hcache⟩ := first_sync hq hfirst
  -- after the first sync the layer names the file, and the cache knows one identity
  generalize hsynced : (({ params := q, document } : TextLayer F).sync ctx).run
    (.fixed files find) .empty = synced at hparams hplace hasked hcache
  obtain ⟨⟨geometry, l⟩, cache⟩ := synced
  dsimp only at hparams hplace hasked hcache
  have hother : p.identity ≠ q.identity := by
    intro h
    obtain ⟨-, hs, hw, -⟩ := FontIdentity.mk.inj h
    exact hne (by rw [← hs, ← hw])
  have hwritten : p.weight = l.params.weight ∨ 0 < p.weight.value := by rwa [hparams]
  obtain ⟨next, hcalls, hnext, hdocument, hkept, -, hface⟩ :=
    ctx.afterAll_restyle l p.slant hwritten
  have hout : out = (next.after ctx .sync).run (.fixed files find) cache := by
    change ((({ params := q, document } : TextLayer F).after ctx .sync).bind fun l =>
      l.afterAll ctx (restyle p.slant p.weight ++ [.sync])).run (.fixed files find) .empty = _
    rw [run_bind, TextLayer.run_after_sync, hsynced]
    change (l.afterAll ctx (restyle p.slant p.weight ++ [.sync])).run (.fixed files find) cache = _
    rw [TextLayer.afterAll_append, hcalls, done_bind, TextLayer.afterAll, run_bind]
    rfl
  have hidentity : next.params.identity = p.identity := by
    rw [hnext, hparams, LayerParams.identity, LayerParams.identity, hfamily]
  have hfont : next.params.font = c.file.path := by rw [hnext, hparams]
  have hrequest : next.request = p.identity.requestIn document c.file.path := by
    rw [TextLayer.request, hdocument, hplace, hidentity, hfont]
  have hmiss : remembered? cache next.request.keys = none := by
    refine Option.eq_none_iff_forall_ne_some.2 fun known hknown => ?_
    obtain ⟨hget, hkey⟩ := FaceCache.get?_of_remembered? hknown
    rw [hrequest] at hkey
    exact hother (hkey.symm.trans (hcache _ _ hget))
  have hneeds : next.pending.needsFace := by
    refine Decidable.byContradiction fun h => ?_
    obtain ⟨-, hs, hw⟩ := hface (by simpa using h)
    rw [hparams] at hs hw
    exact hne (Prod.ext hs hw)
  have hnew : ¬next.asked.any next.question.same := by
    intro h
    obtain ⟨question, hquestion, hsame⟩ := TextLayer.asked_of_same h
    rw [hasked question (hkept ▸ hquestion), hidentity] at hsame
    exact hother hsame.symm
  have hchoice : ctx.config.choice find files next.request =
      some ((m, .hinted c.file.path), face) := by
    rw [hrequest]
    exact hhint
  have hrun := ctx.config.run_resolve_of_choice find files hmiss hchoice
  have hkey : next.request.keyFor (.hinted c.file.path) = p.identity := by
    rw [hrequest]
    rfl
  have hremembered : out.2 = cache.put p.identity face := by
    rw [hout, TextLayer.run_after_sync]
    rcases next.run_sync_cases ctx (.fixed files find) cache with
      ⟨-, -, hsettled⟩ | ⟨-, -, -, hfound⟩
    · exact absurd (hsettled hneeds) hnew
    · rw [hfound, hrun, ← hkey]
  rw [hremembered]
  refine ⟨FaceCache.get?_put_self .., fun dir => ?_⟩
  have hscope : p.identity.within (some dir) ≠ p.identity := fun h =>
    Option.some_ne_none dir (congrArg FontIdentity.scope h)
  rw [FaceCache.get?_put_of_ne _ hscope]
  exact Option.eq_none_iff_forall_ne_some.2 fun f hf => hother (hcache _ _ hf)

/-- A new layer holds what is remembered for all documents, if nothing is for its own. -/
theorem face_of_shared {p : LayerParams} {cache : FaceCache F} {face : F}
    (hshared : cache.get? p.identity = some face)
    (hown : ∀ dir, cache.get? (p.identity.within (some dir)) = none) :
    ((({ params := p, document } : TextLayer F).afterAll ctx [.sync]).run
      (.fixed files find) cache).1.face = some ⟨face, p.identity, .cache⟩ := by
  let new : TextLayer F := { params := p, document }
  have hknown : remembered? cache new.request.keys = some (p.identity, face) := by
    have hnone : cache.own? new.request = none :=
      FaceCache.own?_eq_none_iff.2 fun dir _ => hown dir
    have hidentity : new.request.identity = p.identity := rfl
    rw [FaceCache.remembered?_keys, hnone, hidentity, hshared]
    rfl
  change (((new.after ctx .sync).bind .done).run (.fixed files find) cache).1.face = _
  rw [bind_done, TextLayer.run_after_sync]
  rcases new.run_sync_cases ctx (.fixed files find) cache with
    ⟨-, -, hsettled⟩ | ⟨-, -, hsame, -⟩
  · exact absurd (hsettled rfl) (by simp [new])
  · rw [hsame.face, ctx.config.run_resolve_of_remembered find files hknown]
    rfl

end WayOut

end TextContext

/-- The calls on one layer in a row are those of that layer alone. -/
theorem Scene.run_map [DecidableEq ι] {m : Type → Type} [Monad m] [LawfulMonad m]
    (ctx : TextContext F) (source : FontSource m F) (s : Scene F ι) (i : ι)
    (calls : List LayerCall) :
    s.run ctx source (calls.map (i, ·)) = do
      let answer ← ((s.layers i).afterAll ctx calls).run source s.cache
      return { layers := Function.update s.layers i answer.1, cache := answer.2 } := by
  induction calls generalizing s with
  | nil =>
    simp [Scene.run, TextLayer.afterAll, FontQuery.run]
  | cons c rest ih =>
    simp only [List.map_cons, Scene.run_cons, Scene.call, TextLayer.afterAll, run_bind,
      LawfulMonad.bind_assoc, pure_bind, ih, Function.update_self, Function.update_idem]

/-- A new layer is put in its document. -/
theorem Scene.run_map_new [DecidableEq ι] (ctx : TextContext F) (source : FontSource Id F)
    {s : Scene F ι} {i : ι} {p : LayerParams} (hi : s.layers i = { params := p }) (hp : p.font = "")
    (document : Option String) (calls : List LayerCall) :
    let out : TextLayer F × FaceCache F :=
      (({ params := p, document } : TextLayer F).afterAll ctx calls).run source s.cache
    s.run ctx source ((.setDocument document :: calls).map (i, ·)) =
      (⟨Function.update s.layers i out.1, out.2⟩ : Scene F ι) := by
  rw [Scene.run_map, hi, TextLayer.afterAll_setDocument_new ctx hp]
  rfl

namespace TextContext

section Scene

variable [DecidableEq ι] {ctx : TextContext F} {documents : ι → Option String}

theorem callsOn_append (i : ι) (xs ys : List (ι × LayerCall)) :
    callsOn i (xs ++ ys) = callsOn i xs ++ callsOn i ys := by
  simp [callsOn]

theorem callsOn_map (i j : ι) (calls : List LayerCall) :
    callsOn i (calls.map (j, ·)) = if j = i then calls else [] := by
  induction calls with
  | nil => simp [callsOn]
  | cons c rest ih =>
    rw [List.map_cons]
    by_cases h : j = i
    · subst h
      rw [callsOn_cons_self, ih, if_pos rfl, if_pos rfl]
    · rw [callsOn_cons_of_ne h, ih, if_neg h, if_neg h]

/-- Two layers, each of which attaches its document first. -/
theorem attachedOnce_callsOn {families : String → Prop} {j k : ι} (hjk : j ≠ k)
    {xs ys : List LayerCall} (hxs : ∀ c ∈ xs, c.Permitted families)
    (hys : ∀ c ∈ ys, c.Permitted families) (i : ι) :
    AttachedOnce families (documents i)
      (callsOn i ((.setDocument (documents j) :: xs).map (j, ·) ++
        (.setDocument (documents k) :: ys).map (k, ·))) := by
  rw [callsOn_append, callsOn_map, callsOn_map]
  by_cases hj : j = i
  · subst hj
    rw [if_pos rfl, if_neg (Ne.symm hjk), List.append_nil]
    exact ⟨rfl, hxs⟩
  · rw [if_neg hj, List.nil_append]
    by_cases hk : k = i
    · subst hk
      rw [if_pos rfl]
      exact ⟨rfl, hys⟩
    · rw [if_neg hk]
      trivial

variable (documents) in
/-- A layer finds a face and gets another slant and weight, and then another layer asks for the
same. -/
def restyledAfter (j k : ι) (slant : Slant) (weight : Weight) : List (ι × LayerCall) :=
  (.setDocument (documents j) :: .sync :: (restyle slant weight ++ [.sync])).map (j, ·) ++
    [.setDocument (documents k), .sync].map (k, ·)

/-- What answers a layer as a hint is held by every layer that asks for the same. -/
theorem face_of_hinted {files : FontFileRef → Option F}
    {find : String → Slant → Weight → Option FontFileRef} {j k : ι} (hjk : j ≠ k)
    {q p : LayerParams} (hq : q.font = "") (hp : p.font = "") (hfamily : p.family = q.family)
    (hne : (q.slant, q.weight) ≠ (p.slant, p.weight))
    (hweight : p.weight = q.weight ∨ 0 < p.weight.value) {n m : Nat} {c : Candidate} {f face : F}
    (hfirst : ctx.found files find (documents j) q.identity "" = some ((n, c), f))
    (hhint : ctx.found files find (documents j) p.identity c.file.path =
      some ((m, .hinted c.file.path), face)) :
    (((Scene.start (Function.update (fun _ => p) j q) .empty).run ctx (.fixed files find)
      (restyledAfter documents j k p.slant p.weight)).layers k).face =
        some ⟨face, p.identity, .cache⟩ := by
  let source : FontSource Id F := .fixed files find
  let out : TextLayer F × FaceCache F := (({ params := q, document := documents j } :
    TextLayer F).afterAll ctx (.sync :: (restyle p.slant p.weight ++ [.sync]))).run source .empty
  obtain ⟨hshared, hown⟩ : out.2.get? p.identity = some face ∧
      ∀ dir, out.2.get? (p.identity.within (some dir)) = none :=
    get?_of_hinted hq hfamily hne hweight hfirst hhint
  let start : Scene F ι := .start (Function.update (fun _ => p) j q) .empty
  have hj : start.layers j = { params := q } := by simp [start, Scene.start]
  have hk : start.layers k = { params := p } := by simp [start, Scene.start, Ne.symm hjk]
  rw [restyledAfter, Scene.run_append, Scene.run_map_new ctx source hj hq]
  change ((Scene.run ctx source (⟨Function.update _ j out.1, out.2⟩ : Scene F ι) _).layers
    k).face = _
  rw [Scene.run_map_new ctx source ((Function.update_of_ne (Ne.symm hjk) ..).trans hk) hp]
  simp only [Function.update_self]
  exact face_of_shared hshared hown

/-- What is asked of the two layers is permitted, and each attaches its document first. -/
theorem attachedOnce_restyledAfter {families : String → Prop} {j k : ι} (hjk : j ≠ k)
    (slant : Slant) (weight : Weight) (i : ι) :
    AttachedOnce families (documents i) (callsOn i (restyledAfter documents j k slant weight)) := by
  refine attachedOnce_callsOn hjk (fun c hc => ?_) (fun c hc => ?_) i
  · rcases List.mem_cons.1 hc with rfl | hc
    · trivial
    rcases List.mem_append.1 hc with hc | hc
    · exact permitted_restyle slant weight c hc
    · obtain rfl := List.mem_singleton.1 hc
      trivial
  · obtain rfl := List.mem_singleton.1 hc
    trivial

end Scene

/-! ## Isolation -/

section Isolation

variable [DecidableEq ι] (ctx : TextContext (FontFileRef × F)) (files : FontFileRef → Option F)
  (find : String → Slant → Weight → Option FontFileRef) (documents : ι → Option String)
  (families : String → Prop)

/-- **Documents do not see each other's fonts exactly if hints stay**: for all layers over one
context that name no file of a face, take families without a directory part and attach their
document once before the first sync, and for all calls on them in whatever order, no layer holds a
face from a directory that is searched only for the documents of others, exactly if no file out of
reach of some layer answers as a hint. -/
theorem isolation_iff (hplain : ctx.Plain find families) :
    (∀ (params : ι → LayerParams) (calls : List (ι × LayerCall)),
        (∀ i, (params i).font = "" ∧ families (params i).family) →
        (∀ i, AttachedOnce families (documents i) (callsOn i calls)) →
        ∀ i a, (((Scene.start params .empty).run ctx (.fixed (tagged files) find) calls).layers
            i).face = some a →
          ¬ctx.OutOfReach documents i a.face.1.path) ↔
      ctx.HintsStay files find documents families := by
  constructor
  · rintro h j i slant weight ⟨⟨n, c⟩, first⟩ hfamily hne hweight hfirst ⟨k, hk⟩ m face hhint
    have hjk : j ≠ k := by
      rintro rfl
      exact (hplain.placed (i := ⟨i.family, slant, weight, none⟩) hfamily hfirst).not_outOfReach hk
    -- the layer `j` finds the file and is restyled; `k` then asks for what `j` asked last
    let q : LayerParams := { family := i.family, slant, weight }
    let p : LayerParams := { family := i.family, slant := i.slant, weight := i.weight }
    have hparams : ∀ x, (Function.update (fun _ => p) j q x).font = "" ∧
        families (Function.update (fun _ => p) j q x).family := by
      intro x
      by_cases hx : x = j
      · rw [hx, Function.update_self]
        exact ⟨rfl, hfamily⟩
      · rw [Function.update_of_ne hx]
        exact ⟨rfl, hfamily⟩
    have hheld := face_of_hinted (q := q) (p := p) hjk rfl rfl rfl hne hweight hfirst hhint
    refine h _ _ hparams (attachedOnce_restyledAfter hjk _ _) k _ hheld ?_
    rw [show face.1 = (Candidate.hinted c.file.path).file from SearchConfig.fst_of_choice hhint]
    exact hk
  · intro hstay params calls hparams hcalls i a ha
    exact (((sceneReady_start hparams hcalls).run hstay hplain).layers i).held ha

end Isolation

/-- A document's face.ttf in italics is the face.ttf of all documents, once it has been found
upright. -/
theorem isolation_ne :
    let files : FontFileRef → Option Unit := fun file =>
      if file.path = "/docs/a/face.ttf" then some () else none
    let find := fun (_ : String) (_ : Slant) (_ : Weight) => (none : Option FontFileRef)
    let ctx : TextContext (FontFileRef × Unit) := {
      view := fun _ => default, config := { useMatcher := false, useSystemDirs := false } }
    let documents : Bool → Option String := fun second =>
      some (if second then "/docs/b/two.sifz" else "/docs/a/one.sifz")
    let params : Bool → LayerParams := fun second =>
      { family := "face.ttf", slant := if second then .italic else .normal }
    let families := (· = "face.ttf")
    let calls := restyledAfter documents false true .italic .normal
    let scene : Scene (FontFileRef × Unit) Bool :=
      (Scene.start params .empty).run ctx (.fixed (tagged files) find) calls
    ctx.Plain find families ∧ (∀ i, (params i).font = "" ∧ families (params i).family) ∧
      (∀ i, AttachedOnce families (documents i) (callsOn i calls)) ∧
      (scene.layers true).face.map (·.face.1.path) = some "/docs/a/face.ttf" ∧
      ctx.OutOfReach documents true "/docs/a/face.ttf" := by
  intro files find ctx documents params families calls scene
  have hdefault : FamilyIsBare "sans serif" := by decide +kernel
  have hplain : ctx.Plain find families := by
    refine plain_of_find (fun _ _ _ => rfl) (fun family hfamily => ?_) hdefault
    obtain rfl : family = "face.ttf" := hfamily
    decide +kernel
  refine ⟨hplain, fun i => ⟨rfl, rfl⟩, attachedOnce_restyledAfter (by decide) .italic .normal,
    by decide +kernel, false, "/docs/a", by decide +kernel, ?_, by decide +kernel⟩
  exact ⟨"face.ttf".toList, by decide +kernel⟩

/-- "Custom" is looked up by its name only, so that each document has its own. -/
theorem isolation_custom :
    let files : FontFileRef → Option Unit := fun file =>
      if file.path ∈ ["/docs/a/Custom.ttf", "/docs/b/Custom.otf"] then some () else none
    let find := fun (_ : String) (_ : Slant) (_ : Weight) => (none : Option FontFileRef)
    let ctx : TextContext (FontFileRef × Unit) := {
      view := fun _ => default, config := { useMatcher := false, useSystemDirs := false } }
    let documents : Bool → Option String := fun second =>
      some (if second then "/docs/b/two.sifz" else "/docs/a/one.sifz")
    let params : Bool → LayerParams := fun second =>
      { family := "Custom", slant := if second then .italic else .normal }
    let calls := restyledAfter documents false true .italic .normal
    let scene : Scene (FontFileRef × Unit) Bool :=
      (Scene.start params .empty).run ctx (.fixed (tagged files) find) calls
    (scene.layers true).face.map (·.face.1.path) = some "/docs/b/Custom.otf" ∧
      ¬ctx.OutOfReach documents true "/docs/b/Custom.otf" := by
  intro files find ctx documents params calls scene
  let families := (· = "Custom")
  have hdefault : FamilyIsBare "sans serif" := by decide +kernel
  have hplain : ctx.Plain find families := by
    refine plain_of_find (fun _ _ _ => rfl) (fun family hfamily => ?_) hdefault
    obtain rfl : family = "Custom" := hfamily
    decide +kernel
  have hstay : ctx.HintsStay files find documents families := by
    refine hintsStay_of_not_namesFile hplain (fun family hfamily => ?_) (by decide +kernel)
    obtain rfl : family = "Custom" := hfamily
    decide +kernel
  have hheld : (scene.layers true).face.map (·.face.1.path) = some "/docs/b/Custom.otf" := by
    decide +kernel
  refine ⟨hheld, ?_⟩
  obtain ⟨a, ha, hpath⟩ := Option.map_eq_some_iff.1 hheld
  rw [← hpath]
  exact (ctx.isolation_iff files find documents families hplain).2 hstay params calls
    (fun _ => ⟨rfl, rfl⟩) (attachedOnce_restyledAfter (by decide) .italic .normal) true a ha

end TextContext

end Lettering
