import Lettering.Proofs.Layer.Reload

/-!
# The file that a layer names

A sync that loads a face writes the path of its file into the parameters. A sync whose face is
remembered does not, because the cache knows faces but no paths: the layer goes on naming the file
that it named before. `TextContext.names_file_iff` says when the file that is named is the file in
use, for all runs of any layers over one context and files that do not change. The layer that loaded
a remembered face did name its file at the time (`TextContext.LoadedBefore`).
-/

namespace Lettering

open FontQuery

variable {F ι : Type}

namespace TextLayer

/-- The file that a layer names, as a host reads it. -/
def Names (l : TextLayer F) (path : String) : Prop := l.params.get "font" = .ok (.string path)

theorem names_iff {l : TextLayer F} {path : String} : l.Names path ↔ l.params.font = path := by
  have hget : l.params.get "font" = .ok (.string l.params.font) := rfl
  rw [Names, hget]
  simp

/-- A layer asked for the face that it loaded with the path of its file: loading writes the path
into the question too. -/
def AskedByFile (l : TextLayer (FontFileRef × F)) : Prop :=
  ∀ a, l.face = some a → a.source ≠ .cache → ∃ q, l.asked = some q ∧ q.font = a.face.1.path

theorem AskedByFile.of_eq {l k : TextLayer (FontFileRef × F)} (h : k.AskedByFile)
    (hface : l.face = k.face) (hasked : l.asked = k.asked) : l.AskedByFile := by
  unfold AskedByFile
  rw [hface, hasked]
  exact h

end TextLayer

/-- An answer is remembered, or was just loaded from the file of its face. -/
theorem SearchConfig.source_cases {config : SearchConfig} {files : FontFileRef → Option F}
    {find : String → Slant → Weight → Option FontFileRef} {r : FaceRequest}
    {cache : FaceCache (FontFileRef × F)} {a : ResolvedFace (FontFileRef × F)}
    (h : ((config.resolve r).run (.fixed (tagged files) find) cache).1.toOption = some a) :
    (a.source = .cache ∧ cache.get? a.identity = some a.face) ∨
      (a.source ≠ .cache ∧ a.path? = some a.face.1.path ∧ files a.face.1 = some a.face.2) := by
  rcases config.run_resolve_cases find (tagged files) r cache with
    ⟨key, face, hknown, hrun⟩ | ⟨-, -, hrun⟩ | ⟨n, c, face, -, hfound, hrun⟩
  · rw [hrun] at h
    obtain rfl := Option.some.inj h
    exact .inl ⟨rfl, (FaceCache.get?_of_remembered? hknown).1⟩
  · rw [hrun] at h
    cases h
  · rw [hrun] at h
    obtain rfl := Option.some.inj h
    obtain ⟨f, hf, rfl⟩ := Option.map_eq_some_iff.1 (mem_of_firstLoading (tagged files) _ hfound).2
    exact .inr ⟨nofun, rfl, hf⟩

namespace TextContext

variable {ctx : TextContext (FontFileRef × F)} {files : FontFileRef → Option F}
  {find : String → Slant → Weight → Option FontFileRef}

section Sync

variable {l : TextLayer (FontFileRef × F)} {cache : FaceCache (FontFileRef × F)}
  {a : ResolvedFace (FontFileRef × F)}

/-- What a layer holds after a sync. It held the face before, which was not stale or answers the
question that was asked last; or the face was remembered, and the layer names what it named before;
or the face was just loaded, and the layer names its file, and does so in its question. -/
theorem held_sync_cases :
    let next := ((l.sync ctx).run (.fixed (tagged files) find) cache).1.2
    next.face = some a →
      (l.face = some a ∧ next.params.font = l.params.font ∧ next.asked = l.asked ∧
        (l.pending.needsFace → l.asked.any l.question.same)) ∨
      (a.source = .cache ∧ cache.get? a.identity = some a.face ∧
        next.params.font = l.params.font) ∨
      (a.source ≠ .cache ∧ files a.face.1 = some a.face.2 ∧ next.params.font = a.face.1.path ∧
        ∃ q, next.asked = some q ∧ q.font = a.face.1.path) := by
  intro next ha
  rcases l.run_sync_cases ctx (.fixed (tagged files) find) cache with
    ⟨hsame, -, hsettled⟩ | ⟨-, -, hsame, -⟩
  · exact .inl ⟨hsame.face.symm.trans ha, congrArg _ hsame.params, hsame.asked, hsettled⟩
  · have hanswer := hsame.face.symm.trans ha
    change ((ctx.config.resolve l.request).run (.fixed (tagged files) find) cache).1.toOption =
      some a at hanswer
    rw [hanswer] at hsame
    have hfont : next.params.font = a.path?.getD l.params.font := congrArg _ hsame.params
    refine .inr ((SearchConfig.source_cases hanswer).imp ?_ ?_)
    · rintro ⟨hsource, hknown⟩
      exact ⟨hsource, hknown, by rw [hfont, ResolvedFace.path?, hsource, Option.getD_none]⟩
    · rintro ⟨hsource, hpath, hfile⟩
      rw [hpath, Option.getD_some] at hfont
      exact ⟨hsource, hfile, hfont, _, hsame.asked, by rw [← hfont, hsame.params]; rfl⟩

theorem askedByFile_sync (hl : l.AskedByFile) :
    ((l.sync ctx).run (.fixed (tagged files) find) cache).1.2.AskedByFile := by
  intro a ha hsource
  rcases held_sync_cases ha with ⟨hface, -, hasked, -⟩ | ⟨hcache, -⟩ | ⟨-, -, -, hquestion⟩
  · exact hasked ▸ hl a hface hsource
  · exact absurd hcache hsource
  · exact hquestion

/-- After a sync for a stale face, a layer that loaded its face names the file, and one whose face
was remembered names what it named before. -/
theorem font_sync (hl : l.AskedByFile) (hneeds : l.pending.needsFace) :
    let next := ((l.sync ctx).run (.fixed (tagged files) find) cache).1.2
    next.face = some a →
      next.params.font = if a.source = .cache then l.params.font else a.face.1.path := by
  intro next ha
  rcases held_sync_cases ha with ⟨hface, hfont, -, hsettled⟩ | ⟨hcache, -, hfont⟩ |
    ⟨hsource, -, hfont, -⟩
  · by_cases hsource : a.source = .cache
    · rw [if_pos hsource]
      exact hfont
    · -- the question is still the one that was answered with the path of the file
      obtain ⟨q, hq, hsame⟩ := (Option.any_eq_true ..).1 (hsettled hneeds)
      obtain ⟨q', hq', hpath⟩ := hl a hface hsource
      obtain rfl : q = q' := Option.some.inj (hq.symm.trans hq')
      simp only [FaceQuestion.same, Bool.and_eq_true] at hsame
      have hnamed : l.params.font = q.font := eq_of_beq hsame.2
      rw [if_neg hsource, ← hpath, ← hnamed]
      exact hfont
  · rw [if_pos hcache]
    exact hfont
  · rw [if_neg hsource]
    exact hfont

end Sync

/-! ## Where remembered faces come from -/

section Run

variable [DecidableEq ι]

variable (ctx files find) in
/-- New layers with some parameters, and the faces that they remember, after some calls. -/
def sceneAfter (params : ι → LayerParams) (calls : List (ι × LayerCall)) :
    Scene (FontFileRef × F) ι :=
  (Scene.start params .empty).run ctx (.fixed (tagged files) find) calls

variable (ctx files find) in
/-- A face was loaded from its file, for an identity, by the sync of a layer, which named the file
then. -/
def LoadedBefore (params : ι → LayerParams) (calls : List (ι × LayerCall)) (key : FontIdentity)
    (face : FontFileRef × F) : Prop :=
  files face.1 = some face.2 ∧ ∃ before j after, calls = before ++ (j, .sync) :: after ∧
    let l := (ctx.sceneAfter files find params (before ++ [(j, .sync)])).layers j
    l.Names face.1.path ∧ ∃ a, l.face = some a ∧ a.source ≠ .cache ∧ a.identity = key ∧
      a.face = face

variable {params : ι → LayerParams} {calls : List (ι × LayerCall)}

/-- A call puts what becomes of its layer into the scene. -/
theorem sceneAfter_concat {c : ι × LayerCall} {next : TextLayer (FontFileRef × F)}
    {cache : FaceCache (FontFileRef × F)}
    (hcall : (((ctx.sceneAfter files find params calls).layers c.1).after ctx c.2).run
      (.fixed (tagged files) find) (ctx.sceneAfter files find params calls).cache = (next, cache)) :
    ctx.sceneAfter files find params (calls ++ [c]) =
      ⟨Function.update (ctx.sceneAfter files find params calls).layers c.1 next, cache⟩ := by
  have hrun : ctx.sceneAfter files find params (calls ++ [c]) =
      (ctx.sceneAfter files find params calls).call ctx (.fixed (tagged files) find) c := by
    rw [sceneAfter, Scene.run_append]
    rfl
  rw [hrun, Scene.call, hcall]
  rfl

theorem layers_sceneAfter_sync (j : ι) :
    (ctx.sceneAfter files find params (calls ++ [(j, .sync)])).layers j =
      ((((ctx.sceneAfter files find params calls).layers j).sync ctx).run
        (.fixed (tagged files) find) (ctx.sceneAfter files find params calls).cache).1.2 := by
  rw [sceneAfter_concat (TextLayer.run_after_sync ..)]
  exact Function.update_self ..

theorem LoadedBefore.concat {key : FontIdentity} {face : FontFileRef × F}
    (h : ctx.LoadedBefore files find params calls key face) (c : ι × LayerCall) :
    ctx.LoadedBefore files find params (calls ++ [c]) key face := by
  obtain ⟨hfile, before, j, after, rfl, hloaded⟩ := h
  exact ⟨hfile, before, j, after ++ [c], by simp, hloaded⟩

variable (ctx files find) in
/-- All faces that are held or remembered after some calls were loaded by one of their syncs. -/
structure Traced (params : ι → LayerParams) (calls : List (ι × LayerCall)) : Prop where
  asked : ∀ i, ((ctx.sceneAfter files find params calls).layers i).AskedByFile
  held : ∀ i a, ((ctx.sceneAfter files find params calls).layers i).face = some a →
    ctx.LoadedBefore files find params calls a.identity a.face
  cache : ∀ key face, (ctx.sceneAfter files find params calls).cache.get? key = some face →
    ctx.LoadedBefore files find params calls key face

theorem traced_nil : ctx.Traced files find params [] where
  asked _ _ h := nomatch h
  held _ _ h := nomatch h
  cache _ _ h := nomatch h

/-- A call leaves all faces traced, if what its layer holds was loaded, and what is new in the cache
is what its layer holds. -/
theorem Traced.concat_of_layer (h : ctx.Traced files find params calls) {c : ι × LayerCall}
    {next : TextLayer (FontFileRef × F)} {cache : FaceCache (FontFileRef × F)}
    (hcall : (((ctx.sceneAfter files find params calls).layers c.1).after ctx c.2).run
      (.fixed (tagged files) find) (ctx.sceneAfter files find params calls).cache = (next, cache))
    (hasked : next.AskedByFile)
    (hheld : ∀ a, next.face = some a →
      ctx.LoadedBefore files find params (calls ++ [c]) a.identity a.face)
    (hcache : ∀ key face, cache.get? key = some face →
      (ctx.sceneAfter files find params calls).cache.get? key = some face ∨
        ∃ a, next.face = some a ∧ a.identity = key ∧ a.face = face) :
    ctx.Traced files find params (calls ++ [c]) := by
  have hscene := sceneAfter_concat hcall
  have hlayer : ∀ i, (ctx.sceneAfter files find params (calls ++ [c])).layers i = next ∨
      (ctx.sceneAfter files find params (calls ++ [c])).layers i =
        (ctx.sceneAfter files find params calls).layers i := by
    intro i
    simp only [hscene]
    by_cases hi : i = c.1
    · exact .inl (by rw [hi, Function.update_self])
    · exact .inr (Function.update_of_ne hi ..)
  refine ⟨fun i => ?_, fun i a ha => ?_, fun key face hface => ?_⟩
  · rcases hlayer i with hi | hi <;> rw [hi]
    · exact hasked
    · exact h.asked i
  · rcases hlayer i with hi | hi <;> rw [hi] at ha
    · exact hheld a ha
    · exact (h.held i a ha).concat c
  · simp only [hscene] at hface
    rcases hcache key face hface with hold | ⟨a, ha, rfl, rfl⟩
    · exact (h.cache key face hold).concat c
    · exact hheld a ha

theorem Traced.concat (h : ctx.Traced files find params calls) (c : ι × LayerCall) :
    ctx.Traced files find params (calls ++ [c]) := by
  obtain ⟨j, c⟩ := c
  by_cases hc : c = .sync
  · subst hc
    refine h.concat_of_layer (TextLayer.run_after_sync ..) (askedByFile_sync (h.asked j))
      (fun a ha => ?_) fun key face => (ctx.get?_sync (tagged files) find _ _ key face).2
    rcases held_sync_cases ha with ⟨hface, -⟩ | ⟨-, hknown, -⟩ | ⟨hsource, hfile, hfont, -⟩
    · exact (h.held j a hface).concat _
    · exact (h.cache _ _ hknown).concat _
    · refine ⟨hfile, calls, j, [], rfl, ?_⟩
      rw [layers_sceneAfter_sync]
      exact ⟨TextLayer.names_iff.2 hfont, a, ha, hsource, rfl, rfl⟩
  · obtain ⟨next, hnext, hface, hasked, -⟩ :=
      ((ctx.sceneAfter files find params calls).layers j).after_edit ctx hc
    have hcall := congrArg
      (·.run (.fixed (tagged files) find) (ctx.sceneAfter files find params calls).cache) hnext
    exact h.concat_of_layer hcall ((h.asked j).of_eq hface hasked)
      (fun a ha => (h.held j a (hface ▸ ha)).concat _) fun _ _ => .inl

theorem traced_sceneAfter (params : ι → LayerParams) (calls : List (ι × LayerCall)) :
    ctx.Traced files find params calls := by
  induction calls using List.reverseRecOn with
  | nil => exact traced_nil
  | append_singleton calls c ih => exact ih.concat c

end Run

section Names

variable [DecidableEq ι] (ctx files find)

/-- **The file that a layer names is the file in use** after a sync for a stale face, exactly if the
face was not remembered or the layer named its file before. The face was loaded from its file by
some layer that named the file then, and a layer whose face was remembered goes on naming what it
named. -/
theorem names_file_iff (params : ι → LayerParams) (calls : List (ι × LayerCall)) (i : ι)
    (hneeds : ((ctx.sceneAfter files find params calls).layers i).pending.needsFace)
    (a : ResolvedFace (FontFileRef × F))
    (ha : ((ctx.sceneAfter files find params (calls ++ [(i, .sync)])).layers i).face = some a) :
    let before := (ctx.sceneAfter files find params calls).layers i
    let after := (ctx.sceneAfter files find params (calls ++ [(i, .sync)])).layers i
    (after.Names a.face.1.path ↔ a.source ≠ .cache ∨ before.Names a.face.1.path) ∧
      (a.source = .cache → ∀ path, after.Names path ↔ before.Names path) ∧
      ctx.LoadedBefore files find params (calls ++ [(i, .sync)]) a.identity a.face := by
  intro before after
  have hfont : after.params.font =
      if a.source = .cache then before.params.font else a.face.1.path := by
    have hlayer : after = _ := layers_sceneAfter_sync i
    rw [hlayer]
    exact font_sync ((traced_sceneAfter params calls).asked i) hneeds (hlayer ▸ ha)
  simp only [TextLayer.names_iff, hfont]
  refine ⟨?_, fun hsource path => by rw [if_pos hsource], (traced_sceneAfter params _).held i a ha⟩
  by_cases hsource : a.source = .cache
  · simp [hsource]
  · simp [hsource]

end Names

/-- A layer that has been in italics names the italic file when it is upright again, and is in the
upright face. -/
theorem names_file_ne :
    let files : FontFileRef → Option Unit := fun file =>
      if file.path ∈ ["arial.ttf", "ariali.ttf"] then some () else none
    let find := fun (_ : String) (_ : Slant) (_ : Weight) => (none : Option FontFileRef)
    let ctx : TextContext (FontFileRef × Unit) := {
      view := fun _ => default, config := { useMatcher := false, useSystemDirs := false } }
    let calls : List (Unit × LayerCall) := [((), .sync), ((), .setParam "style" (.integer 2)),
      ((), .sync), ((), .setParam "style" (.integer 0))]
    let before := (ctx.sceneAfter files find (fun _ => {}) calls).layers ()
    let after := (ctx.sceneAfter files find (fun _ => {}) (calls ++ [((), .sync)])).layers ()
    before.pending.needsFace ∧ after.face.map (·.face.1.path) = some "arial.ttf" ∧
      ¬after.Names "arial.ttf" ∧ after.Names "ariali.ttf" := by
  simp only [TextLayer.names_iff]
  decide +kernel

/-- A layer that is told the file of its face names it, though another layer has loaded the face. -/
theorem names_file_told :
    let files : FontFileRef → Option Unit := fun file =>
      if file.path = "arial.ttf" then some () else none
    let find := fun (_ : String) (_ : Slant) (_ : Weight) => (none : Option FontFileRef)
    let ctx : TextContext (FontFileRef × Unit) := {
      view := fun _ => default, config := { useMatcher := false, useSystemDirs := false } }
    let calls : List (Bool × LayerCall) :=
      [(false, .sync), (true, .setParam "font" (.string "arial.ttf"))]
    let before := (ctx.sceneAfter files find (fun _ => {}) calls).layers true
    let after := (ctx.sceneAfter files find (fun _ => {}) (calls ++ [(true, .sync)])).layers true
    before.pending.needsFace ∧ after.face.map (·.source) = some .cache ∧
      after.face.map (·.face.1.path) = some "arial.ttf" ∧ after.Names "arial.ttf" := by
  intro files find ctx calls before after
  have hneeds : before.pending.needsFace := by decide +kernel
  have hpath : after.face.map (·.face.1.path) = some "arial.ttf" := by decide +kernel
  obtain ⟨a, ha, harial⟩ := Option.map_eq_some_iff.1 hpath
  have hnames := (ctx.names_file_iff files find (fun _ => {}) calls true hneeds a ha).1
  rw [harial] at hnames
  refine ⟨hneeds, by decide +kernel, hpath, hnames.2 (.inr ?_)⟩
  exact TextLayer.names_iff.2 (by decide +kernel)

end TextContext

end Lettering
