import Lettering.Proofs.Font.WarmCache
import Lettering.Proofs.Layer.Coalesce
import Mathlib.Data.List.Induction

/-!
# Looking again next to a new document

A family that is the name of a file is looked for again when its layer moves to another document.
Whether it is found there depends on what the layer held before: a face that was once found
elsewhere is shared by all documents, and is answered next to each of them.

For a layer alone on its context and files that do not change, `TextContext.reached` is the layer
and its cache after some calls, and `TextContext.HeldAfterSync` says that the layer held an answer
after one of their syncs. The cache knows exactly these answers (`TextContext.get?_reached_iff`),
and what is kept for a document is what is found next to it, whatever hints there were. A sync in a
new document therefore finds the file that would be found by a new layer, except if the layer held a
face from another file under the identity that all documents share and none under the one of the
document (`TextContext.reload_iff`).
-/

namespace Lettering

open FontQuery

variable {F : Type}

/-- The request that a question stands for. -/
def FaceQuestion.request (q : FaceQuestion) : FaceRequest :=
  FontRequest.built {
    family := q.identity.family, slant := q.identity.slant, weight := q.identity.weight
    documentDir := q.documentDir, fontFile := some q.font }

namespace TextContext

variable (ctx : TextContext F) (files : FontFileRef → Option F)
  (find : String → Slant → Weight → Option FontFileRef)

/-! ## Answers that are remembered -/

/-- The cache has the answer that a layer holds, and would give it to the question that was asked
last; what it keeps for a document was found without a hint. -/
structure Recalling (l : TextLayer F) (cache : FaceCache F) : Prop where
  own : ctx.config.OwnCoherent find files cache
  held : ∀ a, l.face = some a → cache.get? a.identity = some a.face
  asked : ∀ q, l.asked = some q →
    l.face.map (·.face) = ((remembered? cache q.request.keys).map (·.2)).or
      ((ctx.config.choice find files q.request.withoutHint).map (·.2))

variable {ctx files find}

theorem Recalling.of_sameFace {l k : TextLayer F} {cache : FaceCache F}
    (h : ctx.Recalling files find k cache) (hface : l.face = k.face) (hasked : l.asked = k.asked) :
    ctx.Recalling files find l cache where
  own := h.own
  held a ha := h.held a (hface ▸ ha)
  asked q hq := hface ▸ h.asked q (hasked ▸ hq)

/-- The answer to a request is in the cache afterwards, or nothing is found without a hint. -/
theorem recalled_run_resolve {cache : FaceCache F}
    (hown : ctx.config.OwnCoherent find files cache) (r : FaceRequest) :
    let out := (ctx.config.resolve r).run (.fixed files find) cache
    ctx.config.OwnCoherent find files out.2 ∧
      (∀ a, out.1.toOption = some a → out.2.get? a.identity = some a.face) ∧
      out.1.toOption.map (·.face) = ((remembered? out.2 r.keys).map (·.2)).or
        ((ctx.config.choice find files r.withoutHint).map (·.2)) := by
  intro out
  rcases ctx.config.run_resolve_cases find files r cache with
    ⟨key, face, hknown, hrun⟩ | ⟨hmiss, hfound, hrun⟩ | ⟨n, c, face, hmiss, hfound, hrun⟩
  · have hout : out = _ := hrun
    rw [hout, hknown]
    refine ⟨hown, fun a ha => ?_, rfl⟩
    obtain rfl := Option.some.inj ha
    exact (FaceCache.get?_of_remembered? hknown).1
  · have hout : out = _ := hrun
    rw [hout, hmiss, ctx.config.choice_withoutHint_of_none find files hfound]
    exact ⟨hown, fun a ha => (by cases ha), rfl⟩
  · have hout : out = _ := hrun
    rw [hout, FaceCache.remembered?_put_keyFor hmiss c face]
    refine ⟨hown.put hfound, fun a ha => ?_, rfl⟩
    obtain rfl := Option.some.inj ha
    exact FaceCache.get?_put_self ..

theorem Recalling.sync {l : TextLayer F} {cache : FaceCache F}
    (h : ctx.Recalling files find l cache) :
    ctx.Recalling files find ((l.sync ctx).run (.fixed files find) cache).1.2
      ((l.sync ctx).run (.fixed files find) cache).2 := by
  rcases l.run_sync_cases ctx (.fixed files find) cache with
    ⟨hsame, hcache, -⟩ | ⟨-, -, hsame, hcache⟩
  · rw [hcache]
    exact h.of_sameFace hsame.face hsame.asked
  · obtain ⟨hown, hheld, hanswer⟩ := recalled_run_resolve h.own l.request
    rw [hcache]
    refine Recalling.of_sameFace ⟨hown, hheld, fun q hq => ?_⟩ hsame.face hsame.asked
    obtain rfl := Option.some.inj hq
    exact hanswer

theorem Recalling.after {l : TextLayer F} {cache : FaceCache F}
    (h : ctx.Recalling files find l cache) (c : LayerCall) :
    ctx.Recalling files find ((l.after ctx c).run (.fixed files find) cache).1
      ((l.after ctx c).run (.fixed files find) cache).2 := by
  by_cases hc : c = .sync
  · subst hc
    rw [TextLayer.run_after_sync]
    exact h.sync
  · obtain ⟨next, hnext, hface, hasked, -⟩ := l.after_edit ctx hc
    rw [hnext]
    exact h.of_sameFace hface hasked

/-! ## What was held -/

variable (ctx files find)

/-- A new layer, alone on its context, and its cache after some calls. -/
def reached (p : LayerParams) (calls : List LayerCall) : TextLayer F × FaceCache F :=
  (({ params := p } : TextLayer F).afterAll ctx calls).run (.fixed files find) .empty

/-- What the layer held after one of its syncs. -/
def HeldAfterSync (p : LayerParams) (calls : List LayerCall) (a : ResolvedFace F) : Prop :=
  ∃ before after, calls = before ++ .sync :: after ∧
    (ctx.reached files find p (before ++ [.sync])).1.face = some a

theorem reached_concat (p : LayerParams) (calls : List LayerCall) (c : LayerCall) :
    ctx.reached files find p (calls ++ [c]) =
      (((ctx.reached files find p calls).1.after ctx c).run (.fixed files find)
        (ctx.reached files find p calls).2) := by
  simp only [reached, TextLayer.afterAll_append, TextLayer.afterAll, run_bind]
  rfl

theorem reached_sync (p : LayerParams) (calls : List LayerCall) :
    let out := ((ctx.reached files find p calls).1.sync ctx).run (.fixed files find)
      (ctx.reached files find p calls).2
    ctx.reached files find p (calls ++ [.sync]) = (out.1.2, out.2) := by
  rw [reached_concat, TextLayer.run_after_sync]

variable {ctx files find}

theorem heldAfterSync_concat {p : LayerParams} {calls : List LayerCall} {c : LayerCall}
    {a : ResolvedFace F} :
    ctx.HeldAfterSync files find p (calls ++ [c]) a ↔ ctx.HeldAfterSync files find p calls a ∨
      c = .sync ∧ (ctx.reached files find p (calls ++ [c])).1.face = some a := by
  constructor
  · rintro ⟨before, after, he, hface⟩
    rcases List.eq_nil_or_concat after with rfl | ⟨after, d, rfl⟩
    · obtain ⟨rfl, hc⟩ := List.append_inj' he rfl
      obtain rfl : c = .sync := List.head_eq_of_cons_eq hc
      exact .inr ⟨rfl, hface⟩
    · have hsplit : calls ++ [c] = (before ++ .sync :: after) ++ [d] := by simpa using he
      exact .inl ⟨before, after, (List.append_inj' hsplit rfl).1, hface⟩
  · rintro (⟨before, after, rfl, hface⟩ | ⟨rfl, hface⟩)
    · exact ⟨before, after ++ [c], by simp, hface⟩
    · exact ⟨calls, [], rfl, hface⟩

theorem recalling_reached (p : LayerParams) (calls : List LayerCall) :
    ctx.Recalling files find (ctx.reached files find p calls).1
      (ctx.reached files find p calls).2 := by
  induction calls using List.reverseRecOn with
  | nil => exact ⟨SearchConfig.ownCoherent_empty, fun _ h => (nomatch h), fun _ h => (nomatch h)⟩
  | append_singleton calls c ih =>
    rw [reached_concat]
    exact ih.after c

variable (ctx files find) in
/-- A sync loses no face, and what is new in the cache is what the layer holds. -/
theorem get?_sync (l : TextLayer F) (cache : FaceCache F) (key : FontIdentity) (face : F) :
    let out := (l.sync ctx).run (.fixed files find) cache
    (cache.get? key = some face → out.2.get? key = some face) ∧
      (out.2.get? key = some face → cache.get? key = some face ∨
        ∃ a, out.1.2.face = some a ∧ a.identity = key ∧ a.face = face) := by
  intro out
  rcases l.run_sync_cases ctx (.fixed files find) cache with
    ⟨-, hcache, -⟩ | ⟨-, -, hsame, hcache⟩
  · rw [show out.2 = cache from hcache]
    exact ⟨id, .inl⟩
  · have hout : out.2 = _ := hcache
    refine ⟨fun h => ?_, fun h => ?_⟩
    · rw [hout]
      exact SearchConfig.get?_run_resolve _ h
    · rw [hout] at h
      rcases ctx.config.run_resolve_cases find files l.request cache with
        ⟨k, f, -, hrun⟩ | ⟨-, -, hrun⟩ | ⟨n, c, f, -, -, hrun⟩ <;> rw [hrun] at h hsame
      · exact .inl h
      · exact .inl h
      · rcases FaceCache.get?_put_cases h with ⟨rfl, rfl⟩ | hold
        · exact .inr ⟨_, hsame.face, rfl, rfl⟩
        · exact .inl hold

variable (ctx files find) in
/-- **What is remembered is what was held**: the cache of a layer knows the answers that the layer
held after its syncs, and no others. -/
theorem get?_reached_iff (p : LayerParams) (calls : List LayerCall) (key : FontIdentity)
    (face : F) :
    (ctx.reached files find p calls).2.get? key = some face ↔
      ∃ a, ctx.HeldAfterSync files find p calls a ∧ a.identity = key ∧ a.face = face := by
  induction calls using List.reverseRecOn with
  | nil =>
    refine iff_of_false (fun h => by cases h) ?_
    rintro ⟨a, ⟨before, after, he, -⟩, -⟩
    simp at he
  | append_singleton calls c ih =>
    simp only [heldAfterSync_concat, or_and_right, exists_or, ← ih]
    by_cases hc : c = .sync
    · subst hc
      obtain ⟨hkept, hnew⟩ := ctx.get?_sync files find (ctx.reached files find p calls).1
        (ctx.reached files find p calls).2 key face
      rw [reached_sync]
      refine ⟨fun h => (hnew h).imp_right fun ⟨a, ha⟩ => ⟨a, ⟨rfl, ha.1⟩, ha.2⟩, ?_⟩
      rintro (h | ⟨a, ⟨-, hface⟩, rfl, rfl⟩)
      · exact hkept h
      · exact (recalling_reached p calls).sync.held a hface
    · obtain ⟨next, hedit, -⟩ := (ctx.reached files find p calls).1.after_edit ctx hc
      have hnext := ctx.reached_concat files find p calls c
      rw [hedit] at hnext
      simp only [hnext, hc, false_and, exists_false, or_false]
      exact Iff.rfl

end TextContext

/-! ## A new document -/

namespace TextLayer

/-- The layer is in one of some documents, and so was the question that it asked last. -/
structure AskedWithin (documents : Option String → Prop) (l : TextLayer F) : Prop where
  place : documents l.document
  asked : ∀ q, l.asked = some q → ∃ document, documents document ∧
    q.documentDir = document.bind Path.parent?

variable {ctx : TextContext F} {documents : Option String → Prop}

theorem AskedWithin.of_sameFace {l k : TextLayer F} (h : k.AskedWithin documents)
    (hsame : l.SameFace k) : l.AskedWithin documents where
  place := hsame.document ▸ h.place
  asked q hq := h.asked q (hsame.asked ▸ hq)

theorem AskedWithin.after {l : TextLayer F} (h : l.AskedWithin documents) {c : LayerCall}
    (hc : ∀ document, c = .setDocument document → documents document) :
    (l.after ctx c).Always (AskedWithin documents) := by
  by_cases hsync : c = .sync
  · subst hsync
    obtain ⟨finish, hfinish, hsame⟩ := l.sync_eq ctx
    have hrest : ({ l with pending := .empty } : TextLayer F).AskedWithin documents :=
      ⟨h.place, h.asked⟩
    rw [TextLayer.after, hfinish, bind_assoc, always_bind, refreshFace]
    refine Always.mono (P := AskedWithin documents) (fun found hfound => ?_) ?_
    · exact hfound.of_sameFace (hsame found)
    · split
      · rw [findFace_eq]
        split
        · exact hrest
        · rw [always_bind]
          refine always_of_forall (fun answer => ⟨h.place, fun q hq => ?_⟩) _
          obtain rfl := Option.some.inj hq
          exact ⟨l.document, h.place, rfl⟩
      · exact hrest
  · obtain ⟨next, hnext, -, hasked, hdocument⟩ := l.after_edit ctx hsync
    rw [hnext]
    refine ⟨?_, fun q hq => h.asked q (hasked ▸ hq)⟩
    rcases hdocument with hplace | hplace
    · exact hplace ▸ h.place
    · exact hc _ hplace

theorem AskedWithin.afterAll {l : TextLayer F} (h : l.AskedWithin documents)
    {calls : List LayerCall}
    (hcalls : ∀ document, .setDocument document ∈ calls → documents document) :
    (l.afterAll ctx calls).Always (AskedWithin documents) := by
  induction calls generalizing l with
  | nil => exact h
  | cons c rest ih =>
    rw [TextLayer.afterAll, always_bind]
    refine (h.after fun document hc => hcalls document (hc ▸ List.mem_cons_self)).mono
      fun next hnext => ih hnext fun document hmem => hcalls document (List.mem_cons_of_mem _ hmem)

end TextLayer

namespace TextContext

variable {ctx : TextContext F} {files : FontFileRef → Option F}
  {find : String → Slant → Weight → Option FontFileRef}

variable (ctx files find) in
/-- The answer to a request, from the cache or not. -/
theorem face_run_resolve (r : FaceRequest) (cache : FaceCache F) :
    ((ctx.config.resolve r).run (.fixed files find) cache).1.toOption.map (·.face) =
      ((remembered? cache r.keys).map (·.2)).or ((ctx.config.choice find files r).map (·.2)) := by
  cases hknown : remembered? cache r.keys with
  | some known =>
    rw [ctx.config.run_resolve_of_remembered find files hknown]
    rfl
  | none =>
    rw [ctx.config.toOption_run_resolve_of_miss find files hknown, Option.map_none, Option.none_or]

theorem setDocument_of_relativeFile {l : TextLayer F} {new : Option String}
    (hnew : samePath? l.document new = false) (hfile : l.familyIsRelativeFile) :
    ∃ moved, (l.setDocument new).2 = moved ∧ moved.request = l.params.identity.requestIn new "" ∧
      moved.question = ⟨l.params.identity, new.bind Path.parent?, ""⟩ ∧
      moved.asked = l.asked ∧ moved.face = l.face ∧ moved.pending.needsFace := by
  rcases l.setDocument_cases new with ⟨hsame, -⟩ | ⟨-, changes, hmove, hchanges⟩
  · rw [hnew] at hsame
    cases hsame
  · refine ⟨_, rfl, ?_⟩
    rw [hmove, if_pos hfile]
    have hfont : (l.pending ∪ changes).needsFace := by
      simp [Changes.needsFace, (hchanges .font).2 (.inl ⟨rfl, hfile⟩)]
    exact ⟨rfl, rfl, rfl, rfl, hfont⟩

/-- After a move to another document, a family that is the name of a file in the directory is
answered from the cache, or else found without a hint. A directory is spelled in one way. -/
theorem face_moved {l : TextLayer F} {cache : FaceCache F} (h : ctx.Recalling files find l cache)
    {new : Option String} (hnew : samePath? l.document new = false) (hfile : l.familyIsRelativeFile)
    (hspelled : ∀ q, l.asked = some q → samePath? (new.bind Path.parent?) q.documentDir →
      q.documentDir = new.bind Path.parent?) :
    let r : FaceRequest := {
      family := l.params.family, slant := l.params.slant, weight := l.params.weight
      documentDir := new.bind Path.parent? }
    let out := ((l.setDocument new).2.sync ctx).run (.fixed files find) cache
    out.1.2.face.map (·.face) = ((remembered? cache r.keys).map (·.2)).or
      ((ctx.config.choice find files r).map (·.2)) := by
  intro r out
  obtain ⟨moved, hmoved, hrequest, hquestion, hasked, hface, hneeds⟩ :=
    setDocument_of_relativeFile hnew hfile
  have hunhinted : ctx.config.choice find files moved.request = ctx.config.choice find files r := by
    rw [hrequest]
    exact ctx.config.choice_congr find files rfl rfl rfl
  have hout : out = (moved.sync ctx).run (.fixed files find) cache := by rw [← hmoved]
  rcases moved.run_sync_cases ctx (.fixed files find) cache with
    ⟨hsame, -, hsettled⟩ | ⟨-, -, hsame, -⟩
  · -- the question was asked before, and so is its answer what the cache has
    obtain ⟨q, hq, hquestioned⟩ := (Option.any_eq_true ..).1 (hsettled hneeds)
    rw [hquestion] at hquestioned
    simp only [FaceQuestion.same, Bool.and_eq_true] at hquestioned
    obtain ⟨⟨hidentity, hdir⟩, -⟩ := hquestioned
    rw [hasked] at hq
    have hdir' := hspelled q hq hdir
    obtain ⟨identity, dir, font⟩ := q
    obtain rfl : l.params.identity = identity := eq_of_beq hidentity
    obtain rfl : dir = new.bind Path.parent? := hdir'
    rw [hout, hsame.face]
    exact (congrArg (Option.map (·.face)) hface).trans (h.asked _ hq)
  · rw [hout, hsame.face, ← hunhinted]
    have hanswer := ctx.face_run_resolve files find moved.request cache
    rw [hrequest] at hanswer ⊢
    exact hanswer

theorem askedWithin_reached (p : LayerParams) (calls : List LayerCall) :
    (ctx.reached files find p calls).1.AskedWithin fun document =>
      document = none ∨ .setDocument document ∈ calls := by
  have hstart : ({ params := p } : TextLayer F).AskedWithin fun document =>
      document = none ∨ .setDocument document ∈ calls := ⟨.inl rfl, fun _ h => (nomatch h)⟩
  exact always_run (hstart.afterAll fun _ h => .inr h) (.fixed files find) .empty

/-- What a layer holds after its calls, a new document and a sync. -/
theorem face_reached_moved {p : LayerParams} {calls : List LayerCall} {new : Option String}
    (hnew : samePath? (ctx.reached files find p calls).1.document new = false)
    (hfile : (ctx.reached files find p calls).1.familyIsRelativeFile)
    (hspelled : ∀ document, .setDocument document ∈ calls →
      samePath? (new.bind Path.parent?) (document.bind Path.parent?) →
      document.bind Path.parent? = new.bind Path.parent?) :
    let params := (ctx.reached files find p calls).1.params
    let r : FaceRequest := {
      family := params.family, slant := params.slant, weight := params.weight
      documentDir := new.bind Path.parent? }
    (ctx.reached files find p (calls ++ [.setDocument new, .sync])).1.face.map (·.face) =
      ((remembered? (ctx.reached files find p calls).2 r.keys).map (·.2)).or
        ((ctx.config.choice find files r).map (·.2)) := by
  intro params r
  rw [show calls ++ [.setDocument new, .sync] = (calls ++ [.setDocument new]) ++ [.sync] by simp,
    reached_sync, reached_concat]
  refine face_moved (recalling_reached p calls) hnew hfile fun q hq hdir => ?_
  obtain ⟨document, hdocument, hplace⟩ := (askedWithin_reached p calls).asked q hq
  rw [hplace] at hdir ⊢
  rcases hdocument with rfl | hcall
  · cases hnone : new.bind Path.parent? with
    | none => rfl
    | some dir => simp [hnone, samePath?] at hdir
  · exact hspelled document hcall hdir

end TextContext

/-- On a cache, a request without a hint finds the file that it finds on an empty one, except if the
cache has another for all documents and none for the one of the request. -/
theorem SearchConfig.OwnCoherent.file_eq_iff {config : SearchConfig}
    {files : FontFileRef → Option F} {find : String → Slant → Weight → Option FontFileRef}
    {cache : FaceCache (FontFileRef × F)} (hcache : config.OwnCoherent find (tagged files) cache)
    {r : FaceRequest} (hr : r.fontFile = none) :
    (((remembered? cache r.keys).map (·.2)).or
        ((config.choice find (tagged files) r).map (·.2))).map Prod.fst =
      ((config.choice find (tagged files) r).map (·.2)).map Prod.fst ↔
    cache.own? r ≠ none ∨ ∀ face, cache.get? r.identity = some face →
      some face.1 = ((config.choice find (tagged files) r).map (·.2)).map Prod.fst := by
  rw [FaceCache.remembered?_keys]
  cases hown : cache.own? r with
  | some face =>
    obtain ⟨n, c, hfound⟩ := hcache.own hr hown
    simp [hfound]
  | none => cases hshared : cache.get? r.identity <;> simp

namespace TextContext

variable (ctx : TextContext (FontFileRef × F)) (files : FontFileRef → Option F)
  (find : String → Slant → Weight → Option FontFileRef)

/-- **A family that is the name of a file, next to a new document**: when the layer has moved to
another document, a sync leaves it with the file that a new layer would find there, except if it
held a face before from another file, under its family, slant and weight for all documents, and
never one for the new directory. Directories of documents are spelled in one way. -/
theorem reload_iff (p : LayerParams) (calls : List LayerCall) (new : Option String)
    (hnew : samePath? (ctx.reached (tagged files) find p calls).1.document new = false)
    (hfile : (ctx.reached (tagged files) find p calls).1.familyIsRelativeFile)
    (hspelled : ∀ document, .setDocument document ∈ calls →
      samePath? (new.bind Path.parent?) (document.bind Path.parent?) →
      document.bind Path.parent? = new.bind Path.parent?) :
    let params := (ctx.reached (tagged files) find p calls).1.params
    let r : FaceRequest := {
      family := params.family, slant := params.slant, weight := params.weight
      documentDir := new.bind Path.parent? }
    let fresh := fileOf (ctx.config.answer find (tagged files) .empty r)
    let moved := (ctx.reached (tagged files) find p (calls ++ [.setDocument new, .sync])).1
    moved.face.map (·.face.1) = fresh ↔
      (∃ a dir, ctx.HeldAfterSync (tagged files) find p calls a ∧ r.scope = some dir ∧
        a.identity = r.identity.within (some dir)) ∨
      ∀ a, ctx.HeldAfterSync (tagged files) find p calls a → a.identity = r.identity →
        some a.face.1 = fresh := by
  intro params r fresh moved
  have hfresh : fresh = ((ctx.config.choice find (tagged files) r).map (·.2)).map Prod.fst := by
    rw [← SearchConfig.toOption_answer_empty, ← SearchConfig.fileOf_eq]
  have hface : moved.face.map (·.face.1) =
      (((remembered? (ctx.reached (tagged files) find p calls).2 r.keys).map (·.2)).or
        ((ctx.config.choice find (tagged files) r).map (·.2))).map Prod.fst := by
    have hmoved := congrArg (Option.map Prod.fst) (face_reached_moved hnew hfile hspelled)
    rw [Option.map_map] at hmoved
    exact hmoved
  have hheld := ctx.get?_reached_iff (tagged files) find p calls
  rw [hface, hfresh, (recalling_reached p calls).own.file_eq_iff rfl]
  refine or_congr ⟨fun h => ?_, fun h hnone => ?_⟩
    ⟨fun h a ha hidentity => ?_, fun h face hface => ?_⟩
  · obtain ⟨face, hown⟩ := Option.ne_none_iff_exists'.1 h
    obtain ⟨dir, hdir, hkept⟩ := Option.bind_eq_some_iff.1 hown
    obtain ⟨a, ha, hidentity, -⟩ := (hheld _ _).1 hkept
    exact ⟨a, dir, ha, hdir, hidentity⟩
  · obtain ⟨a, dir, ha, hdir, hidentity⟩ := h
    have hkept := (hheld _ _).2 ⟨a, ha, hidentity, rfl⟩
    rw [FaceCache.own?_eq_none_iff.1 hnone dir hdir] at hkept
    cases hkept
  · exact h _ ((hheld _ _).2 ⟨a, ha, hidentity, rfl⟩)
  · obtain ⟨a, ha, hidentity, rfl⟩ := (hheld _ _).1 hface
    exact h a ha hidentity

/-- A missing face.ttf is replaced by Arial for all documents, also for one that has a face.ttf of
its own. -/
theorem reload_ne :
    let files : FontFileRef → Option Unit := fun file =>
      if file.path ∈ ["arial.ttf", "/docs/b/face.ttf"] then some () else none
    let find := fun (_ : String) (_ : Slant) (_ : Weight) => (none : Option FontFileRef)
    let ctx : TextContext (FontFileRef × Unit) := {
      view := fun _ => default, config := { useMatcher := false, useSystemDirs := false } }
    let calls : List LayerCall := [.setParam "family" (.string "face.ttf"), .sync]
    let new := some "/docs/b/two.sifz"
    let l := (ctx.reached (tagged files) find {} calls).1
    let moved := (ctx.reached (tagged files) find {} (calls ++ [.setDocument new, .sync])).1
    samePath? l.document new = false ∧ l.familyIsRelativeFile ∧
      fileOf (ctx.config.answer find (tagged files) .empty
        { family := "face.ttf", documentDir := some "/docs/b" }) = some ⟨"/docs/b/face.ttf", 0⟩ ∧
      moved.face.map (·.face.1) = some ⟨"arial.ttf", 0⟩ := by
  decide +kernel

/-- A document that has found its own face.ttf before finds it again, whatever was found since. -/
theorem reload_own :
    let files : FontFileRef → Option Unit := fun file =>
      if file.path ∈ ["arial.ttf", "/docs/b/face.ttf"] then some () else none
    let find := fun (_ : String) (_ : Slant) (_ : Weight) => (none : Option FontFileRef)
    let ctx : TextContext (FontFileRef × Unit) := {
      view := fun _ => default, config := { useMatcher := false, useSystemDirs := false } }
    let calls : List LayerCall := [.setParam "family" (.string "face.ttf"),
      .setDocument (some "/docs/b/one.sifz"), .sync, .setDocument none, .sync]
    let new := some "/docs/b/two.sifz"
    let l := (ctx.reached (tagged files) find {} calls).1
    let r : FaceRequest := {
      family := l.params.family, slant := l.params.slant, weight := l.params.weight
      documentDir := new.bind Path.parent? }
    l.face.map (·.face.1) = some ⟨"arial.ttf", 0⟩ ∧
      ((∃ a dir, ctx.HeldAfterSync (tagged files) find {} calls a ∧ r.scope = some dir ∧
          a.identity = r.identity.within (some dir)) ∨
        ∀ a, ctx.HeldAfterSync (tagged files) find {} calls a → a.identity = r.identity →
          some a.face.1 = fileOf (ctx.config.answer find (tagged files) .empty r)) := by
  intro files find ctx calls new l r
  have hspelled : ∀ document, .setDocument document ∈ calls →
      samePath? (new.bind Path.parent?) (document.bind Path.parent?) →
      document.bind Path.parent? = new.bind Path.parent? := by
    intro document h
    obtain rfl | rfl : document = some "/docs/b/one.sifz" ∨ document = none := by
      simpa [calls] using h
    · decide +kernel
    · decide +kernel
  have hnew : samePath? l.document new = false := by decide +kernel
  have hfile : l.familyIsRelativeFile := by decide +kernel
  have hreload := ctx.reload_iff files find {} calls new hnew hfile hspelled
  refine ⟨by decide +kernel, ?_⟩
  refine hreload.1 ?_
  decide +kernel

end TextContext

end Lettering
