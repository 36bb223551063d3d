import Lettering.Proofs.Layer.FindFace

/-!
# What a sync leaves alone

A layer is `TextLayer.Reachable` if calls of a host lead to it from a new layer, whatever was
remembered, loaded and matched at each of them. The layers of a scene are reachable
(`Scene.reachable_run`).

A sync for which the face need not be found asks nobody: it is a program that is done, with one of
two results (`TextLayer.sync_of_served`). The other stages are left out by their own sets of
changes. Together they say that a sync of a reachable layer does no more than what is pending asks
for (`TextLayer.sync_within_pending`).

That a moved layer keeps its path needs an invariant of its own: the geometry of a layer always
shows the path of the layer (`TextLayer.ShowsPath`), also while its place is stale.
-/

namespace Lettering

open FontQuery

variable {F : Type}

theorem FaceQuestion.same_refl (q : FaceQuestion) : q.same q := by
  have hpath : samePath? q.documentDir q.documentDir := by
    cases q.documentDir with
    | none => rfl
    | some dir => exact beq_self_eq_true (Path.components dir)
  rw [same, hpath, beq_self_eq_true, beq_self_eq_true]
  rfl

namespace TextLayer

/-! ## Reachable layers -/

/-- A layer that a host can bring about: a new one, or one that a call leaves of such a layer. The
faces remembered and the world may have changed in any way since the call before. -/
inductive Reachable (ctx : TextContext F) : TextLayer F → Prop
  | new (params : LayerParams) : Reachable ctx { params }
  | call {l : TextLayer F} (h : Reachable ctx l) (c : LayerCall) {σ : Type}
      (source : FontSource (StateM σ) F) (cache : FaceCache F) (world : σ) :
      Reachable ctx ((l.after ctx c).run source cache world).1.1

variable {ctx : TextContext F} {l : TextLayer F}

/-- Reachable layers have what new layers have and every call keeps. -/
theorem Reachable.invariant {P : TextLayer F → Prop} (hnew : ∀ params, P { params })
    (hcall : ∀ l c, P l → (l.after ctx c).Always P) (h : l.Reachable ctx) : P l := by
  induction h with
  | new params => exact hnew params
  | call _ c source cache world ih => exact always_run_state (hcall _ c ih) source cache world

theorem Reachable.tracked (h : l.Reachable ctx) : l.Tracked ctx :=
  h.invariant (fun params => tracked_start params none) fun _ c htracked => htracked.after c

/-- The geometry, if there is one, shows the path of the layer. -/
def ShowsPath (l : TextLayer F) : Prop := ∀ g, l.geometry = some g → g.path = l.path

theorem showsPath_renew (ctx : TextContext F) (changes : Changes) (first : Bool)
    (l : TextLayer F) : (l.renew ctx changes first).ShowsPath := by
  intro g hg
  obtain rfl := Option.some.inj hg
  rfl

theorem ShowsPath.setDocument (h : l.ShowsPath) (document : Option String) :
    (l.setDocument document).2.ShowsPath := by
  rcases l.setDocument_cases document with ⟨-, hmove⟩ | ⟨-, changes, hmove, -⟩ <;> rw [hmove]
  · exact h
  · exact h

theorem ShowsPath.offered (h : l.ShowsPath) (name : String) (v : ParamValue) :
    (l.offered name v).ShowsPath := by
  unfold TextLayer.offered
  split
  · exact h
  · exact h

theorem ShowsPath.sync (h : l.ShowsPath) :
    (l.sync ctx).Always fun answer => answer.2.ShowsPath := by
  rcases sync_cases ctx l with ⟨-, g, -, hsync⟩ | hsync
  · rw [hsync, always_done]
    exact h
  · rw [hsync, update_eq, bind_assoc, always_bind]
    exact always_of_forall (fun found => showsPath_renew ctx _ _ found) _

theorem ShowsPath.after (h : l.ShowsPath) (c : LayerCall) : (l.after ctx c).Always ShowsPath := by
  cases c with
  | setParam name v =>
    rw [after_setParam, always_done]
    exact h.offered name v
  | setDocument document => exact h.setDocument document
  | sync =>
    unfold TextLayer.after
    rw [always_bind]
    exact h.sync

theorem Reachable.showsPath (h : l.Reachable ctx) : l.ShowsPath := by
  refine h.invariant (fun params g hg => ?_) fun _ c hshows => hshows.after c
  cases hg

end TextLayer

/-- The layers of a scene stay reachable. -/
theorem Scene.reachable_run {ι σ : Type} [DecidableEq ι] {ctx : TextContext F} {s : Scene F ι}
    (hs : ∀ i, (s.layers i).Reachable ctx) (source : FontSource (StateM σ) F)
    (calls : List (ι × LayerCall)) (world : σ) (i : ι) :
    (((s.run ctx source calls).run world).1.layers i).Reachable ctx := by
  induction calls generalizing s world with
  | nil => exact hs i
  | cons c rest ih =>
    rw [run_cons]
    refine ih (s := ((s.call ctx source c).run world).1) (fun j => ?_) _
    change (Function.update s.layers c.1
      (((s.layers c.1).after ctx c.2).run source s.cache world).1.1 j).Reachable ctx
    by_cases hj : j = c.1
    · subst hj
      rw [Function.update_self]
      exact .call (hs c.1) c.2 source s.cache world
    · rw [Function.update_of_ne hj]
      exact hs j

/-! ## What each stage leaves alone -/

namespace Changes

theorem needsLines_eq_false_iff {a : Changes} :
    a.needsLines = false ↔ ∀ c ∈ [Change.font, .text, .direction], a.contains c = false := by
  have htouch : ∀ c : Change, c.touchesLines ↔ c ∈ [Change.font, .text, .direction] := by
    intro c
    cases c <;> decide
  simp only [Bool.eq_false_iff, ne_eq, needsLines_iff, not_exists, not_and]
  exact forall_congr' fun c => by rw [← htouch, imp_not_comm]

theorem needsLayout_eq_false_of_only {a : Changes} (h : ∀ c, a.contains c → c = .transform) :
    a.needsLayout = false := by
  rw [Bool.eq_false_iff, ne_eq, needsLayout_iff]
  rintro ⟨c, hc, htouch⟩
  rw [h c hc] at htouch
  cases htouch

end Changes

namespace TextLayer

variable {ctx : TextContext F} {l : TextLayer F}

theorem lines_renew {changes : Changes} (h : changes.needsLines = false) (first : Bool) :
    (l.renew ctx changes first).lines = l.lines := by
  unfold renew
  rw [if_neg (by simp [h])]
  split
  · rfl
  · rfl

theorem renew_of_not_needsLayout {changes : Changes} (h : changes.needsLayout = false) :
    l.renew ctx changes false = l.renewGeometry ctx := by
  simp [renew, h, Changes.needsLines_eq_false h]

/-- A face that need not be found, or has been found for the same question, is not looked for: the
sync has nothing to do, or asks nobody for what is left to do. -/
theorem sync_of_served (ctx : TextContext F)
    (h : l.pending.contains .font → l.asked.any l.question.same) :
    let rest : TextLayer F := { l with pending := .empty }
    let next := rest.renew ctx l.pending l.geometry.isNone
    (∃ g, l.pending.isEmpty ∧ l.geometry = some g ∧ l.sync ctx = .done (g, rest)) ∨
      l.sync ctx = .done (next.placed ctx, next) := by
  intro rest next
  rcases sync_cases ctx l with ⟨hp, g, hg, hsync⟩ | hsync
  · exact .inl ⟨g, hp, hg, hsync⟩
  · have hface : (if l.pending.needsFace then rest.findFace ctx else .done rest) = .done rest := by
      by_cases hneeds : l.pending.needsFace
      · have hserved : rest.asked.any rest.question.same := h hneeds
        rw [if_pos hneeds, findFace_eq, if_pos hserved]
      · rw [if_neg hneeds]
    refine .inr ?_
    rw [hsync, update_eq, hface]
    rfl

/-- A sync for which no face is looked for leaves the face and the parameters. -/
theorem sync_keeps_face (ctx : TextContext F)
    (h : l.pending.contains .font → l.asked.any l.question.same) :
    ∃ g next, l.sync ctx = .done (g, next) ∧ next.face = l.face ∧ next.params = l.params := by
  rcases sync_of_served ctx h with ⟨g, -, -, hsync⟩ | hsync
  · exact ⟨g, _, hsync, rfl, rfl⟩
  · have hsame := renew_sameFace ctx l.pending l.geometry.isNone { l with pending := .empty }
    exact ⟨_, _, hsync, hsame.face, hsame.params⟩

/-- A sync without a stale line leaves the lines. -/
theorem sync_keeps_lines (ctx : TextContext F) (h : l.pending.needsLines = false) :
    ∃ g next, l.sync ctx = .done (g, next) ∧ next.lines = l.lines := by
  have hface : l.pending.contains .font = false :=
    Changes.needsLines_eq_false_iff.1 h .font (by simp)
  rcases sync_of_served ctx (l := l) (by simp [hface]) with ⟨g, -, -, hsync⟩ | hsync
  · exact ⟨g, _, hsync, rfl⟩
  · exact ⟨_, _, hsync, lines_renew h _⟩

/-- A sync that only moves a layer leaves everything but the place. -/
theorem Tracked.sync_moves (h : l.Tracked ctx) (hpath : l.ShowsPath)
    (hpending : ∀ c, l.pending.contains c → c = .transform) :
    ∃ g transform bounds, l.geometry = some g ∧ l.placed ctx = { g with transform, bounds } ∧
      l.sync ctx =
        .done (l.placed ctx, { l with pending := .empty, geometry := some (l.placed ctx) }) := by
  have hlayout := Changes.needsLayout_eq_false_of_only hpending
  have hfont : l.pending.contains .font = false :=
    Bool.eq_false_iff.2 fun hfont => by cases hpending .font hfont
  obtain ⟨g, hg⟩ : ∃ g, l.geometry = some g := by
    refine Option.ne_none_iff_exists'.1 fun hnone => ?_
    rw [h.new hnone] at hfont
    cases hfont
  have hplaced : l.placed ctx =
      { g with transform := (l.placed ctx).transform, bounds := (l.placed ctx).bounds } := by
    rw [hpath g hg]
    rfl
  refine ⟨g, _, _, hg, hplaced, ?_⟩
  rcases sync_of_served ctx (l := l) (by simp [hfont]) with ⟨g', hp, hg', hsync⟩ | hsync
  · -- with nothing pending, what is kept is already in its place
    have hcurrent : l.geometry = some (l.placed ctx) := by
      rw [h.geometry hp, placed_eq (h.path hlayout)]
    obtain rfl := Option.some.inj (hg'.symm.trans hcurrent)
    rw [hsync, ← hcurrent]
  · rw [hsync, hg, Option.isNone_some, renew_of_not_needsLayout hlayout]
    rfl

/-- With nothing pending, a sync gives what it gave before and changes nothing. -/
theorem sync_of_settled (hp : l.pending = .empty) {g : TextGeometry} (hg : l.geometry = some g) :
    l.sync ctx = .done (g, l) := by
  cases l
  cases hp
  cases hg
  rfl

/-- The answer to a question answers the question that there is afterwards, too. -/
theorem served_answered (l : TextLayer F) (face : Option (ResolvedFace F)) :
    (l.answered face).asked.any (l.answered face).question.same :=
  FaceQuestion.same_refl (l.answered face).question

/-- A sync that looks for the face leaves its own question, with the file as it then is, as the one
that was answered. -/
theorem sync_asks (ctx : TextContext F) (h : l.pending.contains .font) :
    (l.sync ctx).Always fun answer => answer.2.asked.any answer.2.question.same := by
  obtain ⟨finish, hsync, hsame⟩ := l.sync_eq ctx
  have hfinish : ∀ found : TextLayer F, found.asked.any found.question.same →
      (finish found).2.asked.any (finish found).2.question.same := by
    intro found hfound
    simpa only [question, documentDir, (hsame found).asked, (hsame found).params,
      (hsame found).document] using hfound
  rw [hsync, always_bind, refreshFace, if_pos (show l.pending.needsFace from h), findFace_eq]
  split
  · rename_i hserved
    exact hfinish _ hserved
  · rw [always_bind]
    exact always_of_forall (fun answer => hfinish _ (served_answered _ answer.toOption)) _

/-- **A sync does no more than what is pending asks for.** For every reachable layer:

* If the font is not stale, or the question is the one answered last, the sync asks neither the
  cache nor the loader nor the matcher, and leaves the face and all parameters.
* If neither font nor text nor direction is stale, it leaves the lines.
* If nothing but the place is stale, it changes nothing but the map and the box of the geometry.
* A second sync asks nobody, gives the same geometry and changes nothing; and if the font was stale,
  the question that the layer then has is the one answered last. -/
theorem sync_within_pending (h : l.Reachable ctx) :
    ((l.pending.contains .font → l.asked.any l.question.same) →
      ∃ g next, l.sync ctx = .done (g, next) ∧ next.face = l.face ∧ next.params = l.params) ∧
    ((∀ c ∈ [Change.font, .text, .direction], l.pending.contains c = false) →
      ∃ g next, l.sync ctx = .done (g, next) ∧ next.lines = l.lines) ∧
    ((∀ c, l.pending.contains c → c = .transform) →
      ∃ g transform bounds, l.geometry = some g ∧ l.placed ctx = { g with transform, bounds } ∧
        l.sync ctx =
          .done (l.placed ctx, { l with pending := .empty, geometry := some (l.placed ctx) })) ∧
    (l.sync ctx).Always fun answer => answer.2.sync ctx = .done answer ∧
      (l.pending.contains .font → answer.2.asked.any answer.2.question.same) := by
  refine ⟨sync_keeps_face ctx, fun hlines => ?_, h.tracked.sync_moves h.showsPath, ?_⟩
  · exact sync_keeps_lines ctx (Changes.needsLines_eq_false_iff.2 hlines)
  · have hagain : (l.sync ctx).Always fun answer => answer.2.sync ctx = .done answer :=
      h.tracked.sync.mono fun answer hanswer => sync_of_settled hanswer.1.settled hanswer.2.1
    by_cases hfont : l.pending.contains .font
    · exact (hagain.and (sync_asks ctx hfont)).mono fun _ hboth => ⟨hboth.1, fun _ => hboth.2⟩
    · exact hagain.mono fun _ hanswer => ⟨hanswer, fun hstale => absurd hstale hfont⟩

/-- A layer that has found Arial in one world, and is then moved in another one without it. -/
theorem sync_within_pending_moved :
    let ctx : TextContext Face := {
      view := id, config := { useMatcher := false, useSystemDirs := false } }
    let source : FontSource (StateM Nat) Face := {
      load := fun file n => (if file.path = "arial.ttf" ∧ n < 100 then some default else none, n + 1)
      find := fun _ _ _ n => (none, n + 1) }
    let synced := ((({} : TextLayer Face).after ctx .sync).run source .empty 0).1.1
    let moved :=
      ((synced.after ctx (.setParam "origin" (.vector ⟨1, 2⟩))).run source .empty 100).1.1
    moved.Reachable ctx ∧ moved.face.isSome ∧ moved.pending.contains .transform ∧
      (∀ c, moved.pending.contains c → c = .transform) ∧
      ∃ g transform bounds, moved.geometry = some g ∧
        moved.placed ctx = { g with transform, bounds } ∧
        moved.sync ctx = .done (moved.placed ctx,
          { moved with pending := .empty, geometry := some (moved.placed ctx) }) := by
  intro ctx source synced moved
  have hsynced : synced.Reachable ctx := Reachable.call (.new {}) .sync source .empty 0
  have hreachable : moved.Reachable ctx :=
    Reachable.call hsynced (.setParam "origin" (.vector ⟨1, 2⟩)) source .empty 100
  have hpending : ∀ c, moved.pending.contains c → c = .transform := by
    intro c
    cases c <;> decide +kernel
  refine ⟨hreachable, by decide +kernel, by decide +kernel, hpending, ?_⟩
  exact (sync_within_pending hreachable).2.2.1 hpending

end TextLayer

end Lettering
