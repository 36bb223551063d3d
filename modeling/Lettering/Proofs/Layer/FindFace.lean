import Lettering.Proofs.Font.Plan
import Lettering.Proofs.Layer.FromScratch

/-!
# The face of a layer

Only one stage of a sync looks for a face, and what comes after it leaves the face alone
(`TextLayer.sync_eq`). The stage asks for the identity of the parameters in the document of the
layer, with the file found earlier, unless that question has just been answered
(`TextLayer.findFace_eq`).
-/

namespace Lettering

open FontQuery

variable {F : Type}

/-- The request for an identity in a document, with the file found earlier. -/
def FontIdentity.requestIn (i : FontIdentity) (document : Option String) (font : String) :
    FaceRequest :=
  FontRequest.built {
    family := i.family, slant := i.slant, weight := i.weight
    documentDir := document.bind Path.parent?, fontFile := some font }

namespace TextLayer

/-- The request for the face of a layer. -/
def request (l : TextLayer F) : FaceRequest := l.params.identity.requestIn l.document l.params.font

/-- The layer with the answer to its request. -/
def answered (l : TextLayer F) (face : Option (ResolvedFace F)) : TextLayer F :=
  let font := (face.bind (·.path?)).getD l.params.font
  let l := { l with face, params := { l.params with font } }
  { l with asked := some l.question }

theorem findFace_eq (ctx : TextContext F) (l : TextLayer F) :
    l.findFace ctx =
      if l.asked.any l.question.same then .done l
      else (ctx.config.resolve l.request).bind fun answer => .done (l.answered answer.toOption) :=
  rfl

/-- The identity that was asked for last is that of the parameters. -/
def Asked (l : TextLayer F) : Prop := ∃ q, l.asked = some q ∧ q.identity = l.params.identity

/-- A question that was answered is a question for the same identity. -/
theorem asked_of_same {l : TextLayer F} (h : l.asked.any l.question.same) : l.Asked := by
  obtain ⟨q, hq, hsame⟩ := (Option.any_eq_true ..).1 h
  simp only [FaceQuestion.same, Bool.and_eq_true] at hsame
  exact ⟨q, hq, (eq_of_beq hsame.1.1).symm⟩

/-- Edits leave the face and the question alone. -/
theorem after_edit (ctx : TextContext F) (l : TextLayer F) {c : LayerCall} (hc : c ≠ .sync) :
    ∃ next : TextLayer F, l.after ctx c = .done next ∧ next.face = l.face ∧ next.asked = l.asked ∧
      (next.document = l.document ∨ c = .setDocument next.document) := by
  cases c with
  | setParam name v =>
    refine ⟨l.offered name v, l.after_setParam ctx name v, ?_⟩
    unfold offered
    split <;> exact ⟨rfl, rfl, .inl rfl⟩
  | setDocument document =>
    refine ⟨(l.setDocument document).2, rfl, ?_⟩
    rcases l.setDocument_cases document with ⟨-, hmove⟩ | ⟨-, changes, hmove, -⟩ <;> rw [hmove]
    · exact ⟨rfl, rfl, .inl rfl⟩
    · exact ⟨rfl, rfl, .inr rfl⟩
  | sync => exact absurd rfl hc

/-- The first stage of a sync. -/
def refreshFace (ctx : TextContext F) (l : TextLayer F) : FontQuery F (TextLayer F) :=
  if l.pending.needsFace then ({ l with pending := .empty } : TextLayer F).findFace ctx
  else .done { l with pending := .empty }

/-- After its first stage, a sync asks for nothing and leaves the request and the face. -/
theorem sync_eq (ctx : TextContext F) (l : TextLayer F) :
    ∃ finish : TextLayer F → TextGeometry × TextLayer F,
      l.sync ctx = (l.refreshFace ctx).bind (fun found => .done (finish found)) ∧
        ∀ found, (finish found).2.SameFace found := by
  rcases sync_cases ctx l with ⟨hp, geometry, -, hsync⟩ | hsync
  · refine ⟨fun found => (geometry, found), ?_, fun _ => ⟨rfl, rfl, rfl, rfl, rfl⟩⟩
    rw [hsync, refreshFace, Changes.needsFace_of_isEmpty hp]
    rfl
  · refine ⟨fun found => ((found.renew ctx l.pending l.geometry.isNone).placed ctx,
      found.renew ctx l.pending l.geometry.isNone), ?_, fun _ => renew_sameFace ..⟩
    rw [hsync, update_eq, bind_assoc]
    rfl

section Run

variable (ctx : TextContext F) (source : FontSource Id F) (l : TextLayer F) (cache : FaceCache F)

/-- A sync leaves the cache and the face of its first stage. -/
theorem run_sync_sameFace :
    ((l.sync ctx).run source cache).1.2.SameFace ((l.refreshFace ctx).run source cache).1 ∧
      ((l.sync ctx).run source cache).2 = ((l.refreshFace ctx).run source cache).2 := by
  obtain ⟨finish, hsync, hsame⟩ := l.sync_eq ctx
  rw [hsync, run_bind]
  exact ⟨hsame _, rfl⟩

theorem run_after_sync :
    (l.after ctx .sync).run source cache =
      (((l.sync ctx).run source cache).1.2, ((l.sync ctx).run source cache).2) := by
  rw [after, run_bind]
  rfl

theorem run_findFace_of_same (h : l.asked.any l.question.same) :
    (l.findFace ctx).run source cache = (l, cache) := by
  rw [findFace_eq, if_pos h]
  rfl

theorem run_findFace_of_not_same (h : ¬l.asked.any l.question.same) :
    (l.findFace ctx).run source cache =
      (l.answered ((ctx.config.resolve l.request).run source cache).1.toOption,
        ((ctx.config.resolve l.request).run source cache).2) := by
  rw [findFace_eq, if_neg h, run_bind]
  rfl

/-- A sync keeps the face, if it is not asked for one or has been before, or asks for one. -/
theorem run_sync_cases :
    (((l.sync ctx).run source cache).1.2.SameFace { l with pending := .empty } ∧
      ((l.sync ctx).run source cache).2 = cache ∧
      (l.pending.needsFace → l.asked.any l.question.same)) ∨
    (l.pending.needsFace ∧ ¬l.asked.any l.question.same ∧
      ((l.sync ctx).run source cache).1.2.SameFace
        (({ l with pending := .empty } : TextLayer F).answered
          ((ctx.config.resolve l.request).run source cache).1.toOption) ∧
      ((l.sync ctx).run source cache).2 = ((ctx.config.resolve l.request).run source cache).2) := by
  let rest : TextLayer F := { l with pending := .empty }
  obtain ⟨hsame, hcache⟩ := l.run_sync_sameFace ctx source cache
  rw [refreshFace] at hsame hcache
  by_cases hneeds : l.pending.needsFace
  · rw [if_pos hneeds] at hsame hcache
    by_cases hasked : l.asked.any l.question.same
    · rw [rest.run_findFace_of_same ctx source cache hasked] at hsame hcache
      exact .inl ⟨hsame, hcache, fun _ => hasked⟩
    · rw [rest.run_findFace_of_not_same ctx source cache hasked] at hsame hcache
      exact .inr ⟨hneeds, hasked, hsame, hcache⟩
  · rw [if_neg hneeds] at hsame hcache
    exact .inl ⟨hsame, hcache, fun h => absurd h hneeds⟩

end Run

end TextLayer

end Lettering
