import Mathlib.Logic.Function.Basic
import Lettering.Layer.Sync
import Lettering.Proofs.Font.Query
import Lettering.Proofs.Layer.Write

/-!
# Layers that share a context

A `Scene` is any number of layers over one context, with the faces that they remember together. A
`LayerCall` is what a host asks of one of them: a write, which may be refused, a document, or a
sync. `Scene.run` carries out calls in their order, on whichever layers and in any world that
answers for the files.

What every call on a layer keeps, whatever the cache, the loader and the matcher answer, holds of
every layer after every run (`Scene.run_keeps`).
-/

namespace Lettering

open FontQuery

/-- What a host asks of a layer. -/
inductive LayerCall
  | setParam (name : String) (v : ParamValue)
  | setDocument (document : Option String)
  | sync

/-- Layers over one context, with the faces remembered. -/
structure Scene (F ι : Type) where
  layers : ι → TextLayer F
  cache : FaceCache F

variable {F ι : Type}

/-- The layer after a call, also after a write that is refused. -/
def TextLayer.after (ctx : TextContext F) (l : TextLayer F) : LayerCall → FontQuery F (TextLayer F)
  | .setParam name v => .done ((TextLayer.store name v).run.run l).2
  | .setDocument document => .done (l.setDocument document).2
  | .sync => (l.sync ctx).bind fun answer => .done answer.2

theorem TextLayer.after_setParam (ctx : TextContext F) (l : TextLayer F) (name : String)
    (v : ParamValue) : l.after ctx (.setParam name v) = .done (l.offered name v) := by
  rw [after, run_store]

namespace Scene

/-- New layers with some parameters. -/
def start (params : ι → LayerParams) (cache : FaceCache F) : Scene F ι where
  layers i := { params := params i }
  cache

section Run

variable [DecidableEq ι] {m : Type → Type} [Monad m] (ctx : TextContext F) (source : FontSource m F)

/-- Carry out a call on a layer. -/
def call (s : Scene F ι) (c : ι × LayerCall) : m (Scene F ι) := do
  let answer ← ((s.layers c.1).after ctx c.2).run source s.cache
  return { layers := Function.update s.layers c.1 answer.1, cache := answer.2 }

/-- Carry out calls one after the other. -/
def run (s : Scene F ι) (calls : List (ι × LayerCall)) : m (Scene F ι) :=
  calls.foldlM (call ctx source) s

@[simp] theorem run_cons (s : Scene F ι) (c : ι × LayerCall) (calls : List (ι × LayerCall)) :
    s.run ctx source (c :: calls) = s.call ctx source c >>= fun t => t.run ctx source calls :=
  List.foldlM_cons

theorem run_append [LawfulMonad m] (s : Scene F ι) (xs ys : List (ι × LayerCall)) :
    s.run ctx source (xs ++ ys) = s.run ctx source xs >>= fun t => t.run ctx source ys :=
  List.foldlM_append

end Run

section Keeps

variable [DecidableEq ι] {σ : Type} {ctx : TextContext F} {P : ι → TextLayer F → Prop}

/-- What the calls on a layer keep is kept for all layers by each call on one of them. -/
theorem call_keeps (hP : ∀ i l c, P i l → (l.after ctx c).Always (P i)) {s : Scene F ι}
    (hs : ∀ i, P i (s.layers i)) (source : FontSource (StateM σ) F) (c : ι × LayerCall)
    (world : σ) (i : ι) : P i (((s.call ctx source c).run world).1.layers i) := by
  change P i (Function.update s.layers c.1
    (((s.layers c.1).after ctx c.2).run source s.cache world).1.1 i)
  by_cases h : i = c.1
  · subst h
    rw [Function.update_self]
    exact always_run_state (hP c.1 _ c.2 (hs c.1)) source s.cache world
  · rw [Function.update_of_ne h]
    exact hs i

theorem run_keeps (hP : ∀ i l c, P i l → (l.after ctx c).Always (P i)) {s : Scene F ι}
    (hs : ∀ i, P i (s.layers i)) (source : FontSource (StateM σ) F)
    (calls : List (ι × LayerCall)) (world : σ) (i : ι) :
    P i (((s.run ctx source calls).run world).1.layers i) := by
  induction calls generalizing s world with
  | nil => exact hs i
  | cons c rest ih =>
    rw [run_cons]
    exact ih (fun j => call_keeps hP hs source c world j) _

end Keeps

end Scene

end Lettering
