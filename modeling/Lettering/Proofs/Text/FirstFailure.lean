import Lettering.Proofs.Text.Segment

/-!
# The first failure

Where values are collected one after the other, the first failure ends the matter: nothing is asked
for behind it, and it is the answer. A program that `Asks` for some elements does so in a world that
keeps a record; programs in sequence ask for what both ask for (`Asks.bind`), and collecting asks
for everything that its parts ask for (`Asks.mapM`).

Segmenting a text fails exactly if the reorderer does for a line that is not empty, and with the
failure of the first such line (`Segmenter.failure?_segment?`). Otherwise there is one line for each
piece of the text (`Segmenter.forall₂_of_segment?_eq_ok`).
-/

namespace Lettering

variable {α β γ δ ε : Type}

/-- What went wrong, if anything did. -/
def failure? : Except ε α → Option ε
  | .error e => some e
  | .ok _ => none

/-- What goes wrong with the first of some elements with which anything does. -/
def firstFailure (f : α → Except ε β) (as : List α) : Option ε :=
  as.findSome? fun a => failure? (f a)

/-- The elements up to the first with a failure, and that one. -/
def askedFor (f : α → Except ε β) : List α → List α
  | [] => []
  | a :: rest => a :: if (failure? (f a)).isSome then [] else askedFor f rest

/-- Ask for the value of an element, and record for which. -/
def recording (f : α → Except ε β) (a : α) : ExceptT ε (StateM (List α)) β :=
  fun record => (f a, record ++ [a])

theorem failure?_map (g : α → β) (x : Except ε α) : failure? (g <$> x) = failure? x := by
  cases x <;> rfl

theorem firstFailure_append (f : α → Except ε β) (as bs : List α) :
    firstFailure f (as ++ bs) = (firstFailure f as).or (firstFailure f bs) :=
  List.findSome?_append

theorem firstFailure_cons (f : α → Except ε β) (a : α) (as : List α) :
    firstFailure f (a :: as) = (failure? (f a)).or (firstFailure f as) := by
  rw [firstFailure, List.findSome?_cons]
  cases failure? (f a) <;> rfl

/-- Elements that cannot fail may be left out. -/
theorem firstFailure_filter {f : α → Except ε β} {g : α → Except ε γ} {p : α → Bool}
    (h : ∀ a, failure? (f a) = if p a then failure? (g a) else none) (as : List α) :
    firstFailure f as = firstFailure g (as.filter p) := by
  induction as with
  | nil => rfl
  | cons a rest ih =>
    rw [firstFailure_cons, h, ih]
    cases hp : p a with
    | true => rw [List.filter_cons_of_pos hp, firstFailure_cons, if_pos rfl]
    | false => rw [List.filter_cons_of_neg (by simp [hp]), if_neg (by simp), Option.none_or]

theorem askedFor_append (f : α → Except ε β) (as bs : List α) :
    askedFor f (as ++ bs) =
      askedFor f as ++ if (firstFailure f as).isSome then [] else askedFor f bs := by
  induction as with
  | nil => rfl
  | cons a rest ih =>
    rw [List.cons_append, askedFor, askedFor, firstFailure_cons, ih]
    cases failure? (f a) <;> rfl

theorem askedFor_subset (f : α → Except ε β) (as : List α) : askedFor f as ⊆ as := by
  induction as with
  | nil => exact List.Subset.refl []
  | cons a rest ih =>
    rw [askedFor]
    split
    · simp
    · exact List.cons_subset_cons a ih

/-! ## Programs that ask -/

/-- The program asks for the values of some elements in their order, up to the first without one. It
answers `x`, which is a failure exactly if there is one among the elements. -/
structure Asks (f : α → Except ε β) (as : List α) (q : ExceptT ε (StateM (List α)) γ)
    (x : Except ε γ) : Prop where
  run : ∀ record, q.run.run record = (x, record ++ askedFor f as)
  failure : failure? x = firstFailure f as

namespace Asks

variable {f : α → Except ε β}

theorem pure (c : γ) : Asks f [] (Pure.pure c) (.ok c) where
  run record := congrArg (Prod.mk _) (List.append_nil record).symm
  failure := rfl

theorem recording (a : α) : Asks f [a] (recording f a) (f a) where
  run record := by
    rw [askedFor, askedFor, ite_self]
    rfl
  failure := by
    rw [firstFailure_cons]
    exact (Option.or_none ..).symm

/-- Behind a failure nothing is asked for. -/
theorem bind {as bs : List α} {q : ExceptT ε (StateM (List α)) γ} {x : Except ε γ}
    {k : γ → ExceptT ε (StateM (List α)) δ} {y : γ → Except ε δ} (hq : Asks f as q x)
    (hk : ∀ c, Asks f bs (k c) (y c)) : Asks f (as ++ bs) (q >>= k) (x >>= y) where
  run record := by
    rw [ExceptT.run_bind, StateT.run_bind, hq.run, askedFor_append, ← hq.failure]
    cases x with
    | error e => exact congrArg (Prod.mk _) (by simp [failure?])
    | ok c => exact ((hk c).run _).trans (congrArg (Prod.mk _) (by simp [failure?]))
  failure := by
    rw [firstFailure_append, ← hq.failure]
    cases x with
    | error e => rfl
    | ok c => exact (hk c).failure

theorem map {as : List α} {q : ExceptT ε (StateM (List α)) γ} {x : Except ε γ} (hq : Asks f as q x)
    (g : γ → δ) : Asks f as (g <$> q) (g <$> x) := by
  have h := hq.bind fun c => Asks.pure (f := f) (g c)
  rw [List.append_nil] at h
  rw [map_eq_pure_bind, map_eq_pure_bind]
  exact h

/-- Collecting asks for everything that its parts ask for. -/
theorem mapM {parts : γ → List α} {q : γ → ExceptT ε (StateM (List α)) δ} {x : γ → Except ε δ}
    (h : ∀ c, Asks f (parts c) (q c) (x c)) (cs : List γ) :
    Asks f (cs.flatMap parts) (cs.mapM q) (cs.mapM x) := by
  induction cs with
  | nil => exact .pure []
  | cons c rest ih =>
    rw [List.mapM_cons, List.mapM_cons, List.flatMap_cons]
    refine (h c).bind fun d => ?_
    rw [← map_eq_pure_bind, ← map_eq_pure_bind]
    exact ih.map (d :: ·)

end Asks

theorem asks_mapM_recording (f : α → Except ε β) (as : List α) :
    Asks f as (as.mapM (recording f)) (as.mapM f) := by
  have h := Asks.mapM (Asks.recording (f := f)) as
  rwa [List.flatMap_singleton'] at h

/-- Collecting values fails with the first failure. -/
theorem failure?_mapM (f : α → Except ε β) (as : List α) :
    failure? (as.mapM f) = firstFailure f as :=
  (asks_mapM_recording f as).failure

/-! ## Lines -/

namespace Segmenter

/-- Putting a line into display order fails only if the reorderer does, and the line is not
empty. -/
theorem failure?_order (s : Segmenter) (direction : Direction) (line : List Char) :
    failure? (s.order direction line) = s.reorderer.bind fun r =>
      if !line.isEmpty then failure? (r.reorder line direction) else none := by
  obtain ⟨_ | r, scripts⟩ := s
  · rw [order_none]
    rfl
  · rw [order_some]
    cases line <;> rfl

/-- Segmenting fails with the reorderer, and with its first failure. -/
theorem failure?_segment? (s : Segmenter) (text : String) (direction : Direction) :
    failure? (s.segment? text direction) = s.reorderer.bind fun r =>
      firstFailure (r.reorder · direction)
        ((splitLines (normalizeText text.toList)).filter (!·.isEmpty)) := by
  have hline : ∀ line : List Char,
      failure? (do return ⟨s.spans (← s.order direction line)⟩ : Except Error Line) =
        s.reorderer.bind fun r =>
          if !line.isEmpty then failure? (r.reorder line direction) else none := fun line =>
    (failure?_map (fun ordered => Line.mk (s.spans ordered)) _).trans (s.failure?_order _ _)
  rw [segment?, failure?_mapM]
  cases hr : s.reorderer with
  | none => exact List.findSome?_eq_none_iff.2 fun line _ => by rw [hline, hr]; rfl
  | some r => exact firstFailure_filter (fun line => by rw [hline, hr]; rfl) _

/-- If segmenting does not fail, there is one line for each piece of the text, in display order. -/
theorem forall₂_of_segment?_eq_ok {s : Segmenter} {text : String} {direction : Direction}
    {lines : List Line} (h : s.segment? text direction = .ok lines) :
    List.Forall₂ (fun piece line => s.order direction piece = .ok line.chars ∧
      line.spans = s.spans line.chars) (splitLines (normalizeText text.toList)) lines :=
  (mapM_eq_ok_iff.1 h).imp fun _ line => (s.spans_eq_ok_iff _ line).1

end Segmenter

end Lettering
