import Lettering.Proofs.Font.Plan

/-!
# Documents and what is remembered for them

Among files that do not change, what serves a request without a hint is settled by its two
identities: the one of its document and the one without (`SearchConfig.choice_congr`). The plan
without the document is the plan with the candidates of the document left out
(`SearchConfig.plan_withoutDocument`), so a face found elsewhere is found for every document.

A cache is `SearchConfig.Coherent` if every entry is what its own identity would find, next to the
document exactly if the identity has one. Requests without a hint keep a cache coherent
(`SearchConfig.Coherent.run_resolve`).
-/

namespace Lettering

open FontQuery

variable {F C : Type}

namespace FaceRequest

/-- The directory of a document has a name. -/
theorem scope_filter (r : FaceRequest) : r.scope.filter (!·.isEmpty) = r.scope := by
  rw [scope, Option.filter_filter]
  simp only [Bool.and_self]

/-- The same request outside of documents. -/
def withoutDocument (r : FaceRequest) : FaceRequest := { r with documentDir := none }

end FaceRequest

/-- The request that an identity stands for, without a hint. -/
def FontIdentity.request (key : FontIdentity) : FaceRequest :=
  { family := key.family, slant := key.slant, weight := key.weight, documentDir := key.scope }

/-! ## The candidates of a document -/

/-- A candidate that is not next to the document. -/
def Candidate.isShared (c : Candidate) : Bool := c.origin != .document

namespace Candidate

theorem origin_of_mem_inDir {name : String} {step : ResolveStep} {dir : SearchDir} {c : Candidate}
    (h : c ∈ inDir name step dir) : c.origin = dir.origin := by
  obtain ⟨n, -, rfl⟩ := List.mem_map.1 h
  rfl

theorem filter_isShared_inDir (name : String) (step : ResolveStep) (dir : SearchDir) :
    (inDir name step dir).filter isShared =
      if dir.origin = .document then [] else inDir name step dir := by
  split
  · rename_i h
    refine List.filter_eq_nil_iff.2 fun c hc => ?_
    simp [isShared, origin_of_mem_inDir hc, h]
  · rename_i h
    refine List.filter_eq_self.2 fun c hc => ?_
    simp [isShared, origin_of_mem_inDir hc, h]

theorem filter_isShared_named (dirs : List SearchDir) (step : ResolveStep) (name : String) :
    (named dirs step name).filter isShared =
      named (dirs.filter fun dir => dir.origin != .document) step name := by
  unfold named
  split
  · rw [filter_isShared_inDir]
    rfl
  · induction dirs with
    | nil => rfl
    | cons dir rest ih =>
      rw [List.flatMap_cons, List.filter_append, filter_isShared_inDir, ih]
      by_cases h : dir.origin = .document <;> simp [h]

end Candidate

theorem Attempt.filter_isShared_candidates (a : Attempt) (dirs : List SearchDir)
    (hint : Option String) (matched : Option FontFileRef) :
    (a.candidates dirs hint matched).filter Candidate.isShared =
      a.candidates (dirs.filter fun dir => dir.origin != .document) hint matched := by
  have hflat : ∀ names : List String,
      (names.flatMap (Candidate.named dirs .knownName)).filter Candidate.isShared =
        names.flatMap (Candidate.named (dirs.filter fun dir => dir.origin != .document)
          .knownName) := by
    intro names
    induction names with
    | nil => rfl
    | cons n rest ih =>
      rw [List.flatMap_cons, List.filter_append, Candidate.filter_isShared_named, ih,
        List.flatMap_cons]
  have hhint : (hint.toList.map fun path => (⟨⟨path, 0⟩, .fontFile, .relative⟩ : Candidate)).filter
      Candidate.isShared = hint.toList.map fun path => ⟨⟨path, 0⟩, .fontFile, .relative⟩ := by
    cases hint <;> rfl
  have hmatched : (matched.toList.map fun file => (⟨file, .matcher, .system⟩ : Candidate)).filter
      Candidate.isShared = matched.toList.map fun file => ⟨file, .matcher, .system⟩ := by
    cases matched <;> rfl
  unfold candidates
  split
  · rfl
  · rw [List.filter_append, List.filter_append, hflat, Candidate.filter_isShared_named]
    split
    · rw [List.filter_append, hhint, Candidate.filter_isShared_named]
    · rw [hmatched]

namespace SearchConfig

variable (config : SearchConfig) (find : String → Slant → Weight → Option FontFileRef)

theorem filter_dirs (documentDir : Option String) :
    (config.dirs documentDir).filter (fun dir => dir.origin != .document) = config.dirs none := by
  have hkeep : ∀ (origin : DirOrigin), origin ≠ .document → ∀ paths : List String,
      (paths.map fun path => SearchDir.mk path origin).filter (fun dir => dir.origin != .document) =
        paths.map fun path => SearchDir.mk path origin := by
    intro origin h paths
    refine List.filter_eq_self.2 fun dir hdir => ?_
    obtain ⟨path, -, rfl⟩ := List.mem_map.1 hdir
    simpa using h
  have hdrop : ∀ paths : List String,
      (paths.map fun path => SearchDir.mk path .document).filter
        (fun dir => dir.origin != .document) = [] := by
    intro paths
    refine List.filter_eq_nil_iff.2 fun dir hdir => ?_
    obtain ⟨path, -, rfl⟩ := List.mem_map.1 hdir
    simp
  simp only [dirs, List.filter_append, hkeep .extra (by decide), hkeep .system (by decide), hdrop]
  rfl

theorem filter_isShared_numbered (dirs : List SearchDir) (hint : Option String) (n : Nat)
    (attempts : List Attempt) :
    (config.numbered find dirs hint n attempts).filter (fun c => c.2.isShared) =
      config.numbered find (dirs.filter fun dir => dir.origin != .document) hint n attempts := by
  induction attempts generalizing n with
  | nil => rfl
  | cons a rest ih =>
    simp only [numbered, List.filter_append, ih, List.filter_map, Function.comp_def,
      ← Attempt.filter_isShared_candidates]

/-- Without the document, its candidates are missing from the plan and nothing else changes. -/
theorem plan_withoutDocument (r : FaceRequest) :
    config.plan find r.withoutDocument = (config.plan find r).filter fun c => c.2.isShared := by
  rw [plan, plan, filter_isShared_numbered, filter_dirs]
  rfl

theorem dirs_scope (r : FaceRequest) : config.dirs r.documentDir = config.dirs r.scope := by
  rw [dirs, dirs, r.scope_filter, FaceRequest.scope]

/-- The plan reads nothing of a request but its two identities and the hint. -/
theorem plan_congr {q r : FaceRequest} (hid : q.identity = r.identity) (hscope : q.scope = r.scope)
    (hhint : q.fontFile = r.fontFile) : config.plan find q = config.plan find r := by
  obtain ⟨hf, hs, hw, -⟩ := FontIdentity.mk.inj hid
  simp only [plan, dirs_scope, hscope, hhint, Attempt.all, hf, hs, hw]

end SearchConfig

/-! ## What is found -/

namespace FontQuery

variable (files : FontFileRef → Option F) (file : C → FontFileRef)

theorem firstLoading_filter_of_eq_some {cs : List C} {p : C → Bool} {c : C} {face : F}
    (h : firstLoading files file cs = some (c, face)) (hc : p c) :
    firstLoading files file (cs.filter p) = some (c, face) := by
  induction cs with
  | nil => simp [firstLoading] at h
  | cons d rest ih =>
    simp only [firstLoading, List.findSome?_cons] at h
    cases hd : files (file d) with
    | none =>
      rw [hd] at h
      have hrest := ih h
      by_cases hp : p d
      · rw [List.filter_cons_of_pos hp, firstLoading, List.findSome?_cons, hd]
        exact hrest
      · rw [List.filter_cons_of_neg hp]
        exact hrest
    | some other =>
      rw [hd] at h
      obtain ⟨rfl, rfl⟩ : d = c ∧ other = face := by simpa using h
      rw [List.filter_cons_of_pos hc, firstLoading, List.findSome?_cons, hd]
      rfl

theorem mem_of_firstLoading {cs : List C} {c : C} {face : F}
    (h : firstLoading files file cs = some (c, face)) : c ∈ cs ∧ files (file c) = some face := by
  obtain ⟨d, hd, hface⟩ := List.exists_of_findSome?_eq_some h
  obtain ⟨f, hf, he⟩ := Option.map_eq_some_iff.1 hface
  obtain ⟨rfl, rfl⟩ := Prod.mk.inj he
  exact ⟨hd, hf⟩

theorem firstLoading_eq_none_iff {cs : List C} :
    firstLoading files file cs = none ↔ ∀ c ∈ cs, files (file c) = none := by
  simp [firstLoading]

end FontQuery

namespace SearchConfig

variable (config : SearchConfig) (find : String → Slant → Weight → Option FontFileRef)
  (files : FontFileRef → Option F)

theorem choice_congr {q r : FaceRequest} (hid : q.identity = r.identity)
    (hscope : q.scope = r.scope) (hhint : q.fontFile = r.fontFile) :
    config.choice find files q = config.choice find files r := by
  rw [choice, choice, config.plan_congr find hid hscope hhint]

/-- What is found elsewhere is found for every document. -/
theorem choice_withoutDocument {r : FaceRequest} {n : Nat} {c : Candidate} {face : F}
    (h : config.choice find files r = some ((n, c), face)) (hc : c.origin ≠ .document) :
    config.choice find files r.withoutDocument = some ((n, c), face) := by
  rw [choice, plan_withoutDocument]
  exact firstLoading_filter_of_eq_some files _ h (by simpa [Candidate.isShared] using hc)

theorem choice_withoutDocument_of_none {r : FaceRequest} (h : config.choice find files r = none) :
    config.choice find files r.withoutDocument = none := by
  rw [choice, plan_withoutDocument, firstLoading_eq_none_iff]
  rw [choice, firstLoading_eq_none_iff] at h
  exact fun c hc => h c (List.mem_filter.1 hc).1

/-- Without a document nothing is found next to one. -/
theorem origin_ne_document {r : FaceRequest} (hr : r.scope = none) {n : Nat} {c : Candidate}
    {face : F} (h : config.choice find files r = some ((n, c), face)) : c.origin ≠ .document := by
  rw [config.choice_congr find files (q := r) (r := r.withoutDocument) rfl hr rfl, choice,
    plan_withoutDocument] at h
  have hmem := (mem_of_firstLoading files _ h).1
  simpa [Candidate.isShared] using (List.mem_filter.1 hmem).2

/-! ## Coherent caches -/

/-- Every entry is what its identity finds, and it has a scope exactly if it was found next to the
document. -/
def Coherent (cache : FaceCache F) : Prop :=
  ∀ key face, cache.get? key = some face → ∃ n c,
    config.choice find files key.request = some ((n, c), face) ∧
      (c.origin = .document ↔ key.scope ≠ none)

theorem coherent_empty : config.Coherent find files .empty := by
  intro key face h
  simp [FaceCache.get?_empty] at h

variable {config find files}

theorem choice_request_within {r : FaceRequest} (hr : r.fontFile = none) :
    config.choice find files (r.identity.within r.scope).request = config.choice find files r :=
  config.choice_congr find files rfl r.scope_filter hr.symm

theorem choice_request_identity {r : FaceRequest} (hr : r.fontFile = none) :
    config.choice find files r.identity.request =
      config.choice find files r.withoutDocument :=
  config.choice_congr find files rfl rfl hr.symm

/-- The face of a request is remembered with a scope exactly if it was found next to the
document. -/
theorem scope_keyFor_ne_none {r : FaceRequest} {n : Nat} {c : Candidate} {face : F}
    (h : config.choice find files r = some ((n, c), face)) :
    c.origin = .document ↔ (r.keyFor c).scope ≠ none := by
  unfold FaceRequest.keyFor
  by_cases horigin : c.origin = .document
  · rw [if_pos horigin]
    exact iff_of_true horigin fun hnone => config.origin_ne_document find files hnone h horigin
  · rw [if_neg horigin]
    exact iff_of_false horigin fun hsome => hsome rfl

/-- The identity under which a face is remembered finds it again. -/
theorem choice_request_keyFor {r : FaceRequest} (hr : r.fontFile = none) {n : Nat} {c : Candidate}
    {face : F} (h : config.choice find files r = some ((n, c), face)) :
    config.choice find files (r.keyFor c).request = some ((n, c), face) := by
  unfold FaceRequest.keyFor
  by_cases horigin : c.origin = .document
  · rw [if_pos horigin, choice_request_within hr, h]
  · rw [if_neg horigin, choice_request_identity hr]
    exact config.choice_withoutDocument find files h horigin

theorem Coherent.own {cache : FaceCache F} (hcache : config.Coherent find files cache)
    {r : FaceRequest} (hr : r.fontFile = none) {face : F} (h : cache.own? r = some face) :
    ∃ n c, config.choice find files r = some ((n, c), face) ∧ c.origin = .document := by
  obtain ⟨dir, hdir, hface⟩ := Option.bind_eq_some_iff.1 h
  rw [← hdir] at hface
  obtain ⟨n, c, hc, horigin⟩ := hcache _ face hface
  rw [choice_request_within hr] at hc
  refine ⟨n, c, hc, horigin.2 ?_⟩
  simp [FontIdentity.within, hdir]

theorem Coherent.shared {cache : FaceCache F} (hcache : config.Coherent find files cache)
    {r : FaceRequest} (hr : r.fontFile = none) {face : F} (h : cache.get? r.identity = some face) :
    ∃ n c, config.choice find files r.withoutDocument = some ((n, c), face) := by
  obtain ⟨n, c, hc, -⟩ := hcache _ face h
  exact ⟨n, c, choice_request_identity hr ▸ hc⟩

theorem Coherent.put {cache : FaceCache F} (hcache : config.Coherent find files cache)
    {r : FaceRequest} (hr : r.fontFile = none) {n : Nat} {c : Candidate} {face : F}
    (h : config.choice find files r = some ((n, c), face)) :
    config.Coherent find files (cache.put (r.keyFor c) face) := by
  intro key f hkey
  rcases FaceCache.get?_put_cases hkey with ⟨rfl, rfl⟩ | hold
  · exact ⟨n, c, choice_request_keyFor hr h, scope_keyFor_ne_none h⟩
  · exact hcache key f hold

/-- Requests without a hint keep a cache coherent. -/
theorem Coherent.run_resolve {cache : FaceCache F} (hcache : config.Coherent find files cache)
    {r : FaceRequest} (hr : r.fontFile = none) :
    config.Coherent find files ((config.resolve r).run (.fixed files find) cache).2 := by
  rcases config.run_resolve_cache_cases find files r cache with
    hrun | ⟨n, c, face, -, hfound, hrun⟩
  · rw [hrun]
    exact hcache
  · rw [hrun]
    exact hcache.put hr hfound

end SearchConfig

end Lettering
