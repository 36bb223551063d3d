import Lettering.Proofs.Font.Scope

/-!
# What a warm cache answers

Earlier requests leave faces in the cache that later requests find. Among files that do not change a
request without a hint succeeds on the cache they leave exactly if it succeeds on an empty one. Its
face comes from the same file, too, unless it was `SearchConfig.Overtaken`: the same request, made
for another document or for none, was answered by a file that all documents share before anyone
asked next to this document, where another file would have been found
(`SearchConfig.answer_warmed_iff`).

The proof follows one request through the history. It starts out unknown to the cache, and the first
request that finds something for it, next to its document or for all documents, settles what it will
be answered from then on.
-/

namespace Lettering

open FontQuery

variable {F : Type}

/-- The file that the face of an answer was loaded from. -/
def fileOf (answer : Except FontError (ResolvedFace (FontFileRef × F))) : Option FontFileRef :=
  answer.toOption.map fun r => r.face.1

namespace SearchConfig

variable (config : SearchConfig) (find : String → Slant → Weight → Option FontFileRef)

section History

variable (files : FontFileRef → Option F)

/-- The answer to a request on a cache. -/
def answer (cache : FaceCache F) (r : FaceRequest) : Except FontError (ResolvedFace F) :=
  ((config.resolve r).run (.fixed files find) cache).1

/-- The cache that some requests leave behind, one after the other. -/
def warmed (cache : FaceCache F) (earlier : List FaceRequest) : FaceCache F :=
  earlier.foldl (fun cache r => ((config.resolve r).run (.fixed files find) cache).2) cache

@[simp] theorem warmed_cons (cache : FaceCache F) (q : FaceRequest) (rest : List FaceRequest) :
    config.warmed find files cache (q :: rest) =
      config.warmed find files ((config.resolve q).run (.fixed files find) cache).2 rest := rfl

/-- Nothing being remembered, the request is served for all documents at once. -/
def ServedForAll (r : FaceRequest) : Prop :=
  ∃ a, config.answer find files .empty r = .ok a ∧ a.identity.scope = none

/-- One of the earlier requests asked the same and was served for all documents at once, before any
asked the same for the document of `r`. -/
def SettledForAll (earlier : List FaceRequest) (r : FaceRequest) : Prop :=
  ∃ before q after, earlier = before ++ q :: after ∧ q.identity = r.identity ∧
    config.ServedForAll find files q ∧
    ∀ p ∈ before, p.identity = r.identity → p.scope ≠ r.scope

variable {config find files}

/-! ### Growing caches -/

theorem Coherent.warmed {cache : FaceCache F} (hcache : config.Coherent find files cache)
    {earlier : List FaceRequest} (hearlier : ∀ q ∈ earlier, q.fontFile = none) :
    config.Coherent find files (config.warmed find files cache earlier) := by
  induction earlier generalizing cache with
  | nil => exact hcache
  | cons q rest ih =>
    exact ih (hcache.run_resolve (hearlier q (by simp))) fun p hp => hearlier p (by simp [hp])

/-- A request leaves the cache as it was, or fills a place that was empty. -/
theorem get?_run_resolve {cache : FaceCache F} (q : FaceRequest) {key : FontIdentity} {face : F}
    (h : cache.get? key = some face) :
    ((config.resolve q).run (.fixed files find) cache).2.get? key = some face := by
  rcases config.run_resolve_cache_cases find files q cache with
    hrun | ⟨n, c, f, hmiss, -, hrun⟩
  · rw [hrun, h]
  · rw [hrun, FaceCache.get?_put_of_miss hmiss h c f]

theorem own?_warmed {cache : FaceCache F} (earlier : List FaceRequest) {r : FaceRequest} {face : F}
    (h : cache.own? r = some face) :
    (config.warmed find files cache earlier).own? r = some face := by
  induction earlier generalizing cache with
  | nil => exact h
  | cons q rest ih =>
    obtain ⟨dir, hdir, hface⟩ := Option.bind_eq_some_iff.1 h
    exact ih (Option.bind_eq_some_iff.2 ⟨dir, hdir, get?_run_resolve q hface⟩)

/-! ### One request in a history -/

/-- Once a face is shared, none is kept for the document any more. -/
theorem own?_run_resolve_of_shared {cache : FaceCache F} {r : FaceRequest} {face : F}
    (hown : cache.own? r = none) (hshared : cache.get? r.identity = some face) (q : FaceRequest) :
    ((config.resolve q).run (.fixed files find) cache).2.own? r = none := by
  rcases config.run_resolve_cache_cases find files q cache with
    hrun | ⟨n, c, f, hmiss, -, hrun⟩
  · rw [hrun, hown]
  · rw [hrun, FaceCache.own?_put_of_miss hmiss hshared c f, hown]

variable (config find files) in
theorem shared_warmed {cache : FaceCache F} (earlier : List FaceRequest) {r : FaceRequest}
    {face : F} (hown : cache.own? r = none) (hshared : cache.get? r.identity = some face) :
    (config.warmed find files cache earlier).own? r = none ∧
      (config.warmed find files cache earlier).get? r.identity = some face := by
  induction earlier generalizing cache with
  | nil => exact ⟨hown, hshared⟩
  | cons q rest ih =>
    exact ih (own?_run_resolve_of_shared hown hshared q) (get?_run_resolve q hshared)

/-- A request is served for all documents if what it finds is not next to its own. -/
theorem servedForAll_iff_of_choice {q : FaceRequest} {n : Nat} {c : Candidate} {face : F}
    (hfound : config.choice find files q = some ((n, c), face)) :
    config.ServedForAll find files q ↔ c.origin ≠ .document := by
  have hrun := config.run_resolve_of_choice find files (FaceCache.remembered?_empty q.keys) hfound
  have hscope : c.origin ≠ .document ↔ (q.keyFor c).scope = none := by
    rw [ne_eq, scope_keyFor_ne_none hfound]
    exact Decidable.not_not
  rw [hscope, ServedForAll, answer, hrun]
  constructor
  · rintro ⟨a, ha, hnone⟩
    obtain rfl := Except.ok.inj ha
    exact hnone
  · intro hnone
    exact ⟨_, rfl, hnone⟩

theorem ServedForAll.exists_choice {q : FaceRequest} (h : config.ServedForAll find files q) :
    ∃ n c face, config.choice find files q = some ((n, c), face) ∧ c.origin ≠ .document := by
  rcases hfound : config.choice find files q with _ | ⟨⟨n, c⟩, face⟩
  · obtain ⟨a, ha, -⟩ := h
    rw [answer, config.run_resolve_of_no_choice find files (FaceCache.remembered?_empty q.keys)
      hfound] at ha
    cases ha
  · exact ⟨n, c, face, rfl, (servedForAll_iff_of_choice hfound).1 h⟩

/-- A request that finds nothing for `r` leaves it unknown. -/
theorem unknown_run_resolve {cache : FaceCache F} {q r : FaceRequest}
    (hown : cache.own? r = none) (hshared : cache.get? r.identity = none)
    (hq : q.identity = r.identity → q.scope ≠ r.scope ∧ ¬config.ServedForAll find files q) :
    ((config.resolve q).run (.fixed files find) cache).2.own? r = none ∧
      ((config.resolve q).run (.fixed files find) cache).2.get? r.identity = none := by
  rcases config.run_resolve_cache_cases find files q cache with
    hrun | ⟨n, c, f, -, hfound, hrun⟩
  · rw [hrun]
    exact ⟨hown, hshared⟩
  · -- a new entry for `r` would stand under one of its identities
    have hne : ∀ scope, (scope = none ∨ scope = r.scope) →
        r.identity.within scope ≠ q.keyFor c := by
      intro scope hscope hkey
      have hid : q.identity = r.identity := by
        simpa using (congrArg FontIdentity.unscoped hkey).symm
      obtain ⟨hother, hall⟩ := hq hid
      have horigin : c.origin = .document := Decidable.byContradiction fun h =>
        hall ((servedForAll_iff_of_choice hfound).2 h)
      rw [FaceRequest.keyFor, if_pos horigin] at hkey
      have hsame : scope = q.scope := congrArg FontIdentity.scope hkey
      rcases hscope with rfl | rfl
      · exact config.origin_ne_document find files hsame.symm hfound horigin
      · exact hother hsame.symm
    rw [hrun]
    constructor
    · refine FaceCache.own?_eq_none_iff.2 fun dir hdir => ?_
      rw [FaceCache.get?_put_of_ne _ (hne _ (.inr hdir.symm))]
      exact FaceCache.own?_eq_none_iff.1 hown dir hdir
    · exact (FaceCache.get?_put_of_ne cache (hne none (.inl rfl)) f).trans hshared

theorem settledForAll_cons {q r : FaceRequest} {rest : List FaceRequest} :
    config.SettledForAll find files (q :: rest) r ↔
      q.identity = r.identity ∧ config.ServedForAll find files q ∨
        (q.identity = r.identity → q.scope ≠ r.scope) ∧
          config.SettledForAll find files rest r := by
  constructor
  · rintro ⟨_ | ⟨p, before⟩, q', after, he, hid, hall, hbefore⟩
    · obtain ⟨rfl, rfl⟩ := List.cons.inj he
      exact .inl ⟨hid, hall⟩
    · obtain ⟨rfl, rfl⟩ := List.cons.inj he
      refine .inr ⟨hbefore q (by simp), before, q', after, rfl, hid, hall, ?_⟩
      exact fun p hp => hbefore p (by simp [hp])
  · rintro (⟨hid, hall⟩ | ⟨hq, before, q', after, rfl, hid, hall, hbefore⟩)
    · exact ⟨[], q, rest, rfl, hid, hall, by simp⟩
    · refine ⟨q :: before, q', after, rfl, hid, hall, fun p hp => ?_⟩
      rcases List.mem_cons.1 hp with rfl | hp
      · exact hq
      · exact hbefore p hp

/-- Asked for the same document, an unknown request that is served next to it has its own face from
then on. -/
theorem own?_run_resolve_of_document {cache : FaceCache F} {r : FaceRequest} {n : Nat}
    {c : Candidate} {face : F} (hfound : config.choice find files r = some ((n, c), face))
    (horigin : c.origin = .document) (hown : cache.own? r = none)
    (hshared : cache.get? r.identity = none) {q : FaceRequest} (hid : q.identity = r.identity)
    (hscope : q.scope = r.scope) (hhint : q.fontFile = r.fontFile) :
    ((config.resolve q).run (.fixed files find) cache).2.own? r = some face := by
  have hsame : config.choice find files q = some ((n, c), face) := by
    rw [config.choice_congr find files hid hscope hhint, hfound]
  have hmiss : remembered? cache q.keys = none := by
    rw [show q.keys = r.keys by rw [FaceRequest.keys, FaceRequest.keys, hid, hscope]]
    exact FaceCache.remembered?_keys_eq_none_iff.2 ⟨hown, hshared⟩
  obtain ⟨dir, hdir⟩ : ∃ dir, r.scope = some dir :=
    Option.ne_none_iff_exists'.1 fun h => config.origin_ne_document find files h hfound horigin
  rw [config.run_resolve_of_choice find files hmiss hsame, FaceRequest.keyFor, if_pos horigin, hid,
    hscope, hdir]
  exact Option.bind_eq_some_iff.2 ⟨dir, hdir, FaceCache.get?_put_self ..⟩

/-- Served for all documents, the same request leaves a shared face. -/
theorem shared_run_resolve {cache : FaceCache F} (hcache : config.Coherent find files cache)
    {q r : FaceRequest} (hq : q.fontFile = none) (hid : q.identity = r.identity)
    (hall : config.ServedForAll find files q) (hown : cache.own? r = none)
    (hshared : cache.get? r.identity = none) :
    ∃ face, ((config.resolve q).run (.fixed files find) cache).2.own? r = none ∧
      ((config.resolve q).run (.fixed files find) cache).2.get? r.identity = some face := by
  obtain ⟨n, c, face, hfound, horigin⟩ := hall.exists_choice
  have hmiss : remembered? cache q.keys = none := by
    refine FaceCache.remembered?_keys_eq_none_iff.2 ⟨?_, hid ▸ hshared⟩
    refine Option.eq_none_iff_forall_ne_some.2 fun f hf => ?_
    obtain ⟨n', c', hc, hdoc⟩ := hcache.own hq hf
    exact (servedForAll_iff_of_choice hc).1 hall hdoc
  have hrun := config.run_resolve_of_choice find files hmiss hfound
  rw [FaceRequest.keyFor, if_neg horigin, hid] at hrun
  rw [hrun]
  exact ⟨face, (FaceCache.own?_put_identity ..).trans hown, FaceCache.get?_put_self ..⟩

/-- A request served next to its document, unknown at first, finds a shared face in the end exactly
if it was settled for all documents. -/
theorem shared_warmed_iff {cache : FaceCache F} (hcache : config.Coherent find files cache)
    {earlier : List FaceRequest} (hearlier : ∀ q ∈ earlier, q.fontFile = none) {r : FaceRequest}
    (hr : r.fontFile = none) {n : Nat} {c : Candidate} {face : F}
    (hfound : config.choice find files r = some ((n, c), face)) (horigin : c.origin = .document)
    (hown : cache.own? r = none) (hshared : cache.get? r.identity = none) :
    ((config.warmed find files cache earlier).own? r = none ∧
        (config.warmed find files cache earlier).get? r.identity ≠ none) ↔
      config.SettledForAll find files earlier r := by
  induction earlier generalizing cache with
  | nil =>
    refine iff_of_false (fun h => h.2 hshared) ?_
    rintro ⟨before, q, after, h, -⟩
    simp at h
  | cons q rest ih =>
    have hq : q.fontFile = none := hearlier q (by simp)
    have hrest : ∀ p ∈ rest, p.fontFile = none := fun p hp => hearlier p (by simp [hp])
    -- a request that leaves `r` unknown leaves the matter to the rest
    have hlater (h : q.identity = r.identity →
        q.scope ≠ r.scope ∧ ¬config.ServedForAll find files q) := by
      obtain ⟨hown', hshared'⟩ := unknown_run_resolve hown hshared h
      exact ih (hcache.run_resolve hq) hrest hown' hshared'
    rw [warmed_cons, settledForAll_cons]
    by_cases hid : q.identity = r.identity
    · by_cases hscope : q.scope = r.scope
      · have hnow := own?_run_resolve_of_document hfound horigin hown hshared hid hscope
          (hq.trans hr.symm)
        have hnot : ¬config.ServedForAll find files q := by
          have hsame := config.choice_congr find files hid hscope (hq.trans hr.symm)
          exact fun hall => (servedForAll_iff_of_choice (hsame.trans hfound)).1 hall horigin
        simp [own?_warmed rest hnow, hnot, hid, hscope]
      · by_cases hall : config.ServedForAll find files q
        · obtain ⟨f, hown', hshared'⟩ := shared_run_resolve hcache hq hid hall hown hshared
          have hend := config.shared_warmed find files rest hown' hshared'
          simp [hend.1, hend.2, hid, hall]
        · rw [hlater fun _ => ⟨hscope, hall⟩]
          simp [hall, hscope]
    · rw [hlater fun h => absurd h hid]
      simp [hid]

/-! ### Answers -/

theorem toOption_answer_empty (r : FaceRequest) :
    (config.answer find files .empty r).toOption.map (·.face) =
      (config.choice find files r).map (·.2) :=
  config.toOption_run_resolve_of_miss find files (FaceCache.remembered?_empty r.keys)

/-- On a coherent cache a request finds what it would find anyway, or what it would find without
its document if only that is there. -/
theorem toOption_answer {cache : FaceCache F} (hcache : config.Coherent find files cache)
    {r : FaceRequest} (hr : r.fontFile = none) :
    (config.answer find files cache r).toOption.map (·.face) =
      if cache.own? r = none ∧ cache.get? r.identity ≠ none then
        (config.choice find files r.withoutDocument).map (·.2)
      else (config.choice find files r).map (·.2) := by
  have hknown := FaceCache.remembered?_keys cache r
  rw [answer]
  cases hown : cache.own? r with
  | some face =>
    obtain ⟨n, c, hfound, -⟩ := hcache.own hr hown
    rw [hown, Option.map_some, Option.some_or] at hknown
    rw [config.run_resolve_of_remembered find files hknown, hfound, if_neg (by simp)]
    rfl
  | none =>
    rw [hown, Option.map_none, Option.none_or] at hknown
    cases hshared : cache.get? r.identity with
    | some face =>
      obtain ⟨n, c, hfound⟩ := hcache.shared hr hshared
      rw [hshared, Option.map_some] at hknown
      rw [config.run_resolve_of_remembered find files hknown, hfound, if_pos (by simp)]
      rfl
    | none =>
      rw [hshared, Option.map_none] at hknown
      rw [config.toOption_run_resolve_of_miss find files hknown, if_neg (by simp)]

end History

section Files

variable (files : FontFileRef → Option F)

/-- The request finds another file next to its document than without, but was settled for all
documents before. -/
def Overtaken (earlier : List FaceRequest) (r : FaceRequest) : Prop :=
  fileOf (config.answer find (tagged files) .empty r.withoutDocument) ≠
      fileOf (config.answer find (tagged files) .empty r) ∧
    config.SettledForAll find (tagged files) earlier r

theorem fileOf_eq (answer : Except FontError (ResolvedFace (FontFileRef × F))) :
    fileOf answer = (answer.toOption.map (·.face)).map Prod.fst := by
  rw [fileOf, Option.map_map]
  rfl

theorem isOk_eq {G : Type} (answer : Except FontError (ResolvedFace G)) :
    answer.isOk = (answer.toOption.map (·.face)).isSome := by
  cases answer <;> rfl

/-- **A warm cache**: after any earlier requests without hints, such a request succeeds exactly if
it would on an empty cache, and finds the file that it would find there exactly if it was not
overtaken. -/
theorem answer_warmed_iff (earlier : List FaceRequest) (hearlier : ∀ q ∈ earlier, q.fontFile = none)
    (r : FaceRequest) (hr : r.fontFile = none) :
    let warm := config.answer find (tagged files)
      (config.warmed find (tagged files) .empty earlier) r
    let fresh := config.answer find (tagged files) .empty r
    (warm.isOk ↔ fresh.isOk) ∧
      (fileOf warm = fileOf fresh ↔ ¬config.Overtaken find files earlier r) := by
  have hcache : config.Coherent find (tagged files)
      (config.warmed find (tagged files) .empty earlier) :=
    (config.coherent_empty find (tagged files)).warmed hearlier
  simp only [isOk_eq, fileOf_eq, Overtaken, toOption_answer hcache hr, toOption_answer_empty]
  rcases hfound : config.choice find (tagged files) r with _ | ⟨⟨n, c⟩, face⟩
  · rw [config.choice_withoutDocument_of_none find (tagged files) hfound]
    simp
  · by_cases horigin : c.origin = .document
    · have hiff := shared_warmed_iff (config.coherent_empty find (tagged files)) hearlier hr hfound
        horigin (FaceCache.own?_empty r) rfl
      by_cases hsettled : config.SettledForAll find (tagged files) earlier r
      · obtain ⟨hown, hshared⟩ := hiff.2 hsettled
        obtain ⟨f, hf⟩ := Option.ne_none_iff_exists'.1 hshared
        obtain ⟨n', c', hfound'⟩ := hcache.shared hr hf
        simp [hsettled, hown, hf, hfound']
      · rw [if_neg (mt hiff.1 hsettled)]
        simp [hsettled]
    · rw [config.choice_withoutDocument find (tagged files) hfound horigin]
      simp

/-- Arial, which stands in for an unknown Custom, is remembered for all documents, also for one that
has a Custom of its own. -/
theorem answer_warmed_ne :
    let files : FontFileRef → Option Unit := fun file =>
      if file.path ∈ ["arial.ttf", "/doc/Custom.ttf"] then some () else none
    let config : SearchConfig := { useMatcher := false, useSystemDirs := false }
    let find := fun (_ : String) (_ : Slant) (_ : Weight) => (none : Option FontFileRef)
    let earlier : List FaceRequest := [{ family := "Custom" }]
    let r : FaceRequest := { family := "Custom", documentDir := some "/doc" }
    (∀ q ∈ earlier, q.fontFile = none) ∧ r.fontFile = none ∧
      fileOf (config.answer find (tagged files) .empty r) = some ⟨"/doc/Custom.ttf", 0⟩ ∧
      fileOf (config.answer find (tagged files)
        (config.warmed find (tagged files) .empty earlier) r) = some ⟨"arial.ttf", 0⟩ := by
  decide +kernel

/-- A document that was asked for first keeps its own Custom. -/
theorem answer_warmed_own :
    let files : FontFileRef → Option Unit := fun file =>
      if file.path ∈ ["arial.ttf", "/doc/Custom.ttf"] then some () else none
    let config : SearchConfig := { useMatcher := false, useSystemDirs := false }
    let find := fun (_ : String) (_ : Slant) (_ : Weight) => (none : Option FontFileRef)
    let r : FaceRequest := { family := "Custom", documentDir := some "/doc" }
    let earlier : List FaceRequest := [r, { family := "Custom" }]
    (∀ q ∈ earlier, q.fontFile = none) ∧ r.fontFile = none ∧
      ¬config.Overtaken find files earlier r := by
  intro files config find r earlier
  have hearlier : ∀ q ∈ earlier, q.fontFile = none := by decide
  refine ⟨hearlier, rfl, ?_⟩
  rw [← (config.answer_warmed_iff find files earlier hearlier r rfl).2]
  decide +kernel

end Files

end SearchConfig

end Lettering
