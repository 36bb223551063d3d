import Lettering.Proofs.Font.Plan

/-!
# The order in which files are tried

`SearchConfig.probeOrder` writes down, without candidates, steps and origins, the one list of files
that a request is tried with: eight attempts, in each the files that the family names, behind the one
that the request names, or the file of the matcher, then the known names, then the family as a name;
every name in all directories, and in each directory bare before it is tried with the extensions.

The loads of a request that the cache does not know are this list up to the first file that loads,
whose face is the answer (`SearchConfig.resolve_first_success`).
-/

namespace Lettering

open FontQuery

/-! ## The list -/

/-- A name and, unless it has one, the name with each extension. -/
def spellings (name : String) : List String :=
  if hasFontExtension name then [name] else name :: fontExtensions.map (name ++ ·)

/-- The files for a name: all spellings in the first directory, then in the second, and so on. The
directories do not matter to an absolute name. -/
def filesFor (dirs : List String) (name : String) : List FontFileRef :=
  if Path.isAbsolute name then (spellings name).map (⟨·, 0⟩)
  else dirs.flatMap fun dir => (spellings name).map fun n => ⟨Path.join dir n, 0⟩

namespace SearchConfig

/-- The paths of the directories that are searched, in order. -/
def searchPaths (config : SearchConfig) (documentDir : Option String) : List String :=
  "" :: (documentDir.filter (!·.isEmpty)).toList ++ config.extraDirs ++
    if config.useSystemDirs then systemFontDirs else []

variable (config : SearchConfig) (find : String → Slant → Weight → Option FontFileRef)

/-- The files of an attempt. -/
def attemptOrder (dirs : List String) (hint : Option String) (family : String) (slant : Slant)
    (weight : Weight) : List FontFileRef :=
  let name := trimBlanks family
  if name = "" then []
  else
    (if namesFile name then hint.toList.map (⟨·, 0⟩) ++ filesFor dirs name
    else if config.useMatcher then (find name slant weight).toList else []) ++
    (candidateNames name slant weight).flatMap (filesFor dirs) ++
    filesFor dirs name

/-- The files of all attempts: the weight is given up first, then the slant, then both, then the
family. -/
def probeOrder (r : FaceRequest) : List FontFileRef :=
  let files := config.attemptOrder find (config.searchPaths r.documentDir) r.fontFile
  files r.family r.slant r.weight ++
    files r.family r.slant .normal ++
    files r.family .normal r.weight ++
    files r.family .normal .normal ++
    files config.defaultFamily r.slant r.weight ++
    files config.defaultFamily r.slant .normal ++
    files config.defaultFamily .normal r.weight ++
    files config.defaultFamily .normal .normal

end SearchConfig

/-! ## The candidates are on the list -/

theorem Path.empty_join (path : String) : Path.join "" path = path := by
  unfold Path.join
  split
  · rfl
  · simp

namespace Candidate

theorem map_file_inDir (name : String) (step : ResolveStep) (dir : SearchDir) :
    (inDir name step dir).map file = (spellings name).map fun n => ⟨Path.join dir.path n, 0⟩ := by
  unfold inDir spellings
  split
  · rfl
  · simp [SearchDir.locate]

theorem map_file_named (dirs : List SearchDir) (step : ResolveStep) (name : String) :
    (named dirs step name).map file = filesFor (dirs.map SearchDir.path) name := by
  unfold named filesFor
  split
  · rw [map_file_inDir]
    simp [SearchDir.working, Path.empty_join]
  · simp [List.map_flatMap, List.flatMap_map, map_file_inDir]

end Candidate

namespace SearchConfig

theorem map_path_dirs (config : SearchConfig) (documentDir : Option String) :
    (config.dirs documentDir).map SearchDir.path = config.searchPaths documentDir := by
  simp [dirs, searchPaths, SearchDir.working, Function.comp_def]

variable (config : SearchConfig) (find : String → Slant → Weight → Option FontFileRef)

theorem toList_asked (a : Attempt) (hname : a.name ≠ "") (hfile : namesFile a.name = false) :
    (config.asked find a).toList =
      if config.useMatcher then (find a.name a.slant a.weight).toList else [] := by
  simp only [asked, Attempt.asksMatcher, hfile, bne_iff_ne, Bool.not_false, Bool.and_true,
    Bool.and_eq_true, ne_eq, hname, not_false_eq_true, and_true]
  split <;> rfl

/-- The candidates that come before the known names. -/
theorem map_file_direct (a : Attempt) (dirs : List SearchDir) (hint : Option String)
    (hname : a.name ≠ "") :
    (if namesFile a.name then
      hint.toList.map (fun path => (⟨⟨path, 0⟩, .fontFile, .relative⟩ : Candidate)) ++
        Candidate.named dirs .fontFile a.name
    else (config.asked find a).toList.map fun file => ⟨file, .matcher, .system⟩).map
        Candidate.file =
      if namesFile a.name then
        hint.toList.map (⟨·, 0⟩) ++ filesFor (dirs.map SearchDir.path) a.name
      else if config.useMatcher then (find a.name a.slant a.weight).toList else [] := by
  by_cases hfile : namesFile a.name
  · rw [if_pos hfile, if_pos hfile, List.map_append, List.map_map, Candidate.map_file_named]
    rfl
  · rw [if_neg hfile, if_neg hfile, List.map_map,
      ← toList_asked config find a hname (by simpa using hfile)]
    exact List.map_id _

theorem map_file_candidates (a : Attempt) (dirs : List SearchDir) (hint : Option String) :
    (a.candidates dirs hint (config.asked find a)).map Candidate.file =
      config.attemptOrder find (dirs.map SearchDir.path) hint a.family a.slant a.weight := by
  have hn : trimBlanks a.family = a.name := rfl
  simp only [Attempt.candidates, attemptOrder, hn]
  by_cases hname : a.name = ""
  · rw [if_pos hname, if_pos hname, List.map_nil]
  · rw [if_neg hname, if_neg hname]
    simp only [List.map_append, List.map_flatMap, Candidate.map_file_named,
      map_file_direct config find a dirs hint hname]

theorem map_file_numbered (dirs : List SearchDir) (hint : Option String) (n : Nat)
    (attempts : List Attempt) :
    (config.numbered find dirs hint n attempts).map (fun c => c.2.file) =
      attempts.flatMap fun a =>
        config.attemptOrder find (dirs.map SearchDir.path) hint a.family a.slant a.weight := by
  induction attempts generalizing n with
  | nil => rfl
  | cons a rest ih =>
    simp only [numbered, List.map_append, List.map_map, Function.comp_def, ih, List.flatMap_cons,
      ← map_file_candidates]

theorem map_file_plan (r : FaceRequest) :
    (config.plan find r).map (fun c => c.2.file) = config.probeOrder find r := by
  rw [plan, map_file_numbered, map_path_dirs]
  simp [Attempt.all, probeOrder]

end SearchConfig

/-! ## The loads of a request -/

namespace FontQuery

variable {F C : Type} (files : FontFileRef → Option F)

/-- A search either stops at its first success or goes through the whole list. -/
theorem search_cases (file : C → FontFileRef) (cs : List C) :
    (∃ before c after face, cs = before ++ c :: after ∧ (∀ b ∈ before, files (file b) = none) ∧
      files (file c) = some face ∧ firstLoading files file cs = some (c, face) ∧
      loadsUntil files (cs.map file) = before.map file ++ [file c]) ∨
    (∀ c ∈ cs, files (file c) = none) ∧ firstLoading files file cs = none ∧
      loadsUntil files (cs.map file) = cs.map file := by
  cases hfound : firstLoading files file cs with
  | none =>
    have hall : ∀ c ∈ cs, files (file c) = none := by
      simpa [firstLoading] using hfound
    refine .inr ⟨hall, rfl, ?_⟩
    have hlog := loadsUntil_append files (List.forall_mem_map.2 hall) []
    rwa [List.append_nil, loadsUntil, List.append_nil] at hlog
  | some found =>
    obtain ⟨before, c, after, rfl, hc, hnone⟩ := List.findSome?_eq_some_iff.1 hfound
    obtain ⟨face, hface, rfl⟩ := Option.map_eq_some_iff.1 hc
    have hbefore : ∀ b ∈ before, files (file b) = none := by simpa using hnone
    refine .inl ⟨before, c, after, face, rfl, hbefore, hface, rfl, ?_⟩
    rw [List.map_append, List.map_cons]
    exact loadsUntil_append_cons files (List.forall_mem_map.2 hbefore) hface

end FontQuery

namespace SearchConfig

variable {F : Type} (config : SearchConfig)
  (find : String → Slant → Weight → Option FontFileRef) (files : FontFileRef → Option F)

/-- The run of a request that the cache does not know is the run of its search. -/
theorem run_resolve_logged {r : FaceRequest} {cache : FaceCache F}
    (hmiss : remembered? cache r.keys = none) (log : List FontFileRef) :
    ((config.resolve r).run (.logged files find) cache).run log =
      ((conclude r (config.choice find files r)).run (.logged files find) cache).run
        (log ++ loadsUntil files (config.probeOrder find r)) := by
  rw [← run_withMatcher fun _ _ _ => rfl, withMatcher_resolve, run_bind, run_firstRemembered,
    pure_bind, hmiss, run_bind, StateT.run_bind, run_firstThatLoads_logged, map_file_plan, choice]
  generalize firstLoading files (fun c => c.2.file) (config.plan find r) = found
  rfl

/-- **First success over one list**: the loads of a request that is not remembered are the files of
`probeOrder` up to the first that loads. Its face is the answer, and is remembered for the identity
that was asked for; if no file loads, the request fails and nothing is remembered. -/
theorem resolve_first_success (r : FaceRequest) (cache : FaceCache F)
    (hscoped : ∀ dir, r.scope = some dir → cache.get? (r.identity.within (some dir)) = none)
    (hshared : cache.get? r.identity = none) :
    (∃ before file after face resolved,
      config.probeOrder find r = before ++ file :: after ∧ (∀ f ∈ before, files f = none) ∧
      files file = some face ∧
      ((config.resolve r).run (.logged files find) cache).run [] =
        ((.ok resolved, cache.put resolved.identity face), before ++ [file]) ∧
      resolved.face = face ∧ resolved.path? = some file.path ∧
      resolved.identity.unscoped = r.identity) ∨
    (∀ f ∈ config.probeOrder find r, files f = none) ∧
      ((config.resolve r).run (.logged files find) cache).run [] =
        ((.error (.noFaceAvailable r.family), cache), config.probeOrder find r) := by
  have hmiss : remembered? cache r.keys = none :=
    FaceCache.remembered?_keys_eq_none_iff.2 ⟨FaceCache.own?_eq_none_iff.2 hscoped, hshared⟩
  rw [run_resolve_logged config find files hmiss, ← map_file_plan, List.nil_append, choice]
  rcases search_cases files (fun c => c.2.file) (config.plan find r) with
    ⟨before, ⟨n, c⟩, after, face, hplan, hbefore, hface, hfound, hloads⟩ | ⟨hall, hfound, hloads⟩
  · refine .inl ⟨before.map fun c => c.2.file, c.file, after.map fun c => c.2.file, face,
      { face, identity := r.keyFor c, source := .file n c }, ?_, ?_, hface, ?_, rfl, rfl,
      r.unscoped_keyFor c⟩
    · rw [hplan, List.map_append, List.map_cons]
    · exact List.forall_mem_map.2 hbefore
    · rw [hfound, hloads]
      rfl
  · refine .inr ⟨List.forall_mem_map.2 hall, ?_⟩
    rw [hfound, hloads]
    rfl

/-- A file found earlier that is gone is tried once, before the file that the family names. -/
theorem resolve_first_success_hint :
    let files : FontFileRef → Option String := fun file =>
      if file.path = "My.ttf" then some "mine" else none
    let config : SearchConfig := { useMatcher := false, useSystemDirs := false }
    let r : FaceRequest := { family := "My.ttf", fontFile := some "/old/My.ttf" }
    (∀ dir, r.scope = some dir →
        (.empty : FaceCache String).get? (r.identity.within (some dir)) = none) ∧
      (.empty : FaceCache String).get? r.identity = none ∧
      ∃ resolved, resolved.face = "mine" ∧ resolved.path? = some "My.ttf" ∧
        ((config.resolve r).run (.logged files fun _ _ _ => none) .empty).run [] =
          ((.ok resolved, FaceCache.empty.put resolved.identity "mine"),
            [⟨"/old/My.ttf", 0⟩, ⟨"My.ttf", 0⟩]) := by
  intro files config r
  have hscoped : ∀ dir, r.scope = some dir →
      (.empty : FaceCache String).get? (r.identity.within (some dir)) = none := fun _ _ => rfl
  refine ⟨hscoped, rfl, ?_⟩
  have hlist : loadsUntil files (config.probeOrder (fun _ _ _ => none) r) =
      [⟨"/old/My.ttf", 0⟩, ⟨"My.ttf", 0⟩] := by
    decide +kernel
  rcases config.resolve_first_success (fun _ _ _ => none) files r .empty hscoped rfl with
    ⟨before, file, after, face, resolved, horder, hbefore, hface, hrun, rfl, hpath, -⟩ | ⟨hall, -⟩
  · obtain ⟨hfile, hmine⟩ : file.path = "My.ttf" ∧ "mine" = resolved.face := by
      simpa [files] using hface
    rw [horder, loadsUntil_append_cons files hbefore hface] at hlist
    rw [hlist, ← hmine] at hrun
    exact ⟨resolved, hmine.symm, hpath.trans (congrArg some hfile), hrun⟩
  · -- the file of the family is on the list, so the search does not fail
    have hmem : ⟨"My.ttf", 0⟩ ∈ config.probeOrder (fun _ _ _ => none) r := by decide +kernel
    have hload : files ⟨"My.ttf", 0⟩ = some "mine" := by decide
    rw [hall _ hmem] at hload
    cases hload

/-- A search tries an empty path as it stands; a request that is put together drops it. -/
example :
    let config : SearchConfig := { useMatcher := false, useSystemDirs := false }
    let r : FontRequest := { family := "My.ttf", fontFile := some "" }
    (config.probeOrder (fun _ _ _ => none) r.toFaceRequest).head? = some ⟨"", 0⟩ ∧
      (config.probeOrder (fun _ _ _ => none) r.built).head? = some ⟨"My.ttf", 0⟩ := by
  decide +kernel

end SearchConfig

end Lettering
