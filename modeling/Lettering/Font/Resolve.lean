import Lettering.Error
import Lettering.Font.Alias
import Lettering.Font.Query
import Lettering.Font.Search
import Lettering.Text.Listing
import Lettering.Text.Quoted

/-!
# Finding the face for a request

`SearchConfig.resolve` first looks into the cache: under the identity of the request within its
document, then under the identity that all documents share. If neither is there it makes up to eight
attempts, from the request as it stands to the upright default family of normal weight. An attempt
tries the files in `Attempt.candidates` in order; the first that loads is the answer, and is
remembered under the identity of the request, within the document if it was found next to it.
-/

namespace Lettering

/-- What a search is asked for. -/
structure FaceRequest where
  family : String
  slant : Slant := .normal
  weight : Weight := .normal
  /-- The directory of the document. -/
  documentDir : Option String := none
  /-- A file that is tried first if the family names a file, whatever its path is. -/
  fontFile : Option String := none

namespace FaceRequest

/-- The identity of a request, for every document. -/
def identity (r : FaceRequest) : FontIdentity :=
  { family := r.family, slant := r.slant, weight := r.weight }

/-- The document of a request, as part of an identity. -/
def scope (r : FaceRequest) : Option String := r.documentDir.filter (!·.isEmpty)

/-- The identities under which the answer may be remembered. -/
def keys (r : FaceRequest) : List FontIdentity :=
  r.scope.toList.map (fun dir => r.identity.within (some dir)) ++ [r.identity]

end FaceRequest

/-- A request as a layer or a host puts it together, with the file found earlier. -/
structure FontRequest extends FaceRequest

namespace FontRequest

/-- The request for the search. A file found earlier with an empty path is none: only here, for a
search tries the file of its request as it stands. -/
def built (r : FontRequest) : FaceRequest :=
  { r.toFaceRequest with fontFile := r.fontFile.filter (!·.isEmpty) }

instance : Coe FontRequest FaceRequest := ⟨built⟩

end FontRequest

/-- Which rule found a file. -/
inductive ResolveStep
  /-- The family, or the file found earlier, named it. -/
  | fontFile
  | matcher
  /-- It is a file name known for the family. -/
  | knownName
  /-- It is called like the family. -/
  | literal
  deriving DecidableEq, Repr

namespace ResolveStep

/-- The name in listings. -/
def name : ResolveStep → String
  | fontFile => "FontFile"
  | matcher => "Matcher"
  | knownName => "Alias"
  | literal => "Literal"

end ResolveStep

/-- A file to try. -/
structure Candidate where
  file : FontFileRef
  step : ResolveStep
  origin : DirOrigin
  deriving DecidableEq, Repr

namespace Candidate

/-- The files for a name in one directory: the bare name and then, unless it has one, the name with
each extension. -/
def inDir (name : String) (step : ResolveStep) (dir : SearchDir) : List Candidate :=
  let extensions := if hasFontExtension name then [] else fontExtensions
  (name :: extensions.map (name ++ ·)).map fun n => ⟨⟨dir.locate n, 0⟩, step, dir.origin⟩

/-- The files for a name: in every directory, unless the name is absolute. -/
def named (dirs : List SearchDir) (step : ResolveStep) (name : String) : List Candidate :=
  if Path.isAbsolute name then inDir name step .working
  else dirs.flatMap (inDir name step)

end Candidate

/-- A family in a slant and weight that may serve a request. -/
structure Attempt where
  family : String
  slant : Slant
  weight : Weight
  deriving DecidableEq, Repr

namespace Attempt

/-- The attempts for a request, best first. -/
def all (r : FaceRequest) (defaultFamily : String) : List Attempt :=
  [r.family, defaultFamily].flatMap fun family =>
    [⟨family, r.slant, r.weight⟩, ⟨family, r.slant, .normal⟩, ⟨family, .normal, r.weight⟩,
      ⟨family, .normal, .normal⟩]

/-- The family without blanks around it. -/
def name (a : Attempt) : String := trimBlanks a.family

/-- Whether the matcher is asked: it knows families, not files. -/
def asksMatcher (a : Attempt) (config : SearchConfig) : Bool :=
  config.useMatcher && a.name != "" && !namesFile a.name

/-- The files to try, given what the matcher says. -/
def candidates (a : Attempt) (dirs : List SearchDir) (hint : Option String)
    (matched : Option FontFileRef) : List Candidate :=
  if a.name = "" then []
  else
    (if namesFile a.name then
      hint.toList.map (fun path => ⟨⟨path, 0⟩, .fontFile, .relative⟩) ++
        Candidate.named dirs .fontFile a.name
    else matched.toList.map fun file => ⟨file, .matcher, .system⟩) ++
    (candidateNames a.name a.slant a.weight).flatMap (Candidate.named dirs .knownName) ++
    Candidate.named dirs .literal a.name

/-- Make an attempt. -/
def make {F : Type} (a : Attempt) (config : SearchConfig) (dirs : List SearchDir)
    (hint : Option String) : FontQuery F (Option (Candidate × F)) :=
  let load := fun matched =>
    FontQuery.firstThatLoads Candidate.file (a.candidates dirs hint matched)
  if a.asksMatcher config then .find a.name a.slant a.weight load else load none

/-- Make attempts until one succeeds; the answer begins with its number. -/
def firstSuccess {F : Type} (config : SearchConfig) (dirs : List SearchDir)
    (hint : Option String) (n : Nat) : List Attempt → FontQuery F (Option (Nat × Candidate × F))
  | [] => .done none
  | a :: rest => do
    match ← a.make config dirs hint with
    | some found => return some (n, found)
    | none => firstSuccess config dirs hint (n + 1) rest

end Attempt

/-- Where an answer came from. -/
inductive ResolveSource
  | cache
  /-- The file was loaded in an attempt, counted from zero. -/
  | file (attempt : Nat) (candidate : Candidate)
  deriving DecidableEq, Repr

/-- A face with the identity it is remembered under. -/
structure ResolvedFace (F : Type) where
  face : F
  identity : FontIdentity
  source : ResolveSource
  deriving DecidableEq

namespace ResolvedFace

/-- The path a face was just loaded from. -/
def path? {F : Type} (r : ResolvedFace F) : Option String :=
  match r.source with
  | .cache => none
  | .file _ c => some c.file.path

end ResolvedFace

namespace SearchConfig

/-- Find the face for a request. -/
def resolve {F : Type} (config : SearchConfig) (r : FaceRequest) :
    FontQuery F (Except FontError (ResolvedFace F)) := do
  match ← FontQuery.firstRemembered r.keys with
  | some (identity, face) => return .ok { face, identity, source := .cache }
  | none =>
    let attempts := Attempt.all r config.defaultFamily
    match ← Attempt.firstSuccess config (config.dirs r.documentDir) r.fontFile 0 attempts with
    | none => return .error (.noFaceAvailable r.family)
    | some (n, candidate, face) =>
      let identity :=
        if candidate.origin = .document then r.identity.within r.scope else r.identity
      .remember identity face (.done (.ok { face, identity, source := .file n candidate }))

end SearchConfig

/-! ## In listings -/

namespace Weight

/-- How a weight appears in a listing of values. -/
def inspect (w : Weight) : String := Listing.wrap "TextWeight" (toString w.value)

end Weight

namespace FontIdentity

/-- How an identity appears in a listing of values. -/
def inspect (i : FontIdentity) : String :=
  Listing.record "FontIdentity" [
    ("family", Quoted.text i.family), ("style", i.slant.name), ("weight", i.weight.inspect),
    ("document_scope", Listing.option (i.scope.map Quoted.text))]

end FontIdentity

namespace ResolveSource

/-- How a source appears in a listing of values. -/
def inspect : ResolveSource → String
  | cache => "Cache"
  | file n c =>
    Listing.record "Probe" [
      ("attempt", toString n), ("step", c.step.name), ("path", Quoted.path c.file.path),
      ("from_document", toString (decide (c.origin = .document)))]

end ResolveSource

namespace ResolvedFace

/-- How an answer appears in a listing of values. -/
def inspect {F : Type} (r : ResolvedFace F) : String :=
  Listing.record "ResolvedFace" [
    ("identity", r.identity.inspect), ("source", r.source.inspect)]

end ResolvedFace

end Lettering
