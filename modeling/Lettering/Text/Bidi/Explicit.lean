import Lettering.Text.Bidi.Class

/-!
# Explicit levels

Rules X1 to X8 of UAX #9, with the controls kept in place as its section 5.2 describes: every
character gets the level of the embedding it stands in, and the strong class of an override.
-/

namespace Lettering.Bidi

open BidiClass

/-- What an embedding does to the classes inside it. -/
inductive EmbeddingKind
  | plain
  | override (cls : BidiClass)
  | isolate
  deriving DecidableEq

/-- An open embedding, override or isolate. -/
structure Embedding where
  level : Level
  kind : EmbeddingKind

/-- The deepest level that can be opened. -/
def maxDepth : Nat := 125

/-- Embeddings that are open, innermost first, and what is open beyond the depth limit. The
paragraph itself is the outermost embedding and is never closed. -/
structure OpenEmbeddings where
  top : Embedding
  outer : List Embedding
  overflowIsolates : Nat := 0
  overflowEmbeddings : Nat := 0
  isolates : Nat := 0

namespace OpenEmbeddings

/-- Only the paragraph is open. -/
def start (base : Level) : OpenEmbeddings := { top := ⟨base, .plain⟩, outer := [] }

/-- The class of a character inside the innermost embedding. -/
def overridden (s : OpenEmbeddings) (c : BidiClass) : BidiClass :=
  match s.top.kind with
  | .override cls => cls
  | _ => c

/-- The next level of the parity that a control asks for. -/
def nextLevel (s : OpenEmbeddings) (c : BidiClass) : Level :=
  match c with
  | RLE | RLO | RLI => (s.top.level + 1) / 2 * 2 + 1
  | _ => s.top.level / 2 * 2 + 2

/-- The kind of embedding that a control opens. -/
def kindOf : BidiClass → EmbeddingKind
  | RLO => .override R
  | LRO => .override L
  | RLI | LRI | FSI => .isolate
  | _ => .plain

/-- Open the embedding of a control, or count it if the depth limit is reached. -/
def enter (s : OpenEmbeddings) (c : BidiClass) : OpenEmbeddings :=
  if s.nextLevel c ≤ maxDepth ∧ s.overflowIsolates = 0 ∧ s.overflowEmbeddings = 0 then
    { s with
      top := ⟨s.nextLevel c, kindOf c⟩
      outer := s.top :: s.outer
      isolates := if c.opensIsolate then s.isolates + 1 else s.isolates }
  else if c.opensIsolate then { s with overflowIsolates := s.overflowIsolates + 1 }
  else if s.overflowIsolates = 0 then { s with overflowEmbeddings := s.overflowEmbeddings + 1 }
  else s

/-- Close embeddings up to and including the innermost isolate. -/
def popIsolate : Embedding → List Embedding → Embedding × List Embedding
  | top, [] => (top, [])
  | top, e :: rest => if top.kind = .isolate then (e, rest) else popIsolate e rest

/-- Close an isolate. -/
def leaveIsolate (s : OpenEmbeddings) : OpenEmbeddings :=
  if 0 < s.overflowIsolates then { s with overflowIsolates := s.overflowIsolates - 1 }
  else if 0 < s.isolates then
    let (top, outer) := popIsolate s.top s.outer
    { s with top, outer, overflowEmbeddings := 0, isolates := s.isolates - 1 }
  else s

/-- Close an embedding or override; an isolate cannot be left this way. -/
def leaveEmbedding (s : OpenEmbeddings) : OpenEmbeddings :=
  if 0 < s.overflowIsolates then s
  else if 0 < s.overflowEmbeddings then
    { s with overflowEmbeddings := s.overflowEmbeddings - 1 }
  else
    match s.top.kind, s.outer with
    | .isolate, _ | _, [] => s
    | _, e :: rest => { s with top := e, outer := rest }

end OpenEmbeddings

/-- The level and class of every character of a paragraph after the explicit rules. -/
def explicitLevels (base : Level) : OpenEmbeddings → List BidiClass → List (Level × BidiClass)
  | _, [] => []
  | s, c :: rest =>
    match c with
    | RLE | LRE | RLO | LRO => (s.top.level, BN) :: explicitLevels base (s.enter c) rest
    | RLI | LRI | FSI => (s.top.level, s.overridden c) :: explicitLevels base (s.enter c) rest
    | PDI =>
      let s := s.leaveIsolate
      (s.top.level, s.overridden c) :: explicitLevels base s rest
    | PDF =>
      let s := s.leaveEmbedding
      (s.top.level, BN) :: explicitLevels base s rest
    | B => (base, B) :: explicitLevels base s rest
    | BN => (s.top.level, BN) :: explicitLevels base s rest
    | _ => (s.top.level, s.overridden c) :: explicitLevels base s rest

end Lettering.Bidi
