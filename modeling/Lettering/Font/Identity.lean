import Lettering.Font.Style

/-!
# Font identities

A loaded face is remembered under the request that found it: family, slant and weight, and the
directory of a document if the file was found next to one. Identities are ordered by family,
then slant, weight and scope.
-/

namespace Lettering

/-- What tells one remembered face from another. -/
structure FontIdentity where
  family : String
  slant : Slant
  weight : Weight
  /-- The document directory that the face was found in. -/
  scope : Option String := none
  deriving DecidableEq, Repr, Inhabited

namespace FontIdentity

/-- The same request for every document. -/
def unscoped (i : FontIdentity) : FontIdentity := { i with scope := none }

/-- The same request within a scope. -/
def within (i : FontIdentity) (scope : Option String) : FontIdentity := { i with scope }

/-- Scopes in order: no scope comes first. -/
def compareScope : Option String → Option String → Ordering
  | none, none => .eq
  | none, some _ => .lt
  | some _, none => .gt
  | some a, some b => compare a b

/-- Identities in order. -/
def order (i j : FontIdentity) : Ordering :=
  (compare i.family j.family).then <|
    (compare i.slant.code j.slant.code).then <|
      (compare i.weight.value j.weight.value).then <| compareScope i.scope j.scope

end FontIdentity

end Lettering
