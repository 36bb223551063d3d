/-!
# Errors

Every way in which a request can fail, as a cause; the wording of all of them is in the `message`
functions. `Error` gathers the causes of the stages of the library.
-/

namespace Lettering

/-- Why a face could not be loaded. -/
inductive FontError
  | fileNotFound (path : String)
  | invalidData
  | notSupported (what : String)
  /-- Nothing that was tried serves the family. -/
  | noFaceAvailable (family : String)
  deriving DecidableEq, Repr, Inhabited

/-- Why a span could not be shaped. -/
inductive ShapingError
  | invalidText
  | scriptNotSupported (script : String)
  | backend (report : String)
  deriving DecidableEq, Repr, Inhabited

/-- Why a text could not be segmented. -/
inductive SegmentError
  | bidi (report : String)
  /-- Malformed input behind this many good bytes. -/
  | invalidUtf8 (offset : Nat)
  deriving DecidableEq, Repr, Inhabited

/-- The type of a parameter. -/
inductive ParamType
  | string
  | integer
  | real
  | bool
  | vector
  deriving DecidableEq, Repr, Inhabited

/-- Why a parameter could not be read or written. -/
inductive ParamError
  | unknown (name : String)
  | typeMismatch (name : String) (expected : ParamType)
  | outOfRange (name : String) (value : Int)
  deriving DecidableEq, Repr, Inhabited

/-- A failure of any stage. -/
inductive Error
  | font (cause : FontError)
  | shaping (cause : ShapingError)
  | segment (cause : SegmentError)
  | param (cause : ParamError)
  | config (report : String)
  | io (report : String)
  | other (report : String)
  deriving DecidableEq, Repr, Inhabited

namespace FontError

/-- The wording of a font failure. -/
def message : FontError → String
  | fileNotFound path => "Font file not found: " ++ path
  | invalidData => "Invalid font data"
  | notSupported what => "Font not supported: " ++ what
  | noFaceAvailable family => "No face available for family: " ++ family

end FontError

namespace ShapingError

/-- The wording of a shaping failure. -/
def message : ShapingError → String
  | invalidText => "Invalid text input"
  | scriptNotSupported script => "Script not supported: " ++ script
  | backend report => "Backend error: " ++ report

end ShapingError

namespace SegmentError

/-- The wording of a segmentation failure. -/
def message : SegmentError → String
  | bidi report => "Bidi reordering failed: " ++ report
  | invalidUtf8 offset => "Invalid UTF-8 sequence at byte " ++ toString offset

end SegmentError

namespace ParamType

/-- The name of a type in messages. -/
def name : ParamType → String
  | string => "string"
  | integer => "integer"
  | real => "real"
  | bool => "bool"
  | vector => "vector"

end ParamType

namespace ParamError

/-- The wording of a parameter failure. -/
def message : ParamError → String
  | unknown name => "Unknown parameter: " ++ name
  | typeMismatch name expected =>
    "Parameter '" ++ name ++ "' expects a " ++ expected.name ++ " value"
  | outOfRange name value => "Parameter '" ++ name ++ "' does not accept " ++ toString value

end ParamError

namespace Error

/-- The wording of a failure, with the stage in front. -/
def message : Error → String
  | font cause => "Font loading failed: " ++ cause.message
  | shaping cause => "Shaping failed: " ++ cause.message
  | segment cause => "Segmentation failed: " ++ cause.message
  | param cause => "Parameter error: " ++ cause.message
  | config report => "Configuration error: " ++ report
  | io report => "IO error: " ++ report
  | other report => "Other error: " ++ report

end Error

end Lettering
