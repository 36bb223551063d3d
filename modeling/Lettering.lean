import Lettering.Decimal.Read
import Lettering.Decimal.Shortest
import Lettering.Decimal.Style
import Lettering.Error
import Lettering.Face
import Lettering.Files.FontDirectory
import Lettering.Files.FontFile
import Lettering.Files.Path
import Lettering.Files.Tree
import Lettering.Font.Alias
import Lettering.Font.Cache
import Lettering.Font.Catalogue
import Lettering.Font.Identity
import Lettering.Font.Query
import Lettering.Font.Resolve
import Lettering.Font.Search
import Lettering.Font.Style
import Lettering.Geometry.Affine
import Lettering.Geometry.Plane
import Lettering.Layer.Basic
import Lettering.Layer.Changes
import Lettering.Layer.Listing
import Lettering.Layer.Param
import Lettering.Layer.Params
import Lettering.Layer.Placement
import Lettering.Layer.Sync
import Lettering.Layout.Anchor
import Lettering.Layout.Block
import Lettering.Layout.Compose
import Lettering.Layout.GlyphTable
import Lettering.Main
import Lettering.Outline.Command
import Lettering.Outline.Pen
import Lettering.Outline.Tagged
import Lettering.Outline.Trace
import Lettering.Program.Command
import Lettering.Program.Options
import Lettering.Program.Run
import Lettering.Proofs.Files.Path
import Lettering.Proofs.Font.Callers
import Lettering.Proofs.Font.Cascade
import Lettering.Proofs.Font.Hint
import Lettering.Proofs.Font.Place
import Lettering.Proofs.Font.Plan
import Lettering.Proofs.Font.Query
import Lettering.Proofs.Font.Race
import Lettering.Proofs.Font.Scope
import Lettering.Proofs.Font.Stable
import Lettering.Proofs.Font.WarmCache
import Lettering.Proofs.Geometry.Order
import Lettering.Proofs.Layer.Coalesce
import Lettering.Proofs.Layer.Commute
import Lettering.Proofs.Layer.FindFace
import Lettering.Proofs.Layer.Following
import Lettering.Proofs.Layer.Frame
import Lettering.Proofs.Layer.FromScratch
import Lettering.Proofs.Layer.Isolation
import Lettering.Proofs.Layer.NamedFile
import Lettering.Proofs.Layer.Placement
import Lettering.Proofs.Layer.Reload
import Lettering.Proofs.Layer.Scene
import Lettering.Proofs.Layer.Surface
import Lettering.Proofs.Layer.Write
import Lettering.Proofs.Layout.Aligned
import Lettering.Proofs.Layout.Axes
import Lettering.Proofs.Layout.Closed
import Lettering.Proofs.Layout.FirstUse
import Lettering.Proofs.Layout.GlyphTable
import Lettering.Proofs.Layout.Positions
import Lettering.Proofs.Layout.Scripts
import Lettering.Proofs.Outline.Building
import Lettering.Proofs.Outline.Closed
import Lettering.Proofs.Outline.Contained
import Lettering.Proofs.Outline.Contours
import Lettering.Proofs.Outline.Cycle
import Lettering.Proofs.Outline.Faults
import Lettering.Proofs.Outline.InBounds
import Lettering.Proofs.Outline.Moved
import Lettering.Proofs.Outline.Recording
import Lettering.Proofs.Sfnt.Kern
import Lettering.Proofs.Sfnt.KernValues
import Lettering.Proofs.Shaping.Kept
import Lettering.Proofs.Text.Bidi
import Lettering.Proofs.Text.Lines
import Lettering.Proofs.Text.Rejoin
import Lettering.Proofs.Text.Segment
import Lettering.Proofs.Text.Spans
import Lettering.Proofs.Text.Utf8
import Lettering.Report.Drawing
import Lettering.Report.Json
import Lettering.Report.Layer
import Lettering.Sfnt.Bytes
import Lettering.Sfnt.Cff
import Lettering.Sfnt.CharMap
import Lettering.Sfnt.Container
import Lettering.Sfnt.Face
import Lettering.Sfnt.Kern
import Lettering.Sfnt.Metrics
import Lettering.Sfnt.Naming
import Lettering.Sfnt.TrueType
import Lettering.Shaping.Basic
import Lettering.Shaping.Prepared
import Lettering.Text.Bidi.Brackets
import Lettering.Text.Bidi.Class
import Lettering.Text.Bidi.ClassData
import Lettering.Text.Bidi.Explicit
import Lettering.Text.Bidi.Levels
import Lettering.Text.Bidi.Neutral
import Lettering.Text.Bidi.Paragraph
import Lettering.Text.Bidi.Sequence
import Lettering.Text.Bidi.Visual
import Lettering.Text.Bidi.Weak
import Lettering.Text.Blank
import Lettering.Text.Direction
import Lettering.Text.Lines
import Lettering.Text.Listing
import Lettering.Text.Quoted
import Lettering.Text.RangeTable
import Lettering.Text.Script
import Lettering.Text.Script.Data
import Lettering.Text.Script.Lookup
import Lettering.Text.Segment
import Lettering.Text.Utf8
import Lettering.Text.Visible
