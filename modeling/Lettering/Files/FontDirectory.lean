import Lettering.Files.Tree
import Lettering.Sfnt.Naming

/-!
# Directories of fonts

The fonts in a directory and below it are added to a catalogue. Files are told by their extensions,
which must be all in lower or all in upper case.
-/

namespace Lettering

/-- The extensions of fonts and font collections. -/
def installedExtensions : List String :=
  ["ttf", "ttc", "TTF", "TTC", "otf", "otc", "OTF", "OTC"]

/-- What a catalogue lists about a file. -/
def catalogueFile (path : String) (node : FileNode) : List CatalogueFace :=
  if (Path.extension? path).any installedExtensions.contains then
    match node.bytes? with
    | .ok bytes => Sfnt.catalogueFaces path bytes
    | .error _ => []
  else []

namespace FontCatalogue

/-- Add the fonts in a directory and below it. -/
def addDirectory (c : FontCatalogue) (tree : FileTree) (dir : String) : FontCatalogue :=
  let found := (tree.filesBelow dir).flatMap fun (path, node) => catalogueFile path node
  { c with faces := c.faces ++ found }

end FontCatalogue

end Lettering
