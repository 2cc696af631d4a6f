import Sections.Command.Palette
import Sections.Index

/-!
# Listings of an index

Each path has a line of its own, indented by its depth, and its span to the right of it.
-/

namespace Sections

def SlugPath.indent (path : SlugPath) : String :=
  String.ofList (List.replicate (2 * (path.length - 1)) ' ')

def padded (width : Nat) (text : String) : String :=
  text ++ String.ofList (List.replicate (width - text.length) ' ')

def Index.pathWidth (index : Index) : Nat :=
  (index.paths.map fun path => path.joined.utf8ByteSize).foldl max 0

/-- The line of a path.  The spans of deeper paths stand further right by their indent. -/
def listingLine (palette : Palette) (width : Nat) (path : SlugPath) (span : Span) : String :=
  padded (width + path.indent.length) (path.indent ++ path.joined) ++ "  " ++
    palette.paint .dimmed span.render

def Index.listing (index : Index) (palette : Palette) : List String :=
  if index.isEmpty then [palette.paint .yellow "No indexed sections"]
  else index.entries.map fun (path, span) => listingLine palette index.pathWidth path span

end Sections
