import Sections.Index
import Sections.Text.Similarity

/-!
# Suggestions

The indexed paths that look most like a path that was not found.
-/

namespace Sections

def suggestionThreshold : Float := 0.7

/--
Up to `limit` similar paths, the most similar first, and in the order of paths where they
are equally similar.
-/
def suggestPaths (index : Index) (missing : SlugPath) (limit : Nat) : List SlugPath :=
  let target := missing.joined.toList
  let scored := index.paths.map fun path => (jaroWinkler target path.joined.toList, path)
  let similar := scored.filter fun entry => entry.1 ≥ suggestionThreshold
  ((similar.mergeSort fun a b => a.1 ≥ b.1).take limit).map Prod.snd

end Sections
