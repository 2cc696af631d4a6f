import Sections.Diff.Compaction
import Sections.Diff.Shortest
import Sections.Text.Split

/-!
# Patches

A patch shows the changed lines between two texts: deleted lines after a minus sign, inserted lines
after a plus sign.  Between two kept lines the deletions come first.
-/

namespace Sections

def patchHeader : List Char := "--- old\n+++ new\n".toList

def lineScript (old new : List (List Char)) : EditScript (List Char) :=
  (shortestScript old new).compact

def changedLines (sign : Char) (lines : List (List Char)) : List Char :=
  lines.flatMap fun line => sign :: line ++ ['\n']

def patchBody (deleted inserted : List (List Char)) : EditScript (List Char) → List Char
  | [] => changedLines '-' deleted ++ changedLines '+' inserted
  | run :: rest =>
    match run.action with
    | .keep => changedLines '-' deleted ++ changedLines '+' inserted ++ patchBody [] [] rest
    | .delete => patchBody (deleted ++ run.items) inserted rest
    | .insert => patchBody deleted (inserted ++ run.items) rest

/--
The patch from one text to another.  Lines end at line feeds, and what follows the last
line feed counts as a line too.
-/
def unifiedPatch (old new : String) : String :=
  String.ofList (patchHeader
    ++ patchBody [] [] (lineScript (splitAll '\n' old.toList) (splitAll '\n' new.toList)))

/-- Numbers of deleted and inserted lines of a patch; the header does not count. -/
def changeCounts (patch : String) : Nat × Nat :=
  let lines := (linesOf patch.toList).drop 2
  (lines.countP fun line => line.head? == some '-', lines.countP fun line => line.head? == some '+')

end Sections
