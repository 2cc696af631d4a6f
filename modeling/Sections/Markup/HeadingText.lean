import Sections.Text.Alphanumeric
import Sections.Text.Blank

/-!
# The text of a heading

What a reader sees of a heading line: the closing run of number signs, emphasis marks, code ticks,
brackets, link destinations and tags are gone, and escapes stand for the character they protect.
-/

namespace Sections

/--
Drops a closing run of `#`.  The run closes the heading only if it is the whole content or
follows white space.
-/
def withoutClosingRun (content : List Char) : List Char :=
  let trimmed := trim content
  let run := trimmed.reverse.takeWhile (· == '#')
  let before := (trimmed.reverse.dropWhile (· == '#')).reverse
  if run.isEmpty then trimmed
  else match before.getLast? with
    | none => []
    | some last => if isBlank last then trimRight before else trimmed

/--
Whether `*` or `_` between two characters marks emphasis.  A mark alone between blanks is
text, and so is an underscore inside a word.
-/
def marksEmphasis (mark : Char) (before after : Option Char) : Bool :=
  let blank : Option Char → Bool := fun side => side.all isBlank
  let inWord : Option Char → Bool := fun side => side.any isAlphanumeric
  !(blank before && blank after) && !(mark == '_' && inWord before && inWord after)

def afterDestination (depth : Nat) : List Char → List Char
  | [] => []
  | '(' :: rest => afterDestination (depth + 1) rest
  | ')' :: rest => if depth ≤ 1 then rest else afterDestination (depth - 1) rest
  | _ :: rest => afterDestination depth rest

def afterTag : List Char → List Char
  | [] => []
  | '>' :: rest => rest
  | _ :: rest => afterTag rest

theorem length_afterDestination_le (depth : Nat) (cs : List Char) :
    (afterDestination depth cs).length ≤ cs.length := by
  fun_induction afterDestination depth cs <;> simp_all <;> omega

theorem length_afterTag_le (cs : List Char) : (afterTag cs).length ≤ cs.length := by
  fun_induction afterTag cs <;> simp_all; omega

def startsTag (c : Char) : Bool := c.isAlpha || c == '/' || c == '!'

def visibleText (before : Option Char) : List Char → List Char
  | [] => []
  | c :: rest =>
    if c = '\\' then
      match rest with
      | [] => []
      | escaped :: rest => escaped :: visibleText (some c) rest
    else if (c = '*' ∨ c = '_') ∧ marksEmphasis c before rest.head? then
      visibleText (some c) rest
    else if c = ']' ∧ rest.head? = some '(' then
      visibleText (some c) (afterDestination 0 rest)
    else if c = '<' ∧ rest.head?.any startsTag then
      visibleText (some c) (afterTag rest)
    else if c = '[' ∨ c = ']' ∨ c = '`' then
      visibleText (some c) rest
    else
      c :: visibleText (some c) rest
termination_by cs => cs.length
decreasing_by
  all_goals simp only [List.length_cons]
  all_goals have hdest := length_afterDestination_le 0 rest
  all_goals have htag := length_afterTag_le rest
  all_goals omega

def plainText (markup : List Char) : List Char := trim (visibleText none markup)

end Sections
