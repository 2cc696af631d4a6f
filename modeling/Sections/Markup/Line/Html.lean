import Sections.Markup.Line.Expected
import Sections.Markup.Line.Reader

/-!
# How HTML blocks start
-/

namespace Sections

def rawElements : List String := ["pre", "script", "style"]

def blockElements : List String :=
  ["address", "article", "aside", "base", "basefont", "blockquote", "body", "caption", "center",
   "col", "colgroup", "dd", "details", "dialog", "dir", "div", "dl", "dt", "fieldset",
   "figcaption", "figure", "footer", "form", "frame", "frameset", "h1", "h2", "h3", "h4", "h5",
   "h6", "head", "header", "hr", "html", "iframe", "legend", "li", "link", "main", "menu",
   "menuitem", "nav", "noframes", "ol", "optgroup", "option", "p", "param", "section", "source",
   "summary", "table", "tbody", "td", "tfoot", "th", "thead", "title", "tr", "track", "ul"]

namespace LineReader

def foundHtml (kind : HtmlKind) (reader : LineReader) : Found :=
  (reader.push .html).found (.htmlStart kind)

def skipText (text : List Char) (reader : LineReader) : Bool × LineReader :=
  match text with
  | [] => (true, reader)
  | c :: cs => if reader.peek? = some c then skipText cs reader.advance else (false, reader)

def tagName (reader : LineReader) : String :=
  let name := reader.rest.takeWhile Char.isAlpha
  if name.length ≤ 10 then String.ofList (name.map Char.toLower) else ""

def endsValue (c : Char) : Bool :=
  isIndent c || isLineEnd c || c == '"' || c == '\'' || c == '=' || c == '<' || c == '>' || c == '`'

def attributeValue? (reader : LineReader) : Option LineReader :=
  match reader.peek? with
  | none => none
  | some c =>
    if c = '\'' ∨ c = '"' then
      let after := (reader.advance.skipWhile fun d => d != c && !isLineEnd d).2
      if after.peek? = some c then some after.advance else none
    else
      if endsValue c then none else some (reader.skipWhile fun d => !endsValue d).2

def attributes? (fuel : Nat) (spaced : Bool) (reader : LineReader) : Option LineReader :=
  match fuel with
  | 0 => none
  | fuel + 1 =>
    let spaced := spaced || reader.atIndent
    let reader := reader.skipIndent
    match reader.peek? with
    | none => none
    | some c =>
      if c = '/' then some reader.advance
      else if c = '>' then some reader
      else if !spaced || !(c.isAlpha || c == '_' || c == ':') then none
      else
        let name := (reader.advance.skipWhile fun d =>
          d.isAlphanum || d == '_' || d == '.' || d == ':' || d == '-').2
        let after := name.skipIndent
        if after.peek? = some '=' then
          match after.advance.skipIndent.attributeValue? with
          | some value => attributes? fuel false value
          | none => none
        else attributes? fuel name.atIndent after

def loneTag? (slash closed : Bool) (reader : LineReader) : Option Found := do
  let reader ←
    if closed then some reader
    else
      let reader := (reader.skipWhile fun c => c.isAlphanum || c == '-').2
      let reader ←
        if slash then some reader.skipIndent else reader.attributes? (reader.rest.length + 1) false
      if reader.peek? = some '>' then some reader.advance else none
  let reader := reader.skipIndent
  if reader.atLineEnd then some (reader.foundHtml .loneTag) else none

def tagStart? (expected : Expected) (reader : LineReader) : Option Found :=
  let opens : HtmlKind → Bool := fun kind => expected.contains (.htmlStart kind) && !reader.isFull
  let slash := reader.peek? = some '/'
  let reader := if slash then reader.advance else reader
  if !reader.peek?.any Char.isAlpha then none
  else
    let name := reader.tagName
    let after := (reader.skipWhile Char.isAlpha).2
    let ended := after.peek?.any fun c => isIndent c || isLineEnd c || c == '>'
    if name != "" ∧ ended ∧ rawElements.contains name ∧ slash ∧ expected.contains .rawEnd then
      some (after.found .rawEnd)
    else if name != "" ∧ ended ∧ rawElements.contains name ∧ !slash ∧ opens .raw then
      some (after.foundHtml .raw)
    else
      let slashed := name != "" && !ended && after.peek? == some '/'
      let after := if slashed then after.advance else after
      let closed := slashed && after.peek? == some '>'
      let after := if closed then after.advance else after
      if (ended ∨ closed) ∧ blockElements.contains name ∧ opens .element then
        some (after.foundHtml .element)
      else if opens .loneTag then after.loneTag? slash closed
      else none

def declarationStart? (expected : Expected) (reader : LineReader) : Option Found :=
  let opens : HtmlKind → Bool := fun kind => expected.contains (.htmlStart kind) && !reader.isFull
  match reader.peek? with
  | some '-' =>
    let (whole, after) := reader.skipText ['-', '-']
    if whole ∧ opens .comment then some { after.foundHtml .comment with stop := reader.position }
    else none
  | some '[' =>
    let (whole, after) := reader.skipText ['[', 'C', 'D', 'A', 'T', 'A', '[']
    if whole ∧ opens .cdata then some (after.foundHtml .cdata) else after.tagStart? expected
  | some c =>
    if 'A' ≤ c ∧ c ≤ 'Z' ∧ opens .declaration then some (reader.advance.foundHtml .declaration)
    else reader.tagStart? expected
  | none => none

def htmlStart? (expected : Expected) (reader : LineReader) : Option Found :=
  if expected.containsAny (.rawEnd :: .htmlStart .raw :: BlockToken.otherHtml.map .htmlStart) then
    let reader := reader.advance
    if reader.peek? = some '?' ∧ expected.contains (.htmlStart .instruction) ∧ !reader.isFull then
      some (reader.advance.foundHtml .instruction)
    else if reader.peek? = some '!' then reader.advance.declarationStart? expected
    else reader.tagStart? expected
  else none

end LineReader

end Sections
