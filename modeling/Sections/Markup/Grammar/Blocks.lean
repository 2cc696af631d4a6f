import Sections.Markup.Grammar.Rule

/-!
# The block grammar

The rules of the phrases that a document is made of.  Text within blocks is not looked into any
further than the blocks need it.
-/

namespace Sections

namespace Phrase

open Rule

def markers : List ListMarker := [.plus, .minus, .star, .dot, .parenthesis]

def all : List Phrase :=
  [document, backslashEscape, linkLabel, linkDestination, destinationParentheses, angleText,
    linkTitle, anyBlock, plainBlock, anySection]
    ++ [1, 2, 3, 4, 5, 6].map sectionAt ++ [thematicBreak] ++ [1, 2, 3, 4, 5, 6].map heading
    ++ [headingContent, underlinedHeading 1, underlinedHeading 2, indentedCode, indentedChunk,
      fencedCode, fencedContent, infoString, language, html]
    ++ (HtmlKind.raw :: BlockToken.otherHtml).map htmlOf
    ++ [linkDefinition, labelText, paragraph, blankLine, quote, list]
    ++ markers.map listOf ++ markers.map markerOf ++ markers.map itemOf
    ++ [itemContent, newline, softBreak, line, word, checkedTask, uncheckedTask, table,
      tableNewline, delimiterRow, delimiterCell, tableRow, tableCell]

def name? : Phrase → Option String
  | document => some "document"
  | backslashEscape => some "backslash_escape"
  | linkLabel => some "link_label"
  | linkDestination => some "link_destination"
  | linkTitle => some "link_title"
  | anySection => some "section"
  | thematicBreak => some "thematic_break"
  | heading _ => some "atx_heading"
  | underlinedHeading _ => some "setext_heading"
  | indentedCode => some "indented_code_block"
  | fencedCode => some "fenced_code_block"
  | fencedContent => some "code_fence_content"
  | infoString => some "info_string"
  | language => some "language"
  | html => some "html_block"
  | linkDefinition => some "link_reference_definition"
  | paragraph => some "paragraph"
  | quote => some "block_quote"
  | list => some "list"
  | markerOf .plus => some "list_marker_plus"
  | markerOf .minus => some "list_marker_minus"
  | markerOf .star => some "list_marker_star"
  | markerOf .dot => some "list_marker_dot"
  | markerOf .parenthesis => some "list_marker_parenthesis"
  | itemOf _ => some "list_item"
  | checkedTask => some "task_list_marker_checked"
  | uncheckedTask => some "task_list_marker_unchecked"
  | table => some "pipe_table"
  | delimiterRow => some "pipe_table_delimiter_row"
  | delimiterCell => some "pipe_table_delimiter_cell"
  | tableRow => some "pipe_table_row"
  | tableCell => some "pipe_table_cell"
  | _ => none

def escapes : List Rule := [backslashEscape, Lexeme.entity, Lexeme.numericReference]

def destinationPieces (excluded : List Char) : Rule :=
  oneOf ([(word : Rule), punctuationExcept excluded] ++ escapes ++
    [(destinationParentheses : Rule)])

def titleBetween (opening closing : Char) (excluded : List Char) : Rule :=
  let brokenOff := maybe (inOrder [softBreak, BlockToken.failureRequest])
  inOrder [opening,
    series (oneOf ([(word : Rule), Lexeme.blank, punctuationExcept excluded] ++ escapes
      ++ [inOrder [softBreak, brokenOff]])),
    closing]

def brokenBlanks : Rule :=
  inOrder [maybe Lexeme.blank, maybe (inOrder [softBreak, maybe Lexeme.blank])]

def titleGap : Rule :=
  oneOf [inOrder [Lexeme.blank, maybe (inOrder [softBreak, maybe Lexeme.blank])],
    inOrder [softBreak, maybe Lexeme.blank]]

def blockEnd : Rule := oneOf [newline, BlockToken.textEnd]

def fencedBy (mark : FenceMark) : Rule :=
  let closing := inOrder [BlockToken.fenceEnd mark, BlockToken.closeRequest, newline]
  inOrder [BlockToken.fenceStart mark, maybe Lexeme.blank, maybe infoString, newline,
    maybe fencedContent, maybe closing, BlockToken.containerEnd]

def moreInfo : Rule := series (oneOf ((line : Rule) :: escapes))

def htmlBetween (kind : HtmlKind) (ending : Rule) : Rule :=
  inOrder [BlockToken.htmlStart kind,
    series (oneOf [line, newline, inOrder [ending, BlockToken.closeRequest]]),
    BlockToken.containerEnd, maybe BlockToken.continuation]

def leadingBar : Rule := maybe (inOrder [maybe Lexeme.blank, '|'])

def padded (content : Rule) : Rule := inOrder [maybe Lexeme.blank, content, maybe Lexeme.blank]

def rule : Phrase → Rule
  | document =>
    inOrder [maybe (oneOf [BlockToken.metadata .minus, BlockToken.metadata .plus]),
      named "section" (greedy (series plainBlock)), series anySection]
  | backslashEscape => Lexeme.escape
  | linkLabel =>
    inOrder ['[', repeated (oneOf ([(labelText : Rule)] ++ escapes ++ [(softBreak : Rule)])), ']']
  | linkDestination =>
    weighted 10 (oneOf
      [inOrder ['<', series (oneOf ((angleText : Rule) :: escapes)), '>'],
        inOrder [destinationPieces ['<', '(', ')'], series (destinationPieces ['(', ')'])]])
  | destinationParentheses => inOrder ['(', series (destinationPieces ['(', ')']), ')']
  | angleText => oneOf [word, punctuationExcept ['<', '>'], Lexeme.blank]
  | linkTitle =>
    oneOf [titleBetween '"' '"' ['"'], titleBetween '\'' '\'' ['\''],
      titleBetween '(' ')' ['(', ')']]
  | anyBlock => oneOf [plainBlock, anySection]
  | plainBlock =>
    oneOf [underlinedHeading 1, underlinedHeading 2, paragraph, indentedCode, quote,
      thematicBreak, list,
      fencedCode, blankLine, html, linkDefinition, table]
  | anySection => oneOf ([1, 2, 3, 4, 5, 6].map fun level => (sectionAt level : Rule))
  | sectionAt level =>
    let deeper := ([6, 5, 4, 3, 2].filter (level < ·)).map fun level => (sectionAt level : Rule)
    let part : Rule :=
      if deeper.isEmpty then plainBlock else oneOf [named "section" (oneOf deeper), plainBlock]
    greedy (inOrder [heading level, series part])
  | thematicBreak => inOrder [BlockToken.thematicBreak, blockEnd]
  | heading level => inOrder [BlockToken.heading level, maybe headingContent, newline]
  | headingContent => preferred (inOrder [maybe Lexeme.blank, named "inline" line])
  | underlinedHeading level => inOrder [paragraph, BlockToken.underline level, blockEnd]
  | indentedCode => greedy (inOrder [indentedChunk, series (oneOf [indentedChunk, blankLine])])
  | indentedChunk =>
    inOrder [BlockToken.chunkStart, series (oneOf [line, newline]), BlockToken.containerEnd,
      maybe BlockToken.continuation]
  | fencedCode => greedy (oneOf [fencedBy .backtick, fencedBy .tilde])
  | fencedContent => repeated (oneOf [newline, inOrder [line, newline]])
  | infoString =>
    oneOf [inOrder [language, moreInfo],
      inOrder [repeated (oneOf ['\x7b', '\x7d']),
        maybe (oneOf [inOrder [language, moreInfo], inOrder [Lexeme.blank, moreInfo]])]]
  | language =>
    greedy (repeated (oneOf ([(word : Rule), punctuationExcept ['\x7b', '\x7d', ',']] ++ escapes)))
  | html =>
    inOrder [maybe Lexeme.blank,
      oneOf ((HtmlKind.raw :: BlockToken.otherHtml).map fun kind => (htmlOf kind : Rule))]
  | htmlOf .raw => htmlBetween .raw BlockToken.rawEnd
  | htmlOf .comment => htmlBetween .comment Lexeme.commentEnd
  | htmlOf .instruction => htmlBetween .instruction Lexeme.instructionEnd
  | htmlOf .declaration => htmlBetween .declaration '>'
  | htmlOf .cdata => htmlBetween .cdata Lexeme.cdataEnd
  | htmlOf .element => htmlBetween .element (inOrder [newline, blankLine])
  | htmlOf .loneTag => htmlBetween .loneTag (inOrder [newline, blankLine])
  | linkDefinition =>
    weighted 10 (inOrder [maybe Lexeme.blank, linkLabel, ':', maybe brokenBlanks, linkDestination,
      maybe (weighted 20 (inOrder [titleGap, maybe BlockToken.noChunk, linkTitle])),
      oneOf [newline, softBreak, BlockToken.textEnd]])
  | labelText => oneOf [word, Lexeme.blank, punctuationExcept ['[', ']']]
  | paragraph => inOrder [named "inline" (repeated (oneOf [line, softBreak])), blockEnd]
  | blankLine => inOrder [BlockToken.blankLine, blockEnd]
  | quote =>
    inOrder [BlockToken.quoteStart, maybe BlockToken.continuation, series anyBlock,
      BlockToken.containerEnd, maybe BlockToken.continuation]
  | list => greedy (oneOf (markers.map fun marker => (listOf marker : Rule)))
  | listOf marker => greedy (repeated (itemOf marker))
  | markerOf marker => oneOf [BlockToken.listMarker marker false, BlockToken.listMarker marker true]
  | itemOf marker =>
    inOrder [markerOf marker, maybe BlockToken.continuation, itemContent, BlockToken.containerEnd,
      maybe BlockToken.continuation]
  | itemContent =>
    oneOf
      [preferred
        (inOrder [blankLine, blankLine, BlockToken.closeRequest, maybe BlockToken.continuation]),
        repeated anyBlock,
        inOrder [oneOf [checkedTask, uncheckedTask], Lexeme.blank, paragraph, series anyBlock]]
  | newline => inOrder [BlockToken.lineEnding, maybe BlockToken.continuation]
  | softBreak => inOrder [BlockToken.softLineEnding, maybe BlockToken.continuation]
  | line => greedy (repeated (oneOf [word, Lexeme.blank, punctuationExcept []]))
  | word => oneOf [Lexeme.word, Lexeme.checkedBox, Lexeme.uncheckedBox]
  | checkedTask => preferred Lexeme.checkedBox
  | uncheckedTask => preferred Lexeme.uncheckedBox
  | table =>
    greedy (inOrder [BlockToken.tableStart, named "pipe_table_header" tableRow, newline,
      delimiterRow, series (inOrder [tableNewline, maybe tableRow]), blockEnd])
  | tableNewline => inOrder [BlockToken.tableLineEnding, maybe BlockToken.continuation]
  | delimiterRow =>
    inOrder [leadingBar, repeated (greedy (inOrder [padded delimiterCell, '|'])),
      maybe Lexeme.blank, maybe (inOrder [delimiterCell, maybe Lexeme.blank])]
  | delimiterCell =>
    inOrder [maybe (named "pipe_table_align_left" ':'), repeated '-',
      maybe (named "pipe_table_align_right" ':')]
  | tableRow =>
    let cell := oneOf [padded tableCell, named "pipe_table_cell" Lexeme.blank]
    inOrder [leadingBar,
      oneOf
        [inOrder [repeated (greedy (inOrder [cell, '|'])), maybe Lexeme.blank,
            maybe (inOrder [tableCell, maybe Lexeme.blank])],
          padded tableCell]]
  | tableCell =>
    greedy (inOrder [oneOf [word, Lexeme.escape, punctuationExcept ['|']],
      series (oneOf [word, Lexeme.blank, Lexeme.escape, punctuationExcept ['|']])])

end Phrase

end Sections
