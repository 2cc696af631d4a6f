/-!
# Arguments

An argument line is a row of options and words.  Which options there are and which of them take a
value is given by their forms.
-/

namespace Sections

structure OptionForm where
  name : String
  letter : Option Char := none
  takesValue : Bool := false
  deriving DecidableEq, Repr

inductive UsageFault where
  | unexpected (argument : String)
  | missingValue (name : String)
  | needlessValue (name : String)
  | repeated (name : String)
  | conflict (name other : String)
  | missing (name : String)
  | invalid (name value reason : String)
  | missingCommand
  | unknownCommand (name : String)
  deriving DecidableEq, Repr

def UsageFault.message : UsageFault → String
  | unexpected argument => "unexpected argument '" ++ argument ++ "' found"
  | missingValue name => "a value is required for '" ++ name ++ "' but none was supplied"
  | needlessValue name => "unexpected value for '" ++ name ++ "' found; no more were expected"
  | repeated name => "the argument '" ++ name ++ "' cannot be used multiple times"
  | conflict name other => "the argument '" ++ name ++ "' cannot be used with '" ++ other ++ "'"
  | missing name => "the following required arguments were not provided: " ++ name
  | invalid name value reason => "invalid value '" ++ value ++ "' for '" ++ name ++ "': " ++ reason
  | missingCommand => "'mdpath' requires a subcommand but one wasn't provided"
  | unknownCommand name => "unrecognized subcommand '" ++ name ++ "'"

inductive Argument where
  | option (name : String) (value : Option String)
  | word (text : String)
  deriving DecidableEq, Repr

inductive ArgumentEnd where
  | complete
  | atWord (text : String) (rest : List String)
  | fault (fault : UsageFault)
  deriving DecidableEq, Repr

structure ArgumentLine where
  arguments : List Argument
  ending : ArgumentEnd
  deriving DecidableEq, Repr

namespace ArgumentLine

def stopped (ending : ArgumentEnd) : ArgumentLine := ⟨[], ending⟩

def after (argument : Argument) (line : ArgumentLine) : ArgumentLine :=
  { line with arguments := argument :: line.arguments }

def append (front back : ArgumentLine) : ArgumentLine :=
  match front.ending with
  | .fault fault => ⟨front.arguments, .fault fault⟩
  | .complete | .atWord .. => ⟨front.arguments ++ back.arguments, back.ending⟩

inductive Shape where
  | word
  | divider
  | long (name : List Char) (attached : Option (List Char))
  | short (letters : List Char)
  deriving DecidableEq, Repr

def shapeOf (argument : String) : Shape :=
  match argument.toList with
  | ['-'] => .word
  | ['-', '-'] => .divider
  | '-' :: '-' :: rest =>
    let name := rest.takeWhile (· != '=')
    match rest.dropWhile (· != '=') with
    | _ :: attached => .long name (some attached)
    | [] => .long name none
  | '-' :: letters => .short letters
  | _ => .word

inductive Letters where
  | complete (line : ArgumentLine)
  | wantsValue (flags : List Argument) (name : String)
  deriving DecidableEq, Repr

def Letters.after (argument : Argument) : Letters → Letters
  | complete line => complete (line.after argument)
  | wantsValue flags name => wantsValue (argument :: flags) name

/--
Reads a row of letters.  What follows a letter that takes a value is the value, with or
without an equals sign in front.
-/
def readLetters (forms : List OptionForm) : List Char → Letters
  | [] => .complete (stopped .complete)
  | letter :: rest =>
    match forms.find? fun form => form.letter = some letter with
    | none => .complete (stopped (.fault (.unexpected (String.ofList ['-', letter]))))
    | some form =>
      if form.takesValue then
        match rest with
        | [] => .wantsValue [] form.name
        | '=' :: value => .complete ⟨[.option form.name (some (String.ofList value))], .complete⟩
        | value => .complete ⟨[.option form.name (some (String.ofList value))], .complete⟩
      else (readLetters forms rest).after (.option form.name none)

def isValue (argument : String) : Bool := shapeOf argument == .word

def read (forms : List OptionForm) (toWord : Bool) (arguments : List String) : ArgumentLine :=
  match arguments with
  | [] => stopped .complete
  | argument :: rest =>
    match shapeOf argument with
    | .word =>
      if toWord then stopped (.atWord argument rest)
      else (read forms toWord rest).after (.word argument)
    | .divider => ⟨rest.map .word, .complete⟩
    | .long name attached =>
      match forms.find? fun form => form.name.toList = name, attached with
      | none, _ => stopped (.fault (.unexpected argument))
      | some form, some attached =>
        if form.takesValue then
          (read forms toWord rest).after (.option form.name (some (String.ofList attached)))
        else stopped (.fault (.needlessValue form.name))
      | some form, none =>
        if form.takesValue then
          match rest with
          | value :: rest =>
            if isValue value then (read forms toWord rest).after (.option form.name (some value))
            else stopped (.fault (.missingValue form.name))
          | [] => stopped (.fault (.missingValue form.name))
        else (read forms toWord rest).after (.option form.name none)
    | .short letters =>
      match readLetters forms letters with
      | .complete line => line.append (read forms toWord rest)
      | .wantsValue flags name =>
        match rest with
        | value :: rest =>
          if isValue value then
            ArgumentLine.append ⟨flags ++ [.option name (some value)], .complete⟩
              (read forms toWord rest)
          else ⟨flags, .fault (.missingValue name)⟩
        | [] => ⟨flags, .fault (.missingValue name)⟩

end ArgumentLine

end Sections
