import Sections.Command.Arguments
import Sections.Edit
import Sections.Files.PathText

/-!
# Requests

What an argument line asks the program to do.
-/

namespace Sections

inductive TextSource where
  | absent
  | given (text : String)
  | file (path : PathText)
  deriving DecidableEq, Repr

inductive DocumentCommand where
  | read (id : String) (selector : Selector) (json : Bool)
  | index (id : String) (json : Bool)
  | apply (id : String) (op : EditOp) (selector : Selector) (text : TextSource)
    (expected : Revision)
      (showPatch : Bool)
  deriving DecidableEq, Repr

def DocumentCommand.id : DocumentCommand → String
  | read id .. | index id .. | apply id .. => id

def DocumentCommand.textSource : DocumentCommand → TextSource
  | apply _ _ _ source _ _ => source
  | read .. | index .. => .absent

inductive Command where
  | onDocument (command : DocumentCommand)
  | list
  deriving DecidableEq, Repr

def Command.textSource : Command → TextSource
  | onDocument command => command.textSource
  | list => .absent

structure Invocation where
  configFile : Option PathText
  root : Option PathText
  command : Command
  deriving DecidableEq, Repr

inductive Request where
  | run (invocation : Invocation)
  | showVersion
  | showHelp
  | refuse (fault : UsageFault)
  deriving DecidableEq, Repr

structure CommandForm where
  name : String
  words : List String := []
  options : List OptionForm := []
  deriving DecidableEq, Repr

namespace Request

def globalForms : List OptionForm :=
  [⟨"config", some 'c', true⟩, ⟨"root", some 'r', true⟩, ⟨"verbose", some 'v', false⟩,
    ⟨"help", some 'h', false⟩]

def versionForm : OptionForm := ⟨"version", some 'V', false⟩

def commandForms : List CommandForm :=
  [{ name := "read", words := ["id", "selector"], options := [⟨"json", none, false⟩] },
    { name := "index", words := ["id"], options := [⟨"json", none, false⟩] },
    { name := "apply"
      words := ["id", "selector"]
      options :=
        [⟨"op", none, true⟩, ⟨"text", none, true⟩, ⟨"text-file", none, true⟩, ⟨"rev", none, true⟩,
        ⟨"diff", some 'd', false⟩] },
    { name := "list" }]

def pathOptions : List String := ["config", "root", "text-file"]

structure Gathered where
  options : List (String × Option String) := []
  words : List String := []
  deriving DecidableEq, Repr

namespace Gathered

def add (gathered : Gathered) : Argument → Except Request Gathered
  | .word text => .ok { gathered with words := gathered.words ++ [text] }
  | .option name value =>
    if (gathered.options.lookup name).isSome then .error (.refuse (.repeated name))
    else if name = "version" then .error .showVersion
    else if name = "help" then .error .showHelp
    else if pathOptions.contains name && value == some "" then
      .error (.refuse (.invalid name "" "a value is required"))
    else .ok { gathered with options := (name, value) :: gathered.options }

def has (gathered : Gathered) (name : String) : Bool := (gathered.options.lookup name).isSome

def value? (gathered : Gathered) (name : String) : Option String :=
  (gathered.options.lookup name).join

def need (gathered : Gathered) (name : String) : Except UsageFault String :=
  match gathered.value? name with
  | some value => .ok value
  | none => .error (.missing name)

def path? (gathered : Gathered) (name : String) : Option PathText :=
  (gathered.value? name).map PathText.mk

def textSource (gathered : Gathered) : Except UsageFault TextSource :=
  match gathered.value? "text", gathered.path? "text-file" with
  | some _, some _ => .error (.conflict "text" "text-file")
  | some text, none => .ok (.given text)
  | none, some path => .ok (.file path)
  | none, none => .ok .absent

end Gathered

def reading {α : Type} (name value : String) (result : Except DocError α) : Except UsageFault α :=
  result.mapError fun error => .invalid name value error.message

def commandOf (name : String) (gathered : Gathered) : Except UsageFault Command :=
  match name, gathered.words with
  | "read", [id, selector] => do
    return .onDocument
      (.read id (← reading "selector" selector (Selector.read selector)) (gathered.has "json"))
  | "index", [id] => return .onDocument (.index id (gathered.has "json"))
  | "apply", [id, selector] => do
    let op ← gathered.need "op"
    return .onDocument (.apply id (← reading "op" op (EditOp.read op))
      (← reading "selector" selector (Selector.read selector)) (← gathered.textSource)
      ⟨← gathered.need "rev"⟩ (gathered.has "diff"))
  | "list", [] => return .list
  | _, _ => throw (.unknownCommand name)

def checkWords (expected words : List String) : Except UsageFault Unit :=
  match expected, words with
  | [], [] => .ok ()
  | name :: _, [] => .error (.missing name)
  | [], word :: _ => .error (.unexpected word)
  | _ :: expected, _ :: words => checkWords expected words

/--
Reads the arguments after the name of a command.  Settings given here have precedence over
those before the name.
-/
def ofCommand (form : CommandForm) (before : Gathered) (arguments : List String) :
    Except Request Request := do
  let line := ArgumentLine.read (globalForms ++ form.options) false arguments
  let gathered ← line.arguments.foldlM Gathered.add {}
  if let .fault fault := line.ending then throw (.refuse fault)
  let command ←
    (do checkWords form.words gathered.words; commandOf form.name gathered).mapError refuse
  return .run ⟨gathered.path? "config" <|> before.path? "config",
    gathered.path? "root" <|> before.path? "root", command⟩

def ofArguments (arguments : List String) : Request :=
  let request : Except Request Request := do
    let line := ArgumentLine.read (versionForm :: globalForms) true arguments
    let gathered ← line.arguments.foldlM Gathered.add {}
    match line.ending with
    | .fault fault => throw (.refuse fault)
    | .complete =>
      match gathered.words with
      | word :: _ => throw (.refuse (.unexpected word))
      | [] => throw (.refuse .missingCommand)
    | .atWord name rest =>
      match commandForms.find? (·.name = name) with
      | some form => ofCommand form gathered rest
      | none => throw (if name = "help" then .showHelp else .refuse (.unknownCommand name))
  match request with
  | .ok request | .error request => request

end Request

end Sections
