import Sections.Config.Basic
import Sections.Command.Request

/-!
# Reports

What a run of the program shows, and with which status it ends.
-/

namespace Sections

structure Report where
  status : Nat := 0
  output : String := ""
  errors : String := ""
  deriving DecidableEq, Repr, Inhabited

inductive CommandFault where
  | config (fault : ConfigFault)
  | textFile (path : PathText) (fault : FileFault)
  | document (fault : DocError)
  | noFolder
  deriving Repr

namespace CommandFault

def message : CommandFault → String
  | config fault => fault.message
  | textFile path _ => "failed to read " ++ path.text
  | document fault => fault.message
  | noFolder => "list requires a file store (set [store] kind = \"file\")"

def causes : CommandFault → List String
  | config fault => fault.causes
  | textFile _ fault => [fault.message]
  | document (.io reason) => [reason]
  | document _ | noFolder => []

end CommandFault

def asLines (texts : List String) : String := String.join (texts.map (· ++ "\n"))

namespace Report

def indented (indent : String) (text : String) : String :=
  String.ofList (joinAll ('\n' :: indent.toList) (splitAll '\n' text.toList))

def causeLines : List String → List String
  | [] => []
  | [cause] => ["", "Caused by:", "    " ++ indented "    " cause]
  | causes =>
    "" :: "Caused by:" :: causes.mapIdx fun number cause =>
      paddedLeft 5 (toString number) ++ ": " ++ indented "       " cause
where
  paddedLeft (width : Nat) (text : String) : String :=
    String.ofList (List.replicate (width - text.length) ' ') ++ text

def ofFault (fault : CommandFault) : Report :=
  { status := 1, errors := asLines (("Error: " ++ fault.message) :: causeLines fault.causes) }

def ofUsage (fault : UsageFault) : Report :=
  { status := 2, errors := "error: " ++ fault.message ++ "\n" }

def version : Report := { output := "mdpath 0.1.0\n" }

def help : Report :=
  { output := asLines [
      "Read and edit Markdown sections by semantic path",
      "",
      "Usage: mdpath [OPTIONS] <COMMAND>",
      "",
      "Commands:",
      "  read <ID> <SELECTOR> [--json]",
      "  index <ID> [--json]",
      "  apply <ID> <SELECTOR> --op <OP> [--text <TEXT> | --text-file <FILE>] --rev <REV> [--diff]",
      "  list",
      "",
      "Options:",
      "  -c, --config <CONFIG>",
      "  -r, --root <ROOT>",
      "  -v, --verbose",
      "  -h, --help",
      "  -V, --version"] }

end Report

end Sections
