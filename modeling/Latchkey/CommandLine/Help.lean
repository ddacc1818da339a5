/-
What the program says about itself. The description of an option tells the value of its environment
variable, unless that is a secret.
-/
import Latchkey.CommandLine.Options

namespace Latchkey.CommandLine

def programName : String := "nostalgix_server"

def versionText (version : String) : String := programName ++ " " ++ version ++ "\n"

/-- The space in front of descriptions, which stand on lines of their own. -/
def indent : String := "          "

/-- A text of which each line but the first is indented. -/
def indented (text : String) : String :=
  String.ofList (text.toList.flatMap fun c => if c = '\n' then '\n' :: indent.toList else [c])

/-- The remarks behind the description of an option. -/
def remarks (env : Environment) (o : OptionKey) : String :=
  let fromVariable := match o.environmentName? with
    | none => ""
    | some name =>
      if o = .hashSecret then " [env: " ++ name ++ "]"
      else " [env: " ++ name ++ "=" ++ (env.get? name).getD "" ++ "]"
  let fallback := match o.default? with
    | none => ""
    | some value => " [default: " ++ value ++ "]"
  fromVariable ++ fallback

/-- An entry: a name on one line, its description on the next. -/
def entry (name about : String) : String := name ++ "\n" ++ indent ++ about ++ "\n"

/-- The entries of options, each up to where the name of the next entry begins. What a variable
holds is not marked off from what follows it, but every name begins with a mark of its own, so a
sequence that is left open hides the text up to there. -/
def optionEntries (env : Environment) : List OptionKey → String
  | [] => ""
  | o :: rest =>
    let next := if rest.isEmpty then "  " else "      "
    o.usage ++ Terminal.visible (entry "" (indented (o.about ++ remarks env o)) ++ next)
      ++ optionEntries env rest

def helpText (env : Environment) : String :=
  "Nostalgix API server\n\nUsage: " ++ programName ++ " [OPTIONS]\n\nOptions:\n      "
    ++ optionEntries env OptionKey.all
    ++ entry "-h, --help" "Print help"
    ++ entry "  -V, --version" "Print version"

end Latchkey.CommandLine
