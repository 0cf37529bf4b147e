import GuidedTour.Storage.Path

/-!
# Where files are kept

The home directory, the configuration directory, and paths that begin with a tilde. All of it depends
on the environment variables alone.

* `expandTilde` - a path with its tilde replaced by the home directory.
* `configFile` - the path of a configuration file, unless a variable names another one.
-/

namespace GuidedTour.Storage

/-- The variables of the process, and the home directory of its account. -/
structure Environment where
  bindings    : List (String × String)
  accountHome : Option Path
  deriving Inhabited

namespace Environment

/-- The value of a variable. -/
def value? (env : Environment) (name : String) : Option String := env.bindings.lookup name

/-- The home directory. -/
def home? (env : Environment) : Option Path :=
  ((env.value? "HOME").filter (· ≠ "")) <|> env.accountHome

/-- The home directory, or a tilde when there is none. -/
def home (env : Environment) : Path := env.home?.getD "~"

/-- The directory of all configurations. -/
def configDirectory? (env : Environment) : Option Path :=
  ((env.value? "XDG_CONFIG_HOME").filter Path.isAbsolute) <|> env.home?.map (Path.join · ".config")

end Environment

/-- The text behind a beginning. -/
def after? (start : String) (s : String) : Option String :=
  if start.toList.isPrefixOf s.toList then some (String.ofList (s.toList.drop start.length)) else none

/-- The path that a text names: a tilde at its beginning, alone or before a separator of either kind,
stands for the home directory. Blanks around the text do not count. -/
def expandTilde (env : Environment) (s : String) : Path :=
  let p := Text.trim s
  if p = "~" then env.home else
    match after? "~/" p with
    | some rest => env.home.join rest
    | none =>
      match after? "~\\" p with
      | some rest => env.home.join rest
      | none => p

/-- The same for a path: it is left alone unless its first component is a tilde. -/
def expandTildePath (env : Environment) (p : Path) : Path :=
  if p.components.head? = some "~" then expandTilde env p else p

/-- The directory of this program below the configuration directory. -/
def directoryName : String := "lumen"

/-- The path that a variable names, or else the file of a name in this program's configuration
directory. A blank variable names nothing. -/
def configFile (env : Environment) (override file : String) : Path :=
  match (env.value? override).filter fun v => !Text.isAllBlank v with
  | some path => expandTilde env path
  | none => ((env.configDirectory?.getD ".").join directoryName).join file

/-- Where completion flags are kept. -/
def completionPath (env : Environment) : Path :=
  configFile env "LUMEN_COMPLETION_PATH" "walkthroughs.json"

/-- Where the log is written. -/
def logPath (env : Environment) : Path := configFile env "LUMEN_LOG_PATH" "lumen.log"

end GuidedTour.Storage
