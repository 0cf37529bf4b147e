import GuidedTour.Command.Arguments

/-!
# Help texts

What is printed when help or the version is asked for. Options stand in two columns.

* `Topic.text` - the help text on a topic.
-/

namespace GuidedTour.Command

/-- The version as it is printed. -/
def versionText : String := "lumen 0.1.0\n"

/-- Rows of two columns, the second two blanks behind the widest entry of the first. -/
def twoColumns (rows : List (String × String)) : String :=
  let width := rows.foldl (fun w (a, _) => max w a.length) 0
  String.join (rows.map fun (a, b) =>
    "  " ++ a ++ String.ofList (List.replicate (width + 2 - a.length) ' ') ++ b ++ "\n")

/-- The option that asks for help. -/
def helpRow : String × String := ("-h, --help", "Print help")

/-- A help text: what it is about, how it is called, and tables under headings. -/
def helpText (about usage : String) (tables : List (String × List (String × String))) : String :=
  about ++ "\n\nUsage: lumen" ++ usage ++ "\n" ++
    String.join (tables.map fun (heading, rows) => "\n" ++ heading ++ ":\n" ++ twoColumns rows)

/-- What the command for help is good for. -/
def helpAbout : String := "Print this message or the help of the given subcommand(s)"

/-- What each command is good for. -/
def about : Topic → String
  | .program => "Onboarding walkthroughs for terminal apps"
  | .demo => "Run the built-in walkthrough on the showcase screen"
  | .play => "Run a walkthrough definition file on the showcase screen"
  | .check => "Validate a walkthrough definition file"
  | .reset => "Forget which walkthroughs were completed"
  | .help => helpAbout

/-- The help text on a topic. -/
def Topic.text (t : Topic) : String :=
  match t with
  | .program => helpText (about t) " [COMMAND]"
      [("Commands",
        [("demo", about .demo), ("play", about .play), ("check", about .check), ("reset", about .reset),
         ("help", helpAbout)]),
       ("Options", [helpRow, ("-V, --version", "Print version")])]
  | .demo => helpText (about t) " demo [OPTIONS]"
      [("Options",
        [("    --style <STYLE>", "[default: default] [possible values: default, white]"),
         ("    --mode <MODE>",
          "[default: dim-and-highlight] [possible values: dim-and-highlight, dim, none]"),
         ("    --delay <SECS>", "Advance automatically after this many seconds"),
         ("    --force", "Run even if the walkthrough was completed before"),
         ("    --bubbles", "Also play the floating bubble showcase"),
         helpRow])]
  | .play => helpText (about t) " play [OPTIONS] <FILE>"
      [("Arguments", [("<FILE>", "")]),
       ("Options", [("    --force", "Run even if the walkthrough was completed before"), helpRow])]
  | .check => helpText (about t) " check <FILE>" [("Arguments", [("<FILE>", "")]), ("Options", [helpRow])]
  | .reset => helpText (about t) " reset" [("Options", [helpRow])]
  | .help => helpText (about t) " help [COMMAND]..."
      [("Arguments", [("[COMMAND]...", "Print help for the subcommand(s)")])]

end GuidedTour.Command
