/-!
# Failures of the command line

A failure is a chain of texts, each the cause of the one before.

* `Failure.report` - the chain as it is printed.
-/

namespace GuidedTour.Command

/-- A failure and its causes, the outermost first. -/
structure Failure where
  what   : String
  causes : List String := []

namespace Failure

/-- The chain on one line. -/
def line (f : Failure) : String := String.intercalate ": " (f.what :: f.causes)

/-- A text whose lines but the first are indented. -/
def indent (space : String) (s : String) : String :=
  String.join (s.toList.map fun c => if c = '\n' then "\n" ++ space else String.singleton c)

/-- A number in five columns. -/
def numberColumn (n : Nat) : String :=
  let s := toString n
  String.ofList (List.replicate (5 - s.length) ' ') ++ s

/-- Causes below each other; several are numbered. -/
def causeLines : List String → List String
  | [c] => ["    " ++ indent "    " c]
  | cs => cs.zipIdx.map fun (c, i) => numberColumn i ++ ": " ++ indent "       " c

/-- The chain as it is printed. -/
def report (f : Failure) : String :=
  let causes := if f.causes.isEmpty then "" else
    "\n\nCaused by:\n" ++ String.intercalate "\n" (causeLines f.causes)
  "Error: " ++ f.what ++ causes ++ "\n"

end Failure

end GuidedTour.Command
