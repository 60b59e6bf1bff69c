/-! # Diagnostics

A diagnostic is a message for people, with context, suggestions and the package that it is about.
`render` writes it for a terminal, `sections` in the order message, package, context, help. -/

namespace ModuleGraph

inductive Severity where
  | error
  | warning
  | note
  deriving DecidableEq

namespace Severity

def write : Severity → String
  | .error => "error"
  | .warning => "warning"
  | .note => "note"

def parse? : String → Option Severity
  | "error" => some .error
  | "warning" => some .warning
  | "note" => some .note
  | _ => none

/-- The number of the terminal colour. -/
def colour : Severity → String
  | .error => "31"
  | .warning => "33"
  | .note => "36"

end Severity

structure Diagnostic where
  message : String
  severity : Severity
  context : List String
  suggestions : List String
  package : Option String
  deriving DecidableEq

namespace Diagnostic

/-- A message alone. -/
def of (severity : Severity) (message : String) : Diagnostic := ⟨message, severity, [], [], none⟩

def error (message : String) : Diagnostic := of .error message

def warning (message : String) : Diagnostic := of .warning message

/-- Names the package that the diagnostic is about. -/
def about (d : Diagnostic) (package : String) : Diagnostic := { d with package := some package }

/-- Adds lines of context. -/
def withContext (d : Diagnostic) (lines : List String) : Diagnostic :=
  { d with context := d.context ++ lines }

/-- Adds suggestions. -/
def suggesting (d : Diagnostic) (suggestions : List String) : Diagnostic :=
  { d with suggestions := d.suggestions ++ suggestions }

/-- A word in bold and in the colour with the given number. -/
def paint (inColour : Bool) (number word : String) : String :=
  if inColour then s!"\x1b[1;{number}m{word}\x1b[0m" else word

/-- The suggestions as a numbered list. -/
def help (inColour : Bool) (suggestions : List String) : String :=
  if suggestions.isEmpty then ""
  else
    "\n" ++ paint inColour "32" "help" ++ ": consider:\n" ++
      String.join (suggestions.zipIdx.map fun (s, i) => s!"  {i + 1}. {s}\n")

/-- The diagnostic for a terminal. -/
def render (inColour : Bool) (d : Diagnostic) : String :=
  paint inColour d.severity.colour d.severity.write ++ ": " ++ d.message ++ "\n" ++
    (match d.package with
      | some package => s!"  --> package '{package}'\n"
      | none => "") ++
    String.join (d.context.map fun line => s!"  = {line}\n") ++ help inColour d.suggestions

end Diagnostic

end ModuleGraph
