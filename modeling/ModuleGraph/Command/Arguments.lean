import ModuleGraph.Command.Check
import ModuleGraph.Command.Tests
import ModuleGraph.Command.Tree

/-! # Command lines

A command line names a command and a graph file, with options before, between or after them.  The
value of an option is the next word, or follows the name of the option after an equals sign. -/

namespace ModuleGraph

/-- A command by its name. -/
inductive CommandName where
  | check
  | tree
  | tests
  deriving DecidableEq

namespace CommandName

def parse? : String → Option CommandName
  | "check" => some .check
  | "tree" => some .tree
  | "tests" => some .tests
  | _ => none

end CommandName

/-- The options of a command line. -/
structure CommandOptions where
  flags : Flags
  asJson : Bool
  style : Command.TreeStyle

/-- A command line that has been understood. -/
structure Arguments where
  command : CommandName
  graphPath : String
  options : CommandOptions

namespace CommandOptions

/-- No options. -/
def none : CommandOptions := ⟨⟨[], false, []⟩, false, ⟨.none, false⟩⟩

/-- Takes an option that has no value. -/
def switch? (o : CommandOptions) : String → Option CommandOptions
  | "--json" => some { o with asJson := true }
  | "--all-traits" => some { o with flags := { o.flags with allTraits := true } }
  | "--modules" => some { o with style := { o.style with showModules := true } }
  | "--verbose" => some o
  | "-v" => some o
  | "--no-color" => some o
  | _ => .none

/-- Whether an option has a value. -/
def takesValue (name : String) : Bool :=
  name == "--traits" || name == "--product" || name == "--depth" || name == "-d"

/-- Takes an option with its value. -/
def set? (o : CommandOptions) (name value : String) : Option CommandOptions :=
  match name with
  | "--traits" => some { o with flags := { o.flags with traits := o.flags.traits ++ [value] } }
  | "--product" => some { o with flags := { o.flags with products := o.flags.products ++ [value] } }
  | _ => do
    let depth ← Text.numeral? value.toList
    some { o with style := { o.style with maxDepth := some depth } }

end CommandOptions

namespace Arguments

/-- The name of an option, and what follows after an equals sign. -/
def splitOption (word : String) : String × Option String :=
  let isName (c : Char) : Bool := c != '='
  let cs := word.toList
  (String.ofList (cs.takeWhile isName), (cs.dropWhile isName).tail?.map String.ofList)

/-- Reads words into options, and the other words in reverse. -/
def readWords (o : CommandOptions) (plain : List String) :
    List String → Except String (CommandOptions × List String)
  | [] => .ok (o, plain)
  | word :: rest =>
    if word.toList.head? != some '-' then readWords o (word :: plain) rest
    else
      let (name, value) := splitOption word
      let set (value : String) : Except String CommandOptions :=
        (o.set? name value).elim (.error s!"invalid value '{value}' for '{name}'") .ok
      match CommandOptions.takesValue name, value, rest with
      | true, some value, rest =>
        match set value with
        | .ok o => readWords o plain rest
        | .error e => .error e
      | true, none, value :: rest =>
        match set value with
        | .ok o => readWords o plain rest
        | .error e => .error e
      | true, none, [] => .error s!"a value is required for '{name}' but none was supplied"
      | false, _, rest =>
        match o.switch? word with
        | some o => readWords o plain rest
        | none => .error s!"unexpected argument '{word}' found"

/-- Understands the words after the name of the program. -/
def parse (words : List String) : Except String Arguments := do
  let (options, plain) ← readWords CommandOptions.none [] words
  match plain.reverse with
  | [name, graphPath] =>
    match CommandName.parse? name with
    | none => .error s!"unrecognized subcommand '{name}'"
    | some command =>
      if options.flags.allTraits && !options.flags.traits.isEmpty then
        .error "the argument '--traits <TRAITS>' cannot be used with '--all-traits'"
      else .ok ⟨command, graphPath, options⟩
  | _ => .error "a command and a graph file are required"

/-- Runs the command. -/
def run (a : Arguments) (w : Workspace) : Outcome :=
  match a.command with
  | .check => Command.check w a.options.flags a.options.asJson
  | .tree => Command.tree w a.options.flags a.options.style
  | .tests => Command.tests w a.options.flags a.options.asJson

end Arguments

end ModuleGraph
