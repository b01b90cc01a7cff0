import DesignKit.Cli.Arguments

/-! # Commands

The command line as a command: what is to be done, and with which manifest. A command line that names no
command, an unknown one, or one with arguments that do not fit, asks for nothing. -/

namespace DesignKit.Cli

/-- The forms in which compiled tokens are given out. -/
inductive TokenFormat where
  | css
  | json
  | table
deriving DecidableEq, Repr

/-- The format of a name. -/
def TokenFormat.ofName? (name : String) : Option TokenFormat :=
  if name == "css" then some .css
  else if name == "json" then some .json
  else if name == "table" then some .table
  else none

/-- What is to be done in a project. -/
inductive Command where
  /-- Renders a component. -/
  | render (component : String) (props : Option String) (propsFile : Option Path)
  /-- Lists the components. -/
  | components (asJson : Bool)
  /-- Puts the stylesheets of the components together. -/
  | componentCss (style : Option String) (output : Option Path)
  /-- Checks the bundled library. -/
  | verify
  /-- Compiles a token document. -/
  | tokens (document : Option Path) (output : Option Path) (format : TokenFormat) (scaleSchema : Option Path)
deriving Repr

/-- What a command line asks for. -/
inductive Request where
  | version
  | run (manifest : Option Path) (command : Command)
deriving Repr

namespace Command

/-- An option that takes a value. -/
def valued (name : String) (letter : Option Char) : OptionSpec := ⟨name, letter, true⟩

/-- An option that is only switched on. -/
def switch (name : String) (letter : Option Char) : OptionSpec := ⟨name, letter, false⟩

/-- The options of each command. -/
def options? (name : String) : Option (List OptionSpec) :=
  match name with
  | "render" => some [valued "props" (some 'p'), valued "props-file" none]
  | "components" => some [switch "json" none]
  | "component-css" => some [valued "style" (some 's'), valued "output" (some 'o')]
  | "verify" => some []
  | "tokens" =>
    some [valued "output" (some 'o'), valued "format" (some 'f'), valued "scale-schema" none]
  | _ => none

/-- A path that an option gives. -/
def path? (a : Arguments) (name : String) : Option Path :=
  (a.value? name).map Path.ofText

/-- The command of a name with its arguments. -/
def ofArguments? (name : String) (a : Arguments) : Option Command :=
  match name, a.words with
  | "render", [component] => some (.render component (a.value? "props") (path? a "props-file"))
  | "components", [] => some (.components (a.has "json"))
  | "component-css", [] => some (.componentCss (a.value? "style") (path? a "output"))
  | "verify", [] => some .verify
  | "tokens", words =>
    match TokenFormat.ofName? ((a.value? "format").getD "css") with
    | none => none
    | some format =>
      match words with
      | [] => some (.tokens none (path? a "output") format (path? a "scale-schema"))
      | [document] => some (.tokens (some (Path.ofText document)) (path? a "output") format (path? a "scale-schema"))
      | _ => none
  | _, _ => none

/-- The command that words ask for. -/
def ofWords? : List String → Option Command
  | [] => none
  | name :: rest => do
    let specs ← options? name
    ofArguments? name (← Arguments.read specs true rest)

end Command

namespace Request

/-- The options that stand before the command. -/
def options : List OptionSpec :=
  [Command.valued "manifest" (some 'm'), Command.switch "verbose" none, Command.switch "version" (some 'v')]

/-- What words ask for. Asking for the version leaves no other wish. -/
def ofWords? (words : List String) : Option Request := do
  let a ← Arguments.read options false words
  if a.has "version" then return .version
  return .run (Command.path? a "manifest") (← Command.ofWords? a.words)

end Request
end DesignKit.Cli
