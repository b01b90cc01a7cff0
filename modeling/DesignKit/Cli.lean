import DesignKit.Catalog.Css
import DesignKit.Cli.Command
import DesignKit.Console.Table
import DesignKit.Css
import DesignKit.Kit.Project
import DesignKit.Token.File
import DesignKit.Verification

/-! # The command line

A command works on a file tree and gives what it prints, what it warns about, how it ends and the tree
afterwards. A command that fails prints nothing but its error, and it has written no file, unless it is the line
about the file that cannot be shown. -/

namespace DesignKit.Cli

/-- The version of the program. -/
def version : String := "0.3.0"

/-- Why a command has failed. -/
inductive Failure where
  /-- The user is told a message. -/
  | told (message : String)
  /-- A fault that no command expects. -/
  | unexpected (fault : Fault)

/-- The user is told a message in red, in lines as long as they are. -/
def Failure.tell (message : String) : Failure :=
  match Console.shown (Console.inStyle "red" message) with
  | .ok shown => .told (Console.tabbed shown)
  | .error f => .unexpected f

/-- The faults of the library are told by their messages. -/
def Failure.ofFault (f : Fault) : Failure :=
  if f.isReported then .tell f.message else .unexpected f

/-- How a command has ended. -/
inductive Ending where
  | done
  /-- The checks have found something. -/
  | checksFailed
  | failed (failure : Failure)
  /-- The command line asks for nothing that there is. -/
  | misused

/-- What has come of a command line. -/
structure Outcome where
  output : String
  ending : Ending
  warnings : List String
  tree : FileTree

namespace Outcome

/-- The exit status. -/
def status (o : Outcome) : Nat :=
  match o.ending with
  | .done => 0
  | .checksFailed => 1
  | .failed _ => 1
  | .misused => 2

/-- The message that the user is told. -/
def message? (o : Outcome) : Option String :=
  match o.ending with
  | .failed (.told message) => some message
  | _ => none

/-- The fault that ended the command. -/
def fault? (o : Outcome) : Option Fault :=
  match o.ending with
  | .failed (.unexpected fault) => some fault
  | _ => none

/-- A command that has changed no file and given no warning. -/
def ofText (t : FileTree) (x : Except Failure String) : Outcome :=
  match x with
  | .ok output => ⟨output, .done, [], t⟩
  | .error f => ⟨"", .failed f, [], t⟩

/-- A command that has, perhaps, changed files before it printed. -/
def ofTree (t : FileTree) (x : Except Failure (Except Failure String × FileTree)) : Outcome :=
  match x with
  | .ok (output, t) => ofText t output
  | .error f => ofText t (.error f)

/-- A command that has rendered a text. -/
def ofRender (t : FileTree) (x : Render (String × Ending)) : Outcome :=
  match x.result with
  | .ok (output, ending) => ⟨output, ending, x.warnings, t⟩
  | .error f => ⟨"", .failed (.ofFault f), x.warnings, t⟩

end Outcome

/-- A result whose fault makes the command fail. -/
def orFail {α : Type} (x : Except Fault α) : Except Failure α :=
  x.mapError Failure.ofFault

/-- The manifest of the project: the one that is asked for, or that of the working directory. -/
def project (t : FileTree) (manifest : Option Path) : Except Failure Manifest :=
  match manifest with
  | none => orFail (Manifest.find t (Path.ofText ""))
  | some p =>
    if t.isFile p then orFail (Manifest.load t p) else .error (.tell ("Manifest not found: " ++ p.print))

/-- A styled text, as the console prints it. -/
def styledLine (s : String) : Except Failure String :=
  Console.printed <$> (Console.shown s).mapError Failure.unexpected

/-- Writes a text into a file. -/
def save (t : FileTree) (p : Path) (text : String) : Except Failure FileTree :=
  orFail (t.write p text)

/-! ### Rendering -/

/-- The text of the props: given as they are, or in a file. -/
def propsText (t : FileTree) (props : Option String) (file : Option Path) : Except Failure String :=
  match props, file with
  | some _, some _ => .error (.tell "Use either --props or --props-file, not both")
  | some s, none => .ok s
  | none, none => .ok ""
  | none, some p =>
    match t.read p with
    | .ok s => .ok s
    | .error f =>
      .error (if f.isOfFiles then .tell ("Cannot read " ++ p.print ++ ": " ++ f.message) else .unexpected f)

/-- The props that a text gives; the empty text gives none. -/
def propsOf (text : String) : Except Failure Members :=
  if text == "" then .ok []
  else
    match Json.read text with
    | .error f => .error (.tell ("Invalid props JSON: " ++ f.message))
    | .ok (.object m) => .ok m
    | .ok _ => .error (.tell "Props must be a JSON object")

/-- A component rendered by the kit of a project. -/
def renderText (t : FileTree) (m : Manifest) (component : String) (props : Members) : Render (String × Ending) := do
  let kit ← m.kit t
  let markup ← (kit.renderer t []).renderNode ⟨component, props⟩
  return (markup.print ++ "\n", .done)

/-- Renders a component. -/
def render (t : FileTree) (manifest : Option Path) (component : String) (props : Option String)
    (file : Option Path) : Outcome :=
  let prepared : Except Failure (Manifest × Members) := do
    let bag ← propsOf (← propsText t props file)
    return (← project t manifest, bag)
  match prepared with
  | .error f => Outcome.ofText t (.error f)
  | .ok (m, bag) => Outcome.ofRender t (renderText t m component bag)

/-! ### Listing -/

/-- The entries of the components of a project. -/
def entries (t : FileTree) (manifest : Option Path) : Except Failure (List CatalogEntry) := do
  let m ← project t manifest
  let catalog ← orFail m.catalog
  orFail (catalog.scan t []).1

/-- A component as an object. -/
def entryValue (e : CatalogEntry) : Value :=
  .object [("name", .text e.name), ("label", .text e.schema.label), ("category", .ofText? e.schema.category),
    ("styles", .list (e.styles.map .text)), ("path", .text e.directory.print)]

/-- The cells of a component. -/
def entryRow (e : CatalogEntry) : List String :=
  [e.name, e.schema.label, e.schema.category.getD "", ", ".intercalate e.styles]

/-- The list of components, as JSON or as a table. -/
def listing (asJson : Bool) (es : List CatalogEntry) : Except Failure String :=
  if asJson then .ok ((Value.list (es.map entryValue)).indented false 0 ++ "\n")
  else if es.isEmpty then .ok "No components found.\n"
  else orFail (Console.Table.mk "Components" ["Name", "Label", "Category", "Styles"] (es.map entryRow)).print

/-! ### Stylesheets -/

/-- Puts the stylesheets of the components of a project together, for a style or that of the manifest. -/
def componentCss (t : FileTree) (manifest : Option Path) (style : Option String) (output : Option Path) :
    Except Failure (Except Failure String × FileTree) := do
  let m ← project t manifest
  let catalog ← orFail m.catalog
  let css ← orFail (catalog.css t ((style.filter (· != "")).getD m.defaultStyle.print))
  match output with
  | some p => return (styledLine ("[green]Wrote[/green] " ++ p.print), ← save t p css)
  | none => return (.ok css, t)

/-! ### Verification -/

/-- The line of a finding. -/
def findingLine (f : Finding) : Except Fault String := do
  let status := match f.error with
    | none => Console.inStyle "green" "OK"
    | some error => Console.inStyle "red" ("ERROR: " ++ error)
  return Console.printed (← Console.shown (f.label ++ Console.copies (18 - f.label.length) ' ' ++ " " ++ status))

/-- The findings, and how many checks have passed and failed. -/
def report (fs : List Finding) : Except Fault String := do
  let failed := (fs.filter (·.error.isSome)).length
  let lines ← fs.mapM findingLine
  return String.join lines ++ "\nPassed: " ++ Number.intText (fs.length - failed : Nat) ++ "  Failed: " ++
    Number.intText failed ++ "\n"

/-- The checks of the bundled library, made with the kit of a project. -/
def verifyText (t : FileTree) (m : Manifest) : Render (String × Ending) := do
  let kit ← m.kit t
  let findings ← Check.runAll (kit.renderer t []) Check.bundle
  return (← report findings, if findings.all (·.error.isNone) then .done else .checksFailed)

/-- Checks the bundled library. -/
def verify (t : FileTree) (manifest : Option Path) : Outcome :=
  match project t manifest with
  | .error f => Outcome.ofText t (.error f)
  | .ok m => Outcome.ofRender t (verifyText t m)

/-! ### Tokens -/

/-- A token as an object. -/
def tokenValue (token : Token) : Value :=
  .object [("variable_name", .text token.name), ("category", .text token.category), ("value", .text token.value)]

/-- Tokens and colorways as an object. A name that is given to several colorways keeps the last. -/
def tokensValue (table : Table) (colorways : List Colorway) : Value :=
  .object [("tokens", .list (table.map tokenValue)),
    ("colorways", .object (Members.ofEntries (colorways.map fun c =>
      (c.name, .object (c.values.map fun (key, s) => (key, .text s))))))]

/-- Tokens and colorways in a format. A table leaves the colorways out. -/
def tokensText (format : TokenFormat) (table : Table) (colorways : List Colorway) : Except Failure String :=
  match format with
  | .css => .ok (Css.emit table colorways)
  | .json => .ok ((tokensValue table colorways).indented true 0 ++ "\n")
  | .table => orFail
    (Console.Table.mk "Design Tokens" ["Variable", "Category", "Value"]
      (table.map fun token => [token.name, token.category, token.value])).print

/-- The file that the result is written to, if it is not printed. A table is always printed, and only a
stylesheet goes where the manifest says. -/
def tokensOutput (m : Manifest) (output : Option Path) (format : TokenFormat) : Option Path :=
  match format with
  | .css => output.or (m.outputPath.map m.resolve)
  | .json => output
  | .table => none

/-- The token document that is compiled: the given one, or that of the manifest. -/
def tokensSource (m : Manifest) (document : Option Path) : Option Path :=
  document.or (m.tokenPath.map m.resolve)

/-- The file of the scale schema: the given one, or that of the manifest. -/
def scaleSchemaSource (m : Manifest) (scaleSchema : Option Path) : Option Path :=
  scaleSchema.or (m.scaleSchemaPath.map m.resolve)

/-- The scale schema in a file, or the standard one. -/
def scaleSchemaIn (t : FileTree) : Option Path → Except Fault ScaleSchema
  | some p => ScaleSchema.load t p
  | none => .ok ScaleSchema.standard

/-- The tokens and colorways that a document compiles to under a scale schema, each read from its file. -/
def compileFiles (rounding : Color.Rounding) (t : FileTree) (document : Path) (scaleSchema : Option Path) :
    Except Fault (Table × List Colorway) := do
  let doc ← TokenDocument.load t document
  let schema ← scaleSchemaIn t scaleSchema
  let table ← TokenDocument.compile rounding schema (.object doc)
  return (table, ← Colorway.ofDocument (.object doc))

/-- The manifest of the project, and what its tokens and colorways compile to. -/
def compiled (rounding : Color.Rounding) (t : FileTree) (manifest document scaleSchema : Option Path) :
    Except Failure (Manifest × Table × List Colorway) := do
  let m ← project t manifest
  match tokensSource m document with
  | none => throw (.tell "No token document given and [tokens].path is not set in anticustom.toml")
  | some source =>
    let tokens ← orFail (compileFiles rounding t source (scaleSchemaSource m scaleSchema))
    return (m, tokens)

/-- The line about the file that tokens were written to. -/
def writtenLine (table : Table) (p : Path) : Except Failure String :=
  styledLine ("[green]Wrote " ++ Number.intText table.length ++ " tokens to[/green] " ++ p.print)

/-- Writes a text into a file, in directories that are made where they do not exist. -/
def saveWithin (t : FileTree) (p : Path) (text : String) : Except Failure Unit × FileTree :=
  match t.makeDirectories p.parent with
  | (.error f, t) => (.error (.ofFault f), t)
  | (.ok (), t) =>
    match save t p text with
    | .error f => (.error f, t)
    | .ok t => (.ok (), t)

/-- Compiles a token document and prints or writes what comes of it. -/
def tokens (rounding : Color.Rounding) (t : FileTree) (manifest document output : Option Path)
    (format : TokenFormat) (scaleSchema : Option Path) : Except Failure String × FileTree :=
  let prepared : Except Failure (Manifest × Table × String) := do
    let (m, table, colorways) ← compiled rounding t manifest document scaleSchema
    return (m, table, ← tokensText format table colorways)
  match prepared with
  | .error f => (.error f, t)
  | .ok (m, table, text) =>
    match tokensOutput m output format with
    | none => (.ok text, t)
    | some p =>
      match saveWithin t p text with
      | (.error f, t) => (.error f, t)
      | (.ok (), t) => (writtenLine table p, t)

/-! ### Running -/

/-- Does what a command asks for. -/
def runCommand (rounding : Color.Rounding) (t : FileTree) (manifest : Option Path) : Command → Outcome
  | .render component props file => render t manifest component props file
  | .components asJson => Outcome.ofText t (entries t manifest >>= listing asJson)
  | .componentCss style output => Outcome.ofTree t (componentCss t manifest style output)
  | .verify => verify t manifest
  | .tokens document output format scaleSchema =>
    let (output, t) := tokens rounding t manifest document output format scaleSchema
    Outcome.ofText t output

/-- Does what the words of a command line ask for. -/
def run (rounding : Color.Rounding) (t : FileTree) (words : List String) : Outcome :=
  match Request.ofWords? words with
  | none => ⟨"", .misused, [], t⟩
  | some .version => ⟨"Anticustom version " ++ version ++ "\n", .done, [], t⟩
  | some (.run manifest command) => runCommand rounding t manifest command

end DesignKit.Cli
