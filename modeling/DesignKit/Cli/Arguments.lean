import DesignKit.Path

/-! # Command line arguments

A command line is a list of words. Words that start with a dash set options, by a long name after two dashes or
by single letters after one; an option that takes a value finds it behind an equals sign, in the rest of the
letters or in the next word. Two dashes alone end the options. A dash alone, and all other words, are
positional. -/

namespace DesignKit.Cli

/-- An option: its long name, its letter, if it has one, and whether it takes a value. -/
structure OptionSpec where
  name : String
  letter : Option Char
  takesValue : Bool

/-- The options that were set, in order, with their values (empty for those that take none), and the
positional words. -/
structure Arguments where
  settings : List (String × String)
  words : List String
deriving Repr

namespace Arguments

/-- An option was set. -/
def has (a : Arguments) (name : String) : Bool :=
  a.settings.any (·.1 == name)

/-- The value of an option that was set; the last one counts. -/
def value? (a : Arguments) (name : String) : Option String :=
  a.settings.reverse.lookup name

/-- What a word is. -/
inductive Word where
  | positional
  /-- The word sets options. -/
  | settings (given : List (String × String))
  /-- The word sets options and ends in one whose value is the next word. -/
  | awaiting (given : List (String × String)) (name : String)

/-- The options set by letters. -/
def ofLetters (specs : List OptionSpec) (given : List (String × String)) : List Char → Option Word
  | [] => some (.settings given)
  | letter :: rest =>
    match specs.find? (·.letter == some letter) with
    | none => none
    | some spec =>
      if !spec.takesValue then ofLetters specs (given ++ [(spec.name, "")]) rest
      else if rest.isEmpty then some (.awaiting given spec.name)
      else some (.settings (given ++ [(spec.name, String.ofList rest)]))

/-- The option set by a long name, with its value if an equals sign follows. -/
def ofLongName (specs : List OptionSpec) (cs : List Char) : Option Word :=
  let name := String.ofList (cs.takeWhile (· != '='))
  match specs.find? (·.name == name), cs.dropWhile (· != '=') with
  | none, _ => none
  | some spec, [] => some (if spec.takesValue then .awaiting [] name else .settings [(name, "")])
  | some spec, _ :: value => if spec.takesValue then some (.settings [(name, String.ofList value)]) else none

/-- What a word is; none for an unknown option. -/
def classify (specs : List OptionSpec) (word : String) : Option Word :=
  match word.toList with
  | '-' :: '-' :: rest => ofLongName specs rest
  | '-' :: letter :: rest => ofLetters specs [] (letter :: rest)
  | _ => some .positional

/-- Adds what further words set. -/
def prepend (given : List (String × String)) (words : List String) (a : Arguments) : Arguments :=
  ⟨given ++ a.settings, words ++ a.words⟩

/-- Reads words. When options may not follow positional words, the first of these ends the options. An
unknown option or one that lacks its value is an error. -/
def read (specs : List OptionSpec) (mixed : Bool) : List String → Option Arguments
  | [] => some ⟨[], []⟩
  | word :: rest =>
    if word == "--" then some ⟨[], rest⟩
    else
      match classify specs word, rest with
      | none, _ => none
      | some .positional, rest =>
        if mixed then (read specs mixed rest).map (prepend [] [word]) else some ⟨[], word :: rest⟩
      | some (.settings given), rest => (read specs mixed rest).map (prepend given [])
      | some (.awaiting given name), value :: rest =>
        (read specs mixed rest).map (prepend (given ++ [(name, value)]) [])
      | some (.awaiting _ _), [] => none

end Arguments
end DesignKit.Cli
