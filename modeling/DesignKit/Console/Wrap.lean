import DesignKit.Text.Blank
import DesignKit.Text.Width

/-! # Lines on a console

A tab leads to the next multiple of eight cells. A line that does not fit into its room goes on, from a word on, in
another line; the blanks between words stay at the end of a line as far as they fit. -/

namespace DesignKit.Console

/-- What becomes of a word that is wider than its room. -/
inductive Overflow where
  /-- It goes on in another line. -/
  | fold
  /-- It ends in an ellipsis. -/
  | ellipsis
deriving DecidableEq, Repr

/-- A number of blanks. -/
def blanks (n : Nat) : List Char :=
  List.replicate n ' '

/-- Characters between tabs, from a cell on, with blanks for the tabs. -/
def fillTabs : Nat → List (List Char) → List Char
  | _, [] => []
  | _, [last] => last
  | cell, part :: rest =>
    let stop := cell + Text.charsWidth (part ++ [' '])
    let more := (8 - stop % 8) % 8
    part ++ ' ' :: blanks more ++ fillTabs (stop + more) rest

/-- A line with blanks for its tabs. -/
def expandTabs (line : List Char) : List Char :=
  fillTabs 0 (line.splitOn '\t')

/-- The words of a line, each with the blanks behind it, and the first also with those before it. A line of blanks is
a word. -/
def spacedWords (line : List Char) : List (List Char) :=
  match line.splitBy fun c d => !(Text.isBlank c && !Text.isBlank d) with
  | first :: second :: rest => if first.all Text.isBlank then (first ++ second) :: rest else first :: second :: rest
  | words => words

/-- The parts that words come to in lines of a room, behind some cells of the first line, each with whether it begins
another line. -/
def partsAfter (o : Overflow) (room : Nat) : Nat → List (List Char) → List (Bool × List Char)
  | _, [] => []
  | cell, word :: rest =>
    let core := Text.charsWidth (Text.dropEnd Text.isBlank word)
    if cell + core ≤ room then (false, word) :: partsAfter o room (cell + Text.charsWidth word) rest
    else
      let parts := if room < core && o == .fold then Text.chop room word else [word]
      parts.map (true, ·) ++ partsAfter o room (Text.charsWidth (parts.getLastD [])) rest

/-- The lines that words come to. The first word begins no other line. -/
def brokenLines (o : Overflow) (room : Nat) (words : List (List Char)) : List (List Char) :=
  match (partsAfter o room 0 words).splitBy fun _ part => !part.1 with
  | [] => [[]]
  | lines => lines.map fun parts => parts.flatMap (·.2)

/-- A line without the blanks at its end for which there is no room. -/
def trimExcess (room : Nat) (line : List Char) : List Char :=
  let trailing := line.length - (Text.dropEnd Text.isBlank line).length
  line.take (line.length - min trailing (line.length - room))

/-- A line cut off at its room. -/
def cutOff (o : Overflow) (room : Nat) (line : List Char) : List Char :=
  if Text.charsWidth line ≤ room then line
  else
    match o with
    | .fold => Text.crop room line
    | .ellipsis => Text.crop (room - 1) line ++ ['…']

/-- The lines of a text in a room. -/
def wrap (o : Overflow) (room : Nat) (s : String) : List String :=
  (s.toList.splitOn '\n').flatMap fun line =>
    (brokenLines o room (spacedWords (expandTabs line))).map fun line =>
      String.ofList (cutOff o room (trimExcess room line))

/-- A text with blanks for the tabs of its lines. -/
def tabbed (s : String) : String :=
  "\n".intercalate ((s.toList.splitOn '\n').map fun line => String.ofList (expandTabs line))

/-- The cells of a line of the console. -/
def lineRoom : Nat := 1000

/-- A text as the console prints it in its lines, with a line break at the end. -/
def printed (s : String) : String :=
  "\n".intercalate (wrap .fold lineRoom s) ++ "\n"

end DesignKit.Console
