import DesignKit.Console.Action
import DesignKit.Console.Emoji
import DesignKit.Console.StyleName

/-! # Styled texts

A text for the console may carry styles. A style begins at a tag, which is its name in square brackets, and ends
at a tag with a slash before the name, or at a slash alone when it is the last that has begun. A tag is told
from a text that reads like one by the backslashes before it: two of them stand for one, and an odd one makes
the tag a text. A console without colours shows a text without its tags and with the emoji for their codes. -/

namespace DesignKit.Console

/-- A part of a styled text. -/
inductive Piece where
  | plain (cs : List Char)
  /-- A tag and the number of backslashes before it. -/
  | tag (slashes : Nat) (body : List Char)
deriving DecidableEq, Repr

/-- A tag begins with a small letter or one of three signs. -/
def opensTag (c : Char) : Bool :=
  c.isLower || c == '#' || c == '/' || c == '@'

/-- What stands between the brackets of the tag that a text begins with: all up to the first closing bracket, with
no other opening bracket in it. -/
def tagBody? : List Char → Option (List Char)
  | '[' :: c :: rest =>
    let inside := rest.takeWhile fun d => d != ']' && d != '['
    if opensTag c && rest[inside.length]? == some ']' then some (c :: inside) else none
  | _ => none

/-- Parts with a character before them. -/
def addChar (c : Char) : List Piece → List Piece
  | .plain cs :: rest => .plain (c :: cs) :: rest
  | ps => .plain [c] :: ps

/-- The parts of a text without its first characters. -/
def pieces : Nat → List Char → List Piece
  | _, [] => []
  | skipped + 1, _ :: rest => pieces skipped rest
  | 0, c :: rest =>
    let slashes := ((c :: rest).takeWhile (· == '\\')).length
    match tagBody? ((c :: rest).drop slashes) with
    | some body => .tag slashes body :: pieces (slashes + body.length + 1) rest
    | none => addChar c (pieces 0 rest)

/-- A number of backslashes. -/
def backslashes (n : Nat) : List Char :=
  List.replicate n '\\'

/-- A tag with its brackets. -/
def bracketed (body : List Char) : List Char :=
  '[' :: body ++ [']']

/-- A text that ends in a single backslash with another one, so that it takes none from a tag behind it. -/
def guardEnd (cs : List Char) : List Char :=
  match cs.reverse with
  | '\\' :: '\\' :: _ => cs
  | '\\' :: _ => cs ++ ['\\']
  | _ => cs

/-- A text in a form in which its own tags are texts. -/
def literal (s : String) : String :=
  String.ofList <| guardEnd <| (pieces 0 s.toList).flatMap fun
    | .plain cs => cs
    | .tag slashes body => backslashes (2 * slashes + 1) ++ bracketed body

/-- A style that has begun: its name, and what stands behind an equals sign. -/
structure Begun where
  name : String
  values : List Char

/-- An action that ends takes values that can be read, if it takes any. -/
def Begun.mayEnd (b : Begun) : Bool :=
  b.name.toList.head? != some '@' || b.values.isEmpty || Action.isReadable b.values

/-- The style that ends under a name. The empty name ends the last that has begun. -/
def ending? (name : String) (styles : List Begun) : Option Begun :=
  if name == "" then styles.head? else styles.find? (·.name == name)

/-- The styles that stay when the style of a name ends, from the last begun to the first. -/
def ended (name : String) (styles : List Begun) : Except Fault (List Begun) :=
  match ending? name styles with
  | none => .error .unmatchedTag
  | some b =>
    if b.mayEnd then .ok (if name == "" then styles.tail else styles.eraseP (·.name == name)) else .error .badAction

/-- The styles behind a tag. -/
def behindTag (body : List Char) (styles : List Begun) : Except Fault (List Begun) := do
  match body.takeWhile (· != '=') with
  | '/' :: name =>
    let name ← if name.all Text.isBlank then pure "" else styleName name
    ended name styles
  | name => return ⟨← styleName name, (body.dropWhile (· != '=')).drop 1⟩ :: styles

/-- A text without the backslashes before its opening brackets. -/
def bareBrackets : List Char → List Char
  | '\\' :: '[' :: rest => '[' :: bareBrackets rest
  | c :: rest => c :: bareBrackets rest
  | [] => []

/-- The characters that a console shows of parts, while styles have begun. -/
def shownChars : List Begun → List Piece → Except Fault (List Char)
  | _, [] => .ok []
  | styles, .plain cs :: rest => (withEmoji (bareBrackets cs) ++ ·) <$> shownChars styles rest
  | styles, .tag slashes body :: rest => do
    let before := backslashes (slashes / 2)
    if slashes % 2 == 1 then return before ++ withEmoji (bracketed body) ++ (← shownChars styles rest)
    else return before ++ (← shownChars (← behindTag body styles) rest)

/-- A console does not show the controls that would ring its bell or move its cursor. -/
def isShown (c : Char) : Bool :=
  !([7, 8, 11, 12, 13] : List Nat).contains c.toNat

/-- What a console without colours shows of a styled text. -/
def shown (s : String) : Except Fault String := do
  let cs ← shownChars [] (pieces 0 s.toList)
  return String.ofList (cs.filter isShown)

/-- A text in a style, as a styled text. -/
def inStyle (style s : String) : String :=
  String.ofList (bracketed style.toList) ++ literal s ++ String.ofList (bracketed ('/' :: style.toList))

end DesignKit.Console
