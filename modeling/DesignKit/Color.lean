import DesignKit.Number.Arithmetic
import DesignKit.Json.Reader

/-! # Colors

A hex color is read into its three channels, turned into hue, lightness and saturation, and back. A shade
of a color has its hue and saturation and a lightness of its own, so a table of lightnesses gives a family
of shades. All quantities are fractions of one unless a name says otherwise. -/

namespace DesignKit
open Number

/-- The channels of a color. -/
structure Rgb where
  red : Float
  green : Float
  blue : Float

/-- Hue, lightness and saturation of a color. -/
structure Hls where
  hue : Float
  lightness : Float
  saturation : Float

namespace Color

/-- The hexadecimal digits that a text consists of, if it does. -/
def hexDigits? (cs : List Char) : Option (List Nat) :=
  cs.mapM Json.hexValue?

/-- The six digits of a written color: six after an optional hash, or three that count twice each. -/
def digits? (s : String) : Option (List Nat) :=
  let cs :=
    match Text.trimBoth Text.isBlank s.toList with
    | '#' :: rest => rest
    | cs => cs
  match hexDigits? cs with
  | some [r, g, b] => some [r, r, g, g, b, b]
  | some [r, r', g, g', b, b'] => some [r, r', g, g', b, b']
  | _ => none

/-- The share of 255 that a pair of digits writes. -/
def channel (high low : Nat) : Float :=
  (high * 16 + low).toFloat / 255.0

/-- The channels of a written color. -/
def rgb? (s : String) : Option Rgb :=
  match digits? s with
  | some [r, r', g, g', b, b'] => some ⟨channel r r', channel g g', channel b b'⟩
  | _ => none

/-- The greater of two doubles, the first when neither is. -/
def greater (x y : Float) : Float := if y > x then y else x

/-- The lesser of two doubles, the first when neither is. -/
def lesser (x y : Float) : Float := if y < x then y else x

/-- How two is diminished by the brightest and the darkest channel of a light color: by their sum, or by the one
and then by the other. For some colors the two doubles differ in the last place, and so does the saturation, which
can change a digit of a shade. The arithmetic of colors is in use with either, so all that is made of a
saturation is made for both. -/
inductive Rounding where
  | bySum
  | oneByOne
deriving DecidableEq, Repr

/-- What is left of two beside the brightest and the darkest channel. -/
def Rounding.leftOfTwo (rounding : Rounding) (most least : Float) : Float :=
  match rounding with
  | bySum => 2.0 - (most + least)
  | oneByOne => 2.0 - most - least

/-- Hue, lightness and saturation of channels. A gray has neither hue nor saturation. -/
def Hls.ofRgb (rounding : Rounding) (c : Rgb) : Hls :=
  let most := greater (greater c.red c.green) c.blue
  let least := lesser (lesser c.red c.green) c.blue
  let sum := most + least
  let range := most - least
  let lightness := sum / 2.0
  if least == most then ⟨0.0, lightness, 0.0⟩ else
    let saturation := if lightness <= 0.5 then range / sum else range / rounding.leftOfTwo most least
    let red := (most - c.red) / range
    let green := (most - c.green) / range
    let blue := (most - c.blue) / range
    let sector :=
      if c.red == most then blue - green
      else if c.green == most then 2.0 + red - blue
      else 4.0 + green - red
    ⟨fractionPart (sector / 6.0), lightness, saturation⟩

/-- The channel whose hue is the given one, between the darkest and the brightest. -/
def channelAt (dark bright hue : Float) : Float :=
  let hue := fractionPart hue
  if hue < 1.0 / 6.0 then dark + (bright - dark) * hue * 6.0
  else if hue < 0.5 then bright
  else if hue < 2.0 / 3.0 then dark + (bright - dark) * (2.0 / 3.0 - hue) * 6.0
  else dark

/-- The channels of a color given by hue, lightness and saturation. -/
def Rgb.ofHls (c : Hls) : Rgb :=
  if c.saturation == 0.0 then ⟨c.lightness, c.lightness, c.lightness⟩ else
    let bright :=
      if c.lightness <= 0.5 then c.lightness * (1.0 + c.saturation)
      else c.lightness + c.saturation - c.lightness * c.saturation
    let dark := 2.0 * c.lightness - bright
    ⟨channelAt dark bright (c.hue + 1.0 / 3.0), channelAt dark bright c.hue,
      channelAt dark bright (c.hue - 1.0 / 3.0)⟩

/-- A channel in hexadecimal: its share of 255 to the nearest whole number, with at least two characters. -/
def channelText (x : Float) : Except Fault (List Char) := do
  let n ← floor (x * 255.0 + 0.5)
  if n < 0 then return '-' :: Text.hexDigits 1 n.natAbs else return Text.hexDigits 2 n.natAbs

/-- The hex text of a color. -/
def hex (c : Hls) : Except Fault String := do
  let c := Rgb.ofHls c
  let red ← channelText c.red
  let green ← channelText c.green
  let blue ← channelText c.blue
  return String.ofList ('#' :: red ++ green ++ blue)

/-- Hue, lightness and saturation of a written color. -/
def hls? (rounding : Rounding) (s : String) : Option Hls :=
  (rgb? s).map (Hls.ofRgb rounding)

/-- The hex text of a color given by its hue in degrees and its saturation and lightness in percent. -/
def hexOf (hue saturation lightness : Value) : Except Fault String := do
  let hue ← per hue 360
  let lightness ← per lightness 100
  let saturation ← per saturation 100
  hex ⟨hue, lightness, saturation⟩

/-- The shades that are made of a color when no others are asked for, with their lightness in percent. -/
def defaultHues : Members :=
  [("ultra-light", .int 90), ("light", .int 80), ("semi-light", .int 65), ("semi-dark", .int 35),
    ("dark", .int 20), ("ultra-dark", .int 10)]

/-- The shades of a written color, one for each lightness in percent, under the names of the lightnesses.
A text that is not a hex color has no shades. -/
def shades (rounding : Rounding) (base : String) (hues : Members) : Except Fault (List (String × String)) :=
  match hls? rounding base with
  | none => .ok []
  | some c =>
    hues.mapM fun (name, lightness) => do
      let shade ← hexOf (.float (c.hue * 360.0)) (.float (c.saturation * 100.0)) lightness
      return (name, shade)

end Color
end DesignKit
