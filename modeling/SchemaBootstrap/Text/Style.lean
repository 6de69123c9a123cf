/-! # Terminal styles

A styled text is put between the control sequences of its colour and attribute
and the one that resets them. Without colours a styled text is the text itself.
-/

namespace SchemaBootstrap

/-- A colour or attribute of a terminal. -/
inductive Style where
  | bold
  | dim
  | red
  | green
  | blue
  | magenta
  | white
  deriving DecidableEq, Repr

namespace Style

/-- The parameter of a style's control sequence. -/
def parameter : Style → String
  | bold => "1"
  | dim => "2"
  | red => "31"
  | green => "32"
  | blue => "34"
  | magenta => "35"
  | white => "37"

/-- The control sequence that turns a style on. -/
def on (style : Style) : String :=
  "\x1b[" ++ style.parameter ++ "m"

/-- The control sequence that turns all styles off. -/
def reset : String :=
  "\x1b[0m"

end Style

/-- Whether output has colours. -/
structure Palette where
  colored : Bool

namespace Palette

/-- Output without colours. -/
def monochrome : Palette where
  colored := false

/-- A text in the given styles. -/
def paint (palette : Palette) (styles : List Style) (text : String) : String :=
  if palette.colored then
    String.join (styles.map Style.on) ++ text ++ Style.reset
  else
    text

end Palette

end SchemaBootstrap
