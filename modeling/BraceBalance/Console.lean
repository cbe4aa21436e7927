import BraceBalance.Report.Basic

/-!
# Console messages

Messages for people are lines with a mark in front, green for success and yellow for a
warning, or bold headers. Styles are escape sequences around the styled text, written
only when the console takes colors.
-/

namespace BraceBalance

inductive Style where
  | green
  | yellow
  | bold
deriving DecidableEq

namespace Style

def code : Style → Text
  | green => "32"
  | yellow => "33"
  | bold => "1"

/-- A text in a style, if the console takes colors. -/
def paint (style : Style) (colors : Bool) (text : Text) : Text :=
  if colors then "\x1b[" ++ style.code ++ "m" ++ text ++ "\x1b[0m" else text

end Style

namespace Console

def success (colors : Bool) (message : Text) : Text :=
  Style.green.paint colors "✓" ++ " " ++ message ++ "\n"

def warning (colors : Bool) (message : Text) : Text :=
  Style.yellow.paint colors "⚠" ++ " " ++ message ++ "\n"

def header (colors : Bool) (message : Text) : Text :=
  Style.bold.paint colors message ++ "\n"

def verdict (colors : Bool) (report : Report) : Text :=
  match report.imbalance? with
  | some imbalance => warning colors (report.displayName ++ ": " ++ imbalance.message)
  | none =>
      if report.wentNegative then
        warning colors (report.displayName ++ ": balanced, but negative on "
          ++ Text.ofNat report.negativeLines.length ++ " line(s)")
      else success colors (report.displayName ++ ": balanced")

end Console

end BraceBalance
