/-!
# Styled text

Parts of what is shown to people stand out on terminals that can show styles.
-/

namespace PbxTemplates.Text

inductive Style where
  | green
  | bold
  | dimmed

def Style.code : Style → String
  | green => "32"
  | bold => "1"
  | dimmed => "2"

/-- A text in a style, if styles are shown. -/
def styled (color : Bool) (style : Style) (text : String) : String :=
  if color then "\x1b[" ++ style.code ++ "m" ++ text ++ "\x1b[0m" else text

def padLeft (width : Nat) (text : String) : String :=
  String.ofList (List.replicate (width - text.length) ' ') ++ text

end PbxTemplates.Text
