/-!
# Style Sheets

The colours of the form and the style sheets made of them.

The colours are chosen for contrast. The sheet of the whole form gives an input
that is marked as wrong a border of its own; the sheet of the message line says
by its colour alone how a submission went.

## Main definitions

* `Palette`: The colours.
* `formSheet`: The sheet of the form.
* `messageSheet`: The sheet of the message line.
-/

namespace ManagerSignup

/-- The colours of the form. -/
structure Palette where
  border : String
  focusBorder : String
  errorBorder : String
  background : String
  text : String
  successText : String
  errorText : String
  defaultText : String

/-- The colours in use. -/
def palette : Palette :=
  { border := "#dee2e6"
    focusBorder := "#0d6efd"
    errorBorder := "#dc3545"
    background := "#ffffff"
    text := "#212529"
    successText := "#198754"
    errorText := "#721c24"
    defaultText := "#495057" }

/-- A rule of a style sheet, indented as the sheet of the form is. -/
def sheetRule (selector : String) (properties : List String) : String :=
  "            " ++ selector ++ " \x7b\n" ++
    String.join (properties.map fun p => "                " ++ p ++ ";\n") ++
    "            \x7d\n"

/-- The sheet of the form. -/
def formSheet : String :=
  "\n" ++
    sheetRule "QLineEdit"
      ["border: 1px solid " ++ palette.border, "border-radius: 4px", "padding: 6px",
       "background-color: " ++ palette.background, "color: " ++ palette.text] ++
    sheetRule "QLineEdit:focus" ["border: 2px solid " ++ palette.focusBorder] ++
    sheetRule "QLineEdit[hasError=\"true\"]" ["border: 2px solid " ++ palette.errorBorder] ++
    "        "

/-- How a submission went, by name. Only two names have a colour of their own. -/
def statusColour (status : String) : String :=
  if status = "success" then palette.successText
  else if status = "error" then palette.errorText
  else palette.defaultText

/-- The sheet of the message line. -/
def messageSheet (status : String) : String :=
  "QLabel \x7b color: " ++ statusColour status ++ "; font-weight: bold; \x7d"

end ManagerSignup
