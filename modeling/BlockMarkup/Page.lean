import BlockMarkup.Text.Basic

/-!
# Pages

A rendered text can be published as a page of its own, which loads the style sheet and the script of
the design system. Nothing that goes into a page is escaped.
-/

namespace BlockMarkup

open Text

structure Page where
  title : Text
  lang : Text
  stylesheet : Text
  script : Text
deriving DecidableEq

namespace Page

def default : Page where
  title := "Export Markdown DSFR"
  lang := "fr"
  stylesheet := "https://cdn.jsdelivr.net/npm/@gouvfr/dsfr@latest/dist/dsfr.min.css"
  script := "https://cdn.jsdelivr.net/npm/@gouvfr/dsfr@latest/dist/dsfr.min.js"

/-- The style of the page itself. -/
def style : List Text := [
  "  <style>",
  "    body \x7b",
  "      font-family: 'Marianne', Arial, sans-serif;",
  "      max-width: 1200px;",
  "      margin: 0 auto;",
  "      padding: 40px 20px;",
  "      line-height: 1.6;",
  "    \x7d",
  "  </style>"]

/-- What stands before the style. -/
def beginning (p : Page) : List Text := [
  "<!DOCTYPE html>",
  "<html lang=\"" ++ p.lang ++ "\">",
  "<head>",
  "  <meta charset=\"UTF-8\">",
  "  <meta name=\"viewport\" content=\"width=device-width, initial-scale=1.0\">",
  "  <title>" ++ p.title ++ "</title>",
  "  <link rel=\"stylesheet\" href=\"" ++ p.stylesheet ++ "\">"]

/-- The body and what stands after it. -/
def ending (p : Page) (body : Text) : List Text := [
  "</head>",
  "<body>",
  body,
  "<script src=\"" ++ p.script ++ "\"></script>",
  "</body>",
  "</html>"]

/-- The page around a body. -/
def wrap (p : Page) (body : Text) : Text := unlines (p.beginning ++ style ++ p.ending body)

end Page

end BlockMarkup
