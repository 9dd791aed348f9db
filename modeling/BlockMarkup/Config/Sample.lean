import BlockMarkup.Text.Basic

/-!
# The first configuration file

What is written into a new configuration file: every setting with its default, and the choices
behind it.
-/

namespace BlockMarkup.Config

open Text

def sampleLines : List Text := [
  "# dsfrmark.yaml",
  "",
  "# Component transpiler",
  "transpiler:",
  "  strategy: \"nested\"           # nested | passes",
  "  slide_separator: \"---\"",
  "  pictogram_path: \"$\x7bDSFRMARK_ASSETS:-/artwork\x7d/pictograms\"",
  "  diagnostics: \"warn\"          # strict | warn | off",
  "",
  "# Markdown rendering (markdown-it-py)",
  "markdown:",
  "  enabled: true",
  "  preset: \"commonmark\"         # commonmark | default | zero",
  "  typographer: false",
  "",
  "# Standalone page export",
  "export:",
  "  title: \"Export Markdown DSFR\"",
  "  lang: \"fr\"",
  "  # stylesheet_url: \"https://cdn.jsdelivr.net/npm/@gouvfr/dsfr@latest/dist/dsfr.min.css\"",
  "  # script_url: \"https://cdn.jsdelivr.net/npm/@gouvfr/dsfr@latest/dist/dsfr.min.js\"",
  "",
  "# Logging",
  "log_level: \"info\"              # debug | info | warn | error",
  "log_format: \"text\"             # text | json"]

def sample : Text := unlines sampleLines ++ "\n"

end BlockMarkup.Config
