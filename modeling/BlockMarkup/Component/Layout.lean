import BlockMarkup.Html
import BlockMarkup.Options.Basic

/-!
# Rows, columns, accordions and badges

A row lays out columns, a column takes its widths from its header, an accordion folds its content
away under a numbered id, and a badge is a label in the running text.
-/

namespace BlockMarkup

open Text Html

def colHtml (breakpoints body : Text) : Text :=
  let names := (words breakpoints).map fun t => ("fr-col-" : Text) ++ t
  element "div" [("class", classes (if names.isEmpty then ["fr-col"] else names))] (onOwnLines body)

def rowHtml (extraClasses : Text) (o : Options) (body : Text) : Text :=
  element "div"
    [("class", classes ["fr-grid-row", trim extraClasses,
      variant? "fr-grid-row" (o.textD "halign" []), variant? "fr-grid-row" (o.textD "valign" [])])]
    (onOwnLines body)

/-- An accordion, under the id that its number gives. -/
def accordionHtml (title : Text) (o : Options) (body : Text) (number : Nat) : Text :=
  let isOpen := o.isOn "open"
  let id : Text := "accordion-" ++ ofNat number
  let expanded : Text := if isOpen then "true" else "false"
  element "section" [("class", "fr-accordion")]
    (element "h3" [("class", "fr-accordion__title")]
      (element "button"
        [("class", "fr-accordion__btn"), ("aria-expanded", expanded), ("aria-controls", id)]
        title) ++
      element "div"
        [("class", if isOpen then "fr-collapse" else "fr-collapse fr-collapse--collapsed"),
          ("id", id)]
        (onOwnLines body))

def badgeHtml (label : Text) (o : Options) : Text :=
  let kind := o.textD "type" []
  let color := o.textD "color" []
  element "span"
    [("class", classes ["fr-badge", variant? "fr-badge" kind, variant? "fr-badge" color,
      if !kind.isEmpty && o.isOnByDefault "icon" then "fr-badge--icon-left" else []])]
    label

/-- The body of a badge: option lines, and the label on the last line. -/
def splitBadgeBody (body : Text) : List Text × Text :=
  let ls := lines (trim body)
  (ls.dropLast, trim (ls.getLastD []))

end BlockMarkup
