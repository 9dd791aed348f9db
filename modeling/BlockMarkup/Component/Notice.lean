import BlockMarkup.Html
import BlockMarkup.Options.Basic
import BlockMarkup.Text.Slug

/-!
# Alerts and callouts

Both set a text apart under a title. An alert has a type; a callout may have a colour, an icon and
a button that links elsewhere.
-/

namespace BlockMarkup

open Text Html

/-- The attributes of a link that opens in a window of its own, when the switch is on. -/
def Options.windowAttributes (o : Options) (key : Text) : List Attribute :=
  if o.isOn key then [("target", "_blank"), ("rel", "noopener")] else []

def alertHtml (title : Text) (o : Options) (body : Text) : Text :=
  element "div" [("class", "fr-alert " ++ variant "fr-alert" (o.textD "type" "info"))]
    (element (o.textD "markup" "h5") [("class", "fr-alert__title"), ("id", slug title)] title ++
      element "p" [] (trim body))

/-- The button of a callout, which needs both a label and a target. -/
def calloutLink (o : Options) : Text :=
  let label := o.textD "link_label" []
  let url := o.textD "link_url" []
  if label.isEmpty || url.isEmpty then []
  else element "a" (("class", "fr-btn") :: ("href", url) :: o.windowAttributes "link_newtab") label

def calloutHtml (title : Text) (o : Options) (body : Text) : Text :=
  let color := o.textD "color" []
  let icon := o.textD "icon" []
  let iconHtml := if icon.isEmpty then [] else
    element "span" [("class", "fr-icon-" ++ icon), ("aria-hidden", "true")] []
  element "div" [("class", classes ["fr-callout", variant? "fr-callout" color])]
    (element (o.textD "markup" "p") [("class", "fr-callout__title")] (iconHtml ++ title) ++
      element "p" [("class", "fr-callout__text")] (trim body) ++ calloutLink o)

end BlockMarkup
