import BlockMarkup.Component.Basic
import BlockMarkup.Component.Notice

/-!
# Cards and tiles

Both lead to another page through their title. A card may show an image and has its badge in a
footer; a tile may show a pictogram.
-/

namespace BlockMarkup

open Text Html

/-- A compact `label|modifier` value: what stands between the first two bars modifies the label, and
nothing after counts. A blank modifier gives way to the default. -/
def splitLabel (value fallback : Text) : Text × Text :=
  match splitWhen (· == '|') value with
  | label :: modifier :: _ =>
    (trim label, if (trim modifier).isEmpty then fallback else trim modifier)
  | [label] => (trim label, fallback)
  | [] => ([], fallback)

namespace Link

/-- The detail line of a download that is to be assessed. -/
def downloadDetail : Text := "Fichier à télécharger"

def badge (o : Options) : Text :=
  let value := o.textD "badge" []
  if value.isEmpty then [] else
    let (label, modifier) := splitLabel value "info"
    element "p" [("class", "fr-badge " ++ variant "fr-badge" modifier)] label

/-- The classes cards and tiles share, under the class of the whole. -/
def leadingClasses (base : Text) (o : Options) : List Text :=
  [base, if o.isOnByDefault "enlarge" then "fr-enlarge-link" else [],
    if o.isOn "horizontal" then variant base "horizontal" else []]

/-- The classes that come last: a download, then the variations as listed. -/
def trailingClasses (base : Text) (o : Options) : List Text :=
  (if o.isOn "download" then variant base "download" else []) ::
    (commaItems (o.textD "variations" [])).map (variant base)

def title (base t : Text) (o : Options) : Text :=
  element (o.textD "markup" "h5") [("class", base ++ "__title")]
    (element "a" (("href", o.textD "target" []) :: o.windowAttributes "target_new") t)

def description (base : Text) (o : Options) : Text :=
  let t := o.textD "description" []
  if t.isEmpty then [] else element "p" [("class", base ++ "__desc")] t

/-- Whether the detail line announces a download. -/
def announcesDownload (o : Options) : Bool := o.isOn "download" && o.isOn "assess"

end Link

open Link

def cardImage (cardTitle : Text) (o : Options) : Text :=
  let source := o.textD "image" []
  if source.isEmpty then [] else
    element "div" [("class", "fr-card__header")]
      (element "div" [("class", "fr-card__img")]
        (startTag "img" [("src", source), ("class", "fr-responsive-img"),
          ("alt", o.textD "image_alt" cardTitle)]))

def cardHtml (cardTitle : Text) (o : Options) (body : Text) : Text :=
  let position := o.textD "horizontal_pos" []
  let positionClass :=
    if Component.cardPositions.contains position then variant "fr-card" ("horizontal-" ++ position) else []
  let detail :=
    if announcesDownload o then element "p" [("class", "fr-card__detail")] downloadDetail else []
  element "div"
    [("class", classes (leadingClasses "fr-card" o ++ positionClass :: trailingClasses "fr-card" o))]
    (cardImage cardTitle o ++
      element "div" [("class", "fr-card__body")]
        (element "div" [("class", "fr-card__content")]
          (title "fr-card" cardTitle o ++ description "fr-card" o ++
            element "p" [("class", "fr-card__desc")] (trim body) ++ detail) ++
          element "div" [("class", "fr-card__footer")] (badge o)))

/-- One of the three layers of a pictogram. -/
def pictogramLayer (href layer : Text) : Text :=
  element "use"
    [("class", "fr-artwork-" ++ layer), ("href", href ++ "#artwork-" ++ layer)] []

def tilePictogram (pictograms : Text) (o : Options) : Text :=
  let name := o.textD "picto" []
  if name.isEmpty then [] else
    let href := dropEndWhile (· == '/') pictograms ++ "/" ++ name ++ ".svg"
    element "div" [("class", "fr-tile__header")]
      (element "div" [("class", "fr-tile__pictogram")]
        (element "svg" [("aria-hidden", "true"), ("class", "fr-artwork"), ("viewBox", "0 0 80 80"),
            ("width", "80px"), ("height", "80px")]
          (pictogramLayer href "decorative" ++ pictogramLayer href "minor" ++
            pictogramLayer href "major")))

/-- A tile, its pictogram taken from the directory given. -/
def tileHtml (pictograms tileTitle : Text) (o : Options) (body : Text) : Text :=
  let detail := if announcesDownload o then downloadDetail else trim body
  element "div" [("class", classes (leadingClasses "fr-tile" o ++ trailingClasses "fr-tile" o))]
    (element "div" [("class", "fr-tile__body")]
      (element "div" [("class", "fr-tile__content")]
        (title "fr-tile" tileTitle o ++ description "fr-tile" o ++
          element "p" [("class", "fr-tile__detail")] detail)) ++
      tilePictogram pictograms o ++ badge o)

end BlockMarkup
