import BlockMarkup.Options.Setting

/-!
# Components

The eight components, the keys each one knows with their defaults, and the values it accepts for
keys with a fixed choice.
-/

namespace BlockMarkup

open Text

inductive Component
  | card
  | tile
  | col
  | row
  | alert
  | callout
  | accordion
  | badge
deriving DecidableEq

namespace Component

/-- All components, inner ones before the containers that may hold them. -/
def all : List Component := [.card, .tile, .col, .row, .alert, .callout, .accordion, .badge]

theorem mem_all (c : Component) : c ∈ all := by cases c <;> decide

def keyword : Component → Text
  | .card => "card"
  | .tile => "tile"
  | .col => "col"
  | .row => "row"
  | .alert => "alert"
  | .callout => "callout"
  | .accordion => "accordion"
  | .badge => "badge"

def ofKeyword? (t : Text) : Option Component := all.find? (·.keyword == t)

theorem ofKeyword?_keyword (c : Component) : ofKeyword? c.keyword = some c := by
  cases c <;> decide

theorem keyword_of_ofKeyword? {t : Text} {c : Component} (h : ofKeyword? t = some c) :
    c.keyword = t := by
  have := List.find?_some h
  simpa using this

/-! ## Option tables -/

/-- A key without a default: its absence has a meaning of its own. -/
def unset (key : Text) : Text × Option OptionValue := (key, none)

def withText (key t : Text) : Text × Option OptionValue := (key, some (.text t))

def withSwitch (key : Text) (on : Bool) : Text × Option OptionValue := (key, some (.switch on))

/-- What cards and tiles have in common. -/
def linkDefaults : List (Text × Option OptionValue) :=
  [unset "description", withText "markup" "h5", unset "target", withSwitch "target_new" false,
    withSwitch "enlarge" true, unset "badge", withSwitch "download" false,
    withSwitch "assess" false, withSwitch "horizontal" false, unset "variations"]

/-- The keys of a component, each with its default. -/
def defaults : Component → List (Text × Option OptionValue)
  | .card => linkDefaults ++ [unset "image", unset "image_alt", unset "horizontal_pos"]
  | .tile => linkDefaults ++ [unset "picto"]
  | .col => []
  | .row => [unset "halign", unset "valign"]
  | .alert => [withText "type" "info", withText "markup" "h5"]
  | .callout =>
    [unset "color", unset "icon", withText "markup" "p", unset "link_label", unset "link_url",
      withSwitch "link_newtab" false]
  | .accordion => [withSwitch "open" false]
  | .badge => [unset "type", unset "color", withSwitch "icon" true]

def keys (c : Component) : List Text := c.defaults.map Prod.fst

/-- How a card may divide its width. -/
def cardPositions : List Text := ["tier".toList, "half".toList]

/-- The keys with a fixed choice of values. -/
def choices : Component → List (Text × List Text)
  | .card => [("horizontal_pos", cardPositions)]
  | .row =>
    [("halign", ["left".toList, "center".toList, "right".toList]),
      ("valign", ["top".toList, "middle".toList, "bottom".toList])]
  | .alert =>
    [("type", ["info".toList, "success".toList, "warning".toList, "error".toList]),
      ("markup", ["h1".toList, "h2".toList, "h3".toList, "h4".toList, "h5".toList, "h6".toList,
        "p".toList])]
  | .badge =>
    [("type", ["success".toList, "error".toList, "info".toList, "warning".toList, "new".toList])]
  | _ => []

/-- Whether option lines may stand between the opener and a marker of their own. -/
def hasOptionSection : Component → Bool
  | .col | .badge => false
  | _ => true

/-- Whether a line sets an option of the component. -/
def knowsLine (c : Component) (l : Text) : Bool :=
  match Setting.ofLine? l with
  | some (key, _) => c.keys.contains key
  | none => false

end Component

end BlockMarkup
