import BlockMarkup.Text.Blank

/-!
# HTML

Tags, elements and class lists. Content is text that is already HTML and goes in as it is.
-/

namespace BlockMarkup.Html

open Text

/-- The name of an attribute and its value. -/
abbrev Attribute := Text × Text

def Attribute.toText (a : Attribute) : Text := ' ' :: a.1 ++ "=\"" ++ a.2 ++ "\""

def attributes (as : List Attribute) : Text := as.flatMap Attribute.toText

def startTag (name : Text) (as : List Attribute) : Text := '<' :: name ++ attributes as ++ ">"

def endTag (name : Text) : Text := "</" ++ name ++ ">"

def element (name : Text) (as : List Attribute) (content : Text) : Text :=
  startTag name as ++ content ++ endTag name

/-- A class list, empty names left out. -/
def classes (names : List Text) : Text := join " " (names.filter (!·.isEmpty))

/-- A variant of a class. -/
def variant (base name : Text) : Text := base ++ "--" ++ name

/-- A variant of a class, or nothing when the name is empty. -/
def variant? (base name : Text) : Text := if name.isEmpty then [] else variant base name

/-- Content that stands on lines of its own. -/
def onOwnLines (content : Text) : Text := '\n' :: trim content ++ "\n"

end BlockMarkup.Html
