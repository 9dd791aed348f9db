import BlockMarkup.Options.Basic
import BlockMarkup.Text.Word

/-!
# Option lines

An option line is `key: value`. The first colon ends the key, so that a value may hold colons. Blank
space around the two parts is dropped; the value may be blank, but the colon may not end the line.
The text given as a line may hold line feeds: then the value is on the last line, and all between
the colon and that line is blank. One final line feed does not count.
-/

namespace BlockMarkup

open Text

/-- The words `true` and `false` are switches. -/
def OptionValue.ofText (t : Text) : OptionValue :=
  if t = "true" then .switch true
  else if t = "false" then .switch false
  else .text t

def OptionValue.toText : OptionValue → Text
  | .text t => t
  | .switch true => "true"
  | .switch false => "false"

namespace Setting

/-- The value in what follows the colon. -/
def value? (t : Text) : Option Text :=
  match (lines t).reverse with
  | [] => none
  | last :: before =>
    if last.isEmpty || !before.all (·.all isBlank) then none else some (trim last)

def ofLine? (l : Text) : Option Setting :=
  let t := (dropFinalNewline l).dropWhile isBlank
  let key := t.takeWhile isKeyChar
  match t.dropWhile isKeyChar with
  | ':' :: rest =>
    if key.isEmpty then none else (value? rest).map fun v => (key, OptionValue.ofText v)
  | _ => none

def isLine (l : Text) : Bool := (ofLine? l).isSome

def toLine (s : Setting) : Text := s.1 ++ ": " ++ s.2.toText

end Setting

/-- Options as option lines. -/
def Options.toText (o : Options) : Text := unlines (o.entries.map Setting.toLine)

end BlockMarkup
