import BlockMarkup.Json
import BlockMarkup.Text.Lower

/-!
# Log records

What the program tells about its work, from what part of it and how urgently. Records are values:
who runs the program decides which of them are written and in what form.
-/

namespace BlockMarkup.Log

open Text

inductive Level
  | debug
  | info
  | warning
  | error
deriving DecidableEq

namespace Level

def rank : Level → Nat
  | .debug => 0
  | .info => 1
  | .warning => 2
  | .error => 3

def name : Level → Text
  | .debug => "DEBUG"
  | .info => "INFO"
  | .warning => "WARNING"
  | .error => "ERROR"

end Level

/-- The part of the program that a record comes from. -/
inductive Source
  | grammar
  | pipeline
  | document
  | output
  | watcher
deriving DecidableEq

def Source.name : Source → Text
  | .grammar => "dsfrmark.transpiler.grammar"
  | .pipeline => "dsfrmark.transpiler.pipeline"
  | .document => "dsfrmark.render.document"
  | .output => "dsfrmark.render.export"
  | .watcher => "dsfrmark.watcher"

/-- How records are written. -/
inductive Format
  | text
  | json
deriving DecidableEq

structure Record where
  level : Level
  source : Source
  message : Text
deriving DecidableEq

/-! ## Writing records -/

/-- The records at a level or above it. -/
def atLeast (level : Level) (rs : List Record) : List Record :=
  rs.filter fun r => level.rank ≤ r.level.rank

/-- A record as JSON, its level in small letters. -/
def jsonLine (level source message : Text) : Text :=
  Json.onOneLine <| .map [(.text "level", .text (lower level)), (.text "logger", .text source),
    (.text "message", .text message)]

def Record.toJson (r : Record) : Text := jsonLine r.level.name r.source.name r.message

/-- A record in plain words. -/
def Record.toText (r : Record) : Text := r.level.name ++ ' ' :: r.message

def Record.write (r : Record) : Format → Text
  | .json => r.toJson
  | .text => r.toText

end BlockMarkup.Log
