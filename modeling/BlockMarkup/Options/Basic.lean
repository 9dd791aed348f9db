import BlockMarkup.Entries
import BlockMarkup.Text.Blank
import BlockMarkup.Text.Lower

/-!
# Options

The settings of a block: a mapping from keys to values that keeps the order in which the keys first
came. A value is a text or one of the two switches. Setting a key again changes its value and not
its place (`keys_set_of_mem`); a new key goes to the end (`keys_set_of_notMem`).
-/

namespace BlockMarkup

open Text

inductive OptionValue
  | text (t : Text)
  | switch (on : Bool)
deriving DecidableEq

/-- A key with its value. -/
abbrev Setting := Text × OptionValue

/-- Settings in order, no key twice. -/
structure Options where
  entries : List Setting
  nodup_keys : (Entries.keys entries).Nodup

namespace Options

def empty : Options := ⟨[], List.nodup_nil⟩

def keys (o : Options) : List Text := Entries.keys o.entries

def set (o : Options) (key : Text) (v : OptionValue) : Options :=
  ⟨Entries.put key v o.entries, Entries.nodup_keys_put key v o.nodup_keys⟩

theorem keys_set_of_mem {o : Options} {key : Text} (v : OptionValue) (h : key ∈ o.keys) :
    (o.set key v).keys = o.keys := Entries.keys_put_of_mem v h

theorem keys_set_of_notMem {o : Options} {key : Text} (v : OptionValue) (h : key ∉ o.keys) :
    (o.set key v).keys = o.keys ++ [key] := Entries.keys_put_of_notMem v h

/-- Settings written one after the other; of a key given twice the last value counts. -/
def ofSettings (es : List Setting) : Options := es.foldl (fun o e => o.set e.1 e.2) empty

def get? (o : Options) (key : Text) : Option OptionValue := o.entries.lookup key

def contains (o : Options) (key : Text) : Bool := o.keys.contains key

/-- The options without one key. -/
def erase (o : Options) (key : Text) : Options :=
  ⟨Entries.erase key o.entries, Entries.nodup_keys_erase key o.nodup_keys⟩

/-! ## Reading an option -/

/-- The text of an option; a switch and an absent key give the default. -/
def textD (o : Options) (key fallback : Text) : Text :=
  match o.get? key with
  | some (.text t) => t
  | _ => fallback

/-- The words that turn a switch on. -/
def onWords : List Text := ["true".toList, "yes".toList, "on".toList, "1".toList]

/-- A switch is on when it is set, or written as one of the words for it in any case. -/
def isOn (o : Options) (key : Text) : Bool :=
  match o.get? key with
  | some (.switch b) => b
  | some (.text t) => onWords.contains (lower (trim t))
  | none => false

/-- A switch that only the value `false` turns off. -/
def isOnByDefault (o : Options) (key : Text) : Bool := o.get? key != some (.switch false)

end Options

end BlockMarkup
