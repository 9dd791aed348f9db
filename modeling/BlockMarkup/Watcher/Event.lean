import BlockMarkup.Files.Path

/-!
# File events

What happened to which files, as the system tells it. An event concerns a file when it is about that
file, before or after a move, and may have changed it. Where the paths of an event lead, links and all, is
for the files to say.
-/

namespace BlockMarkup

open Text

inductive EventKind
  | modified
  | created
  | deleted
  | moved
  | closed
  | opened
  | closedNoWrite
deriving DecidableEq

namespace EventKind

/-- Whether a file may differ after the event. -/
def mayChange (k : EventKind) : Bool := k != .opened && k != .closedNoWrite

end EventKind

/-- An event on a file or directory; the destination is empty where nothing has moved. -/
structure FileEvent where
  kind : EventKind
  source : Text
  destination : Text
  onDirectory : Bool
deriving DecidableEq

namespace FileEvent

/-- Whether one of some paths leads to the target. The empty path is passed over, and behind a path that
leads nowhere there is no further search. -/
def leadsTo (resolve : Path → Option Place) (target : Place) : List Text → Bool
  | [] => false
  | path :: paths =>
    if path.isEmpty then leadsTo resolve target paths
    else
      match resolve (Path.ofText path) with
      | none => false
      | some place => place == target || leadsTo resolve target paths

/-- Whether the event asks for the target to be rendered again. -/
def concerns (resolve : Path → Option Place) (target : Place) (e : FileEvent) : Bool :=
  !e.onDirectory && e.kind.mayChange && leadsTo resolve target [e.source, e.destination]

end FileEvent

end BlockMarkup
