import BlockMarkup.Entries
import BlockMarkup.Files.Path

/-!
# Files and directories

The files that the program works on, as a value. Reading and writing say what went wrong, and with
what path. A link stands for another path, and is followed wherever a path leads through it; when
directories are made, what stands at the end of a path is taken as it is.
-/

namespace BlockMarkup

open Text

/-! ## Faults -/

inductive FileFault
  | notFound
  | occupied
  | notDirectory
  | isDirectory
  | nameTooLong
  | tooManyLinks
  /-- What the file holds is no text. -/
  | undecodable (why : Text)
deriving DecidableEq

namespace FileFault

def number? : FileFault → Option Nat
  | .notFound => some 2
  | .occupied => some 17
  | .notDirectory => some 20
  | .isDirectory => some 21
  | .nameTooLong => some 36
  | .tooManyLinks => some 40
  | .undecodable _ => none

def words : FileFault → Text
  | .notFound => "No such file or directory"
  | .occupied => "File exists"
  | .notDirectory => "Not a directory"
  | .isDirectory => "Is a directory"
  | .nameTooLong => "File name too long"
  | .tooManyLinks => "Too many levels of symbolic links"
  | .undecodable why => why

end FileFault

/-- A fault and the path it is about. -/
structure FileError where
  fault : FileFault
  path : Text
deriving DecidableEq

def FileError.message (e : FileError) : Text :=
  match e.fault.number? with
  | some n => "[Errno " ++ ofNat n ++ "] " ++ e.fault.words ++ ": " ++ quoted e.path
  | none => e.fault.words

/-! ## Trees -/

inductive FileTree
  | file (content : Text)
  /-- A file that holds no text, and why it does not. -/
  | binary (why : Text)
  | link (target : Path)
  | directory (entries : List (Text × FileTree))

namespace FileTree

def entries : FileTree → List (Text × FileTree)
  | .directory es => es
  | _ => []

def isFile : FileTree → Bool
  | .file _ | .binary _ => true
  | _ => false

mutual

/-- How many links there are. -/
def links : FileTree → Nat
  | .link _ => 1
  | .directory es => linksAmong es
  | _ => 0

def linksAmong : List (Text × FileTree) → Nat
  | [] => 0
  | (_, t) :: es => t.links + linksAmong es

end

/-- What is at a place, which is a way without links. -/
def find (t : FileTree) : Place → Except FileFault FileTree
  | [] => .ok t
  | s :: p =>
    match t with
    | .directory es =>
      match es.lookup s with
      | none => .error .notFound
      | some u => u.find p
    | _ => .error .notDirectory

/-- The tree with something put at a place, in directories that are made where they are missing. -/
def put (t new : FileTree) : Place → FileTree
  | [] => new
  | s :: p =>
    let inner := (t.entries.lookup s).getD (.directory [])
    .directory (Entries.put s (inner.put new p) t.entries)

/-- The tree without what is at a place. -/
def erase (t : FileTree) : Place → FileTree
  | [] => .directory []
  | [s] => .directory (Entries.erase s t.entries)
  | s :: p =>
    match t.entries.lookup s with
    | none => t
    | some u => .directory (Entries.put s (u.erase p) t.entries)

/-! ### Ways through links -/

/-- How far steps lead: to a place, or to a link, from where the way goes on. -/
inductive Stretch
  | arrived (place : Place)
  | detour (here : Place) (steps : List Text)

/-- Where one step leads, out of a directory that is there. -/
def stepFrom (t : FileTree) (here : Place) (s : Text) : Except FileFault Place :=
  match t.find here with
  | .error e => .error e
  | .ok (.directory _) =>
    if Path.maximalName < utf8Size s then .error .nameTooLong else .ok (Path.step here s)
  | .ok _ => .error .notDirectory

/-- Steps as far as the first link on the way. -/
def walk (t : FileTree) (here : Place) : List Text → Except FileFault Stretch
  | [] => .ok (.arrived here)
  | s :: steps => do
    let there ← t.stepFrom here s
    match t.find there with
    | .ok (.link target) => return .detour (target.start here) (target.steps ++ steps)
    | _ => t.walk there steps

/-- More links than these are not followed on one way. -/
def maximalLinks : Nat := 40

/-- Where steps lead, with as many links on the way as are left. -/
def follow (t : FileTree) (left : Nat) (here : Place) (steps : List Text) : Except FileFault Place :=
  match t.walk here steps with
  | .error e => .error e
  | .ok (.arrived place) => .ok place
  | .ok (.detour here steps) =>
    match left with
    | 0 => .error .tooManyLinks
    | left + 1 => t.follow left here steps

/-- One step to where it really leads, whatever is there, and whether that was found without a link that
leads back to itself; behind such a link steps are only counted. -/
def realStep (t : FileTree) (deeper : List Place → Place → List Text → Place × Bool)
    (seen : List Place) : Place × Bool → Text → Place × Bool
  | (here, false), s => (Path.step here s, false)
  | (here, true), s =>
    let there := Path.step here s
    match t.find there with
    | .ok (.link target) =>
      if seen.contains there then (there, false)
      else deeper (there :: seen) (target.start here) target.steps
    | _ => (there, true)

/-- Where steps really lead; the links that are being followed are those seen, and no more can be seen than
there are. -/
def real (t : FileTree) : Nat → List Place → Place → List Text → Place × Bool
  | 0, _, here, steps => (steps.foldl Path.step here, false)
  | deeper + 1, seen, here, steps => steps.foldl (t.realStep (t.real deeper) seen) (here, true)

end FileTree

/-! ## Disks -/

/-- All files, the directory in which the program runs, and those of users. -/
structure Disk where
  files : FileTree
  here : Place
  homes : Homes

namespace Disk

/-- The place that a path leads to, out of directories that are there. -/
def place (d : Disk) (p : Path) : Except FileFault Place :=
  if p.isTooLong then .error .nameTooLong
  else d.files.follow FileTree.maximalLinks (p.start d.here) p.steps

def find (d : Disk) (p : Path) : Except FileFault FileTree := do
  let place ← d.place p
  d.files.find place

/-- The path that really leads where a path leads, whether or not anything is there; none for a way through
a link that leads back to itself. -/
def resolve? (d : Disk) (p : Path) : Option Place :=
  let (place, found) := d.files.real (d.files.links + 1) [] (p.start d.here) p.steps
  match found, d.place ⟨true, place⟩ with
  | false, .error .tooManyLinks => none
  | _, _ => some place

/-- What is there, if anything; a name that is too long leaves that open. -/
def look (d : Disk) (p : Path) : Except FileError (Option FileTree) :=
  match d.find p with
  | .ok t => .ok (some t)
  | .error .nameTooLong => .error ⟨.nameTooLong, p.toText⟩
  | .error _ => .ok none

def contains (d : Disk) (p : Path) : Except FileError Bool := (d.look p).map (·.isSome)

def hasFile (d : Disk) (p : Path) : Except FileError Bool :=
  (d.look p).map fun found => found.any FileTree.isFile

/-- What a file holds, its line breaks as they are. -/
def content? (d : Disk) (p : Path) : Option Text :=
  match d.find p with
  | .ok (.file content) => some content
  | _ => none

/-- The content of a file, its line breaks as line feeds. -/
def read (d : Disk) (p : Path) : Except FileError Text :=
  match d.find p with
  | .ok (.file content) => .ok (normalizeNewlines content)
  | .ok (.binary why) => .error ⟨.undecodable why, p.toText⟩
  | .ok _ => .error ⟨.isDirectory, p.toText⟩
  | .error e => .error ⟨e, p.toText⟩

/-- The content of what is a file, and none of what is not. -/
def readFile? (d : Disk) (p : Path) : Except FileError (Option Text) := do
  if ← d.hasFile p then return some (← d.read p) else return none

/-- The place of what stands at the end of a path, be it a link. -/
def entryPlace (d : Disk) (p : Path) : Except FileFault Place :=
  match p.steps.getLast? with
  | none => d.place p
  | some s => do
    let here ← d.place p.parent
    d.files.stepFrom here s

/-- Makes a directory, unless it is there, in one that has to be there. -/
def makeLast (d : Disk) (p : Path) : Except FileError Disk :=
  match d.entryPlace p with
  | .error e => .error ⟨e, p.toText⟩
  | .ok place =>
    match d.files.find place, d.find p with
    | .error .notFound, _ => .ok { d with files := d.files.put (.directory []) place }
    | .error e, _ => .error ⟨e, p.toText⟩
    | .ok _, .ok (.directory _) => .ok d
    | .ok _, _ => .error ⟨.occupied, p.toText⟩

/-- Makes a directory, and the missing ones on the way to it. If that fails, those that were made are left. -/
def makeDirectory (d : Disk) (p : Path) : Except (FileError × Disk) Disk :=
  match d.makeLast p with
  | .error ⟨.notFound, _⟩ =>
    if _ : p.steps = [] then .error (⟨.notFound, p.toText⟩, d)
    else do
      let d ← d.makeDirectory p.parent
      (d.makeLast p).mapError (·, d)
  | r => r.mapError (·, d)
termination_by p.steps.length
decreasing_by
  have := List.length_pos_iff.2 ‹¬p.steps = []›
  simp only [Path.parent, List.length_dropLast]
  omega

/-- Puts a file into a directory that has to be there. -/
def writeLast (d : Disk) (p : Path) (content : Text) : Except FileError Disk :=
  match d.place p with
  | .error e => .error ⟨e, p.toText⟩
  | .ok place =>
    let written : Disk := { d with files := d.files.put (.file content) place }
    match d.files.find place with
    | .ok t => if t.isFile then .ok written else .error ⟨.isDirectory, p.toText⟩
    | .error .notFound => .ok written
    | .error e => .error ⟨e, p.toText⟩

/-- Writes a file, in directories that are made where they are missing. If that fails, those that were made
are left. -/
def write (d : Disk) (p : Path) (content : Text) : Except (FileError × Disk) Disk := do
  let d ← d.makeDirectory p.parent
  (d.writeLast p content).mapError (·, d)

end Disk

end BlockMarkup
