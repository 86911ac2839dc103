import ChipEight.Fault
import ChipEight.Path
import ChipEight.Screen.Picture
import ChipEight.Text.Quoted

namespace ChipEight

/-! What stands under which name.

A file holds bytes or a picture; how a picture is laid out in bytes is left to
whoever stores it.
-/

inductive Contents where
  | bytes (data : List UInt8)
  | picture (picture : Picture)
deriving DecidableEq, Repr

inductive Entry where
  | file (contents : Contents)
  | folder
deriving DecidableEq, Repr

/-- Entries by the text of their path, without the folder they stand in. -/
structure Directory where
  entries : List (String × Entry)
deriving DecidableEq, Repr

namespace Directory

variable (directory : Directory)

def ofFiles (files : List (String × List UInt8)) : Directory :=
  ⟨files.map fun (name, data) => (name, .file (.bytes data))⟩

def find? (path : Path) : Option Entry :=
  if path.upward then some .folder
  else (directory.entries.find? (·.1 == path.text)).map (·.2)

/-- Replaces an entry where it stands, or adds it at the end. -/
def put (path : Path) (contents : Contents) : Directory :=
  if (directory.find? path).isSome then
    ⟨directory.entries.map fun entry =>
      if entry.1 == path.text then (entry.1, .file contents) else entry⟩
  else ⟨directory.entries ++ [(path.text, .file contents)]⟩

/-- The files that `before` does not have in this form. -/
def changedSince (before : Directory) : List (String × Contents) :=
  directory.entries.filterMap fun (name, entry) =>
    match entry with
    | .folder => none
    | .file contents =>
        if before.entries.contains (name, entry) then none else some (name, contents)

/-- What keeps a step on the way to a path from being taken.  A part that is too
long is found out where it is looked up, after the folders before it. -/
def obstacle? (path step : Path) : Option Fault :=
  if Path.longestPart < step.name.utf8ByteSize then some (.nameTooLong (Text.quoted path.text))
  else if step = path then none
  else
    match directory.find? step with
    | some .folder => none
    | some (.file _) => some (.notDirectory (Text.quoted path.text))
    | none => some (.noSuchFile (Text.quoted path.text))

/-- A path of a reasonable length leads only through folders. -/
def reach (path : Path) : Except Fault Unit :=
  if !Path.nameable path.text then .error .nulInName
  else if Path.tooLong path.text then .error (.nameTooLong (Text.quoted path.text))
  else
    match path.way.findSome? (directory.obstacle? path) with
    | some fault => .error fault
    | none => .ok ()

/-- Whether something stands under a path.  A path that leads nowhere has nothing
under it; only one that is too long to be looked up is a fault. -/
def has (path : Path) : Except Fault Bool :=
  match directory.reach path with
  | .ok () => .ok (directory.find? path).isSome
  | .error (.nameTooLong quoted) => .error (.nameTooLong quoted)
  | .error _ => .ok false

/-- What a text leads to, if it leads anywhere.  Its length counts as it stands. -/
def lookUp (text : String) : Option Entry :=
  let path := Path.ofText text
  if Path.tooLong text then none
  else
    match directory.reach path with
    | .error _ => none
    | .ok () =>
        match directory.find? path with
        | some .folder => if text = "" then none else some .folder
        | some entry => if Path.asksDirectory text then none else some entry
        | none => none

def read (path : Path) : Except Fault (List UInt8) := do
  directory.reach path
  match directory.find? path with
  | some (.file (.bytes data)) => return data
  | some (.file (.picture _)) => return []
  | some .folder => throw (.isDirectory (Text.quoted path.text))
  | none => throw (.noSuchFile (Text.quoted path.text))

def write (path : Path) (contents : Contents) : Except Fault Directory := do
  directory.reach path
  if directory.find? path = some .folder then
    throw (.isDirectory (Text.quoted path.text))
  return directory.put path contents

end Directory

end ChipEight
