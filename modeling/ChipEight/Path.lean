namespace ChipEight

/-! Names of files, taken apart at the slashes. -/

/-- Where a path starts: where one stands, at the top, or at the other top that two
slashes stand for.  Three slashes and more are as good as one. -/
inductive Path.Root where
  | here
  | top
  | otherTop
deriving DecidableEq, Repr

namespace Path.Root

def ofText (text : List Char) : Path.Root :=
  match (text.takeWhile (· = '/')).length with
  | 0 => .here
  | 2 => .otherTop
  | _ => .top

def text : Path.Root → String
  | .here => ""
  | .top => "/"
  | .otherTop => "//"

end Path.Root

structure Path where
  root : Path.Root
  parts : List String
deriving DecidableEq, Repr

namespace Path

/-- The text between slashes. -/
def segments (text : List Char) : List (List Char) :=
  match text with
  | [] => [[]]
  | c :: rest =>
      match segments rest with
      | [] => [[c]]
      | first :: others => if c = '/' then [] :: first :: others else (c :: first) :: others

/-- Empty segments and single dots do not lead anywhere and are dropped. -/
def ofText (text : String) : Path where
  root := .ofText text.toList
  parts := ((segments text.toList).filter fun part => part ≠ [] ∧ part ≠ ['.']).map String.ofList

/-- The shortest text for a path; the place itself is a dot. -/
def text (path : Path) : String :=
  if path.root = .here ∧ path.parts = [] then "."
  else path.root.text ++ "/".intercalate path.parts

/-- The last part of a path. -/
def name (path : Path) : String := path.parts.getLast?.getD ""

/-- Whether the text of a path asks for a directory. -/
def asksDirectory (text : String) : Bool :=
  match (segments text.toList).getLast? with
  | some last => last == [] || last == ['.']
  | none => false

/-- The paths that lead to a path, the place itself left out. -/
def leading (path : Path) : List Path :=
  (List.range path.parts.length).filterMap fun count =>
    if count = 0 then none else some { path with parts := path.parts.take count }

/-- The paths that lead to a path, and the path itself after them. -/
def way (path : Path) : List Path := path.leading ++ [path]

/-- The bytes that one part of a path may take. -/
def longestPart : Nat := 255

/-- The bytes that the text of a path may take. -/
def longestText : Nat := 4095

def tooLong (text : String) : Bool := longestText < text.utf8ByteSize

/-- No name of a file has a NUL in it. -/
def nameable (text : String) : Bool := !text.contains '\x00'

/-- A path that only leads upwards. -/
def upward (path : Path) : Bool := path.parts.all (· == "..")

end Path

end ChipEight
