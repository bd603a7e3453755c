import Interpolation.Files.Path

set_option autoImplicit false

/- A tree of directories and files. Every entry stands at a location, the names that lead to it from the root; the
   root is a directory without an entry. Paths are followed from the root, and the root lies in itself. -/
namespace Interpolation

open Text

abbrev Location := List Text

inductive Content where
  | text (value : Text)
  | octets (value : List UInt8)
deriving DecidableEq, Repr

namespace Content

def ofBytes (data : ByteArray) : Content :=
  match String.fromUTF8? data with
  | some value => .text value.toList
  | none => .octets data.toList

def text? : Content → Option Text
  | .text value => some value
  | .octets _ => none

end Content

inductive Node where
  | directory
  | file (content : Content)
deriving DecidableEq, Repr

structure FileTree where
  entries : List (Location × Node)
deriving DecidableEq, Repr

namespace FileTree

def empty : FileTree := ⟨[]⟩

def node? (tree : FileTree) (location : Location) : Option Node :=
  if location = [] then some .directory else tree.entries.lookup location

def erase (location : Location) (tree : FileTree) : FileTree :=
  ⟨tree.entries.filter fun entry => entry.1 != location⟩

def put (location : Location) (node : Node) (tree : FileTree) : FileTree :=
  ⟨(location, node) :: (tree.erase location).entries⟩

theorem node_put_same (location : Location) (node : Node) (tree : FileTree) (below : location ≠ []) :
    (tree.put location node).node? location = some node := by
  simp [node?, put, below]

theorem lookup_filter_other (location other : Location) (entries : List (Location × Node))
    (different : other ≠ location) :
    (entries.filter fun entry => entry.1 != location).lookup other = entries.lookup other := by
  induction entries with
  | nil => rfl
  | cons entry rest ih =>
      obtain ⟨place, node⟩ := entry
      by_cases erased : place = location
      · subst place
        have absent : (other == location) = false := by simp [different]
        simp [ih, List.lookup_cons, absent]
      · by_cases found : other = place <;> simp [erased, List.lookup_cons, found, ih]

theorem node_erase_other (location other : Location) (tree : FileTree) (different : other ≠ location) :
    (tree.erase location).node? other = tree.node? other := by
  simp only [node?, erase, lookup_filter_other location other tree.entries different]

theorem node_put_other (location other : Location) (node : Node) (tree : FileTree)
    (different : other ≠ location) : (tree.put location node).node? other = tree.node? other := by
  have absent : (other == location) = false := by simp [different]
  simp only [node?, put, erase, List.lookup_cons, absent,
    lookup_filter_other location other tree.entries different]

def isDirectory (tree : FileTree) (location : Location) : Bool := tree.node? location == some .directory

def nameLimit : Nat := 255

def pathLimit : Nat := 4095

def isName (piece : Text) : Bool := bytes piece ≤ nameLimit

def isPath (path : Path) : Bool := !path.isEmpty && bytes path ≤ pathLimit && path.all (· != '\x00')

def step (location : Location) (piece : Text) : Location :=
  if piece = [] || piece = ['.'] then location
  else if piece = ['.', '.'] then location.dropLast
  else location ++ [piece]

def follow? (tree : FileTree) : Location → List Text → Option Location
  | location, [] => some location
  | location, piece :: rest =>
      if tree.isDirectory location && isName piece then tree.follow? (step location piece) rest else none

def locate? (tree : FileTree) (path : Path) : Option Location :=
  if isPath path then tree.follow? [] (split '/' path) else none

def lookup? (tree : FileTree) (path : Path) : Option Node := (tree.locate? path).bind tree.node?

def isPresent (tree : FileTree) (path : Path) : Bool := (tree.lookup? path).isSome

def readText? (tree : FileTree) (path : Path) : Option Text :=
  match tree.lookup? path with
  | some (.file content) => content.text?
  | some .directory | none => none

-- Directories made so far stay when a later one cannot be made.
def makeFrom (tree : FileTree) : Location → List Text → Bool × FileTree
  | _, [] => (true, tree)
  | location, piece :: rest =>
      if isName piece then
        let next := step location piece
        match tree.node? next with
        | some .directory => makeFrom tree next rest
        | some (.file _) => (false, tree)
        | none => makeFrom (tree.put next .directory) next rest
      else (false, tree)

def makeDirectories (path : Path) (tree : FileTree) : Bool × FileTree :=
  if isPath path then tree.makeFrom [] (split '/' path) else (false, tree)

def write (path : Path) (content : Content) (tree : FileTree) : Bool × FileTree :=
  match tree.locate? path with
  | none => (false, tree)
  | some location =>
      if tree.isDirectory location then (false, tree) else (true, tree.put location (.file content))

-- Only files are renamed. The new path may name a file, even the same, but no directory.
def rename (source target : Path) (tree : FileTree) : Bool × FileTree :=
  match tree.locate? source, tree.locate? target with
  | some old, some new =>
      match tree.node? old with
      | some (.file content) =>
          if tree.isDirectory new then (false, tree)
          else (true, (tree.erase old).put new (.file content))
      | some .directory | none => (false, tree)
  | _, _ => (false, tree)

def insertByPath (entry : Path × Node) : List (Path × Node) → List (Path × Node)
  | [] => [entry]
  | head :: rest => if head.1 < entry.1 then head :: insertByPath entry rest else entry :: head :: rest

def listing (tree : FileTree) : List (Path × Node) :=
  (tree.entries.map fun entry => (join '/' entry.1, entry.2)).foldr insertByPath []

end FileTree

instance : Store (StateM FileTree) where
  isPresent path := return (← get).isPresent path
  readText? path := return (← get).readText? path
  makeDirectories path := modifyGet (FileTree.makeDirectories path)
  writeText path text := modifyGet (FileTree.write path (.text text))
  rename source target := modifyGet (FileTree.rename source target)

end Interpolation
