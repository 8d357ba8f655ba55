import BoundQuery.Config.Files

/-!
# A map of files

A file system without links. A path is walked part by part, from the root if it starts with a slash
and else from the working directory: each part but the last has to be a directory, also one before
`..`. A path with a null character is refused, and one that is too long; a part that is too long is
so once it is looked up. A file may be there without being readable.
-/

namespace BoundQuery

inductive FileNode where
  | file (content : ByteArray)
  /-- A file whose content nobody gets. -/
  | unreadable (why : ReadFault)
  | directory

/-- Nodes under the parts of their paths from the root. The directories on the way to them and to
the working directory are implied. -/
structure FileMap where
  workingDirectory : List String := []
  nodes : List (List String × FileNode) := []

namespace FileMap

/-- What stands between the slashes of a text. -/
def splitSlashes : List Char → List (List Char)
  | [] => [[]]
  | c :: rest =>
    if c = '/' then [] :: splitSlashes rest
    else match splitSlashes rest with
      | [] => [[c]]
      | part :: parts => (c :: part) :: parts

/-- The parts of a path. -/
def parts (path : String) : List String := (splitSlashes path.toList).map String.ofList

/-- Adds a node under a path from the working directory. -/
def add (files : FileMap) (path : String) (node : FileNode) : FileMap :=
  let place := files.workingDirectory ++ (parts path).filter fun part => part ≠ "" ∧ part ≠ "."
  { files with nodes := files.nodes ++ [(place, node)] }

/-- The node at a place, the empty place being the root. -/
def node? (files : FileMap) (place : List String) : Option FileNode :=
  match files.nodes.find? fun entry => entry.1 = place with
  | some entry => some entry.2
  | none =>
    if place.isPrefixOf files.workingDirectory ∨
        files.nodes.any (fun entry => place.isPrefixOf entry.1) then some .directory
    else none

/-- Goes one part on from a directory. Above the root is the root. -/
def enter (files : FileMap) (place : List String) (part : String) : Option (List String) :=
  if part = "" ∨ part = "." then some place
  else if part = ".." then some place.dropLast
  else
    let child := place ++ [part]
    if (files.node? child).isSome then some child else none

/-- The most bytes of a path. -/
def maxPathBytes : Nat := 4095

/-- The most bytes of one part of a path. -/
def maxPartBytes : Nat := 255

/-- Walks the parts of a path. -/
def walk (files : FileMap) (place : List String) : List String → Except FileError (List String)
  | [] => .ok place
  | part :: rest =>
    match files.node? place with
    | none => .error .notFound
    | some (.file _) => .error .notDirectory
    | some (.unreadable _) => .error .notDirectory
    | some .directory =>
      if maxPartBytes < part.utf8ByteSize then .error .nameTooLong
      else match files.enter place part with
        | none => .error .notFound
        | some next => files.walk next rest

/-- Where a path leads. -/
def resolve (files : FileMap) (path : String) : Except FileError (List String) :=
  if '\x00' ∈ path.toList then .error .nullInPath
  else if path = "" then .error .notFound
  else if maxPathBytes < path.utf8ByteSize then .error .nameTooLong
  else files.walk (if path.toList.head? = some '/' then [] else files.workingDirectory) (parts path)

/-- There is a file or directory under the path. -/
def contains (files : FileMap) (path : String) : Bool := (files.resolve path).isOk

/-- The bytes of the file under a path. -/
def readBytes (files : FileMap) (path : String) : Except FileError ByteArray :=
  match files.resolve path with
  | .error e => .error e
  | .ok place =>
    match files.node? place with
    | some (.file content) => .ok content
    | some (.unreadable why) => .error (.fault why)
    | some .directory => .error .isDirectory
    | none => .error .notFound

/-- The text of the file under a path. -/
def readText (files : FileMap) (path : String) : Except FileError String :=
  match files.readBytes path with
  | .error e => .error e
  | .ok content =>
    match String.fromUTF8? content with
    | some text => .ok text
    | none => .error .notUtf8

/-- The bytes of the environment file in a directory; a directory of its name is none. -/
def environmentFileIn? (files : FileMap) (place : List String) : Option FileBytes :=
  match files.node? (place ++ [".env"]) with
  | some (.file content) => some ⟨content, none⟩
  | some (.unreadable why) => some ⟨.empty, some why⟩
  | _ => none

/-- The environment file of the nearest directory that has one, from the working directory up. -/
def environmentFile? (files : FileMap) : Option FileBytes :=
  (List.range (files.workingDirectory.length + 1)).findSome? fun up =>
    files.environmentFileIn? (files.workingDirectory.take (files.workingDirectory.length - up))

/-- The map as a file system. -/
def system (files : FileMap) : FileSystem :=
  ⟨files.readText, files.contains, files.environmentFile?⟩

instance : Coe FileMap FileSystem := ⟨system⟩

end FileMap

end BoundQuery
