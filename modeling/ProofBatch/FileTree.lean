/-
File trees: directories, files and symbolic links, how a path is followed
through them, and what a walk over a directory visits.

- `FileTree.spot` follows a path name by name; at most `maxLinks` links are
  followed for one path, and every refusal has the cause that comes first on
  the way.
- `FileTree.readText`, `isFile` and `isDirectory` are the questions that are
  asked of a tree; `write` and `append` are the changes.
- `FileTree.visits` lists a directory and all below it, a directory before its
  contents and the contents in the order of their names. Links are visited,
  not followed.

A name is a text, so a tree has no names whose bytes are no text. The system
also refuses paths of 4096 bytes and more, whatever they lead to; here a path
may be of any length.
-/
import ProofBatch.IoError
import ProofBatch.Path
import ProofBatch.Text.Utf8

namespace ProofBatch

-- ================================================================ nodes

/-- What a reader of a file or directory is allowed. -/
structure Access where
  /-- A file can be read, a directory be listed. -/
  read : Bool := true
  /-- A file can be started, a directory be passed through. -/
  execute : Bool := true
  deriving DecidableEq, Repr, Inhabited

/-- A file, a symbolic link or a directory with its named entries. -/
inductive Node where
  | file (access : Access) (bytes : List UInt8)
  | link (target : String)
  | directory (access : Access) (entries : List (String × Node))
  deriving Repr, Inhabited

namespace Node

/-- A directory without entries that anyone may use. -/
def emptyDirectory : Node :=
  .directory {} []

/-- The entries of a directory; other nodes have none. -/
def entries : Node → List (String × Node)
  | .directory _ entries => entries
  | _ => []

def isFile : Node → Bool
  | .file .. => true
  | _ => false

def isDirectory : Node → Bool
  | .directory .. => true
  | _ => false

/-- The node below `node` that is reached through the given names, no link
being followed. -/
def descend? (node : Node) : List String → Option Node
  | [] => some node
  | name :: rest =>
    match node.entries.lookup name with
    | some child => child.descend? rest
    | none => none

/-- Give the entry `name` the value `node`, at its old place or as the last
one. -/
def putEntry (name : String) (node : Node) :
    List (String × Node) → List (String × Node)
  | [] => [(name, node)]
  | (other, old) :: rest =>
    if other = name then (name, node) :: rest
    else (other, old) :: putEntry name node rest

/-- Put `leaf` at the place with the given names. Directories on the way that
are missing are made, what is no directory on the way is replaced by one. -/
def put (node leaf : Node) : List String → Node
  | [] => leaf
  | name :: rest =>
    let below := (node.entries.lookup name).getD emptyDirectory
    let access := match node with
      | .directory access _ => access
      | _ => {}
    .directory access (putEntry name (below.put leaf rest) node.entries)

end Node

-- =========================================================== following a path

/-- A file tree as seen from one directory in it. -/
structure FileTree where
  /-- The directory that absolute paths start from. -/
  root : Node
  /-- The directory that relative paths start from, by the names on the way to
  it. -/
  here : List String := []
  deriving Repr, Inhabited

/-- Where a path leads: to a node, or to a place in a directory where there is
none yet. Both are given by the names on the way from the root. -/
inductive Spot where
  | taken (place : List String)
  | free (place : List String)
  deriving DecidableEq, Repr

/-- How many links may be followed for one path. -/
def maxLinks : Nat := 40

/-- How many bytes a name may have. -/
def maxNameBytes : Nat := 255

/-- Follow the names `steps` from the directory at `place`; where a link leads
is up to `onward`, which is given the directory that the target of the link
starts from and all names that are left then. A link that comes last is
followed only if `follow` says so. An empty name, as after a separator at the
end, asks for a directory and for no permission in it. -/
def Node.walkBy (root : Node) (follow : Bool)
    (onward : List String → List String → Except IoError Spot)
    (place : List String) : List String → Except IoError Spot
  | [] => .ok (.taken place)
  | step :: rest =>
    match root.descend? place with
    | some (.directory access entries) =>
      if step = "" then root.walkBy follow onward place rest
      else if !access.execute then .error .accessDenied
      else if step = "." then root.walkBy follow onward place rest
      else if step = ".." then root.walkBy follow onward place.dropLast rest
      else if maxNameBytes < step.utf8ByteSize then .error .nameTooLong
      else
        match entries.lookup step with
        | none =>
          if rest.isEmpty then .ok (.free (place ++ [step]))
          else .error .notFound
        | some (.link target) =>
          if rest.isEmpty && !follow then .ok (.taken (place ++ [step]))
          else
            let start := if (Path.mk target).isAbsolute then [] else place
            onward start ((Path.mk target).pieces ++ rest)
        | some _ => root.walkBy follow onward (place ++ [step]) rest
    | _ => .error .notDirectory

/-- Follow the names `steps` from the directory at `place`. With `budget` more
links may be followed. -/
def Node.walk (root : Node) (follow : Bool) (budget : Nat)
    (place steps : List String) : Except IoError Spot :=
  match budget with
  | 0 => root.walkBy follow (fun _ _ => .error .tooManyLinks) place steps
  | left + 1 => root.walkBy follow (root.walk follow left) place steps

namespace FileTree

/-- Where a path leads. -/
def spot (t : FileTree) (follow : Bool) (p : Path) : Except IoError Spot :=
  if p.text = "" then .error .notFound
  else if p.text.toList.contains (Char.ofNat 0) then .error .nulInPath
  else
    t.root.walk follow maxLinks (if p.isAbsolute then [] else t.here) p.pieces

/-- The names on the way to what a path leads to, links followed. -/
def place (t : FileTree) (p : Path) : Except IoError (List String) :=
  match t.spot true p with
  | .ok (.taken place) => .ok place
  | .ok (.free _) => .error .notFound
  | .error e => .error e

/-- The node at a spot. -/
def nodeAt (t : FileTree) : Except IoError Spot → Except IoError Node
  | .ok (.taken place) =>
    match t.root.descend? place with
    | some node => .ok node
    | none => .error .notFound
  | .ok (.free _) => .error .notFound
  | .error e => .error e

/-- What a path leads to, links followed. -/
def node (t : FileTree) (p : Path) : Except IoError Node :=
  t.nodeAt (t.spot true p)

/-- What a path names, which is the link itself if it names one. -/
def entry (t : FileTree) (p : Path) : Except IoError Node :=
  t.nodeAt (t.spot false p)

/-- Whether a path leads to a file. -/
def isFile (t : FileTree) (p : Path) : Bool :=
  match t.node p with
  | .ok node => node.isFile
  | .error _ => false

/-- Whether a path leads to a directory. -/
def isDirectory (t : FileTree) (p : Path) : Bool :=
  match t.node p with
  | .ok node => node.isDirectory
  | .error _ => false

-- ======================================================== reading and writing

/-- The bytes of the file that a path leads to. -/
def readBytes (t : FileTree) (p : Path) : Except IoError (List UInt8) :=
  match t.node p with
  | .ok (.file access bytes) =>
    if access.read then .ok bytes else .error .accessDenied
  | .ok (.directory access _) =>
    .error (if access.read then .isDirectory else .accessDenied)
  | .ok (.link _) => .error .tooManyLinks
  | .error e => .error e

/-- The text of the file that a path leads to. -/
def readText (t : FileTree) (p : Path) : Except IoError String :=
  match t.readBytes p with
  | .ok bytes =>
    match Text.decode? bytes with
    | some text => .ok text
    | none => .error .notText
  | .error e => .error e

theorem readText_of_bytes {t : FileTree} {p : Path} {bytes : List UInt8}
    {text : String} (hbytes : t.readBytes p = .ok bytes)
    (htext : Text.decode? bytes = some text) : t.readText p = .ok text := by
  unfold readText
  rw [hbytes]
  simp only [htext]

/-- Give the file that a path leads to new bytes, made from those it has; a
file that is not there starts with none. -/
def change (t : FileTree) (p : Path) (f : List UInt8 → List UInt8) :
    Except IoError FileTree :=
  match t.spot true p with
  | .error e => .error e
  | .ok (.free place) =>
    .ok { t with root := t.root.put (.file { execute := false } (f [])) place }
  | .ok (.taken place) =>
    match t.root.descend? place with
    | some (.file access bytes) =>
      .ok { t with root := t.root.put (.file access (f bytes)) place }
    | _ => .error .isDirectory

/-- Replace the contents of a file. -/
def write (t : FileTree) (p : Path) (bytes : List UInt8) :
    Except IoError FileTree :=
  t.change p fun _ => bytes

/-- Add to the end of a file. -/
def append (t : FileTree) (p : Path) (bytes : List UInt8) :
    Except IoError FileTree :=
  t.change p (· ++ bytes)

/-- The tree as seen from the directory that a path leads to. -/
def enter (t : FileTree) (p : Path) : Except IoError FileTree :=
  match t.place p with
  | .error e => .error e
  | .ok place =>
    match t.root.descend? place with
    | some (.directory access _) =>
      if access.execute then .ok { t with here := place }
      else .error .accessDenied
    | _ => .error .notDirectory

/-- The text of the directory that relative paths start from. -/
def herePath (t : FileTree) : Path :=
  ⟨"/" ++ "/".intercalate t.here⟩

/-- The directory that relative paths start from, unless it is gone. -/
def current (t : FileTree) : Except IoError Path :=
  match t.root.descend? t.here with
  | some (.directory ..) => .ok t.herePath
  | _ => .error .notFound

end FileTree

-- ================================================================ walking

/-- One stop of a walk. -/
inductive Visit where
  /-- A directory. -/
  | directory (path : Path)
  /-- A file or a link. -/
  | other (path : Path)
  /-- The directory visited last cannot be listed. -/
  | unlistable (path : Path) (error : IoError)
  deriving DecidableEq, Repr

/-- The order of entries in a walk. -/
def entryLe {α : Type} (x y : String × α) : Bool :=
  decide (x.1 ≤ y.1)

mutual

/-- The walk over a node, which the walk knows as `path`: a directory comes
before its entries, the entries in the order of their names. `reachable` says
whether all directories above can be passed through. -/
def Node.visits (reachable : Bool) (path : Path) : Node → List Visit
  | .directory access entries =>
    .directory path ::
      if reachable && access.read then
        ((Node.visitsBelow (reachable && access.execute) path
          entries).mergeSort entryLe).flatMap
          (·.2)
      else [.unlistable path .accessDenied]
  | .file .. => [.other path]
  | .link _ => [.other path]

/-- The walks over the entries of a directory, each under its name. -/
def Node.visitsBelow (reachable : Bool) (path : Path) :
    List (String × Node) → List (String × List Visit)
  | [] => []
  | (name, node) :: rest =>
    (name, node.visits reachable (path.join name))
      :: Node.visitsBelow reachable path rest

end

/-- The walk over what a path leads to. A link that the walk starts at is
visited as a link, and then what it leads to is walked below the path of the
link. -/
def FileTree.visits (t : FileTree) (root : Path) : List Visit :=
  match t.entry root, t.node root with
  | .ok (.link _), .ok node => .other root :: (node.visits true root).tail
  | _, .ok node => node.visits true root
  | _, .error e => [.unlistable root e]

end ProofBatch
