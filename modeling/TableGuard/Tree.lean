import TableGuard.Disk
import TableGuard.Path

/-!
# A directory tree in memory

A tree lists files, directories and symbolic links under their places, a place being the names that
lead to it from the root. Paths are resolved name by name from the root or from the working
directory; links are followed on the way, at most forty of them. Names and paths have a greatest
length. A directory can be closed: paths lead through it, but its names are not told.

* `Tree.Entry`, `Tree.lookup` : what stands at a place;
* `Tree.Step`, `Tree.steps` : how a path is walked;
* `Tree.walk` : where a path leads;
* `Tree.kindAt`, `Tree.namesAt`, `Tree.readAt`, `Tree.writeAt` : the requests to a disk;
* `World`, `World.disk` : a tree together with a working directory as a disk.
-/

namespace TableGuard

namespace Tree

/-- The names that lead to a place from the root. -/
abbrev Place := List RawText

/-- What can stand at a place. -/
inductive Entry where
  | file (bytes : List UInt8)
  | directory
  | link (target : RawText)
deriving DecidableEq

end Tree

/-- Files, directories and links under their places; the root is always a directory. -/
structure Tree where
  entries : List (Tree.Place × Tree.Entry)
  /-- The places of the directories whose names are not told. -/
  closed : List Tree.Place
deriving DecidableEq

namespace Tree

def lookup (tree : Tree) (place : Place) : Option Entry :=
  if place.isEmpty then some .directory else tree.entries.lookup place

/-- Replaces the first entry for a place, or adds one at the end. -/
def put (place : Place) (entry : Entry) : List (Place × Entry) → List (Place × Entry)
  | [] => [(place, entry)]
  | (p, e) :: rest => if p = place then (place, entry) :: rest else (p, e) :: put place entry rest

def set (tree : Tree) (place : Place) (entry : Entry) : Tree :=
  { tree with entries := put place entry tree.entries }

def children (tree : Tree) (place : Place) : List RawText :=
  tree.entries.filterMap fun (p, _) => if p.dropLast = place then p.getLast? else none

/-! ## Walking a path -/

/-- One step of a walk. -/
inductive Step where
  /-- Down to a name. -/
  | down (name : RawText)
  /-- Up to the directory above. -/
  | up
  /-- Nowhere, from a directory. -/
  | stay
  /-- Nowhere, after a slash at the end of a path. -/
  | slash
deriving DecidableEq

/-- The steps of segments. -/
def stepsOf : List (List UInt8) → List Step
  | [] => []
  | [[]] => [.slash]
  | s :: ss =>
    if s = [] then stepsOf ss
    else if s = [Path.dot] then .stay :: stepsOf ss
    else if s = [Path.dot, Path.dot] then .up :: stepsOf ss
    else .down ⟨s⟩ :: stepsOf ss

def steps (path : RawText) : List Step := stepsOf (Path.segments path.bytes)

/-- Where a walk along a path begins. -/
def origin (base : Place) (path : RawText) : Place := if Path.isAbsolute path then [] else base

/-- Where a walk ends. -/
inductive Goal where
  /-- At an entry that is no link. -/
  | entry (place : Place)
  /-- At a place in a directory where nothing stands yet. -/
  | vacant (place : Place)

def maxName : Nat := 255

def maxPath : Nat := 4095

/-- Walks from a place; `onLink` takes over at a link, with the directory that holds it, its target
and the steps after it. `creating` says that the walk looks for a place to write to, which cannot
have a slash after its name. -/
def walkWith (tree : Tree) (creating : Bool)
    (onLink : Place → RawText → List Step → Except DiskError Goal) :
    Place → List Step → Except DiskError Goal
  | place, [] => .ok (.entry place)
  | place, step :: rest =>
    if tree.lookup place ≠ some .directory then .error .notDirectory
    else
      match step with
      | .stay => walkWith tree creating onLink place rest
      | .slash => walkWith tree creating onLink place rest
      | .up => walkWith tree creating onLink place.dropLast rest
      | .down name =>
        if creating && rest = [.slash] then .error .isDirectory
        else if maxName < name.bytes.length then .error .nameTooLong
        else
          match tree.lookup (place ++ [name]) with
          | some (.link target) => onLink place target rest
          | some _ => walkWith tree creating onLink (place ++ [name]) rest
          | none => if rest.isEmpty then .ok (.vacant (place ++ [name])) else .error .notFound

/-- Walks from a place, following at most `links` links. -/
def walk (tree : Tree) (creating : Bool) : Nat → Place → List Step → Except DiskError Goal
  | 0 => walkWith tree creating fun _ _ _ => .error .tooManyLinks
  | links + 1 => walkWith tree creating fun place target rest =>
      walk tree creating links (origin place target) (steps target ++ rest)

def maxLinks : Nat := 40

def locate (tree : Tree) (creating : Bool) (base : Place) (path : RawText) :
    Except DiskError Goal :=
  if path.bytes.contains 0 then .error .nulInPath
  else if path.bytes.isEmpty then .error .notFound
  else if maxPath < path.bytes.length then .error .nameTooLong
  else walk tree creating maxLinks (origin base path) (steps path)

/-- The entry to which a path leads. -/
def resolve (tree : Tree) (base : Place) (path : RawText) : Except DiskError Place := do
  match ← tree.locate false base path with
  | .entry place => return place
  | .vacant _ => .error .notFound

/-! ## Requests -/

def kindAt (tree : Tree) (base : Place) (path : RawText) : Except DiskError FileKind := do
  let place ← tree.resolve base path
  match tree.lookup place with
  | some (.file _) => return .file
  | _ => return .directory

def namesAt (tree : Tree) (base : Place) (path : RawText) :
    Except ListingFault (List RawText) :=
  match tree.resolve base path with
  | .error e => .error ⟨some path, e⟩
  | .ok place =>
    if place ∈ tree.closed then .error ⟨some path, .accessDenied⟩ else .ok (tree.children place)

/-- What comes of reading a directory like a file. -/
def refusal (tree : Tree) (place : Place) : DiskError :=
  if place ∈ tree.closed then .accessDenied else .isDirectory

def readAt (tree : Tree) (base : Place) (path : RawText) : Except DiskError (List UInt8) := do
  let place ← tree.resolve base path
  match tree.lookup place with
  | some (.file bytes) => return bytes
  | _ => .error (tree.refusal place)

/-- The tree after bytes were written to a path. -/
def writeAt (tree : Tree) (base : Place) (path : RawText) (bytes : List UInt8) :
    Except DiskError Tree := do
  match ← tree.locate true base path with
  | .vacant place => return tree.set place (.file bytes)
  | .entry place =>
    match tree.lookup place with
    | some (.file _) => return tree.set place (.file bytes)
    | _ => .error .isDirectory

end Tree

/-- A tree and the working directory from which paths are resolved. -/
structure World where
  tree : Tree
  cwd : Tree.Place

/-- A tree in memory as a disk. -/
def World.disk : Disk (StateM World) where
  kind path := fun world => (world.tree.kindAt world.cwd path, world)
  names path := fun world => (world.tree.namesAt world.cwd path, world)
  read path := fun world => (world.tree.readAt world.cwd path, world)
  write path bytes := fun world =>
    match world.tree.writeAt world.cwd path bytes with
    | .ok tree => (.ok (), { world with tree := tree })
    | .error e => (.error e, world)

end TableGuard
