import TableGuard.Text.Raw

/-!
# Paths

A path is a raw text. Slashes divide it into segments; an empty segment and a dot mean nothing,
except that a slash at the beginning makes the path absolute and a dot at the beginning of a relative
path is a component of its own. Operations work on the bytes and keep them as they were written.

* `Path.segments`, `Path.ofSegments` : bytes divided at their slashes, and put together again;
* `Path.components` : what a path consists of;
* `Path.join` : one path below another;
* `Path.parent?`, `Path.ancestors` : a path without its last component, and so on;
* `Path.withoutCurrent?` : a path without the dot at its beginning;
* `Path.extension?` : the extension of a file name.
-/

namespace TableGuard.Path

@[match_pattern] abbrev slash : UInt8 := 0x2F

@[match_pattern] abbrev dot : UInt8 := 0x2E

/-! ## Segments -/

/-- Bytes divided at their slashes; there is always at least one segment. -/
def segments : List UInt8 → List (List UInt8)
  | [] => [[]]
  | c :: rest =>
    if c = slash then [] :: segments rest
    else
      match segments rest with
      | [] => [[c]]
      | s :: ss => (c :: s) :: ss

def ofSegments : List (List UInt8) → List UInt8
  | [] => []
  | [s] => s
  | s :: ss => s ++ slash :: ofSegments ss

/-- Whether a segment means nothing inside of a path. -/
def isIdle (segment : List UInt8) : Bool := segment == [] || segment == [dot]

/-- Segments without the idle ones at their end. -/
def trimEnd (ss : List (List UInt8)) : List (List UInt8) :=
  (ss.reverse.dropWhile isIdle).reverse

/-! ## Components -/

/-- What a path consists of. -/
inductive Component where
  | root
  | current
  | parent
  | name (bytes : List UInt8)
deriving DecidableEq

def component? (segment : List UInt8) : Option Component :=
  if isIdle segment then none
  else if segment = [dot, dot] then some .parent
  else some (.name segment)

def components (path : RawText) : List Component :=
  match segments path.bytes with
  | [] :: rest => (if rest.isEmpty then [] else [.root]) ++ rest.filterMap component?
  | [dot] :: rest => .current :: rest.filterMap component?
  | ss => ss.filterMap component?

def isAbsolute (path : RawText) : Bool := path.bytes.head? == some slash

/-- Whether a path consists of nothing but a dot, or of nothing at all. -/
def isCurrent (path : RawText) : Bool := (components path).all (· == .current)

/-! ## Operations -/

/-- A path below another; an absolute path stays as it is. -/
def join (base path : RawText) : RawText :=
  if isAbsolute path then path
  else if base.bytes.getLast? == some slash || base.bytes.isEmpty then ⟨base.bytes ++ path.bytes⟩
  else ⟨base.bytes ++ slash :: path.bytes⟩

/-- Segments without their last component. -/
def dropComponent? (ss : List (List UInt8)) : Option (List (List UInt8)) :=
  match trimEnd ss with
  | [] => none
  | ss => some (trimEnd ss.dropLast)

/-- The path without its last component, if it has one that is not the root. -/
def parent? (path : RawText) : Option RawText :=
  match segments path.bytes with
  | [] :: rest => (dropComponent? rest).map fun ss => ⟨slash :: ofSegments ss⟩
  | [dot] :: rest =>
    match dropComponent? rest with
    | some ss => some ⟨ofSegments ([dot] :: ss)⟩
    | none => some ⟨[]⟩
  | ss => (dropComponent? ss).map fun ss => ⟨ofSegments ss⟩

/-- A path, its parent, the parent of that and so on; `bound` limits their number. -/
def ancestorsUpTo : Nat → RawText → List RawText
  | 0, path => [path]
  | bound + 1, path =>
    match parent? path with
    | some parent => path :: ancestorsUpTo bound parent
    | none => [path]

/-- A path, its parent, the parent of that and so on. -/
def ancestors (path : RawText) : List RawText := ancestorsUpTo path.bytes.length path

/-- A relative path without the dot at its beginning and the idle segments around the rest, if it
begins with a dot. -/
def withoutCurrent? (path : RawText) : Option RawText :=
  match segments path.bytes with
  | [dot] :: rest => some ⟨ofSegments (trimEnd (rest.dropWhile isIdle))⟩
  | _ => none

/-- The extension of a file name: what follows its last dot, unless that dot is its first byte or
there is none. -/
def extension? (name : RawText) : Option RawText :=
  let bytes := name.bytes
  let after := (bytes.reverse.takeWhile (· != dot)).reverse
  match (bytes.reverse.dropWhile (· != dot)).drop 1 with
  | [] => none
  | _ => if bytes = [dot, dot] then none else some ⟨after⟩

end TableGuard.Path
