import StubLibc.CommandLine.Run

/-!
# Files in memory

A tree of directories and files, and a host over it.  A path is followed one component at a time:
every component but the last has to be a directory, a dot stays and two dots go up.
-/

namespace StubLibc.CommandLine

/-- The components from the root to a directory or file. -/
abbrev Location := List String

/-- Directories and files by their locations.  The empty location is always a directory. -/
structure Files where
  directories : List Location := []
  contents : List (Location × Bytes) := []

namespace Files

def isDirectory (files : Files) (location : Location) : Bool :=
  location.isEmpty || files.directories.contains location

/-- The components of a path.  An empty one stays where it is, so a slash at the end asks for a
directory. -/
def components (path : String) : List String :=
  (path.splitOn "/").map fun part => if part.isEmpty then "." else part

/-- Follows components from a directory to the location that the last one names, which need not
exist. -/
def follow (files : Files) (start : Location) : List String → Except FileFault Location
  | [] => .ok start
  | "." :: rest =>
    if files.isDirectory start then follow files start rest else missing files start
  | ".." :: rest =>
    if files.isDirectory start then follow files start.dropLast rest else missing files start
  | name :: rest =>
    if files.isDirectory start then follow files (start ++ [name]) rest else missing files start
where
  /-- The fault of going on from a location that is not a directory. -/
  missing (files : Files) (location : Location) : Except FileFault Location :=
    if (files.contents.lookup location).isSome then .error .notDirectory else .error .notFound

def locate (files : Files) (path : String) : Except FileFault Location :=
  files.follow [] (components path)

def read (files : Files) (path : String) : Except FileFault Bytes := do
  let location ← files.locate path
  if files.isDirectory location then throw .isDirectory
  match files.contents.lookup location with
  | some bytes => pure bytes
  | none => throw .notFound

/-- Writes a file, which replaces what it held.  A path with a slash at its end cannot be a
file's. -/
def write (files : Files) (path : String) (bytes : Bytes) : Except FileFault Files := do
  let location ← files.locate (String.ofList (path.toList.reverse.dropWhile (· == '/')).reverse)
  if files.isDirectory location || path.toList.getLast? == some '/' then throw .isDirectory
  pure { files with contents := (location, bytes) :: files.contents }

/-- A host over files in memory and a fixed environment. -/
def host (values : List (String × Bytes)) : Host (StateM Files) where
  read path := do pure ((← get).read path)
  write path bytes := do
    match (← get).write path bytes with
    | .ok files =>
      set files
      pure (.ok ())
    | .error fault => pure (.error fault)
  environment name := pure (values.lookup name)

end Files

end StubLibc.CommandLine
