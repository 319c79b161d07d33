import NodeWarden.Settings

/-! The files of a rehearsed host: a tree of directories and files, of which some can be
run, and paths that are followed through it part by part. -/

namespace NodeWarden

inductive FileEntry
  | directory
  | file (content : List UInt8) (runnable : Bool)
  deriving Repr

inductive FileFault
  | missing
  | notDirectory
  | isDirectory
  | denied
  | nameTooLong
  deriving DecidableEq, Repr

def FileFault.message : FileFault → String
  | .missing => "No such file or directory (os error 2)"
  | .notDirectory => "Not a directory (os error 20)"
  | .isDirectory => "Is a directory (os error 21)"
  | .denied => "Permission denied (os error 13)"
  | .nameTooLong => "File name too long (os error 36)"

/-- Entries by the names that lead to them from the root. -/
structure FileTree where
  entries : List (List String × FileEntry) := []
  workingDir : List String := []
  deriving Repr

namespace FileTree

def entry? (t : FileTree) (names : List String) : Option FileEntry :=
  if names.isEmpty then some .directory else t.entries.lookup names

def pathNames (path : String) : List String :=
  (splitText '/' path).filter fun part => !part.isEmpty && part != "."

/-- Every start of a path but the root, the shortest first. -/
def parents (names : List String) : List (List String) :=
  (List.range names.length).drop 1 |>.map names.take

def addDirectory (t : FileTree) (names : List String) : FileTree :=
  let fresh := (parents names ++ [names]).filter fun dir => (t.entry? dir).isNone
  { t with entries := t.entries ++ fresh.map (·, .directory) }

def addFile (t : FileTree) (names : List String) (content : List UInt8) (runnable : Bool) :
    FileTree :=
  let t := t.addDirectory names.dropLast
  { t with
    entries := (names, .file content runnable) :: t.entries.filter fun e => e.1 != names }

/-- The bytes of the longest name of a file. -/
def longestName : Nat := 255

/-- The bytes of the longest path. -/
def longestPath : Nat := 4095

/-- Follows the parts of a path from a directory. A part of any kind needs a directory to
start from, so a slash at the end of a file's path leads nowhere. -/
def follow (t : FileTree) : List String → List String → Except FileFault (List String)
  | here, [] => .ok here
  | here, part :: parts =>
    match t.entry? here with
    | none => .error .missing
    | some (.file _ _) => .error .notDirectory
    | some .directory =>
      if longestName < part.utf8ByteSize then .error .nameTooLong
      else if part.isEmpty || part == "." then t.follow here parts
      else if part == ".." then t.follow here.dropLast parts
      else t.follow (here ++ [part]) parts

def locate (t : FileTree) (path : String) : Except FileFault (List String × FileEntry) :=
  if path.isEmpty then .error .missing
  else if longestPath < path.utf8ByteSize then .error .nameTooLong
  else
    let start := if path.toList.head? == some '/' then [] else t.workingDir
    match t.follow start (splitText '/' path) with
    | .error fault => .error fault
    | .ok names =>
      match t.entry? names with
      | some entry => .ok (names, entry)
      | none => .error .missing

/-- What a host has of files before anything is put there. -/
def usual : FileTree :=
  let dirs := [["usr", "bin"], ["bin"], ["etc"], ["tmp"]].foldl addDirectory {}
  dirs.addFile ["dev", "null"] [] false

def isFile (t : FileTree) (path : String) : Bool :=
  match t.locate path with
  | .ok (_, .file _ _) => true
  | _ => false

def read (t : FileTree) (path : String) : Except FileFault (List UInt8) :=
  match t.locate path with
  | .error fault => .error fault
  | .ok (_, .directory) => .error .isDirectory
  | .ok (_, .file content _) => .ok content

/-- Why the file at a path cannot be run. -/
def runFault? (t : FileTree) (path : String) : Option FileFault :=
  match t.locate path with
  | .error fault => some fault
  | .ok (_, .file _ true) => none
  | .ok _ => some .denied

/-- Why none of the files can be run that are tried one after the other, given the fault of
those before. A file that must not be run outweighs those that are not there, of which the
last one counts; any other fault is final. -/
def firstRun (t : FileTree) (before : FileFault) : List String → Option FileFault
  | [] => some before
  | path :: paths =>
    match t.runFault? path with
    | none => none
    | some .denied => t.firstRun .denied paths
    | some .missing => t.firstRun (if before = .denied then .denied else .missing) paths
    | some .notDirectory => t.firstRun (if before = .denied then .denied else .notDirectory) paths
    | some fault => some fault

/-- Why no file can be run that a command means: by its path, or along the search list. -/
def commandFault? (t : FileTree) (searchList binary : String) : Option FileFault :=
  if binary.isEmpty then some .missing
  else if binary.toList.contains '/' then t.runFault? binary
  else t.firstRun .missing ((splitText ':' searchList).map (joinPath · binary))

end FileTree

end NodeWarden
