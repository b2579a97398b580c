import SmartCard.File

/-!
# Trees of files

The files of a system, and what a run that works in one of its folders reads under a path. A path
is walked name by name, from the root if it starts with a slash and from the run's folder
otherwise. Every name has to be looked up in a folder; two points lead to the folder around, which
for the root is the root itself, and one point or no name stays.
-/

set_option autoImplicit false
set_option relaxedAutoImplicit false

namespace SmartCard

structure FileTree where
  /-- The files under the names that lead to them from the root. Contents that are no text are
  `none`. -/
  files : List (List String × Option String)
  /-- Folders that are there even if no file lies in them. -/
  folders : List (List String)
  /-- The folder in which the run works. -/
  home : List String
  deriving DecidableEq, Repr

namespace FileTree

/-- The most bytes that a name may have. -/
def maxNameSize : Nat := 255

/-- The most bytes that a path may have. -/
def maxPathSize : Nat := 4095

/-! ### Walking -/

/-- Whether a name in a path stays where the walk is. -/
def stays (name : String) : Bool :=
  name = "" || name = "."

/-- The folder around a place, which is given by the names that lead there from the root. -/
def around (place : List String) : List String :=
  place.dropLast

/-- The place to which a name leads from another, whatever stands there. -/
def follow (place : List String) (name : String) : List String :=
  if stays name then place else if name = ".." then around place else place ++ [name]

/-- Where the walk along a path starts. -/
def start (tree : FileTree) (path : String) : List String :=
  if path.toList.head? = some '/' then [] else tree.home

/-- The contents of the file at a place. -/
def contents? (tree : FileTree) (place : List String) : Option (Option String) :=
  tree.files.lookup place

/-- Whether there is a folder at a place: the root, one that is there even without files, or one
on the way to a file. -/
def holds (tree : FileTree) (place : List String) : Bool :=
  place.isEmpty || tree.folders.contains place ||
    tree.files.any fun file ↦ place.isPrefixOf file.1 && place ≠ file.1

/-- Refuses a place in which no name can be looked up. -/
def requireFolder (tree : FileTree) (place : List String) : Except FileFault Unit :=
  if tree.holds place then .ok ()
  else if (tree.contents? place).isSome then .error .notFolder
  else .error .missing

/-- One step of a walk. -/
def step (tree : FileTree) (place : List String) (name : String) :
    Except FileFault (List String) := do
  tree.requireFolder place
  if maxNameSize < name.utf8ByteSize then .error .nameTooLong else .ok (follow place name)

/-- Reads the file at a place. -/
def readAt (tree : FileTree) (place : List String) : Except FileFault String :=
  match tree.contents? place with
  | some (some text) => .ok text
  | some none => .error .notText
  | none => if tree.holds place then .error .isFolder else .error .missing

/-- Reads the file under a path. -/
def read (tree : FileTree) (path : String) : Except FileFault String :=
  if path.isEmpty then .error .missing
  else if maxPathSize < path.utf8ByteSize then .error .nameTooLong
  else do
    let place ← (path.splitOn "/").foldlM tree.step (tree.start path)
    tree.readAt place

/-! ### The usual system -/

/-- What every system has. The null device and the input of a run that is given none are empty,
programs are no text, and the table of users begins with the first of them. The run works in a
folder for passing use. Its name is not known, so it stands under the empty one, which leads
nowhere in a path. -/
def system : FileTree where
  files := [
    (["dev", "null"], some ""), (["dev", "stdin"], some ""), (["dev", "fd", "0"], some ""),
    (["proc", "self", "fd", "0"], some ""), (["proc", "self", "exe"], none),
    (["bin", "sh"], none), (["usr", "bin", "env"], none),
    (["etc", "passwd"], some "root:x:0:0:root:/root:/bin/bash\n")]
  folders := ["boot", "home", "lib", "media", "mnt", "opt", "root", "run", "sbin", "srv", "sys",
    "var"].map ([·]) ++ [["dev", "pts"], ["dev", "shm"], ["tmp", ""], ["usr", "lib"]]
  home := ["tmp", ""]

/-- The system with some files under their paths in the folder of the run. -/
def ofFiles (files : List (String × String)) : FileTree :=
  { system with
    files := files.map (fun file ↦
      ((file.1.splitOn "/").foldl follow (system.start file.1), some file.2)) ++ system.files }

end FileTree

end SmartCard
