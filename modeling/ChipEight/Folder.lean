import ChipEight.Failure

/-!
# Folders

A folder of files, and where a path leads that starts in it.  A path is a row of names with slashes
between them, and each name is looked up where the names before it led.  Of what lies outside the
folder only the places are known that every system has.
-/

namespace ChipEight

/-- Files by name. -/
structure Folder where
  /-- The name and the bytes of each file. -/
  files : List (String × Array UInt8)

namespace Folder

/-- Where the names of a path may lead. -/
inductive Place
  /-- The folder itself. -/
  | here
  /-- Another folder, by the names that lead to it from the folder that holds everything. -/
  | outside (names : List String)
  /-- A file with its bytes. -/
  | file (bytes : Array UInt8)

/-- The folder that holds everything. -/
def root : Place := .outside []

/-- The most bytes that a name may have. -/
def nameLimit : Nat := 255

/-- The most bytes that a path may have. -/
def pathLimit : Nat := 4095

/-- Folders that every system has. -/
def standardFolders : List (List String) :=
  [["bin"], ["boot"], ["dev"], ["etc"], ["home"], ["lib"], ["lib64"], ["media"], ["mnt"], ["opt"],
    ["proc"], ["root"], ["run"], ["sbin"], ["srv"], ["sys"], ["tmp"], ["usr"], ["var"],
    ["dev", "pts"], ["dev", "shm"], ["usr", "bin"], ["usr", "lib"], ["usr", "local"],
    ["usr", "sbin"], ["usr", "share"], ["var", "lib"], ["var", "log"], ["var", "tmp"]]

/-- The empty file that every system has. -/
def emptyFile : List String := ["dev", "null"]

/-- The folder that holds a place. The folder itself is a temporary one. -/
def Place.parent : Place → Place
  | here => outside ["tmp"]
  | outside names => outside names.dropLast
  | file bytes => file bytes

/-- What the names that lead to it from the folder that holds everything stand for. -/
def ofNames (names : List String) : Except Problem Place :=
  if names = emptyFile then .ok (.file #[])
  else if standardFolders.contains names then .ok (.outside names)
  else .error .missing

/-- What bears a name in a place. -/
def find (folder : Folder) (place : Place) (name : String) : Except Problem Place :=
  match place with
  | .here =>
      match folder.files.lookup name with
      | some bytes => .ok (.file bytes)
      | none => .error .missing
  | .outside names => ofNames (names ++ [name])
  | .file _ => .error .notFolder

/-- Go on from a place by one name. No name leads on from a file, not even an empty one. -/
def enter (folder : Folder) (place : Place) (name : String) : Except Problem Place :=
  match place with
  | .file _ => .error .notFolder
  | place =>
      if name = "" || name = "." then .ok place
      else if name = ".." then .ok place.parent
      else if nameLimit < name.utf8ByteSize then .error .nameTooLong
      else folder.find place name

/-- Go on from a place by several names in order. -/
def walk (folder : Folder) (place : Place) : List String → Except Problem Place
  | [] => .ok place
  | name :: rest => do folder.walk (← folder.enter place name) rest

/-- The place where a path leads. -/
def follow (folder : Folder) (path : String) : Except Problem Place :=
  let start := if path.toList.head? = some '/' then root else .here
  folder.walk start (path.splitOn "/")

/-- The bytes of the file that a path names. -/
def read (folder : Folder) (path : String) : Except Problem (Array UInt8) :=
  if path.toList.contains (Char.ofNat 0) then .error .zeroInName
  else if path = "" then .error .missing
  else if pathLimit < path.utf8ByteSize then .error .nameTooLong
  else do
    match ← folder.follow path with
    | .file bytes => .ok bytes
    | _ => .error .isFolder

/-- The name that a path ends with. -/
def lastName (path : String) : String :=
  (((path.splitOn "/").filter (· ≠ "")).getLast?).getD ""

/-- The folder with a single file, to which a path leads if it names nothing else on its way. -/
def single (path : String) (bytes : Array UInt8) : Folder :=
  ⟨[(lastName path, bytes)]⟩

end Folder
end ChipEight
