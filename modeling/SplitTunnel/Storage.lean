/-!
# Files

What opening and reading a file gives, and a folder of files by name: the configuration and profiles
of `SPEC_FULL.md` §10.3 and §10.5, and the log file of §10.1.

* `Folder.find`: what a path leads to. Its components are looked up from left to right: `.` stays,
  `..` goes to the folder around, and a file has no components below it.
* `Folder.read`: what reading through a path gives.

Of what lies around the folder only the frame is known. The folder stands two levels below the root,
the root holds the usual folders, and one of these holds the devices that every machine has.
-/

namespace SplitTunnel

/-- What reading a file gives. -/
inductive Reading where
  | content (bytes : List UInt8)
  | missing
  /-- The file cannot be opened although nothing says that it is missing. -/
  | refused
  /-- What has been opened cannot be read, because it is a folder. -/
  | unreadable
deriving DecidableEq, Repr

/-- Files by name. -/
structure Folder where
  files : List (String × List UInt8)
deriving DecidableEq, Repr, Inhabited

namespace Folder

/-- What a path leads to. -/
inductive Place where
  | folder
  | file (name : String)
  /-- There is no file, and one may be made under `name`. -/
  | free (name : String)
  /-- A file outside, which reads as `content`. If that is `none` the file is yet to be made. -/
  | outside (content : Option (List UInt8))
  | missing
  | refused
deriving DecidableEq, Repr

/-- The place is a file to whoever reads it. -/
def Place.isFile : Place → Bool
  | .file _ | .outside (some _) | .refused => true
  | .folder | .free _ | .outside none | .missing => false

/-- A folder in which a component is looked up. -/
inductive Spot where
  /-- The `Folder` itself. -/
  | home
  /-- The folder that holds `home`. -/
  | around
  | root
  | devices
  /-- One of the usual folders, of which nothing else is known. -/
  | usual
  /-- A folder that the machine fills by itself. -/
  | sealed
deriving DecidableEq, Repr

/-- The folder around a folder. The root is around itself. -/
def Spot.up : Spot → Spot
  | .home => .around
  | .around | .root | .devices | .usual | .sealed => .root

/-- The folders of the root. -/
def rootFolders : List (String × Spot) :=
  [("dev", .devices), ("proc", .sealed), ("sys", .sealed)] ++
    ["bin", "boot", "etc", "home", "lib", "media", "mnt", "opt", "root", "run", "sbin", "srv",
      "tmp", "usr", "var"].map (·, .usual)

/-- The devices that every machine has, with what they read as. Of those that never end the first
byte stands for all. -/
def deviceFiles : List (String × List UInt8) :=
  [("null", []), ("zero", [0]), ("full", [0]), ("random", [0]), ("urandom", [0])]

/-- What a component of a path is. -/
inductive Entry where
  | folder (s : Spot)
  | place (p : Place)

/-- What the component `name` is in the folder `s`. -/
def entry (d : Folder) (s : Spot) (name : String) : Entry :=
  match s with
  | .home => .place (if (d.files.lookup name).isSome then .file name else .free name)
  | .around | .usual => .place (.outside none)
  | .root => ((rootFolders.lookup name).map .folder).getD (.place (.outside none))
  | .devices => .place (.outside (deviceFiles.lookup name))
  | .sealed => .place .missing

/-- The most bytes that a component of a path may have. -/
def maxName : Nat := 255

/-- The most bytes that a path may have. -/
def maxPath : Nat := 4095

/-- What the components of a path lead to from `s` on. A path that ends in a slash has an empty last
component. -/
def walk (d : Folder) (s : Spot) : List (List Char) → Place
  | [] => .folder
  | c :: rest =>
    if c.isEmpty ∨ c = ['.'] then d.walk s rest
    else if c = ['.', '.'] then d.walk s.up rest
    else if (String.ofList c).utf8ByteSize > maxName then .refused
    else
      match d.entry s (String.ofList c) with
      | .folder s => d.walk s rest
      | .place p => if rest.isEmpty then p else if p.isFile then .refused else .missing

/-- What `path` leads to. -/
def find (d : Folder) (path : String) : Place :=
  if path.isEmpty then .missing
  else if path.toList.contains '\x00' ∨ path.utf8ByteSize > maxPath then .refused
  else
    d.walk (if path.toList.head? = some '/' then .root else .home) (path.toList.splitOn '/')

/-- What reading through `path` gives. -/
def read (d : Folder) (path : String) : Reading :=
  match d.find path with
  | .file name => .content ((d.files.lookup name).getD [])
  | .outside (some bytes) => .content bytes
  | .folder => .unreadable
  | .free _ | .outside none | .missing => .missing
  | .refused => .refused

/-- `d` with a file `name` in it, in place of one of that name. -/
def put (d : Folder) (name : String) (content : List UInt8) : Folder :=
  ⟨d.files.filter (·.1 ≠ name) ++ [(name, content)]⟩

end Folder

end SplitTunnel
