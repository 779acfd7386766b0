import CodeAtlas.Dict
import CodeAtlas.Text.Utf8
import CodeAtlas.TextSet

/-!
A folder with files and folders below it, as far as the viewer reads and writes it. Paths are
relative to the folder, or start at the root with `/`. A path is followed part by part: empty parts
and `.` stay, `..` goes up. Of what lies outside the folder only what was written is known.
-/
namespace CodeAtlas

open Text (Bytes)

inductive FileFault where
  | notFound
  | exists
  | notFolder
  | isFolder
  | nameTooLong
  | zeroInName
  | notText
  deriving DecidableEq, Repr

def FileFault.message : FileFault → String
  | .notFound => "No such file or directory (os error 2)"
  | .exists => "File exists (os error 17)"
  | .notFolder => "Not a directory (os error 20)"
  | .isFolder => "Is a directory (os error 21)"
  | .nameTooLong => "File name too long (os error 36)"
  | .zeroInName => "file name contained an unexpected NUL byte"
  | .notText => "stream did not contain valid UTF-8"

/-- Files and folders by their place. A place is a list of names from the folder on: `..` in front
leads to the folders around it, and `/` in front is the root. The names are joined by `/`. -/
structure Disk where
  files : Dict Bytes := []
  folders : TextSet := []

inductive Place where
  | folder (parts : List String)
  | file (parts : List String)
  /-- Nothing, in a folder that is there. -/
  | vacant (parts : List String)
  deriving DecidableEq, Repr

namespace Disk

def key (parts : List String) : String := "/".intercalate parts

def partsOf (path : String) : List String := (path.splitOn "/").filter (· ≠ "")

def isAbsolute (path : String) : Bool := path.startsWith "/"

def start (path : String) : List String := if isAbsolute path then ["/"] else []

def around (parts : List String) : List String :=
  if parts = ["/"] then parts
  else if parts.all (· == "..") then ".." :: parts
  else parts.dropLast

def listing (d : Disk) : List (String × Bytes) :=
  d.files.filter fun f => !(isAbsolute f.1 || f.1.startsWith "../")

def maxName : Nat := 255

def maxPath : Nat := 4095

def entry (d : Disk) (folder : List String) (name : String) : Except FileFault Place :=
  let parts := folder ++ [name]
  if name.utf8ByteSize > maxName then .error .nameTooLong
  else if name = "." then .ok (.folder folder)
  else if name = ".." then .ok (.folder (around folder))
  else if d.folders.contains (key parts) then .ok (.folder parts)
  else if d.files.contains (key parts) then .ok (.file parts)
  else .ok (.vacant parts)

def follow (d : Disk) : List String → List String → Except FileFault Place
  | folder, [] => .ok (.folder folder)
  | folder, [name] => d.entry folder name
  | folder, name :: rest => do
    match ← d.entry folder name with
    | .folder inner => d.follow inner rest
    | .file _ => .error .notFolder
    | .vacant _ => .error .notFound

def hasZero (path : String) : Bool := path.toList.contains '\x00'

/-- A path can be asked for: it holds no zero, is not empty and not too long. -/
def check (path : String) : Except FileFault Unit :=
  if hasZero path then .error .zeroInName
  else if path = "" then .error .notFound
  else if path.utf8ByteSize > maxPath then .error .nameTooLong
  else .ok ()

/-- What is found at a path. A path that ends in `/` leads to a folder only. -/
def locate (d : Disk) (path : String) : Except FileFault Place := do
  check path
  match ← d.follow (start path) (partsOf path) with
  | .file parts => if path.endsWith "/" then .error .notFolder else return .file parts
  | place => return place

def isFolder (d : Disk) (path : String) : Bool :=
  match d.locate path with
  | .ok (.folder _) => true
  | _ => false

def contains (d : Disk) (path : String) : Bool :=
  match d.locate path with
  | .ok (.folder _) | .ok (.file _) => true
  | _ => false

def read (d : Disk) (path : String) : Except FileFault Bytes := do
  match ← d.locate path with
  | .folder _ => .error .isFolder
  | .vacant _ => .error .notFound
  | .file parts => return (d.files.find? (key parts)).getD []

def readText (d : Disk) (path : String) : Except FileFault String := do
  match Text.decodeUtf8 (← d.read path) with
  | .ok s => return s
  | .error _ => .error .notText

def makeFolder (d : Disk) (path : String) : Except FileFault Disk := do
  check path
  match ← d.follow (start path) (partsOf path) with
  | .folder _ | .file _ => .error .exists
  | .vacant parts => return { d with folders := TextSet.insert (key parts) d.folders }

def ensureFolder (d : Disk) (path : String) : Disk × Except FileFault Unit :=
  match d.makeFolder path with
  | .ok d => (d, .ok ())
  | .error why => (d, if d.isFolder path then .ok () else .error why)

/-- Makes folders, each of which stands in the next one. It starts at the first one that has a
folder to stand in, and what was made before a refusal stays. -/
def makeNested (d : Disk) : List String → Disk × Except FileFault Unit
  | [] => (d, .ok ())
  | path :: around =>
    match d.ensureFolder path with
    | (_, .error .notFound) =>
      match d.makeNested around with
      | (d, .ok ()) => d.ensureFolder path
      | refused => refused
    | result => result

/-- The parts of a path as its folders are counted: `.` counts only in front. -/
def countedParts (path : String) : List String :=
  match partsOf path with
  | [] => []
  | first :: rest =>
    (if first = "." && isAbsolute path then [] else [first]) ++ rest.filter (· ≠ ".")

def surroundings (path : String) : List String :=
  let parts := countedParts path
  (List.range parts.length).tail.reverse.map fun n =>
    (if isAbsolute path then "/" else "") ++ key (parts.take n)

def makeFolders (d : Disk) (path : String) : Disk × Except FileFault Unit :=
  if path = "" then (d, .ok ()) else d.makeNested (path :: surroundings path)

/-- Writes a file, in place of one that was there. A path that ends in `/` names no file. -/
def write (d : Disk) (path : String) (bytes : Bytes) : Except FileFault Disk := do
  check path
  let parts := partsOf path
  let place ← d.follow (start path) (if path.endsWith "/" then parts.dropLast else parts)
  match place, path.endsWith "/" with
  | .folder _, _ => .error .isFolder
  | .file _, true => .error .notFolder
  | .vacant _, true => .error .notFound
  | .file parts, false | .vacant parts, false =>
    return { d with files := d.files.insert (key parts) bytes }

def join (folder name : String) : String :=
  if isAbsolute name || folder = "" then name
  else if folder.endsWith "/" then folder ++ name
  else folder ++ "/" ++ name

/-- Writes a file into a folder, which is made if it is missing, and tells its path. -/
def save (d : Disk) (folder name : String) (bytes : Bytes) : Disk × Except FileFault String :=
  match d.makeFolders folder with
  | (d, .error why) => (d, .error why)
  | (d, .ok ()) =>
    let path := join folder name
    match d.write path bytes with
    | .ok d => (d, .ok path)
    | .error why => (d, .error why)

def ofFiles (files : List (String × Bytes)) : Disk :=
  files.foldl (fun d f =>
    let parts := partsOf f.1
    (d.save (key parts.dropLast) (parts.getLast?.getD "") f.2).1) {}

end Disk

end CodeAtlas
