import MarketDesk.Dictionary

/-!
# Files in the working directory

What the working directory and the directories in it hold, and how a path is followed from there.
Nothing is known of the directories outside.
-/

namespace MarketDesk

inductive FolderEntry
  | file (bytes : List UInt8)
  | directory
  deriving DecidableEq

/-- What lies below the working directory, by the names that lead there. -/
abbrev Folder := Dictionary (List String) FolderEntry

inductive FileError
  | notFound
  | notDirectory
  | isDirectory
  | nameTooLong
  | zeroByte
  deriving DecidableEq, Repr

def FileError.message : FileError → String
  | notFound => "No such file or directory (os error 2)"
  | notDirectory => "Not a directory (os error 20)"
  | isDirectory => "Is a directory (os error 21)"
  | nameTooLong => "File name too long (os error 36)"
  | zeroByte => "file name contained an unexpected NUL byte"

namespace Folder

/-- The names of a path; an empty name is one between two slashes. -/
def namesOf (path : String) : List String := (path.toList.splitOn '/').map String.ofList

/-- Names that stay where they are. -/
def staysAt (name : String) : Bool := name == "" || name == "."

def ofPaths (entries : List (String × FolderEntry)) : Folder :=
  .ofList (entries.map fun e => ((namesOf e.1).filter fun name => !staysAt name, e.2))

/-- What the names lead to; directories on the way to an entry are there too. -/
def entry? (folder : Folder) (names : List String) : Option FolderEntry :=
  match folder.get? names with
  | some entry => some entry
  | none => if folder.keys.any names.isPrefixOf then some .directory else none

/-- Where a path has led to: a directory below the working one, one outside, or a file. -/
inductive Place
  | inside (names : List String)
  | outside
  | file (bytes : List UInt8)

/-- The directory above; the one above the working directory is outside. -/
def Place.above : Place → Place
  | inside [] => outside
  | inside names => inside names.dropLast
  | place => place

/-- Follows one name of a path. -/
def Place.enter (folder : Folder) (place : Place) (name : String) : Except FileError Place :=
  match place with
  | .file _ => .error .notDirectory
  | place =>
      if staysAt name then .ok place
      else if name = ".." then .ok place.above
      else if 255 < name.utf8ByteSize then .error .nameTooLong
      else
        match place with
        | .inside names =>
            match folder.entry? (names ++ [name]) with
            | some (.file bytes) => .ok (.file bytes)
            | some .directory => .ok (.inside (names ++ [name]))
            | none => .error .notFound
        | _ => .error .notFound

def follow (folder : Folder) (place : Place) : List String → Except FileError Place
  | [] => .ok place
  | name :: rest => do
      let place ← place.enter folder name
      folder.follow place rest

def readFile (folder : Folder) (path : String) : Except FileError (List UInt8) :=
  if path.toList.contains '\x00' then .error .zeroByte
  else if path = "" then .error .notFound
  else if 4095 < path.utf8ByteSize then .error .nameTooLong
  else
    let start : Place := if path.toList.head? = some '/' then .outside else .inside []
    match folder.follow start (namesOf path) with
    | .ok (.file bytes) => .ok bytes
    | .ok _ => .error .isDirectory
    | .error e => .error e

end Folder

end MarketDesk
