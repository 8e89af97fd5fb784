import Chip8.Fault

namespace Chip8

inductive Entry where
  | file (bytes : Array UInt8)
  | folder
deriving DecidableEq, Repr, Inhabited

/-- The entries of a folder, with the names that lead to them. Of two entries at one place the first
counts. -/
abbrev Folder := List (List String × Entry)

inductive Place where
  | above
  | inside (names : List String)
deriving DecidableEq, Repr, Inhabited

namespace Place

def parent : Place → Place
  | above => above
  | inside [] => above
  | inside (name :: names) => inside (name :: names).dropLast

def child? (place : Place) (name : String) : Option Place :=
  match place with
  | above => none
  | inside names => some (inside (names ++ [name]))

end Place

namespace Folder

def splitSlashes : List Char → List (List Char)
  | [] => [[]]
  | c :: rest =>
    if c = '/' then [] :: splitSlashes rest
    else match splitSlashes rest with
      | [] => [[c]]
      | name :: names => (c :: name) :: names

def names (path : String) : List String :=
  (splitSlashes path.toList).map String.ofList

def stays (name : String) : Bool :=
  name = "" || name = "."

/-- The folder with folders along a path, and an entry at its end. -/
def enter (folder : Folder) (place : List String) (entry : Entry) : List String → Folder
  | [] => (place, entry) :: folder
  | name :: rest =>
    if stays name then enter folder place entry rest
    else if name = ".." then enter ((place, .folder) :: folder) place.dropLast entry rest
    else enter folder (place ++ [name]) entry rest

def ofList (entries : List (String × Entry)) : Folder :=
  entries.foldl (fun folder (path, entry) => folder.enter [] entry (names path)) []

/-- What is at a place. Every place above an entry is a folder. -/
def find? (folder : Folder) (place : List String) : Option Entry :=
  match folder.lookup place with
  | some entry => some entry
  | none => if folder.any fun (path, _) => place.isPrefixOf path then some .folder else none

def at? (folder : Folder) : Place → Option Entry
  | .above => some .folder
  | .inside [] => some .folder
  | .inside names => folder.find? names

def maxName : Nat := 255

def maxPath : Nat := 4095

/-- Follows names from a place on. `path` is the whole path, for messages. -/
def follow (folder : Folder) (path : String) (place : Place) : List String → Except Fault Entry
  | [] =>
    match folder.at? place with
    | some entry => .ok entry
    | none => .error (.fileMissing path)
  | name :: rest =>
    match folder.at? place with
    | none => .error (.fileMissing path)
    | some (.file _) => .error (.parentNotDirectory path)
    | some .folder =>
      if stays name then folder.follow path place rest
      else if name = ".." then folder.follow path place.parent rest
      else if name.utf8ByteSize > maxName then .error (.nameTooLong path)
      else match place.child? name with
        | none => .error (.fileMissing path)
        | some place => folder.follow path place rest

def start : List String → Place
  | "" :: _ => .above
  | _ => .inside []

def read (folder : Folder) (path : String) : Except Fault (Array UInt8) :=
  if path.toList.contains '\x00' then .error .nameHasNul
  else if path = "" then .error (.fileMissing path)
  else if path.utf8ByteSize > maxPath then .error (.nameTooLong path)
  else
    match follow folder path (start (names path)) (names path) with
    | .error fault => .error fault
    | .ok .folder => .error (.fileIsDirectory path)
    | .ok (.file bytes) => .ok bytes

end Folder

end Chip8
