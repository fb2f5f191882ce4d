import Outband.Text.Utf8
/-! A tree of plain files and directories, and what the paths into it lead to. There are no links in
it, and of permissions only the one to run a file. -/

namespace Outband

/-- The names that lead from the root to an entry. -/
abbrev Place := List String

inductive Entry where
  | directory
  | file (content : Bytes) (executable : Bool)
  deriving DecidableEq, Repr

/-- Why a path cannot be used as asked. -/
inductive FileFault where
  | missing
  | denied
  | exists
  | notDirectory
  | isDirectory
  | nameTooLong
  /-- No path can hold the character zero. -/
  | zeroCharacter
  deriving DecidableEq, Repr

/-- The words of the operating system. -/
def FileFault.reason : FileFault → String
  | .missing => "No such file or directory (os error 2)"
  | .denied => "Permission denied (os error 13)"
  | .exists => "File exists (os error 17)"
  | .notDirectory => "Not a directory (os error 20)"
  | .isDirectory => "Is a directory (os error 21)"
  | .nameTooLong => "File name too long (os error 36)"
  | .zeroCharacter => "file name contained an unexpected NUL byte"

/-- The entries below the root, which is a directory itself. A place comes after the directories
that it lies in. -/
structure Files where
  entries : List (Place × Entry) := []
  /-- The directory that relative paths start from. -/
  here : Place := []
  deriving Repr

/-! Paths as text. -/

namespace Path

def isAbsolute (path : String) : Bool := path.toList.head? == some '/'

/-- A path to a directory and no other entry. -/
def endsInSlash (path : String) : Bool := path.toList.getLast? == some '/'

/-- The pieces between the slashes. -/
def pieces (path : String) : List String :=
  ((path.toList.splitOn '/').map String.ofList).filter (· != "")

/-- A path taken from a directory. An absolute one stays as it is. -/
def join (directory path : String) : String :=
  if isAbsolute path then path
  else if directory.isEmpty || endsInSlash directory then directory ++ path
  else directory ++ "/" ++ path

/-- The text after the last point of the last name, which neither starts with that point nor is
the way back up. -/
def extension? (path : String) : Option String :=
  match (pieces path).reverse.dropWhile (· == ".") with
  | [] | ".." :: _ => none
  | name :: _ =>
    let chars := name.toList.reverse
    let tail := chars.takeWhile (· != '.')
    let stem := (chars.drop tail.length).drop 1
    if stem.isEmpty then none else some (String.ofList tail.reverse)

end Path

/-- What a path leads to. -/
inductive Found where
  | entry (place : Place) (entry : Entry)
  /-- Nothing, in a directory that exists. -/
  | vacant (place : Place)
  deriving DecidableEq, Repr

namespace Files

def maxName : Nat := 255

def entry? (files : Files) (place : Place) : Option Entry :=
  if place.isEmpty then some .directory else files.entries.lookup place

/-- Follows the pieces of a path from a directory. -/
def walk (files : Files) (start : Place) : List String → Except FileFault Found
  | [] => .ok (.entry start .directory)
  | piece :: rest =>
    if piece == "." then walk files start rest
    else if piece == ".." then walk files start.dropLast rest
    else if maxName < piece.utf8ByteSize then .error .nameTooLong
    else
      let place := start ++ [piece]
      match files.entry? place, rest with
      | some .directory, rest => walk files place rest
      | some file, [] => .ok (.entry place file)
      | some _, _ => .error .notDirectory
      | none, [] => .ok (.vacant place)
      | none, _ => .error .missing

/-- Where the pieces of a path are followed from. -/
def start (files : Files) (path : String) : Place :=
  if Path.isAbsolute path then [] else files.here

/-- The path can be handed over at all. -/
def checkPath (path : String) : Except FileFault Unit :=
  if path.toList.contains '\x00' then .error .zeroCharacter
  else if path.isEmpty then .error .missing
  else .ok ()

/-- The entry that a path leads to. Only directories may be followed by a slash. -/
def find (files : Files) (path : String) : Except FileFault (Place × Entry) := do
  checkPath path
  let pieces := Path.pieces path ++ if Path.endsInSlash path then ["."] else []
  match ← files.walk (files.start path) pieces with
  | .entry place entry => .ok (place, entry)
  | .vacant _ => .error .missing

def exists? (files : Files) (path : String) : Bool := (files.find path).isOk

def isFile (files : Files) (path : String) : Bool :=
  match files.find path with
  | .ok (_, .file ..) => true
  | _ => false

def read (files : Files) (path : String) : Except FileFault Bytes := do
  match ← files.find path with
  | (_, .file content _) => .ok content
  | (_, .directory) => .error .isDirectory

/-- Whether the file may be run. -/
def checkExecutable (files : Files) (path : String) : Except FileFault Unit := do
  match ← files.find path with
  | (_, .file _ true) => .ok ()
  | _ => .error .denied

/-- Replaces the entry at a place, or puts one there. -/
def put (files : Files) (place : Place) (entry : Entry) : Files :=
  let rec replace : List (Place × Entry) → List (Place × Entry)
    | [] => [(place, entry)]
    | (p, e) :: rest => if p = place then (place, entry) :: rest else (p, e) :: replace rest
  { files with entries := replace files.entries }

/-- Gives a file that content, and creates it if there is none. -/
def write (files : Files) (path : String) (content : Bytes) : Except FileFault Files := do
  checkPath path
  let pieces := Path.pieces path
  if Path.endsInSlash path then
    match ← files.walk (files.start path) pieces.dropLast with
    | .entry _ .directory => .error .isDirectory
    | .entry _ (.file ..) => .error .notDirectory
    | .vacant _ => .error .missing
  else
    match ← files.walk (files.start path) pieces with
    | .entry _ .directory => .error .isDirectory
    | .entry place (.file _ executable) => .ok (files.put place (.file content executable))
    | .vacant place => .ok (files.put place (.file content false))

/-- Creates one directory. -/
def makeDirectory (files : Files) (start : Place) (pieces : List String) :
    Except FileFault Files := do
  match pieces.getLast? with
  | none => .error .exists
  | some last =>
    if last == "." || last == ".." then
      match ← files.walk start pieces.dropLast with
      | .entry _ .directory => .error .exists
      | .entry _ (.file ..) => .error .notDirectory
      | .vacant _ => .error .missing
    else
      match ← files.walk start pieces with
      | .entry .. => .error .exists
      | .vacant place => .ok (files.put place .directory)

/-- A directory that could not be made is good if it was there already. -/
def settleDirectory (files : Files) (start : Place) (pieces : List String) :
    Except FileFault Files → Except FileFault Unit × Files
  | .ok made => (.ok (), made)
  | .error fault =>
    match files.walk start pieces with
    | .ok (.entry _ .directory) => (.ok (), files)
    | _ => (.error fault, files)

/-- Creates the directories that a path names from its end, pieces last first, each in the one
before it. -/
def makeDirectories (files : Files) (start : Place) : List String → Except FileFault Unit × Files
  | [] => (.ok (), files)
  | piece :: before =>
    let pieces := (piece :: before).reverse
    match files.makeDirectory start pieces with
    | .error .missing =>
      let parent := ((piece :: before).dropWhile (· == ".")).drop 1
      match files.makeDirectories start (parent.dropWhile (· == ".")) with
      | (.ok (), files) => files.settleDirectory start pieces (files.makeDirectory start pieces)
      | (.error fault, files) => (.error fault, files)
    | outcome => files.settleDirectory start pieces outcome
  termination_by reversed => reversed.length
  decreasing_by
    have h (l : List String) : (l.dropWhile (· == ".")).length ≤ l.length :=
      (List.dropWhile_sublist _).length_le
    have h₁ := h (((piece :: before).dropWhile (· == ".")).drop 1)
    have h₂ := h (piece :: before)
    simp only [List.length_drop, List.length_cons] at *
    omega

/-- Creates a directory and those that it lies in, as far as they are missing. -/
def createDirectory (files : Files) (path : String) : Except FileFault Unit × Files :=
  if path.isEmpty then (.ok (), files)
  else
    match checkPath path with
    | .error fault => (.error fault, files)
    | .ok () => files.makeDirectories (files.start path) (Path.pieces path).reverse

end Files

end Outband
