/-
  Where the log file lies.

  The directories on the way to the file are made as they are named, each asking first for the one that
  it lies in; only so many may be missing. The file itself is opened under the shortest form of its path,
  in which each `..` has taken the name before it away. A path that ends at a directory, named or just
  made, cannot be opened, nor can one that is too long or has too long a name in it.
-/
namespace WebhookRegistry

/-- The shortest form of a path: how many levels it goes up from where it starts, and the names from
    there on. -/
structure PlainPath where
  up : Nat
  names : List String
  deriving DecidableEq, Repr

namespace PlainPath

/-- Goes one step further along a path. -/
def step (path : PlainPath) (name : String) : PlainPath :=
  if name = ".." then
    if path.names.isEmpty then { path with up := path.up + 1 }
    else { path with names := path.names.dropLast }
  else { path with names := path.names ++ [name] }

/-- The shortest form of the path along given names. -/
def ofNames (names : List String) : PlainPath := names.foldl step ⟨0, []⟩

/-- The places that are passed on the way along names, without the last. -/
def passed (path : PlainPath) : List String → List PlainPath
  | [] => []
  | name :: rest => path :: passed (path.step name) rest

end PlainPath

/-- A log file, by the shortest form of its path from the working directory or from the root. -/
structure LogFile where
  absolute : Bool
  path : PlainPath
  deriving DecidableEq, Repr

namespace LogFile

/-- Why no log file can be opened at a path. -/
inductive Fault where
  | noText
  | directory
  | tooLong
  | tooDeep
  deriving DecidableEq, Repr

/-! ## Limits -/

/-- The longest name, in bytes. -/
def maxNameBytes : Nat := 255

/-- The longest path, in bytes. -/
def maxPathBytes : Nat := 4095

/-- How many directories may be missing one inside another. -/
def maxMissing : Nat := 988

/-- Whether a name is too long. -/
def isLongName (name : String) : Bool := decide (maxNameBytes < name.utf8ByteSize)

/-- Whether the path along names is too long, with the slashes between them. -/
def isLongPath (names : List String) : Bool :=
  decide (maxPathBytes < names.foldr (fun name total => name.utf8ByteSize + 1 + total) 0 - 1)

/-! ## Paths -/

/-- The names along a path; slashes in a row, and names of a single dot, do not count. -/
def namesOf (path : String) : List String :=
  ((path.toList.splitOn '/').map String.ofList).filter fun name => !name.isEmpty && name != "."

/-- The directories that are made for a file, in their shortest forms. -/
def directories (names : List String) : List PlainPath := PlainPath.passed ⟨0, []⟩ names

/-- What keeps the directories of a file from being made, if anything does. A path that is too long, or
    whose first missing directory has too long a name, is refused at once; the other names are looked at
    when it is their turn to be made. -/
def directoryFault? (names : List String) : Option Fault :=
  let missing := names.dropLast.dropWhile (· == "..")
  if isLongPath names.dropLast || (missing.head?.map isLongName).getD false then some .tooLong
  else if maxMissing < missing.length then some .tooDeep
  else if missing.any isLongName then some .tooLong
  else none

/-- The log file at a path. -/
def ofPath (path : String) : Except Fault LogFile :=
  let names := namesOf path
  let plain := PlainPath.ofNames names
  if path.toList.contains '\x00' then .error .noText
  else
    match directoryFault? names with
    | some fault => .error fault
    | none =>
      if plain.names.any isLongName || isLongPath plain.names then .error .tooLong
      else if names.getLast? = some ".." ∨ (directories names).contains plain ∨ names = [] then
        .error .directory
      else .ok ⟨path.toList.head? == some '/', plain⟩

/-- The path from the working directory, if the file lies below it. -/
def relative? (file : LogFile) : Option String :=
  if file.absolute ∨ 0 < file.path.up then none
  else some ("./" ++ "/".intercalate file.path.names)

end LogFile

end WebhookRegistry
