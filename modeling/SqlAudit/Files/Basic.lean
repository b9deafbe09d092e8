/-!
What a command asks of the files of a machine. The answers come in a monad, so that the commands can
be run on the files of a disk as well as on files that are only imagined.
-/

namespace SqlAudit

inductive FileError
  | missing
  | notFolder
  | isFolder
  | other (text : String)
  deriving DecidableEq, Repr

namespace FileError

def message : FileError → String
  | missing => "No such file or directory (os error 2)"
  | notFolder => "Not a directory (os error 20)"
  | isFolder => "Is a directory (os error 21)"
  | other text => text

end FileError

structure Files (m : Type → Type) where
  read : String → m (Except FileError String)
  present : String → m Bool
  isFolder : String → m Bool
  names : String → m (List String)
  /-- The folders in which the settings are looked for, the nearest first. -/
  folders : m (List String)

def pathIn (folder name : String) : String :=
  if folder.isEmpty then name
  else if folder.toList.getLast? == some '/' then folder ++ name
  else folder ++ "/" ++ name

end SqlAudit
