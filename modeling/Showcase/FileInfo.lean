namespace Showcase

structure FileInfo where
  name : String
  parent : String
  file : String
deriving DecidableEq, Repr

def lastSegment (path : List Char) : List Char := (path.reverse.takeWhile (· ≠ '/')).reverse

/-- What precedes the last separator of a path; without one, the current directory. -/
def directory (path : List Char) : List Char :=
  match path.reverse.dropWhile (· ≠ '/') with
  | [] => ['.']
  | _ :: rest => rest.reverse

/-- The file's name up to its first dot, and the last directory without its leading dots. -/
def FileInfo.ofPath (path : String) : FileInfo :=
  { name := String.ofList ((lastSegment path.toList).takeWhile (· ≠ '.'))
    parent := String.ofList ((lastSegment (directory path.toList)).dropWhile (· = '.'))
    file := path }

structure StoryId where
  group : String
  name : String
deriving DecidableEq, Repr

inductive FileError
  | missingModule (file : String)
  | undetectable (file : String)
deriving DecidableEq, Repr

namespace FileError

def file : FileError → String
  | missingModule file | undetectable file => file

def message : FileError → String
  | missingModule file => s!"No module found in {file}"
  | undetectable file => s!"Cannot properly detect component in {file}"

end FileError

end Showcase
