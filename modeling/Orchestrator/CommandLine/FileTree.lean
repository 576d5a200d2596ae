import Orchestrator.CommandLine.Options

/-!
Files in memory: what a path leads to among files that are given with their contents.
-/
namespace Orchestrator.CommandLine

/-- Files below a directory, with a place from which relative paths start. -/
structure FileTree where
  /-- The directory of the files. -/
  directory : String
  /-- The directory that relative paths start from. -/
  home : String
  /-- The files by their paths below the directory. -/
  files : List (String × String)

namespace FileTree

/-- The names on a path; `..` takes one back. -/
def names (path : String) : List String :=
  (path.splitOn "/").foldl
    (fun names n =>
      if n = "" || n = "." then names else if n = ".." then names.dropLast else names ++ [n]) []

/-- Reads a file. -/
def read (t : FileTree) (path : String) : Except FileError String :=
  let place := names (if path.startsWith "/" then path else t.home ++ "/" ++ path)
  let files := t.files.map fun f => (names (t.directory ++ "/" ++ f.1), f.2)
  let directories := names t.directory :: names t.home :: files.map Prod.fst
  match files.find? fun f => f.1 = place with
  | some f => if path.endsWith "/" || path.endsWith "/." then .error .notDirectory else .ok f.2
  | none =>
    if files.any fun f => f.1.isPrefixOf place then .error .notDirectory
    else if directories.any place.isPrefixOf then .error .isDirectory
    else .error .notFound

end FileTree

end Orchestrator.CommandLine
