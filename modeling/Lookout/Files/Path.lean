import Lookout.Text.Occurrence

/-!
# Paths

Paths of files as they are written, with slashes. The name of a file is the last part of its path, where
empty parts and single dots do not count; a double dot is no name.
-/

namespace Lookout.Files
set_option autoImplicit false
open Text

/-- Whether a part of a path does not count. -/
def isIdlePart (part : List Char) : Bool :=
  part.isEmpty || part == ['.']

/-- What stands in front of the last part of a path that counts, the slash included, and that part. -/
def splitLastPart? (path : List Char) : Option (List Char × List Char) :=
  match (splitAt '/' path).reverse.dropWhile isIdlePart with
  | [] => none
  | name :: before => some (before.reverse.flatMap (· ++ ['/']), name)

/-- The directory of a file and its name. -/
def splitName? (path : List Char) : Option (List Char × List Char) :=
  (splitLastPart? path).filter fun p => p.2 != ['.', '.']

/-- The stem and the extension of a name. A name that has a dot only in front has no extension. -/
def splitExtension (name : List Char) : List Char × Option (List Char) :=
  match splitOnce '.' name.reverse with
  | some (extension, stem) => if stem.isEmpty then (name, none) else (stem.reverse, some extension.reverse)
  | none => (name, none)

/-- `path` with another extension, unless it has this one or names no file. -/
def withExtension (extension : String) (path : String) : String :=
  match splitName? path.toList with
  | none => path
  | some (directory, name) =>
    let (stem, found) := splitExtension name
    if found = some extension.toList then path
    else String.ofList (directory ++ stem) ++ "." ++ extension

/-- `path` taken from `base`, unless it begins at the root. -/
def join (base path : String) : String :=
  if path.toList.head? == some '/' then path
  else if base.isEmpty || base.toList.getLast? == some '/' then base ++ path
  else base ++ "/" ++ path

/-- A path without the parts at its end that do not count. -/
def trimParts (path : List Char) : List Char :=
  let kept := (splitAt '/' path).reverse.dropWhile isIdlePart
  match kept.reverse with
  | [] => if path.head? == some '/' then ['/'] else []
  | [[]] => ['/']
  | parts => List.intercalate ['/'] parts

/-- The directory that a path lies in; none for the root and the empty path. -/
def parent? (path : String) : Option String :=
  match splitLastPart? path.toList with
  | none => none
  | some (before, _) => some (String.ofList (trimParts before))

end Lookout.Files
