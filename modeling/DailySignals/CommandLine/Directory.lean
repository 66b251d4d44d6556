import DailySignals.CommandLine.Script

/-!
# A directory in memory

The working directory of a script as a list of files with their paths.  A
directory exists where some file lies below it.  The directories above the
working directory exist as well, but nothing in them is known.
-/

set_option autoImplicit false

namespace DailySignals

/-- Files by the parts of their paths. -/
structure Directory where
  files : List (List String × String)

namespace Directory

def partsOf (path : String) : List String :=
  (path.toList.splitOn '/').map String.ofList

/-- The directory of the files with the given paths. -/
def ofFiles (files : List (String × String)) : Directory :=
  ⟨files.map fun (path, text) => (partsOf path, text)⟩

def isDirectory (directory : Directory) (parts : List String) : Bool :=
  parts.all (· == "..") ||
    directory.files.any fun (file, _) => parts.isPrefixOf file && parts != file

def text? (directory : Directory) (parts : List String) : Option String :=
  directory.files.lookup parts

/-- What a path leads to. -/
inductive Place where
  | directory
  | file (parts : List String) (text : String)
  /-- A name that is free in a directory that exists. -/
  | free (parts : List String)

/-- The place that the parts of a path lead to from a directory on. -/
def placeFrom (directory : Directory) (current : List String) :
    List String → Except FileFault Place
  | [] => .ok .directory
  | part :: rest =>
      if part = "" ∨ part = "." then directory.placeFrom current rest
      else if part = ".." then
        directory.placeFrom
          (if current.all (· == "..") then current ++ [".."] else current.dropLast) rest
      else
        let parts := current ++ [part]
        if directory.isDirectory parts then directory.placeFrom parts rest
        else
          match directory.text? parts with
          | some text => if rest.isEmpty then .ok (.file parts text) else .error .notDirectory
          | none => if rest.isEmpty then .ok (.free parts) else .error .missing

/-- The place that a path leads to.  Nothing is known of absolute paths. -/
def place (directory : Directory) (path : String) : Except FileFault Place :=
  if path.isEmpty || path.startsWith "/" then .error .missing
  else directory.placeFrom [] (partsOf path)

def read (directory : Directory) (path : String) : Except FileFault String := do
  match ← directory.place path with
  | .file _ text => return text
  | .directory => throw .isDirectory
  | .free _ => throw .missing

/-- The directory with one file replaced or added. -/
def put (directory : Directory) (parts : List String) (text : String) : Directory :=
  ⟨(directory.files.filter fun (file, _) => file != parts) ++ [(parts, text)]⟩

/-- A path without slashes at its end. -/
def withoutFinalSlashes (path : String) : String :=
  String.ofList (path.toList.reverse.dropWhile (· == '/')).reverse

/-- Writes a file.  A path that ends in a slash asks for a directory, and is
refused as one even where there is none. -/
def write (directory : Directory) (path text : String) : Except FileFault Directory := do
  let target := withoutFinalSlashes path
  match ← directory.place target with
  | .file parts _ | .free parts =>
      if target = path then return directory.put parts text else throw .isDirectory
  | .directory => throw .isDirectory

/-- The files that are new or have another text than before, by path.  Files
outside the working directory are not counted. -/
def changesSince (before after : Directory) : List (String × String) :=
  (after.files.filter fun (parts, text) =>
    before.text? parts != some text && parts.head? != some "..").map
    fun (parts, text) => ("/".intercalate parts, text)

end Directory

/-- What a script did. -/
structure Transcript (β : Type) where
  value : β
  standard : String
  errors : String
  directory : Directory

namespace Script

/-- Runs a script in a directory held in memory. -/
def runIn {β : Type} (directory : Directory) : Script β → Transcript β
  | done value => ⟨value, "", "", directory⟩
  | read path next => (next (directory.read path)).runIn directory
  | write path text next =>
      match directory.write path text with
      | .ok changed => (next (.ok ())).runIn changed
      | .error fault => (next (.error fault)).runIn directory
  | notice text next =>
      let rest := next.runIn directory
      { rest with errors := text ++ rest.errors }
  | result text next =>
      let rest := next.runIn directory
      { rest with standard := text ++ rest.standard }

end Script

end DailySignals
