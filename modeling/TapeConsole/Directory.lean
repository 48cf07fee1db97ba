set_option autoImplicit false

/-!
# Files

A `Directory` is the contents of the working directory: files by their path,
which is a list of names.  A directory inside it exists if a file is in it.  Of
the directories above it only that they exist is known.  Paths are resolved name
by name, and a path that cannot be used is refused with a `FileFault`.
-/

namespace TapeConsole

/-- Why a file cannot be used. -/
inductive FileFault where
  | notFound
  | notADirectory
  | isADirectory
  /-- The path, or a name in it, is longer than a path or a name can be. -/
  | nameTooLong
  /-- The path has a character that no name can have. -/
  | invalidName
  /-- The file is no text. -/
  | invalidText
  deriving DecidableEq, Repr, Inhabited

namespace FileFault

/-- The name of the kind of fault. -/
def kind : FileFault → String
  | .notFound => "NotFound"
  | .notADirectory => "NotADirectory"
  | .isADirectory => "IsADirectory"
  | .nameTooLong => "InvalidFilename"
  | .invalidName => "InvalidInput"
  | .invalidText => "InvalidData"

/-- The number the operating system gives a fault of its own. -/
def code? : FileFault → Option Nat
  | .notFound => some 2
  | .notADirectory => some 20
  | .isADirectory => some 21
  | .nameTooLong => some 36
  | .invalidName => none
  | .invalidText => none

/-- What is wrong. -/
def reason : FileFault → String
  | .notFound => "No such file or directory"
  | .notADirectory => "Not a directory"
  | .isADirectory => "Is a directory"
  | .nameTooLong => "File name too long"
  | .invalidName => "file name contained an unexpected NUL byte"
  | .invalidText => "stream did not contain valid UTF-8"

/-- The text a fault is reported with. -/
def message (f : FileFault) : String :=
  match f.code? with
  | some code => f.reason ++ " (os error " ++ toString code ++ ")"
  | none => f.reason

/-- The text a fault is reported with when it ends the program. -/
def details (f : FileFault) : String :=
  let rest := "kind: " ++ f.kind ++ ", message: \"" ++ f.reason ++ "\" \x7d"
  match f.code? with
  | some code => "Os \x7b code: " ++ toString code ++ ", " ++ rest
  | none => "Error \x7b " ++ rest

end FileFault

/-- The files of the working directory. -/
structure Directory where
  files : List (List String × List UInt8) := []
  deriving DecidableEq, Repr, Inhabited

namespace Directory

/-- What a path leads to. -/
inductive Place where
  /-- A directory. -/
  | directory
  /-- A name in a directory, of a file or free to be taken; slashes may follow it. -/
  | entry (path : List String) (slash : Bool)
  /-- Nothing that can be used. -/
  | refused (fault : FileFault)
  deriving DecidableEq, Repr, Inhabited

/-- The names a path is made of, with empty names where slashes meet. -/
def names (path : String) : List String := path.splitOn "/"

/-- The bytes a name can have. -/
def nameLimit : Nat := 255

/-- The bytes a path can have. -/
def pathLimit : Nat := 4095

/-- The path of the root of all directories. -/
def root : List String := ["/"]

/-- The path of the device that holds nothing and takes everything. -/
def nullDevice : List String := root ++ ["dev", "null"]

/-- The directory with these files, given by their paths. -/
def ofFiles (files : List (String × List UInt8)) : Directory :=
  ⟨files.map fun (path, contents) => ((names path).filter (· ≠ ""), contents)⟩

/-- The contents of a file. -/
def get? (d : Directory) (path : List String) : Option (List UInt8) :=
  if path = nullDevice then some [] else d.files.lookup path

/-- Whether there is a directory with this path below a directory. -/
def hasDirectory (d : Directory) (path : List String) : Bool :=
  path = nullDevice.dropLast ||
    d.files.any fun (file, _) => path.isPrefixOf file && file ≠ path

/-- The directory above a directory. -/
def parent (path : List String) : List String :=
  if path = root then root
  else if path = [] ∨ path.getLast? = some ".." then path ++ [".."]
  else path.dropLast

/-- Follow names from the directory `here`. -/
def follow (d : Directory) (here : List String) : List String → Place
  | [] => .directory
  | name :: rest =>
      let path := here ++ [name]
      if name = "" ∨ name = "." then d.follow here rest
      else if name = ".." then d.follow (parent here) rest
      else if d.hasDirectory path then d.follow path rest
      else if rest.all (· = "") then .entry path (rest ≠ [])
      else if nameLimit < name.utf8ByteSize then .refused .nameTooLong
      else if (d.get? path).isSome then .refused .notADirectory
      else .refused .notFound

/-- What a path leads to. -/
def resolve (d : Directory) (path : String) : Place :=
  if path.contains '\x00' then .refused .invalidName
  else if pathLimit < path.utf8ByteSize then .refused .nameTooLong
  else
    match names path with
    | [""] => .refused .notFound
    | "" :: rest => d.follow root rest
    | all => d.follow [] all

/-- Whether the last name of a path is longer than a name can be. -/
def isOverlong (path : List String) : Bool :=
  path.getLast?.any fun name => nameLimit < name.utf8ByteSize

/-- Read a file. -/
def read (d : Directory) (path : String) : Except FileFault (List UInt8) :=
  match d.resolve path with
  | .directory => .error .isADirectory
  | .refused fault => .error fault
  | .entry path slash =>
      if isOverlong path then .error .nameTooLong
      else
        match d.get? path with
        | none => .error .notFound
        | some contents => if slash then .error .notADirectory else .ok contents

/-- Read a file as text. -/
def readText (d : Directory) (path : String) : Except FileFault String :=
  match d.read path with
  | .error fault => .error fault
  | .ok contents =>
      match String.fromUTF8? ⟨contents.toArray⟩ with
      | some text => .ok text
      | none => .error .invalidText

/-- Replace the contents of a file, or add it. -/
def put (d : Directory) (path : List String) (contents : List UInt8) : Directory :=
  if path = nullDevice then d
  else ⟨(path, contents) :: d.files.filter (·.1 ≠ path)⟩

/-- Add bytes at the end of a file, which is created if it is not there.  Only a directory
can have slashes after its name. -/
def append (d : Directory) (path : String) (bytes : List UInt8) : Except FileFault Directory :=
  match d.resolve path with
  | .directory => .error .isADirectory
  | .refused fault => .error fault
  | .entry path slash =>
      if slash then .error .isADirectory
      else if isOverlong path then .error .nameTooLong
      else .ok (d.put path ((d.get? path).getD [] ++ bytes))

end Directory

end TapeConsole
