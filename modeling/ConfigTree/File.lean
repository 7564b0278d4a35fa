import ConfigTree.Text.Basic

set_option relaxedAutoImplicit false
set_option autoImplicit false

/-!
# Files

Configurations are read from files and exports are written to them. This module says what can go
wrong with a file, and how files in a single directory without further directories behave.

## Main definitions

* `ConfigTree.FileFault` — why a file cannot be read or written.
* `ConfigTree.decodeText` — the text that the bytes of a file are.
* `ConfigTree.Directory` — a directory of files.
* `ConfigTree.Directory.walk` — where the steps of a file name lead.
* `ConfigTree.Directory.read`, `ConfigTree.Directory.write` — reading and writing by name.
-/

namespace ConfigTree

/-- Why a file cannot be read or written. -/
inductive FileFault where
  /-- There is no file of this name. -/
  | missing
  /-- The name has a file where a directory should be. -/
  | notDirectory
  /-- The name belongs to a directory. -/
  | directory
  /-- The name, or one step of it, has too many bytes. -/
  | nameTooLong
  /-- The name holds a null character. -/
  | nullInName
  /-- The bytes of the file are not the encoding of a text. -/
  | notText
  /-- Any other reason. -/
  | other (reason : String)
  deriving DecidableEq

/-- The text that describes a fault. -/
def FileFault.message : FileFault → String
  | missing => "No such file or directory (os error 2)"
  | notDirectory => "Not a directory (os error 20)"
  | directory => "Is a directory (os error 21)"
  | nameTooLong => "File name too long (os error 36)"
  | nullInName => "file name contained an unexpected NUL byte"
  | notText => "stream did not contain valid UTF-8"
  | other reason => reason

/-- The text that the bytes of a file are. -/
def decodeText (bytes : ByteArray) : Except FileFault String :=
  match String.fromUTF8? bytes with
  | some text => .ok text
  | none => .error .notText

/-- The files of a directory with their bytes. -/
abbrev Directory := List (String × ByteArray)

namespace Directory

/-- A whole name has fewer bytes than this. -/
def nameLimit : Nat := 4096

/-- A single step of a name has at most this many bytes. -/
def stepLimit : Nat := 255

/-- Why no file can have this name, if none can. -/
def nameFault? (name : String) : Option FileFault :=
  if name.toList.contains '\x00' then some .nullInName
  else if name = "" then some .missing
  else if name.utf8ByteSize < nameLimit then none
  else some .nameTooLong

/-- The steps of a file name. -/
def steps (name : String) : List String :=
  ((Text.pieces '/' name.toList).map String.ofList).filter fun step => step != ""

/-- Whether the name ends with a slash, and so has to be that of a directory. -/
def endsWithSlash (name : String) : Bool :=
  name.toList.getLast? == some '/'

/-- Where the steps of a file name lead. -/
inductive Place where
  /-- The directory itself. -/
  | here
  /-- Any other directory. No files are found there. -/
  | elsewhere
  /-- A file with its bytes. -/
  | file (content : ByteArray)

/-- Where the steps of a file name start. -/
def origin (name : String) : Place :=
  if name.startsWith "/" then .elsewhere else .here

/-- The place that one step leads to. -/
def step (files : Directory) (place : Place) (step : String) : Except FileFault Place :=
  match place with
  | .file _ => .error .notDirectory
  | place =>
    if step = "." then .ok place
    else if step = ".." then .ok .elsewhere
    else if stepLimit < step.utf8ByteSize then .error .nameTooLong
    else
      match place, files.lookup step with
      | .here, some content => .ok (.file content)
      | _, _ => .error .missing

/-- The place that steps lead to, one after the other. A file has no steps within it. -/
def walk (files : Directory) (place : Place) (steps : List String) : Except FileFault Place :=
  steps.foldlM files.step place

/-- The bytes of the named file. A slash at the end asks for a directory, just as a step that stays
in place does. -/
def bytes (files : Directory) (name : String) : Except FileFault ByteArray :=
  match nameFault? name with
  | some fault => .error fault
  | none => do
    let ending := if endsWithSlash name then ["."] else []
    match ← files.walk (origin name) (steps name ++ ending) with
    | .file content => .ok content
    | _ => .error .directory

/-- The text of the named file. -/
def read (files : Directory) (name : String) : Except FileFault String :=
  files.bytes name >>= decodeText

/-- The directory with new bytes in the named file. A file that is missing is made. What is written
to other directories is not kept. -/
def write (files : Directory) (name : String) (content : ByteArray) : Except FileFault Directory :=
  match nameFault? name with
  | some fault => .error fault
  | none => do
    let parent ← files.walk (origin name) (steps name).dropLast
    let last := (steps name).getLastD "."
    match parent with
    | .file _ => .error .notDirectory
    | parent =>
      if last = "." || last = ".." || endsWithSlash name then .error .directory
      else if stepLimit < last.utf8ByteSize then .error .nameTooLong
      else
        match parent with
        | .here => .ok ((files.filter fun entry => entry.1 != last) ++ [(last, content)])
        | _ => .ok files

/-- The directory with the given files. -/
def ofList (files : List (String × ByteArray)) : Directory :=
  files.foldl (fun directory (name, content) => (directory.write name content).toOption.getD directory)
    []

end Directory

end ConfigTree
