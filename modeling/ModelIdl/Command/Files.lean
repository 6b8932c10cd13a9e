/-!
# ModelIdl.Command.Files

Reading definition files. A file can be read if it is there, is no directory, and holds text. A folder of
files stands for the working directory where nothing outside it is to be touched: outside, there are
directories above directories, and nothing else.
-/

namespace ModelIdl

/-- What stands at a path. -/
inductive FileContent where
  | nothing
  | directory
  /-- The path goes on behind a file. -/
  | behindFile
  /-- The path, or a name in it, is longer than any can be. -/
  | nameTooLong
  | bytes (content : ByteArray)

/-- Why a file cannot be read. -/
inductive ReadFault where
  | missing
  | directory
  | notDirectory
  | nameTooLong
  | notText
deriving DecidableEq, Repr

namespace ReadFault

/-- The fault in words. -/
def message : ReadFault → String
  | missing => "No such file or directory (os error 2)"
  | directory => "Is a directory (os error 21)"
  | notDirectory => "Not a directory (os error 20)"
  | nameTooLong => "File name too long (os error 36)"
  | notText => "stream did not contain valid UTF-8"

end ReadFault

namespace FileContent

/-- The text of a file. -/
def text : FileContent → Except ReadFault String
  | nothing => .error .missing
  | directory => .error .directory
  | behindFile => .error .notDirectory
  | nameTooLong => .error .nameTooLong
  | bytes content =>
    match String.fromUTF8? content with
    | some text => .ok text
    | none => .error .notText

end FileContent

/-- The files of a folder without further folders, by name. -/
abbrev Folder := List (String × FileContent)

namespace Folder

/-- The steps of a path: its parts between slashes, without those that lead nowhere. -/
def steps (path : String) : List String :=
  ((path.toList.splitOn '/').map String.ofList).filter fun part => part != "" && part != "."

/-- The bytes that a path can have, and one more. -/
def pathLimit : Nat := 4096

/-- The bytes that a name can have. -/
def nameLimit : Nat := 255

/-- What stands at a path that starts in the folder. Steps up lead to directories; behind them, and from
the root, nothing has a name. -/
def find (files : Folder) (path : String) : FileContent :=
  if pathLimit ≤ path.utf8ByteSize then .nameTooLong
  else
    match (steps path).dropWhile (· == "..") with
    | [] => if path.isEmpty then .nothing else .directory
    | name :: more =>
      if nameLimit < name.utf8ByteSize then .nameTooLong
      else if path.startsWith "/" || (steps path).head? == some ".." then .nothing
      else
        match files.lookup name with
        | none => .nothing
        | some content =>
          if more.isEmpty && !path.endsWith "/" && !path.endsWith "/." then content
          else .behindFile

end Folder

end ModelIdl
