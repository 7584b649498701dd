/-
Loading a configuration: from a text, or from the file at a path.

A path is followed from directory to directory; `FileContent.read` says what is read in the end, or why nothing is.
-/
import TenantGateway.Config.Decode
import TenantGateway.Config.Validate

namespace TenantGateway.Config

open Text

/-- the configuration in a text, read and validated -/
def load (s : String) : Except GatewayError Config := do
  match ofText s with
  | .error f => throw (.badRequest ("invalid yaml: " ++ f.message))
  | .ok c =>
    c.validate
    return c

/-- what stands at a place of the file system -/
inductive FileEntry where
  | directory
  | file (content : ByteArray)

/-- what reading a file comes to -/
inductive FileContent where
  | bytes (content : ByteArray)
  /-- the reason the system gives for why there is none -/
  | unreadable (reason : String)

namespace FileContent

def missing : FileContent := .unreadable "No such file or directory (os error 2)"
def notDirectory : FileContent := .unreadable "Not a directory (os error 20)"
def isDirectory : FileContent := .unreadable "Is a directory (os error 21)"
def tooLong : FileContent := .unreadable "File name too long (os error 36)"
def hasNul : FileContent := .unreadable "file name contained an unexpected NUL byte"

/-- the longest name of an entry, in bytes -/
def longestName : Nat := 255

/-- the longest path, in bytes -/
def longestPath : Nat := 4095

/-- follow the names from a place; the names on the way to it are given the last one first -/
def follow (system : List String → Option FileEntry) : (place : List String) → List String → FileContent
  | place, [] =>
    match system place.reverse with
    | some (.file content) => .bytes content
    | some .directory => isDirectory
    | none => missing
  | place, name :: rest =>
    match system place.reverse with
    | some (.file _) => notDirectory
    | none => missing
    | some .directory =>
      if name = "" || name = "." then follow system place rest
      else if name = ".." then follow system place.tail rest
      else if longestName < name.utf8ByteSize then tooLong
      else follow system (name :: place) rest

/-- what is read at a path; one that does not begin with a slash is followed from the place `home` -/
def read (system : List String → Option FileEntry) (home : List String) (path : String) : FileContent :=
  if path.toList.contains (Char.ofNat 0) then hasNul
  else if path.isEmpty then missing
  else if longestPath < path.utf8ByteSize then tooLong
  else follow system (if startsWith "/" path then [] else home.reverse) ((splitOn '/' path.toList).map String.ofList)

end FileContent

/-- the configuration in a file -/
def loadFile (path : String) (content : FileContent) : Except GatewayError Config :=
  let refuse (reason : String) := Except.error (GatewayError.internal ("read config " ++ path ++ " failed: " ++ reason))
  match content with
  | .unreadable reason => refuse reason
  | .bytes content =>
    match String.fromUTF8? content with
    | some s => load s
    | none => refuse "stream did not contain valid UTF-8"

end TenantGateway.Config
