import TriggerScript.Path
import TriggerScript.Text.Utf8

/-!
# Errors of files, artifacts and loads

What keeps a file from being read, an artifact from being used or written, and a script from being
loaded, with the words for each.
-/

namespace TriggerScript

/-- Why the file system refuses an operation. -/
inductive IoError where
  | notFound
  | alreadyExists
  | permissionDenied
  | notADirectory
  | isADirectory
  /-- A path, or a name in it, is longer than the file system takes. -/
  | nameTooLong
  /-- A path holds the byte that ends a path for the file system. -/
  | nulInPath
  | notText
  | other (text : String)
deriving DecidableEq, Repr, Inhabited

def IoError.message : IoError → String
  | .notFound => "No such file or directory (os error 2)"
  | .alreadyExists => "File exists (os error 17)"
  | .permissionDenied => "Permission denied (os error 13)"
  | .notADirectory => "Not a directory (os error 20)"
  | .isADirectory => "Is a directory (os error 21)"
  | .nameTooLong => "File name too long (os error 36)"
  | .nulInPath => "file name contained an unexpected NUL byte"
  | .notText => "stream did not contain valid UTF-8"
  | .other text => text

/-- Why bytes are no artifact. -/
inductive DecodeError where
  /-- There are not even the bytes of the stamp. -/
  | shortStamp
  /-- The bytes end inside a number, a tag or a truth value. -/
  | cutOff
  /-- The bytes end inside a text. -/
  | cutOffText
  | unknownVariant (found : Nat) (count : Nat)
  | badPresence (found : Nat)
  | badTruth (found : Nat)
  | badText (fault : Text.Utf8Fault)
deriving DecidableEq, Repr

def DecodeError.message : DecodeError → String
  | .shortStamp => "io error: failed to fill whole buffer"
  | .cutOff => "io error: unexpected end of file"
  | .cutOffText => "io error: "
  | .unknownVariant found count =>
    "invalid value: integer `" ++ toString found ++ "`, expected variant index 0 <= i < " ++
      toString count
  | .badPresence found => "tag for enum is not valid, found " ++ toString found
  | .badTruth found => "invalid u8 while decoding bool, expected 0 or 1, found " ++ toString found
  | .badText (.malformed length index) =>
    "string is not valid utf8: invalid utf-8 sequence of " ++ toString length ++
      " bytes from index " ++ toString index
  | .badText (.cutOff index) =>
    "string is not valid utf8: incomplete utf-8 byte sequence from index " ++ toString index

/-- What has no stored form. -/
inductive Obstacle where
  | foreignObject
  /-- A path that is no text. -/
  | brokenPath
deriving DecidableEq, Repr

def Obstacle.message : Obstacle → String
  | .foreignObject => "opaque payload has no serialized form"
  | .brokenPath => "path contains invalid UTF-8 characters"

/-- Why an artifact could not be used or written. -/
inductive CacheError where
  | io (error : IoError)
  | decode (error : DecodeError)
  /-- The unit holds something that has no stored form. -/
  | encode {obstacle : Obstacle}
  | stale (stored current : Int64)
  | unknownEvent (trigger kind : String)
  | command (name reason : String)
deriving DecidableEq, Repr

def CacheError.message : CacheError → String
  | .io error => error.message
  | .decode error => "corrupt cache artifact: " ++ error.message
  | @encode obstacle => "could not encode compiled script: " ++ obstacle.message
  | .stale stored current =>
    "cache artifact is stale (stored " ++ toString stored.toInt ++ " ms, file " ++
      toString current.toInt ++ " ms)"
  | .unknownEvent trigger kind =>
    "cached trigger '" ++ trigger ++ "' uses unknown event kind '" ++ kind ++ "'"
  | .command name reason => "could not register cached command '" ++ name ++ "': " ++ reason

/-- Why a file contributes nothing, or a configuration is refused. -/
inductive LoadError where
  | io (path : Path) (error : IoError)
  | cache (error : CacheError)
  | config
deriving DecidableEq, Repr

def LoadError.message : LoadError → String
  | .io path error => "could not read '" ++ path.text ++ "': " ++ error.message
  | .cache error => error.message
  | .config => "invalid loader configuration"

end TriggerScript
