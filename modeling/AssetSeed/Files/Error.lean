/-!
# Failures of file operations
-/

namespace AssetSeed

inductive FileError where
  | notFound
  | notADirectory
  | isADirectory
  | alreadyExists
  | notEmpty
  | permissionDenied
  /-- A name with a zero in it, or one that has no meaning. -/
  | invalidInput
  /-- A name or a path is longer than names and paths can be. -/
  | nameTooLong
  /-- More symbolic links are on the way than are followed. -/
  | tooManyLinks
  /-- The content is not what it should be: not a text, not an archive. -/
  | invalidContent (detail : String)
deriving Repr, DecidableEq, Inhabited

namespace FileError

def kind : FileError → String
  | notFound => "NotFound"
  | notADirectory => "NotADirectory"
  | isADirectory => "IsADirectory"
  | alreadyExists => "AlreadyExists"
  | notEmpty => "DirectoryNotEmpty"
  | permissionDenied => "PermissionDenied"
  | invalidInput => "InvalidInput"
  | nameTooLong => "InvalidFilename"
  | tooManyLinks => "FilesystemLoop"
  | invalidContent _ => "InvalidData"

def message : FileError → String
  | notFound => "No such file or directory (os error 2)"
  | notADirectory => "Not a directory (os error 20)"
  | isADirectory => "Is a directory (os error 21)"
  | alreadyExists => "File exists (os error 17)"
  | notEmpty => "Directory not empty (os error 39)"
  | permissionDenied => "Permission denied (os error 13)"
  | invalidInput => "Invalid argument (os error 22)"
  | nameTooLong => "File name too long (os error 36)"
  | tooManyLinks => "Too many levels of symbolic links (os error 40)"
  | invalidContent detail => detail

end FileError

end AssetSeed
