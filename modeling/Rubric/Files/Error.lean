/-!
# Errors of file operations

* `FileError` : why a file cannot be read or written;
* `FileError.message` : the words for it.
-/

namespace Rubric

/-- Why an operation on files fails. -/
inductive FileError where
  | notFound
  | alreadyExists
  | notDirectory
  | isDirectory
  /-- The bytes of the file are no text. -/
  | notText
  /-- Any other reason, in the words of the host. -/
  | other (message : String)
deriving DecidableEq

def FileError.message : FileError → String
  | notFound => "No such file or directory (os error 2)"
  | alreadyExists => "File exists (os error 17)"
  | notDirectory => "Not a directory (os error 20)"
  | isDirectory => "Is a directory (os error 21)"
  | notText => "stream did not contain valid UTF-8"
  | other message => message

end Rubric
