/-!
# Files

What a file holds, or why it cannot be read.
-/

namespace ProxyRouting

inductive FileFault
  | missing
  | denied
  | notDirectory
  | isDirectory
  | nameTooLong
  | tooManyLinks
  | notText
  | other (reason : String)
  deriving Repr, DecidableEq, Inhabited

def FileFault.message : FileFault → String
  | missing => "No such file or directory (os error 2)"
  | denied => "Permission denied (os error 13)"
  | notDirectory => "Not a directory (os error 20)"
  | isDirectory => "Is a directory (os error 21)"
  | nameTooLong => "File name too long (os error 36)"
  | tooManyLinks => "Too many levels of symbolic links (os error 40)"
  | notText => "stream did not contain valid UTF-8"
  | other reason => reason

/-- The texts of files by their paths. -/
abbrev Files := String → Except FileFault String

end ProxyRouting
