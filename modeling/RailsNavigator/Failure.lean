import RailsNavigator.Position
import RailsNavigator.Syntax.Literal

/-!
# Failures

The causes for which an operation can fail, one type for each activity, and their sum for reports.
Wording is left to whoever shows them.
-/

namespace RailsNavigator

/-- Why a source text has no program. -/
inductive ParseError where
  /-- The grammar's parser gave up. -/
  | crashed
  | conversion (error : ConversionError)
  deriving DecidableEq, Repr

/-- Why a file cannot be read as text, written or deleted. -/
inductive FileError where
  | notFound
  | isDirectory
  | notDirectory
  | alreadyExists
  | permission
  /-- A name or the whole path is longer than file systems allow. -/
  | nameTooLong
  /-- More links are on the way than file systems follow. -/
  | tooManyLinks
  /-- The path holds the character with the number zero, which ends paths. -/
  | nulInPath
  /-- Its bytes are not UTF-8. -/
  | undecodable
  deriving DecidableEq, Repr

/-- The wording of what is wrong with a file. -/
def FileError.message : FileError → String
  | notFound => "[Errno 2] No such file or directory"
  | isDirectory => "[Errno 21] Is a directory"
  | notDirectory => "[Errno 20] Not a directory"
  | alreadyExists => "[Errno 17] File exists"
  | permission => "[Errno 13] Permission denied"
  | nameTooLong => "[Errno 36] File name too long"
  | tooManyLinks => "[Errno 40] Too many levels of symbolic links"
  | nulInPath => "embedded null byte"
  | undecodable => "invalid bytes"

/-- Why a place named by the runner is not a location. -/
inductive LocationError where
  /-- There is no path and line. -/
  | malformed
  /-- The line is not an integer. -/
  | lineNotInteger
  /-- The line has too many digits. -/
  | lineTooLong
  /-- The line is below one. -/
  | lineNotPositive
  /-- The path names a host and nothing on it. -/
  | pathWithoutShare
  /-- The line, counted from zero, is beyond what editors accept. -/
  | lineOutOfRange (line : Int)
  deriving DecidableEq, Repr

/-- What the operating system refuses. -/
inductive SystemError where
  | notFound
  | isDirectory
  | notDirectory
  | permission
  | wouldBlock
  | brokenPipe
  | connection
  | connectionAborted
  | connectionRefused
  | connectionReset
  | alreadyExists
  | interrupted
  | noChild
  | noProcess
  | timeout
  | unspecified
  deriving DecidableEq, Repr

/-- Why an exchange of messages with the runner fails. -/
inductive TransportError where
  /-- No answer came in time. -/
  | timeout
  /-- The runner closed its output. -/
  | closed
  /-- The runner closed its input. -/
  | brokenPipe
  /-- The header does not give the length of the body. -/
  | missingLength
  /-- The length of the body is not an integer. -/
  | badLength
  /-- The body is not text. -/
  | undecodable
  /-- The body is not JSON. -/
  | malformedBody
  /-- The body holds an integer with too many digits. -/
  | longInteger
  /-- The body is not an object. -/
  | notAnObject
  deriving DecidableEq, Repr

/-- Why the runner cannot be started. -/
inductive StartError where
  | system (error : SystemError)
  /-- It was started and did not say that it is ready. -/
  | handshake
  deriving DecidableEq, Repr

/-- Any failure that is reported. -/
inductive Failure where
  | parse (error : ParseError)
  | file (error : FileError)
  | location (error : LocationError)
  /-- What is indexed lies beyond the lines and columns that editors accept. -/
  | position (error : PositionError)
  | transport (error : TransportError)
  | start (error : StartError)
  deriving DecidableEq, Repr

end RailsNavigator
