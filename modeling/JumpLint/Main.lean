import JumpLint.CommandLine.Run

/-!
# The command

Reads the files that the arguments name, runs the command on them, and writes its outputs.
-/

set_option autoImplicit false
namespace JumpLint
namespace CommandLine

/-- Why the operating system does not give a file. -/
def readFaultOf : IO.Error → ReadFault
  | .noFileOrDirectory .. => .missing
  | .inappropriateType _ _ details =>
    if details.toLower == "is a directory" then .isDirectory else .notDirectory
  | .permissionDenied .. => .other "Permission denied"
  | .invalidArgument _ _ details =>
    if details == "name too long" then .nameTooLong else .other details
  | e => .other (toString e)

/-- The bytes of a file on the disk, if its path is one that a file can have. -/
def readDisk (path : Path) : IO (Except ReadFault ByteArray) := do
  if path.lapse?.isSome then return .error .missing
  try return .ok (← IO.FS.readBinFile path.text.toString)
  catch e => return .error (readFaultOf e)

/-- The files that a request names. -/
def readAll (request : Request) : IO Files := do
  let mut read : List (Path × Except ReadFault ByteArray) := []
  for path in request.profile.toList ++ request.trees do
    read := (path, ← readDisk path) :: read
  let known := read
  return fun path => (known.lookup path).getD (.error .missing)

/-- The files that the arguments name, if they ask for any. -/
def filesFor (arguments : List Text) : IO Files :=
  match Request.ofArguments arguments with
  | .ok request => readAll request
  | .error _ => return fun _ => .error .missing

/-- Writes the outputs of a run and gives its exit code. -/
def finish (outcome : Outcome) : IO UInt32 := do
  IO.print outcome.stdout.toString
  IO.eprint outcome.stderr.toString
  match outcome.ending with
  | .exit code => return UInt32.ofNat code
  | .failure (.lapse l) => IO.eprintln l.message.toString; return 1
  | .failure (.report e) => IO.eprintln e.message; return 1

end CommandLine
end JumpLint

/-- The command. -/
def main (arguments : List String) : IO UInt32 := do
  let arguments := arguments.map JumpLint.Text.ofString
  let files ← JumpLint.CommandLine.filesFor arguments
  JumpLint.CommandLine.finish (JumpLint.CommandLine.run (.ofFiles files) arguments)
