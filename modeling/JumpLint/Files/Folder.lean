import JumpLint.Files.Path

/-!
# Files to read

Everything that reads files asks a `Host`, which gives the bytes behind a path or says why there
are none.  It also says how deep what stands in a file may be nested: readers of nested text need
room on a stack that others use too.  `Folder` is a list of files in the working directory.

## What is here

* `ReadFault` and its `message`, `Files`, `Host`; `Host.ofFiles` has a stack of the usual size.
* `Folder`: files by the names that lead to them; a directory is there if a file is in it.
* `Folder.files`: following a path name by name, as an operating system does.
-/

set_option autoImplicit false
namespace JumpLint

/-- Why a file cannot be read. -/
inductive ReadFault where
  | missing
  | isDirectory
  | notDirectory
  | nameTooLong
  | other (reason : String)
deriving Repr, DecidableEq

/-- The sentence for a fault. -/
def ReadFault.message : ReadFault → String
  | .missing => "No such file or directory"
  | .isDirectory => "Is a directory"
  | .notDirectory => "Not a directory"
  | .nameTooLong => "File name too long"
  | .other reason => reason

/-- The bytes of the files that there are. -/
abbrev Files := Path → Except ReadFault ByteArray

/-- What readers of files find: the files, and how many levels of nesting there is room for on the
stack when a file is read as a tree or as a profile.  That depends on who calls, and on how much a
level takes of what stands in the file.  What is not nested always has room. -/
structure Host where
  files : Files
  treeRoom : Path → Nat
  profileRoom : Path → Nat

/-- A host with these files and room for about a thousand calls, of which one level of JSON takes
one, and one of YAML two or three. -/
def Host.ofFiles (files : Files) : Host where
  files := files
  treeRoom path := if path.suffix == .ofString ".json" then 990 else 320
  profileRoom _ := 480

/-- Files by the names that lead to them from the working directory. -/
abbrev Folder := List (List Text × ByteArray)

namespace Folder

/-- A name has at most this many bytes. -/
def maxName : Nat := 255

/-- A path has fewer bytes than this. -/
def maxPath : Nat := 4096

/-- Puts a file under a path, in place of an earlier one. -/
def put (folder : Folder) (path : Path) (bytes : ByteArray) : Folder :=
  (path.names, bytes) :: folder.filter fun (names, _) => names != path.names

/-- Whether there is a directory under these names. -/
def hasDirectory (folder : Folder) (names : List Text) : Bool :=
  names.isEmpty || folder.any fun (file, _) => names.isPrefixOf file && names != file

/-- Follows names from a directory that lies `above` directories over the working directory and then
under the names `here`. -/
def follow (folder : Folder) (above : Nat) (here : List Text) :
    List Text → Except ReadFault ByteArray
  | [] => .error .isDirectory
  | name :: rest =>
    if name == .ofString ".." then
      if here.isEmpty then follow folder (above + 1) [] rest
      else follow folder above here.dropLast rest
    else if maxName < name.byteCount then .error .nameTooLong
    else if above != 0 then .error .missing
    else
      let next := here ++ [name]
      match folder.lookup next with
      | some bytes => if rest.isEmpty then .ok bytes else .error .notDirectory
      | none =>
        if folder.hasDirectory next then follow folder above next rest else .error .missing

/-- The files of a folder.  There is nothing else on the disk. -/
def files (folder : Folder) : Files := fun path =>
  if maxPath ≤ path.text.byteCount then .error .nameTooLong
  else if !path.root.isEmpty then .error (if path.names.isEmpty then .isDirectory else .missing)
  else folder.follow 0 [] path.names

end Folder
end JumpLint
