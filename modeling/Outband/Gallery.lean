import Outband.Error
import Outband.Files
/-! Screenshots kept in a directory that is served under a URL prefix. -/

namespace Outband

structure Gallery where
  directory : String
  urlPrefix : String
  deriving DecidableEq, Repr

namespace Gallery

/-- The prefix of references, without slashes at its end. -/
def referencePrefix (g : Gallery) : String :=
  String.ofList (g.urlPrefix.toList.reverse.dropWhile (· == '/')).reverse

def reference (g : Gallery) (name : String) : String := g.referencePrefix ++ "/" ++ name

/-- The path under which the directory is served: one slash at its start and none at its end. -/
def mountPath (g : Gallery) : String :=
  let inner := (g.urlPrefix.toList.dropWhile (· == '/')).reverse.dropWhile (· == '/')
  String.ofList ('/' :: inner.reverse)

/-- The path of the file that a screenshot of that name is written to. -/
def path (g : Gallery) (name : String) : String := Path.join g.directory name

/-- Writes a screenshot into the directory, which is created if need be, and refers to it. -/
def persist (g : Gallery) (name : String) (payload : Bytes) (files : Files) :
    Except StoreError String × Files :=
  match files.createDirectory g.directory with
  | (.error fault, files) => (.error (.write (g.path name) fault.reason), files)
  | (.ok (), files) =>
    match files.write (g.path name) payload with
    | .error fault => (.error (.write (g.path name) fault.reason), files)
    | .ok files => (.ok (g.reference name), files)

end Gallery

end Outband
