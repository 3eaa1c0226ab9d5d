import Scriptorium.Config.Reader
import Scriptorium.FileTree

/-! The configuration of a project is a file of a fixed name in the project's directory. -/

namespace Scriptorium.Config

def fileName : String := "kiln.toml"

inductive DirectoryFailure where
  | unreadable (e : FileTree.Error)
  /-- The file is not UTF-8. -/
  | notText
  | content (e : Failure)

def DirectoryFailure.message : DirectoryFailure → String
  | .unreadable e => s!"failed to read configuration: {e.message}"
  | .notText => "failed to read configuration: stream did not contain valid UTF-8"
  | .content e => e.message

def loadDirectory (t : FileTree) (dir : Path) : Except DirectoryFailure Config :=
  match t.read (dir.join fileName) with
  | .error e => .error (.unreadable e)
  | .ok content =>
    match Bytes.text? content with
    | none => .error .notText
    | some text =>
      match loadText text with
      | .error e => .error (.content e)
      | .ok c => .ok c

end Scriptorium.Config
