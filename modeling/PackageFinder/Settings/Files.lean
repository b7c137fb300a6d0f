import PackageFinder.Settings.Error
import PackageFinder.Text.Affix

/-!
# Files

What stands at a path, and how a path leads through directories.
-/

namespace PackageFinder

/-- What stands at a path. -/
inductive FileNode where
  /-- A file with its bytes. -/
  | file (bytes : List UInt8)
  /-- A directory. -/
  | directory
  /-- Something that cannot be read. -/
  | unreadable (cause : FileError)
  deriving DecidableEq, Repr

/-- What every path leads to, or why it leads nowhere. -/
abbrev Files := String → Except FileError FileNode

namespace Files

/-- Whether something stands at a path. -/
def exists? (files : Files) (path : String) : Bool := (files path).toBool

/-- The text of the file at a path. -/
def readText (files : Files) (path : String) : Except FileError String :=
  match files path with
  | .error e => .error e
  | .ok .directory => .error .isDirectory
  | .ok (.unreadable cause) => .error cause
  | .ok (.file bytes) => match String.fromUTF8? ⟨bytes.toArray⟩ with
    | some text => .ok text
    | none => .error .notText

end Files

/-- Files and directories by their names from the root on.  The directories that a name leads
through need not be listed. -/
abbrev FileTree := List (List String × FileNode)

namespace FileTree

/-- What has a name. -/
def find? (tree : FileTree) (name : List String) : Option FileNode :=
  match List.find? (fun p => p.1 = name) tree with
  | some (_, node) => some node
  | none => if List.any tree fun p => name.isPrefixOf p.1 then some .directory else none

/-- Follows the steps of a path from the directory `here`; `node` is what stands there. -/
def follow (tree : FileTree) (here : List String) (node : FileNode) :
    List String → Except FileError FileNode
  | [] => .ok node
  | step :: steps => match node with
    | .file _ => .error .notDirectory
    | .unreadable _ => .error .notDirectory
    | .directory =>
      if step = "" ∨ step = "." then follow tree here .directory steps
      else if step = ".." then follow tree here.dropLast .directory steps
      else
        let name := here ++ [step]
        match tree.find? name with
        | some node => follow tree name node steps
        | none => .error .notFound

/-- What a path leads to from the directory `home`. -/
def files (tree : FileTree) (home : List String) : Files := fun path =>
  match (Text.splitAll '/' path.toList).map String.ofList with
  | [""] => .error .notFound
  | "" :: steps => tree.follow [] .directory steps
  | steps => tree.follow home .directory steps

end FileTree

end PackageFinder
