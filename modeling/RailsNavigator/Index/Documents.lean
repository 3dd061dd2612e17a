import RailsNavigator.Index.Ancestors
import RailsNavigator.Syntax.Parse
import RailsNavigator.Uri
import RailsNavigator.Workspace.FileTree

/-!
# Indexing documents

Documents come into the index as trees, texts, files or whole directories. A document for which
`skip` holds keeps its entries, a file that cannot be read is reported and passed over, and a text
that cannot be parsed ends the operation; what was put in before stays.
-/

namespace RailsNavigator

/-- An operation on the index. The index it leaves behind is there in case of failure too. -/
abbrev Indexing := ExceptT Failure (StateT Index Traced)

namespace Indexing

/-- Reports a notice. -/
def notice (notice : Log.Notice) : Indexing Unit :=
  ExceptT.lift (StateT.lift (Traced.notice notice))

/-- Replaces the entries of a document by those of a tree, and says whether it did. -/
def indexTree (skip : String → Bool) (uri : String) (program : Program) : Indexing Bool := do
  let entries := Collector.collect uri program.root
  if let some error := entries.methods.findSome? (·.range.positionError?) then
    throw (.position error)
  if skip uri then
    notice (.keptOpen uri)
    return false
  modify fun index => index.replace uri entries
  notice (.indexed entries.methods.length entries.namespaces.length uri)
  return true

/-- Replaces the entries of a document by those of a text. -/
def indexText (grammar : Grammar) (skip : String → Bool) (uri text : String) : Indexing Bool := do
  match ← ExceptT.lift (StateT.lift (grammar.parse text)) with
  | .error error => throw (.parse error)
  | .ok program => indexTree skip uri program

/-- Replaces the entries of a file by those of what was read from it, under the given URI, if it is
not empty, or else that of its path. -/
def indexRead (grammar : Grammar) (skip : String → Bool) (path : String) (uri : Option String)
    (read : Except FileError String) : Indexing Bool := do
  match read with
  | .error .nulInPath => throw (.file .nulInPath)
  | .error error =>
      notice (.unreadable path error)
      return false
  | .ok text =>
      match uri.filter fun uri => !uri.isEmpty with
      | some uri => indexText grammar skip uri text
      | none => match Uri.ofPath path with
        | .error error => throw (.location error)
        | .ok uri => indexText grammar skip uri text

/-- Replaces the entries of the file at a path. -/
def indexFile (grammar : Grammar) (files : FileTree) (skip : String → Bool) (path : String)
    (uri : Option String) : Indexing Bool :=
  indexRead grammar skip path uri (files.readText path)

/-- Whether a path ends like that of a Ruby file. -/
def isRubyFile (path : String) : Bool :=
  ".rb".toList.isSuffixOf path.toList

/-- Replaces the entries of files, and counts those replaced. -/
def indexEach (grammar : Grammar) (files : FileTree) (skip : String → Bool) (count : Nat) :
    List String → Indexing Nat
  | [] => return count
  | path :: rest => do
      let replaced ← indexFile grammar files skip path none
      indexEach grammar files skip (if replaced then count + 1 else count) rest

/-- Replaces the entries of all Ruby files below a directory, and counts those replaced. -/
def indexWorkspace (grammar : Grammar) (files : FileTree) (exclude : List String)
    (skip : String → Bool) (root : String) : Indexing Nat := do
  match files.filesBelow exclude root with
  | .error error => throw (.file error)
  | .ok found =>
      let count ← indexEach grammar files skip 0 (found.filter isRubyFile)
      notice (.workspaceIndexed count root)
      return count

end Indexing

end RailsNavigator
