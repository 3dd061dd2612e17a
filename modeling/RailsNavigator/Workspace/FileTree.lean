import RailsNavigator.Failure
import RailsNavigator.Text.Utf8

/-!
# File trees

The part of a file system that the server can see: directories, files with their bytes, and links to
other places. A path is followed name by name. Where a link is in the way, the names that it stands
for take its place, and only so many links are followed on one path, since links may lead in
circles. Reading a file as text decodes UTF-8 and gives every line the same end.

Files can be locked, but directories cannot: all of them can be entered and listed, while a walk
through a real file system passes over those that it may not list. All names are texts, so a name
with bytes that are not UTF-8, which no URI can be made of, does not occur either.
-/

namespace RailsNavigator

/-- A file or directory. -/
inductive FileTree where
  | file (content : List UInt8)
  /-- A file that must not be read. -/
  | lockedFile
  /-- A link to what is at a path. The path begins at the directory that the link is in, unless it
  begins with a slash. -/
  | link (target : String)
  | directory (entries : List (String × FileTree))

namespace FileTree

/-- A link to something that is not there. -/
def danglingLink : FileTree := link ""

/-- Whether an entry is a directory. -/
def isDirectory : FileTree → Bool
  | directory _ => true
  | _ => false

/-- Whether an entry is a file, be it locked or not. -/
def isFile : FileTree → Bool
  | file _ | lockedFile => true
  | _ => false

/-- The names between the slashes of a path, from the characters of the first one in reverse. -/
def namesFrom (name : List Char) : List Char → List String
  | [] => [String.ofList name.reverse]
  | '/' :: rest => String.ofList name.reverse :: namesFrom [] rest
  | character :: rest => namesFrom (character :: name) rest

/-- The names on a path that are not empty. -/
def plainNames (path : String) : List String :=
  (namesFrom [] path.toList).filter (· != "")

/-- Whether a path ends with a slash. -/
def endsWithSlash (path : String) : Bool := path.toList.getLast? == some '/'

/-- The names on a path, as the file system follows them. A path that ends with a slash leads to a
directory, as if a dot followed. -/
def strictNames (path : String) : List String :=
  plainNames path ++ if endsWithSlash path then ["."] else []

/-- The names on a path without those that mean the directory itself. -/
def tidyNames (path : String) : List String :=
  (plainNames path).filter (· != ".")

/-- The greatest number of bytes of a name. -/
def nameLimit : Nat := 255

/-- The greatest number of bytes of a path. -/
def pathLimit : Nat := 4095

/-- The greatest number of links that are followed on one path. -/
def linkLimit : Nat := 40

/-- An entry, and the directories above it with the names that led out of them, the last one
first. -/
structure Place where
  entry : FileTree
  above : List (String × FileTree) := []

namespace Place

/-- The names from the root down to a place. -/
def names (place : Place) : List String := (place.above.map (·.1)).reverse

/-- The directory above a place. That of the root is the root itself. -/
def parent (place : Place) : Place :=
  match place.above with
  | [] => place
  | (_, entry) :: above => ⟨entry, above⟩

end Place

/-- How far names lead. -/
inductive Way where
  | arrived (place : Place)
  /-- There is a link in the directory at a place, with names left to follow behind it. -/
  | atLink (place : Place) (target : String) (rest : List String)
  | refused (error : FileError)

/-- Follows names from a place, up to the first link. -/
def Place.advance (place : Place) : List String → Way
  | [] => .arrived place
  | name :: rest =>
      match place.entry with
      | file _ | lockedFile => .refused .notDirectory
      | link _ => .refused .notFound
      | directory entries =>
          if name = "." then place.advance rest
          else if name = ".." then place.parent.advance rest
          else if name.utf8ByteSize > nameLimit then .refused .nameTooLong
          else match entries.lookup name with
            | none => .refused .notFound
            | some (link target) => .atLink place target rest
            | some entry => advance ⟨entry, (name, directory entries) :: place.above⟩ rest

/-- Whether a path begins at the root. -/
def isAbsolute (path : String) : Bool := path.toList.head? == some '/'

/-- The way on from a link in the directory at a place. -/
def turn (root : FileTree) (place : Place) (target : String) (rest : List String) : Way :=
  if target.isEmpty then .refused .notFound
  else (if isAbsolute target then ⟨root, []⟩ else place).advance (strictNames target ++ rest)

/-- Follows a way to its end, through the given number of links at most. -/
def follow (root : FileTree) : Nat → Way → Except FileError Place
  | _, .arrived place => .ok place
  | _, .refused error => .error error
  | 0, .atLink .. => .error .tooManyLinks
  | links + 1, .atLink place target rest => root.follow links (root.turn place target rest)

/-- Follows the names of a path that the system accepts. A path that does not begin with a slash
begins at a directory where nothing is. -/
def resolve (tree : FileTree) (names : String → List String) (path : String) :
    Except FileError Place :=
  if path.toList.contains '\x00' then .error .nulInPath
  else if path.utf8ByteSize > pathLimit then .error .nameTooLong
  else tree.follow linkLimit
    (Place.advance ⟨if isAbsolute path then tree else directory [], []⟩ (names path))

/-- The entry at a path. -/
def find (tree : FileTree) (path : String) : Except FileError FileTree :=
  if path.isEmpty then .error .notFound else (·.entry) <$> tree.resolve strictNames path

/-- Sets the entry that names lead to, making the directories on the way. -/
def insert (content : FileTree) : List String → FileTree → FileTree
  | [], _ => content
  | name :: rest, tree =>
      let entries := match tree with
        | directory entries => entries
        | _ => []
      let below := insert content rest ((entries.lookup name).getD (directory []))
      directory (entries.filter (·.1 != name) ++ [(name, below)])

/-- Takes away the entry that names lead to. -/
def erase : List String → FileTree → FileTree
  | [name], directory entries => directory (entries.filter (·.1 != name))
  | name :: rest, directory entries =>
      match entries.lookup name with
      | none => directory entries
      | some below => directory (entries.filter (·.1 != name) ++ [(name, erase rest below)])
  | _, tree => tree

/-- The outcome of a change of a tree, which stays the same if the change is refused. -/
def outcome (tree : FileTree) : Except FileError FileTree → Except FileError Unit × FileTree
  | .ok later => (.ok (), later)
  | .error cause => (.error cause, tree)

/-- The directory that names lead to, by its own names and entries, if a name can be given to an
entry of it. -/
def directoryFor (tree : FileTree) (way : List String) (name : String) :
    Except FileError (List String × List (String × FileTree)) := do
  if name.toList.contains '\x00' then throw .nulInPath
  let place ← tree.follow linkLimit (Place.advance ⟨tree, []⟩ way)
  match place.entry with
  | directory entries =>
      if name.utf8ByteSize > nameLimit then throw .nameTooLong
      return (place.names, entries)
  | _ => throw .notDirectory

/-- Makes the directory with a name in the one that other names lead to, unless it is there. -/
def makeDirectory (tree : FileTree) (way : List String) (name : String) :
    Except FileError FileTree := do
  let (names, entries) ← tree.directoryFor way name
  if name = "." || name = ".." then return tree
  match entries.lookup name with
  | none => return insert (directory []) (names ++ [name]) tree
  | some (directory _) => return tree
  | some _ => throw .alreadyExists

/-- Makes the directories that names lead to, one after the other, and says what went wrong. That a
name is taken is noticed at the last one, or when the next one cannot be made. -/
def makeDirectories (tree : FileTree) (way : List String) :
    List String → Except FileError Unit × FileTree
  | [] => (.ok (), tree)
  | name :: rest =>
      match makeDirectory tree way name with
      | .ok tree => makeDirectories tree (way ++ [name]) rest
      | .error cause =>
          if cause = .alreadyExists && !rest.isEmpty then
            makeDirectories tree (way ++ [name]) rest
          else (.error cause, tree)

/-- Sets the entry with a name in the directory that other names lead to. Nothing takes the place of
a directory, a link that of nothing at all, and what is written to a link is lost. -/
def put (tree : FileTree) (way : List String) (name : String) (content : FileTree) :
    Except FileError FileTree := do
  let (names, entries) ← tree.directoryFor way name
  let present :=
    if ["", ".", ".."].contains name then some (directory []) else entries.lookup name
  match present, content with
  | some _, link _ => throw .alreadyExists
  | some (directory _), _ => throw .isDirectory
  | some (link _), _ => throw .notFound
  | some lockedFile, _ => throw .permission
  | _, _ => return insert content (names ++ [name]) tree

/-- Sets the entry at a path and makes the directories on the way to it, which stay there even if
the entry cannot be set. -/
def write (tree : FileTree) (path : String) (content : FileTree) :
    Except FileError Unit × FileTree :=
  let names := namesFrom [] path.toList
  let way := names.dropLast.filter (· != "")
  if names.length ≤ 1 then (.error .notFound, tree)
  else match makeDirectories tree [] way with
    | (.error cause, tree) => (.error cause, tree)
    | (.ok (), tree) =>
        if path.utf8ByteSize > pathLimit then (.error .nameTooLong, tree)
        else tree.outcome (tree.put way (names.getLastD "") content)

/-- Takes away the file or link at a path. Only directories may be followed by a slash. -/
def delete (tree : FileTree) (path : String) : Except FileError Unit × FileTree :=
  tree.outcome do
    if path.isEmpty || !isAbsolute path then throw .notFound
    if path.toList.contains '\x00' then throw .nulInPath
    if path.utf8ByteSize > pathLimit then throw .nameTooLong
    let name := (plainNames path).getLastD "."
    let (names, entries) ← tree.directoryFor (plainNames path).dropLast name
    if name = "." || name = ".." then throw .isDirectory
    match entries.lookup name with
    | none => throw .notFound
    | some (directory _) => throw .isDirectory
    | some _ =>
        if endsWithSlash path then throw .notDirectory else return erase (names ++ [name]) tree

/-- Ends every line with a line feed. -/
def unifyLines : List Char → List Char
  | [] => []
  | '\r' :: '\n' :: rest => '\n' :: unifyLines rest
  | '\r' :: rest => '\n' :: unifyLines rest
  | character :: rest => character :: unifyLines rest

/-- The text of a file. -/
def text : FileTree → Except FileError String
  | file content =>
      match Text.Utf8.decode? content with
      | none => .error .undecodable
      | some text => .ok (String.ofList (unifyLines text))
  | lockedFile => .error .permission
  | link _ => .error .notFound
  | directory _ => .error .isDirectory

/-- The text of the file at a path. Dots and slashes that lead nowhere else are passed over. -/
def readText (tree : FileTree) (path : String) : Except FileError String := do
  (← tree.resolve tidyNames path).entry.text

/-- A path with a name added. -/
def joinPath (path name : String) : String :=
  if path.toList.getLast? = some '/' then path ++ name else path ++ "/" ++ name

/-- Items sorted by their names. -/
def sortByName {α : Type} (items : List (String × α)) : List (String × α) :=
  items.mergeSort fun first second => decide (first.1 ≤ second.1)

/-- Whether the entry at a path is listed among the directories, as a link to a directory is too. -/
def listsAsDirectory (files : FileTree) (path : String) : FileTree → Bool
  | directory _ => true
  | link _ => (files.find path).toOption.any isDirectory
  | _ => false

mutual

/-- The paths of the files below a directory at a path. The files of a directory come before those
of its subdirectories, either in the order of their names; excluded directories are not entered, nor
are links to directories, nor directories with a path that is too long. -/
def walk (files : FileTree) (exclude : List String) (path : String) : FileTree → List String
  | directory entries =>
      if path.utf8ByteSize > pathLimit then []
      else
        (sortByName (entries.filter fun (name, entry) =>
            !files.listsAsDirectory (joinPath path name) entry)).map
              (fun (name, _) => joinPath path name)
          ++ (sortByName (walkEach files exclude path entries)).flatMap (·.2)
  | _ => []

/-- The paths of the files below each subdirectory, by its name. -/
def walkEach (files : FileTree) (exclude : List String) (path : String) :
    List (String × FileTree) → List (String × List String)
  | [] => []
  | (name, entry) :: rest =>
      if entry.isDirectory && !exclude.contains name then
        (name, walk files exclude (joinPath path name) entry) :: walkEach files exclude path rest
      else walkEach files exclude path rest

end

/-- The paths of the files below the directory at a path; none if there is no such directory. -/
def filesBelow (tree : FileTree) (exclude : List String) (path : String) :
    Except FileError (List String) :=
  match tree.find path with
  | .ok found => .ok (tree.walk exclude path found)
  | .error .nulInPath => .error .nulInPath
  | .error _ => .ok []

end FileTree

end RailsNavigator
