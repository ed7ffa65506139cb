/-!
# File trees

A directory with its files, held in memory, and what can go wrong when a path is followed.

## Main definitions

* `FileFault`, `FileFault.message`.
* `FileTree`, with `FileTree.read`, `makeFolders`, `write`.
* `parentPath` — the directory of a path.
-/

namespace Marionette

/-- Why a file cannot be read. -/
inductive FileFault
  | notFound
  | notDirectory
  | isDirectory
  | notUtf8
  deriving DecidableEq, Repr

/-- The fault in words. -/
def FileFault.message : FileFault → String
  | notFound => "No such file or directory (os error 2)"
  | notDirectory => "Not a directory (os error 20)"
  | isDirectory => "Is a directory (os error 21)"
  | notUtf8 => "stream did not contain valid UTF-8"

/-- The text of bytes that are UTF-8. -/
def utf8Text (bytes : ByteArray) : Except FileFault String :=
  match String.fromUTF8? bytes with
  | some s => .ok s
  | none => .error .notUtf8

/-- A file or a folder with named entries. -/
inductive FileTree where
  | file (content : ByteArray)
  | folder (entries : List (String × FileTree))

/-! ### Paths -/

/-- The parts of a path between slashes. -/
def pathParts (path : String) : List String := path.splitOn "/"

/-- Whether a part stands for the directory that the path has come to. -/
def isIdlePart (part : String) : Bool := part == "" || part == "."

/-- The parts without idle ones at the end; the first part always counts. -/
def dropIdleEnd : List String → List String
  | [] => []
  | part :: parts => part :: ((parts.reverse.dropWhile isIdlePart).reverse)

/-- The directory of a path; of a name alone it is the empty path. -/
def parentPath (path : String) : String :=
  match dropIdleEnd (dropIdleEnd (pathParts path)).dropLast with
  | [""] => "/"
  | parts => String.intercalate "/" parts

namespace FileTree

/-- A folder without entries. -/
def empty : FileTree := folder []

instance : Inhabited FileTree := ⟨empty⟩

/-! ### Looking -/

/-- Follow plain names from the top. -/
def find : List String → FileTree → Except FileFault FileTree
  | [], t => .ok t
  | _ :: _, file _ => .error .notDirectory
  | name :: names, folder entries =>
    match entries.lookup name with
    | some t => find names t
    | none => .error .notFound

/-- The plain names of a path that has come to `here`, the last name first.  Every part but the last has to
lead to a folder. -/
def resolve (t : FileTree) (here : List String) : List String → Except FileFault (List String)
  | [] => .ok here.reverse
  | part :: parts =>
    match t.find here.reverse with
    | .error e => .error e
    | .ok (file _) => .error .notDirectory
    | .ok (folder _) =>
      if isIdlePart part then resolve t here parts
      else if part = ".." then resolve t here.tail parts
      else resolve t (part :: here) parts

/-- The entry at a path. -/
def entry (t : FileTree) (path : String) : Except FileFault FileTree := do
  t.resolve [] (pathParts path) >>= fun names => t.find names

/-- The content of the file at a path. -/
def read (t : FileTree) (path : String) : Except FileFault ByteArray := do
  match ← t.entry path with
  | file content => pure content
  | folder _ => throw .isDirectory

/-! ### Changing -/

/-- The entries with `t` under `name`. -/
def putEntry (name : String) (t : FileTree) : List (String × FileTree) → List (String × FileTree)
  | [] => [(name, t)]
  | e :: es => if e.1 = name then (name, t) :: es else e :: putEntry name t es

/-- Make the folders along plain names, unless a file is in the way. -/
def makeFolders : List String → FileTree → Option FileTree
  | _, file _ => none
  | [], folder entries => some (folder entries)
  | name :: names, folder entries =>
    (makeFolders names ((entries.lookup name).getD empty)).map fun t => folder (putEntry name t entries)

/-- Put a file at plain names inside folders that are there, unless a folder has its name. -/
def putFile (content : ByteArray) : List String → FileTree → Option FileTree
  | [], _ => none
  | _ :: _, file _ => none
  | [name], folder entries =>
    match entries.lookup name with
    | some (folder _) => none
    | _ => some (folder (putEntry name (file content) entries))
  | name :: names, folder entries =>
    match entries.lookup name with
    | some t => (putFile content names t).map fun t => folder (putEntry name t entries)
    | none => none

/-- Make the folders of a path one after the other. -/
def makePath (t : FileTree) (done : List String) : List String → Option FileTree
  | [] => some t
  | part :: parts => do
    let here ← (t.resolve [] (done ++ [part])).toOption
    makePath (← t.makeFolders here) (done ++ [part]) parts

/-- Write a file at a path. -/
def write (t : FileTree) (path : String) (content : ByteArray) : Option FileTree := do
  match (pathParts path).getLast? with
  | none => none
  | some last =>
    if isIdlePart last || last = ".." then none
    else t.putFile content (← (t.resolve [] (pathParts path)).toOption)

end FileTree

end Marionette
