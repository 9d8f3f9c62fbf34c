import TableMachine.Text.Utf8
import TableMachine.Text.Quoted

/-!
# Files

The programs read their tables and configuration from files named by paths relative to a
working directory. `Files` is such a directory as a value: each file's path with its bytes.
Reading a path as text (`FileReader.text`) fails when nothing is there, when the path names a
directory (the working directory itself, or a directory that holds files), when it goes on
past a file (`t.json/x`, or `t.json/` with its slash), or when the bytes are not UTF-8.

A path is walked component by component from the working directory (`Files.locate`): an empty
component and `.` stay where they are, `..` goes up to the directory above, and any other
component goes down into a directory or ends at a file. The empty path names nothing. An
absolute path names nothing inside the working directory; only `/` itself is known to be a
directory.

The programs read files through a `FileReader` in any monad, so that the same code reads a
`Files` value (in `Id`) or a real file system.
-/

namespace TableMachine

/-- Why a file could not be read as text. -/
inductive ReadError where
  | notFound
  | isDirectory
  | notDirectory
  | notUtf8
  deriving DecidableEq, Repr

namespace ReadError

/-- The text of a read error. -/
def message : ReadError → String
  | .notFound => "No such file or directory (os error 2)"
  | .isDirectory => "Is a directory (os error 21)"
  | .notDirectory => "Not a directory (os error 20)"
  | .notUtf8 => "stream did not contain valid UTF-8"

/-- The structured form of a read error, as debugging output shows it. -/
def debugText : ReadError → String
  | .notFound => "Os \x7b code: 2, kind: NotFound, message: " ++ Text.quote "No such file or directory" ++ " \x7d"
  | .isDirectory => "Os \x7b code: 21, kind: IsADirectory, message: " ++ Text.quote "Is a directory" ++ " \x7d"
  | .notDirectory => "Os \x7b code: 20, kind: NotADirectory, message: " ++ Text.quote "Not a directory" ++ " \x7d"
  | .notUtf8 => "Error \x7b kind: InvalidData, message: " ++ Text.quote "stream did not contain valid UTF-8" ++ " \x7d"

end ReadError

/-- A working directory: files by path, with their bytes. -/
structure Files where
  entries : List (String × List UInt8) := []

namespace Files

/-- The components of a stored path: no empty or `.` parts. -/
def components (path : String) : List String :=
  (path.splitOn "/").filter fun p => p ≠ "" ∧ p ≠ "."

/-- What a place in the working directory is. -/
inductive Place where
  /-- A file, with its bytes. -/
  | file (bytes : List UInt8)
  /-- A directory: the working directory or one that holds files. -/
  | directory
  /-- Nothing. -/
  | absent

/-- What is at the place with these components. -/
def place (fs : Files) (at_ : List String) : Place :=
  match fs.entries.find? (fun (p, _) => components p = at_) with
  | some (_, bytes) => .file bytes
  | none =>
    if at_.isEmpty || fs.entries.any (fun (p, _) => at_.isPrefixOf (components p)) then .directory
    else .absent

/-- Walks the parts of a path from a directory; gives the bytes of the file it ends at. -/
def walk (fs : Files) (here : List String) : List String → Except ReadError (List UInt8)
  | [] => .error .isDirectory
  | part :: rest =>
    if part = "" ∨ part = "." then walk fs here rest
    else if part = ".." then
      if here.isEmpty then .error .notFound else walk fs here.dropLast rest
    else
      let next := here ++ [part]
      match fs.place next with
      | .file bytes => if rest.isEmpty then .ok bytes else .error .notDirectory
      | .directory => walk fs next rest
      | .absent => .error .notFound

/-- The bytes of the file at a path. -/
def read (fs : Files) (path : String) : Except ReadError (List UInt8) :=
  if path.isEmpty then .error .notFound
  else if path.startsWith "/" then
    if (path.splitOn "/").all (fun p => p = "" ∨ p = "." ∨ p = "..") then .error .isDirectory
    else .error .notFound
  else fs.walk [] (path.splitOn "/")

end Files

/-- Reading files in a monad: the bytes at a path, or why there are none. -/
abbrev FileReader (m : Type → Type) := String → m (Except ReadError (List UInt8))

/-- The reader of a `Files` value. -/
def Files.reader (fs : Files) : FileReader Id := fun path => fs.read path

namespace FileReader

variable {m : Type → Type} [Monad m]

/-- The text of the file at a path. -/
def text (read : FileReader m) (path : String) : m (Except ReadError String) := do
  match ← read path with
  | .error e => pure (.error e)
  | .ok bytes =>
    match Text.decode bytes with
    | .ok s => pure (.ok s)
    | .error _ => pure (.error .notUtf8)

end FileReader

end TableMachine
