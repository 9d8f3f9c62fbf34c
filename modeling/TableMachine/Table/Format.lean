/-!
# Table file formats

A table file is YAML when its extension is `yaml` or `yml` in any ASCII case, and JSON
otherwise. The extension is read off the path's last component:

* separators that repeat or end the path, and `.` components after the first, are ignored;
* a path that ends in `..`, or consists of `.` or a root alone, has no file name;
* a file name's extension is what follows its last dot, unless the name is `..` or its only dot
  is its first character.
-/

namespace TableMachine

/-- The text format of a table file. -/
inductive TableFormat where
  | json
  | yaml
  deriving DecidableEq, Repr, Inhabited

namespace TableFormat

/-- The name of a format. -/
def name : TableFormat → String
  | .json => "json"
  | .yaml => "yaml"

/-- The components of a path that count for its file name: no empty parts, and no `.` parts
other than a leading one. -/
def components (path : String) : List String :=
  let parts := path.splitOn "/"
  let inner := parts.filter (fun p => p ≠ "" ∧ p ≠ ".")
  if parts.head? = some "." then "." :: inner else inner

/-- The file name of a path: its last component, unless that is `.`, `..` or missing. -/
def fileName? (path : String) : Option String :=
  match (components path).getLast? with
  | some "." | some ".." | none => none
  | some name => some name

/-- The extension of a file name: the text after its last dot, unless the name is `..` or the
last dot is its first character. -/
def extension? (name : String) : Option String :=
  if name = ".." then none
  else
    match (name.splitOn ".").reverse with
    | [_] | [] => none
    | ext :: before => if String.intercalate "." before.reverse = "" then none else some ext

/-- The format of a table file, from its path. -/
def ofPath (path : String) : TableFormat :=
  match (fileName? path).bind extension? with
  | some ext =>
    let e := String.ofList (ext.toList.map Char.toLower)
    if e = "yaml" ∨ e = "yml" then .yaml else .json
  | none => .json

end TableFormat

end TableMachine
