import TableMachine.Table.Error
import TableMachine.Table.Format
import TableMachine.Yaml.Value

/-!
# Tables from text

`Table.ofText` reads a table from JSON or YAML text: the text is read into a JSON value, which
`Table.ofJson` then checks. A text that is not JSON (or not YAML) is refused with the reader's
error; a value of the wrong shape with the shape error.
-/

namespace TableMachine

namespace Table

/-- Reads a table from text in a format. -/
def ofText (text : String) : TableFormat → Except TableError Table
  | .json => do
    let j ← (Json.read text).mapError .json
    (ofJson j).mapError .invalidTable
  | .yaml => do
    let j ← (Yaml.toJson text).mapError .yaml
    (ofJson j).mapError .invalidTable

end Table

end TableMachine
