import ScanService.Json.Read
import ScanService.Store.Postgres.Statement

/-!
# The columns of the tables

Every column has one type, whatever table it is in.  A row is written as a JSON object from the names
of columns to what they hold; a value that is not of its column's type counts as missing.
-/

namespace ScanService
namespace Store
namespace Postgres

/-- The type of a column. -/
inductive ColumnType where
  | text
  | bool
  | int
  | json
  | time
  | uuid
  /-- An enumeration. -/
  | label
  deriving DecidableEq, Repr

namespace ColumnType

/-- Reads a value of a type that is written as JSON. -/
def readAs {α : Type} [FromJson α] (f : α → Datum) (v : Json) : Datum :=
  Datum.ofOption f (FromJson.read? nestingLimit (Json.Document.ofJson v))

/-- What a column of a type holds that is written as a JSON value. -/
def datum (t : ColumnType) (v : Json) : Datum :=
  match t with
  | text => readAs Datum.text v
  | bool => readAs Datum.bool v
  | int => readAs Datum.int v
  | json => .json v
  | time => readAs Datum.ofTime v
  | uuid => readAs Datum.uuid v
  | label => readAs Datum.label v

end ColumnType

/-- The columns and their types. -/
def columns : List (String × ColumnType) :=
  [("url", .text), ("vm", .text), ("security_tests", .json), ("languages", .json),
    ("created_at", .time), ("deleted_at", .time), ("name", .text), ("image", .text),
    ("image_tag", .text), ("cmd", .text), ("language", .text), ("is_default", .bool),
    ("timeout_seconds", .int), ("rid", .uuid), ("status", .label), ("result", .label),
    ("started_at", .time), ("finished_at", .time), ("execution_id", .text),
    ("security_test", .json), ("verdict", .label), ("output", .text), ("issues", .json)]

/-- The row that is written as an object. -/
def Row.ofJson (v : Json) : Row :=
  columns.map fun (name, type) => (name, type.datum ((v.get? name).getD .null))

end Postgres
end Store
end ScanService
