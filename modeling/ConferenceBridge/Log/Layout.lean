import ConferenceBridge.Json.Printer
import ConferenceBridge.Log.Record
import ConferenceBridge.Text.Quoted

namespace ConferenceBridge.Log

/-! How a record is written: as plain text or as a JSON object. -/

inductive Format
  | text
  | json
  deriving DecidableEq, Repr

def Format.ofName? : String → Option Format
  | "text" => some .text
  | "json" => some .json
  | _ => none

namespace FieldValue

def toJson : FieldValue → Json
  | text value | quoted value | remark value => .text value
  | count value => .ofNat value
  | code value => .ofInt value.toInt
  | flag value => .bool value

def plain : FieldValue → String
  | text value | remark value => value
  | quoted value => Text.quote value
  | count value => toString value
  | code value => toString value.toInt
  | flag value => toString value

end FieldValue

namespace Record

def toJson (record : Record) : Json :=
  .object [("level", .text record.severity.label),
    ("fields", .object (("message", .text record.message) ::
      record.fields.map fun field => (field.1, field.2.toJson))),
    ("target", .text record.target)]

def plain (record : Record) : String :=
  let fields := record.fields.map fun field => s!" {field.1}={field.2.plain}"
  s!"{record.severity.label} {record.target}: {record.message}{String.join fields}"

def write (record : Record) : Format → String
  | .text => record.plain
  | .json => record.toJson.print

end Record

end ConferenceBridge.Log
