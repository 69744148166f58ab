import TypedPreferences.Packed.Structured

/-! Structured types of the samples. -/

namespace TypedPreferences.Samples

open Packed

def int32 : Schema := .int Int32.minValue.toInt Int32.maxValue.toInt

def int64 : Schema := .int Int64.minValue.toInt Int64.maxValue.toInt

def payload : Structured where
  schema := .record [("name", .text), ("weight", .int 0 0xffffffff)]

def note : Structured where
  schema := .record [("text", .text), ("stars", .optional int32), ("tags", .list .text)]

def fussy : Structured where
  schema := .text
  refusal
    | .text "refuse" => some "refused"
    | _ => none

def mixed : Structured where
  schema := .record [("flag", .bool), ("small", int64), ("ratio", .double), ("single", .single),
    ("list", .list int32), ("map", .dictionary int64), ("pair", .tuple [int32, .text]),
    ("shape", .choice [("Dot", none), ("Circle", some int32),
      ("Rect", some (.record [("w", int32), ("h", int32)]))]),
    ("unit", .unit)]

end TypedPreferences.Samples
