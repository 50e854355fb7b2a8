import NvidiaBuildLb.Core.Primitives

namespace NvidiaBuildLb.Gateway

open Foundation NvidiaBuildLb.Core

/-! JSON values as the gateway reads them. -/

abbrev Bytes := List UInt8

/-- `serde_json::Number`.  A float is kept as its bits. -/
inductive JsonNumber where
  | posInt (value : Nat)
  | negInt (value : Int)
  | float (bits : UInt64)
  deriving DecidableEq, Repr

/-- `serde_json::Value`. -/
inductive Json where
  | null
  | bool (value : Bool)
  | number (value : JsonNumber)
  | string (value : String)
  | array (items : List Json)
  | object (fields : List (String × Json))

namespace Json

def asStr : Json → Option String
  | .string value => some value
  | _ => none

def asArray : Json → Option (List Json)
  | .array items => some items
  | _ => none

def asObject : Json → Option (List (String × Json))
  | .object fields => some fields
  | _ => none

def asU64 : Json → Option Nat
  | .number (.posInt value) => some value
  | _ => none

def asI64 : Json → Option Int
  | .number (.posInt value) => if value < 2 ^ 63 then some value else none
  | .number (.negInt value) => some value
  | _ => none

def get (value : Json) (key : String) : Option Json :=
  value.asObject.bind fun fields =>
    (fields.find? fun field => field.1 == key).map Prod.snd

def isNullOrString : Json → Bool
  | .null | .string _ => true
  | _ => false

def getStr (value : Json) (key : String) : Option String :=
  (value.get key).bind asStr

def getArray (value : Json) (key : String) : Option (List Json) :=
  (value.get key).bind asArray

end Json

end NvidiaBuildLb.Gateway
