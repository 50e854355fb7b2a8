import NvidiaBuildLb.Foundation.Splitting
import NvidiaBuildLb.Foundation.Utf8

namespace NvidiaBuildLb.Foundation

/-! Lists cut at a list. -/

section

variable {α : Type} [BEq α]

def cutAt (separator : List α) : List α → Option (List α × List α)
  | [] => if separator.isEmpty then some ([], []) else none
  | item :: rest =>
      if separator.isPrefixOf (item :: rest) then
        some ([], (item :: rest).drop separator.length)
      else
        (cutAt separator rest).map fun cut => (item :: cut.1, cut.2)

/-- At most `fuel` cuts are made. -/
def cutAll (separator : List α) : Nat → List α → List (List α)
  | 0, items => [items]
  | fuel + 1, items =>
      match cutAt separator items with
      | none => [items]
      | some (front, back) => front :: cutAll separator fuel back

def stripFront (front items : List α) : Option (List α) :=
  if front.isPrefixOf items then some (items.drop front.length) else none

end

namespace FormData

def ascii (text : String) : List UInt8 :=
  encodeUtf8 text.toList

def lineEnd : List UInt8 := [0x0d, 0x0a]

def lower (bytes : List UInt8) : List UInt8 :=
  bytes.map fun byte => if 0x41 ≤ byte ∧ byte ≤ 0x5a then byte + 0x20 else byte

def isBlank (byte : UInt8) : Bool :=
  byte = 0x20 || byte = 0x09

def trimBlanks (bytes : List UInt8) : List UInt8 :=
  ((bytes.dropWhile isBlank).reverse.dropWhile isBlank).reverse

def consFirst (items : List UInt8) : List (List UInt8) → List (List UInt8)
  | [] => [items]
  | first :: rest => (items ++ first) :: rest

/-- Cut at `separator`, though not between quotes, where a backslash takes the
next byte as it is. -/
def cutUnquoted (separator : UInt8) : Bool → List UInt8 → List (List UInt8)
  | _, [] => [[]]
  | true, 0x5c :: escaped :: rest =>
      consFirst [0x5c, escaped] (cutUnquoted separator true rest)
  | inside, byte :: rest =>
      if byte = separator && !inside then
        [] :: cutUnquoted separator false rest
      else
        consFirst [byte] (cutUnquoted separator (inside != (byte == 0x22)) rest)

def unescape : List UInt8 → List UInt8
  | [] => []
  | 0x5c :: escaped :: rest => escaped :: unescape rest
  | 0x22 :: _ => []
  | byte :: rest => byte :: unescape rest

def unquote : List UInt8 → List UInt8
  | 0x22 :: rest => unescape rest
  | bytes => bytes

/-- A parameter of a header's value. -/
def parameter (name value : List UInt8) : Option (List UInt8) :=
  ((cutUnquoted 0x3b false value).drop 1).findSome? fun piece =>
    (splitOnce 0x3d piece).bind fun (key, text) =>
      if lower (trimBlanks key) = name then some (unquote (trimBlanks text))
      else none

/-- What stands before the parameters. -/
def valueType (value : List UInt8) : List UInt8 :=
  lower (trimBlanks ((cutUnquoted 0x3b false value).headD []))

structure Part where
  headers : List (List UInt8)
  content : List UInt8
  deriving DecidableEq, Repr

namespace Part

def header (part : Part) (name : List UInt8) : Option (List UInt8) :=
  part.headers.findSome? fun line =>
    (splitOnce 0x3a line).bind fun (key, value) =>
      if lower (trimBlanks key) = name then some value else none

/-- The name of the field that the part is the value of. -/
def name (part : Part) : Option (List UInt8) :=
  (part.header (ascii "content-disposition")).bind fun disposition =>
    if valueType disposition = ascii "form-data" then
      parameter (ascii "name") disposition
    else
      none

def mediaType (part : Part) : Option (List UInt8) :=
  (part.header (ascii "content-type")).map valueType

def read (bytes : List UInt8) : Option Part :=
  match stripFront lineEnd bytes with
  | some content => some { headers := [], content }
  | none => (cutAt (lineEnd ++ lineEnd) bytes).map fun (headers, content) =>
      { headers := cutAll lineEnd headers.length headers, content }

end Part

/-- What stands between the delimiters, up to the one that closes the form. -/
def enclosed : List (List UInt8) → Option (List (List UInt8))
  | [] => none
  | piece :: rest =>
      if (ascii "--").isPrefixOf piece then
        some []
      else do
        let first ← stripFront lineEnd (piece.dropWhile isBlank)
        let others ← enclosed rest
        return first :: others

/-- The parts of a form.  A delimiter starts a line, the first line included. -/
def parts (boundary body : List UInt8) : Option (List Part) := do
  let delimiter := lineEnd ++ ascii "--" ++ boundary
  let pieces := cutAll delimiter body.length (lineEnd ++ body)
  let between ← enclosed (pieces.drop 1)
  between.mapM Part.read

end FormData

end NvidiaBuildLb.Foundation
