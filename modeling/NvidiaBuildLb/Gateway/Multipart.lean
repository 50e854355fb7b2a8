import NvidiaBuildLb.Foundation.FormData
import NvidiaBuildLb.Gateway.ModalityRequests

namespace NvidiaBuildLb.Gateway

open Foundation NvidiaBuildLb.Core

/-! A transcription request as it is looked through for its model. -/

/-- The first and the second piece of `str::split`. -/
def firstPiece [BEq α] (separator items : List α) : List α :=
  ((cutAt separator items).map Prod.fst).getD items

def secondPiece [BEq α] (separator items : List α) : Option (List α) :=
  (cutAt separator items).map fun cut => firstPiece separator cut.2

def isContinuation (byte : UInt8) : Bool :=
  0x80 ≤ byte && byte ≤ 0xbf

/-- What may follow the first byte of a sequence of three or four. -/
def mayFollow (lead byte : UInt8) : Bool :=
  if lead = 0xe0 then 0xa0 ≤ byte && byte ≤ 0xbf
  else if lead = 0xed then 0x80 ≤ byte && byte ≤ 0x9f
  else if lead = 0xf0 then 0x90 ≤ byte && byte ≤ 0xbf
  else if lead = 0xf4 then 0x80 ≤ byte && byte ≤ 0x8f
  else isContinuation byte

def toAsciiLower (byte : UInt8) : UInt8 :=
  if 0x41 ≤ byte ∧ byte ≤ 0x5a then byte + 0x20 else byte

/-- How many bytes from the front belong to one sequence, and whether the
sequence is whole. -/
def sequenceAt : Bytes → Nat × Bool
  | [] => (0, true)
  | lead :: rest =>
      if lead < 0x80 then
        (1, true)
      else if 0xc2 ≤ lead ∧ lead ≤ 0xdf then
        match rest with
        | second :: _ => if isContinuation second then (2, true) else (1, false)
        | [] => (1, false)
      else if 0xe0 ≤ lead ∧ lead ≤ 0xef then
        match rest with
        | second :: third :: _ =>
            if mayFollow lead second = false then (1, false)
            else if isContinuation third then (3, true)
            else (2, false)
        | [second] => if mayFollow lead second then (2, false) else (1, false)
        | [] => (1, false)
      else if 0xf0 ≤ lead ∧ lead ≤ 0xf4 then
        match rest with
        | second :: third :: fourth :: _ =>
            if mayFollow lead second = false then (1, false)
            else if isContinuation third = false then (2, false)
            else if isContinuation fourth then (4, true)
            else (3, false)
        | [second, third] =>
            if mayFollow lead second = false then (1, false)
            else if isContinuation third then (3, false)
            else (2, false)
        | [second] => if mayFollow lead second then (2, false) else (1, false)
        | [] => (1, false)
      else
        (1, false)

def lossyCharacter (sequence : Bytes) (whole : Bool) : Char :=
  if whole then
    ((decodeUtf8 sequence).bind fun text => text.toList.head?).getD '\ufffd'
  else
    '\ufffd'

/-- `String::from_utf8_lossy`; no byte is looked at more than `fuel` times. -/
def lossyCharacters : Nat → Bytes → List Char
  | 0, _ => []
  | _, [] => []
  | fuel + 1, bytes =>
      let (length, whole) := sequenceAt bytes
      lossyCharacter (bytes.take length) whole ::
        lossyCharacters fuel (bytes.drop length)

def fromUtf8Lossy (bytes : Bytes) : List Char :=
  lossyCharacters bytes.length bytes

def trimQuotes (text : List Char) : List Char :=
  ((text.dropWhile (· = '"')).reverse.dropWhile (· = '"')).reverse

def multipartBoundary (contentType : String) : Option (List Char) :=
  ((((contentType.toList.splitOn ';').map trim).findSome?
    (stripFront "boundary=".toList)).map trimQuotes).filter fun boundary =>
      !boundary.isEmpty

/-- `eq_ignore_ascii_case`, window by window. -/
def hasWindowAnyCase (window bytes : Bytes) : Bool :=
  hasWindow (window.map toAsciiLower) (bytes.map toAsciiLower)

def multipartModel (text : List Char) : Option String := do
  let named ← secondPiece "name=\"model\"".toList text
  let value ← secondPiece "\r\n\r\n".toList named
  let model := trim (firstPiece "\r\n--".toList value)
  if model.isEmpty then none else some (String.ofList model)

def multipartRequest (model : String) : Json :=
  .object [("__nblb_multipart", .bool true), ("model", .string model)]

def parseMultipartRequest (path : String) (body : Bytes) (contentType : String) :
    Except Response Json := do
  let boundary ← require (multipartBoundary contentType)
    "multipart boundary is required"
  ensure (hasWindow (utf8 "--" ++ encodeUtf8 boundary) body &&
      hasWindow (utf8 "name=\"model\"") body &&
      hasWindow (utf8 "name=\"file\"") body)
    "multipart transcription requires model and file fields"
  ensure (body.length ≤ 64 * 1024 * 1024) "multipart body exceeds 64 MiB"
  ensure (hasWindowAnyCase (utf8 "Content-Type: audio/") body)
    "multipart transcription file must declare an audio MIME type"
  let model ← require (multipartModel (fromUtf8Lossy body))
    "multipart model field is empty"
  ensureRouted path model
  return multipartRequest model

end NvidiaBuildLb.Gateway
