import Strata.Digest.Sha256
import Strata.Json.Fields
import Strata.Json.Printer
import Strata.Query.Stage
import Strata.Text.Base64
import Strata.Text.Basic

/-!
# Cursors

A cursor says after which record a page begins. Its token is a small JSON object with the
identifier of that record and, after a point, the first bytes of the digest of that object, both
in base 64 without padding; a token whose parts do not belong together is refused.
-/

namespace Strata.Cursor

open Text

/-- The number of bytes of a digest that a token carries. -/
def checkLength : Nat := 6

/-- The most bytes of a token. -/
def maxTokenBytes : Nat := 512

/-- Why a token is no cursor. -/
inductive Refusal where
  | tooLong
  | checkMissing
  | payloadEncoding
  | checkEncoding
  | mismatch
  | payloadShape
  | emptyId
  | foreignId (id : String)
  deriving DecidableEq, Repr

/-- The wording of a refusal. -/
def Refusal.message : Refusal → String
  | tooLong => "token too long"
  | checkMissing => "missing checksum"
  | payloadEncoding => "payload is not base64url"
  | checkEncoding => "checksum is not base64url"
  | mismatch => "checksum mismatch"
  | payloadShape => "payload is not a cursor object"
  | emptyId => "empty id"
  | foreignId id => "id is not an ObjectId: " ++ id

/-- The bytes of the digest that go into the token of a payload. -/
def check (payload : List UInt8) : List UInt8 := (Digest.Sha256.digest payload).take checkLength

/-- The bytes that carry an identifier. -/
def payload (id : String) : List UInt8 :=
  Utf8.encode (Json.compact (Json.object [("id", .str id)]))

/-- The token of an identifier. -/
def encode (id : String) : String :=
  Base64.urlSafe.encode (payload id) ++ "." ++ Base64.urlSafe.encode (check (payload id))

/-- The identifier in a payload. -/
def readPayload? (bytes : List UInt8) : Option String :=
  match Json.Tree.read? (Utf8.glyphs bytes) with
  | none => none
  | some t =>
    match t.fields ["id"] with
    | .error _ => none
    | .ok given => (Json.Tree.required "id" Json.Tree.text given).toOption

/-- The identifier in a token whose two parts are given. -/
def decodeParts (body sum : List Char) : Except Refusal String :=
  match Base64.urlSafe.decodeChars? body with
  | none => .error .payloadEncoding
  | some bytes =>
    match Base64.urlSafe.decodeChars? sum with
    | none => .error .checkEncoding
    | some given =>
      if given ≠ check bytes then .error .mismatch
      else match readPayload? bytes with
        | none => .error .payloadShape
        | some id => if isBlankText id then .error .emptyId else .ok id

/-- The identifier in a token; blanks around it do not matter. -/
def decode (token : String) : Except Refusal String :=
  let token := trim token
  if maxTokenBytes < token.utf8ByteSize then .error .tooLong
  else match splitOnce? '.' token.toList with
    | none => .error .checkMissing
    | some (body, sum) => decodeParts body sum

/-- The condition that rows lie strictly behind a record in the direction of a sort. -/
def beyond (direction : Direction) (id : ObjectId) : Predicate :=
  .compare idField (match direction with | .asc => .gt | .desc => .lt) (.objectId id)

/-- The condition that rows lie strictly behind the record of a token. -/
def continuation (direction : Direction) (token : String) : Except Refusal Predicate :=
  match decode token with
  | .error e => .error e
  | .ok id =>
    match ObjectId.ofHex? id with
    | none => .error (.foreignId id)
    | some oid => .ok (beyond direction oid)

end Strata.Cursor
