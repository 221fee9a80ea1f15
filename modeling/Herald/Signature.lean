import Herald.Digest.Hmac
import Herald.Text.Affix
import Herald.Text.Blank
import Herald.Text.Hex
import Herald.Text.Utf8

/-!
# Signatures of webhooks

A webhook proves that it comes from the tracker by a tag of its body in a header,
or by the shared secret in its query.
-/

namespace Herald.Signature

/-- The header with the tag of the body. -/
def headerName : String := "X-Hub-Signature"

def compute (payload secret : Bytes) : Bytes :=
  Digest.hmac secret payload

/-- The name of the algorithm, which a header value begins with. -/
def scheme : List Char := "sha256=".toList

def format (tag : Bytes) : String :=
  String.ofList (scheme ++ Text.Hex.encode tag)

/-- The tag in a header value. -/
def ofHeader? (header : String) : Option Bytes :=
  (Text.after? scheme (Text.trim header.toList)).bind Text.Hex.decode?

/-- Compares without stopping at the first difference. -/
def sameBytes (a b : Bytes) : Bool :=
  a.length == b.length && (a.zip b).foldl (fun acc (x, y) => acc ||| (x ^^^ y)) 0 == 0

/-- The header value holds the tag of the payload. -/
def verify (payload : Bytes) (header : String) (secret : Bytes) : Bool :=
  match ofHeader? header with
  | some tag => sameBytes tag (compute payload secret)
  | none => false

/-- The secret that came in the query is the right one. -/
def verifyShared (provided secret : String) : Bool :=
  sameBytes (Text.Utf8.encode provided) (Text.Utf8.encode secret)

/-- One of the two proofs holds. Without a secret nothing is accepted. -/
def authenticate (payload : Bytes) (header provided : Option String) (secret : String) : Bool :=
  if secret.isEmpty then false
  else
    let signed := header.any fun header => verify payload header (Text.Utf8.encode secret)
    let shared := provided.any fun provided => verifyShared provided secret
    signed || shared

end Herald.Signature
