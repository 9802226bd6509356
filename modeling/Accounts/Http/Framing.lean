import Accounts.Http.Message
import Accounts.Text.Numerals

/-! Requests and responses as they are sent: a head of lines, an empty line, and a body whose length
the head tells. -/

namespace Accounts.Http

structure Head where
  method : String
  target : String
  headers : List (String × List UInt8)

def isPadding (byte : UInt8) : Bool := byte = 0x20 || byte = 0x09

def unpadded (value : List UInt8) : List UInt8 :=
  ((value.dropWhile isPadding).reverse.dropWhile isPadding).reverse

namespace Head

def header? (line : String) : Option (String × List UInt8) :=
  match line.toList.span (· ≠ ':') with
  | (name, _ :: value) => some (String.ofList name, unpadded (Text.utf8 (String.ofList value)))
  | (_, []) => none

def ofLines? : List String → Option Head
  | [] => none
  | first :: rest =>
    match first.toList.splitOn ' ' with
    | [method, target, _] => do
      let headers ← rest.mapM header?
      some { method := String.ofList method, target := String.ofList target, headers }
    | _ => none

def bodyLength (head : Head) : Nat :=
  match head.headers.find? fun header => lowerName header.1 = "content-length" with
  | none => 0
  | some (_, value) =>
    (Text.readDecimal (value.map fun byte => Char.ofNat byte.toNat)).getD 0

def withBody (head : Head) (body : List UInt8) : Request :=
  { method := head.method, target := head.target, headers := head.headers, body }

end Head

def reasonPhrase (status : Nat) : String :=
  match status with
  | 200 => "OK"
  | 201 => "Created"
  | 400 => "Bad Request"
  | 401 => "Unauthorized"
  | 403 => "Forbidden"
  | 404 => "Not Found"
  | 405 => "Method Not Allowed"
  | 408 => "Request Timeout"
  | 409 => "Conflict"
  | 413 => "Payload Too Large"
  | 415 => "Unsupported Media Type"
  | 422 => "Unprocessable Entity"
  | 503 => "Service Unavailable"
  | _ => "Internal Server Error"

def numeral (n : Nat) : String := String.ofList (Text.decimal n)

def Response.send (response : Response) : String :=
  let first := "HTTP/1.1 " ++ numeral response.status ++ " " ++ reasonPhrase response.status
  let headers := response.headers.map fun header => header.1 ++ ": " ++ header.2
  let length := "content-length: " ++ numeral response.body.utf8ByteSize
  "\r\n".intercalate (first :: headers ++ [length, "", response.body])

end Accounts.Http
