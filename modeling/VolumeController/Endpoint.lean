import VolumeController.Text.Numeral
/-!
Endpoints: a host with an optional port.
-/

namespace VolumeController.Endpoint

/-- The host of an endpoint. A bracketed literal is what stands between the brackets. Elsewhere a port is
what follows the only colon, if it holds digits alone; a text with more colons is an address without
port. -/
def hostChars : List Char → List Char
  | '[' :: rest => if rest.contains ']' then rest.takeWhile (· != ']') else '[' :: rest
  | endpoint =>
    match endpoint.dropWhile (· != ':') with
    | ':' :: port => if port.all Char.isDigit then endpoint.takeWhile (· != ':') else endpoint
    | _ => endpoint

/-- The host of an endpoint. -/
def host (endpoint : String) : String :=
  String.ofList (hostChars endpoint.toList)

/-- The endpoint of a server and its port. -/
def ofServer (server : String) (port : UInt16) : String :=
  server ++ ":" ++ Text.natText port.toNat

end VolumeController.Endpoint
