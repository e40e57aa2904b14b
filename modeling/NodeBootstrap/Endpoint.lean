import NodeBootstrap.Failure

/-!
# Endpoints

An address is `host` or `host:port`. A host that holds colons is put into brackets where a port
follows; without a port the brackets may be left out.

* `Endpoint.split`: the host and port of an address, with a port for addresses that have none;
* `Endpoint.text`: the written form of a host and port.
-/

namespace NodeBootstrap

/-- A host and a port. -/
structure Endpoint where
  host : String
  port : UInt16
deriving DecidableEq, Repr, Inhabited

namespace Endpoint

/-- The port of an API server for which none is given. -/
def defaultPort : UInt16 := 6443

/-- The decimal digits of a port. -/
def portChars (port : UInt16) : List Char := Decimal.digits port.toNat

/-- Whether the text holds a colon. -/
def hasColon (cs : List Char) : Bool := cs.contains ':'

/-- The address with the default port put after it where it has none. -/
def withPort (address : List Char) (port : UInt16) : Except AddressFault (List Char) :=
  match address with
  | '[' :: rest =>
    match Chars.cut ']' rest with
    | none => .error .openBracket
    | some (_, []) => .ok (address ++ ':' :: portChars port)
    | some (_, _ :: _) => .ok address
  | _ =>
    match address.count ':' with
    | 0 => .ok (address ++ ':' :: portChars port)
    | 1 => .ok address
    | _ => .ok ('[' :: address ++ ']' :: ':' :: portChars port)

/-- The host without opening brackets before it and closing brackets after it. -/
def bareHost (cs : List Char) : List Char :=
  (((cs.dropWhile (· == '[')).reverse).dropWhile (· == ']')).reverse

/-- Reads a port. -/
def readPort? (cs : List Char) : Option UInt16 := (Decimal.read? 65536 cs).map UInt16.ofNat

/-- Splits an address without blanks around it. -/
def splitBare (address : List Char) (port : UInt16) : Except AddressFault Endpoint :=
  if address = [] then .error .emptyAddress
  else
    match withPort address port with
    | .error e => .error e
    | .ok full =>
      match Chars.cutLast ':' full with
      | none => .error .missingPort
      | some (host, portText) =>
        if bareHost host = [] then .error .emptyHost
        else
          match readPort? portText with
          | none => .error .badPort
          | some p => .ok ⟨String.ofList (bareHost host), p⟩

/-- The host and port of an address; `port` stands in where the address has none. -/
def split (address : String) (port : UInt16) : Except Failure Endpoint :=
  match splitBare (Text.trim address).toList port with
  | .ok e => .ok e
  | .error fault => .error (.config (.badAddress (Text.trim address) fault))

/-- The written form: a host with colons stands in brackets. -/
def chars (e : Endpoint) : List Char :=
  if hasColon e.host.toList then '[' :: e.host.toList ++ ']' :: ':' :: portChars e.port
  else e.host.toList ++ ':' :: portChars e.port

/-- The written form of a host and port. -/
def text (e : Endpoint) : String := String.ofList e.chars

end Endpoint

end NodeBootstrap
