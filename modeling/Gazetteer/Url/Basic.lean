/-!
# Web addresses

An `Address` is an absolute address of the web in its parts, each already in normal form.

* `Address.text`: the address in writing;
* `AddressFault`: why a text is no address.
-/

namespace Gazetteer

/-- Why a text is no address. -/
inductive AddressFault where
  | empty
  | relative
  | emptyHost
  | port
  | domain
  /-- A character that stands in no host. -/
  | character
  | fourNumbers
  | sixteenOctets
  deriving DecidableEq, Repr

/-- The wording of a fault. -/
def AddressFault.message : AddressFault → String
  | .empty => "input is empty"
  | .relative => "relative URL without a base"
  | .emptyHost => "empty host"
  | .port => "invalid port number"
  | .domain => "invalid international domain name"
  | .character => "invalid domain character"
  | .fourNumbers => "invalid IPv4 address"
  | .sixteenOctets => "invalid IPv6 address"

/-- **An absolute address.**  User, path, query and fragment are escaped, the host is in lower
case, and the port is left out where it is the usual one of the scheme. -/
structure Address where
  scheme : String
  /-- Name and password with the sign that ends them, or nothing. -/
  user : String
  host : String
  port : Option String
  path : List String
  query : Option String
  fragment : Option String
  deriving DecidableEq, Repr

/-- An address in writing. -/
def Address.text (a : Address) : String :=
  a.scheme ++ "://" ++ a.user ++ a.host
    ++ (match a.port with
      | some port => ":" ++ port
      | none => "")
    ++ "/" ++ String.intercalate "/" a.path
    ++ (match a.query with
      | some query => "?" ++ query
      | none => "")
    ++ (match a.fragment with
      | some fragment => "#" ++ fragment
      | none => "")

end Gazetteer
