import TexCompletion.Url.Address
import TexCompletion.Url.Domain
import TexCompletion.Url.Percent

/-!
# Hosts

The host of a URL is a domain name or a numeric address.  Special schemes put names through domain
processing; with other schemes a name is opaque and only checked for characters that would end it.
-/

namespace TexCompletion.Url

/-- The host of a URL. -/
inductive Host where
  | name (name : String)
  | ipv4 (address : Nat)
  | ipv6 (groups : List Nat)
deriving DecidableEq, Repr

/-- The text of a host. -/
def Host.text : Host → String
  | name n => n
  | ipv4 a => ipv4Text a
  | ipv6 gs => "[" ++ ipv6Text gs ++ "]"

namespace Host

/-- An address in brackets, if the text begins with a bracket. -/
def bracketed? (cs : List Char) : Option (Except Error Host) :=
  match cs with
  | '[' :: inside =>
    if inside.getLast? = some ']' then
      match ipv6? inside.dropLast with
      | some groups => some (.ok (.ipv6 groups))
      | none => some (.error .badIpv6)
    else some (.error .badIpv6)
  | _ => none

/-- The host of a special scheme: percent-encoded bytes are put back, the name is brought to its
registered form, and one that ends in a number is read as an address. -/
def ofDomain (cs : List Char) : Except Error Host :=
  match bracketed? cs with
  | some host => host
  | none => do
    let some text := String.fromUTF8? ⟨(decode cs).toArray⟩ | throw .badDomain
    let some domain := Domain.ascii? text.toList | throw .badDomain
    if domain.isEmpty then throw .emptyHost
    else if endsInNumber domain then
      match ipv4? domain with
      | some address => return .ipv4 address
      | none => throw .badIpv4
    else return .name (String.ofList domain)

/-- The host of a scheme that is not special. -/
def ofOpaque (cs : List Char) : Except Error Host :=
  match bracketed? cs with
  | some host => host
  | none =>
    if cs.any Domain.isForbidden then .error .badHostCharacter
    else .ok (.name (String.ofList (encode isControl cs)))

end Host

end TexCompletion.Url
