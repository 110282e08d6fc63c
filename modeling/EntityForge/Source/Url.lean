import EntityForge.Source.HostAddress
import EntityForge.Text.Shown

/-! # Addresses

An address is fit for a request if it names a scheme and a host part. Blanks and control characters
before it, and line breaks and tabs inside it, do not count. What stands between brackets in the
host part has to be a numeric address of version 6 or later.
-/

namespace EntityForge

/-- Why an address cannot be taken apart. -/
inductive UrlFault
  | misplacedBrackets
  | badFutureAddress
  | version4InBrackets
  | notAddress (host : Text)
  | confusableHost (host : Text)
  deriving DecidableEq, Repr

/-- The fault in the words of a message. -/
def UrlFault.message : UrlFault → Text
  | .misplacedBrackets => text "Invalid IPv6 URL"
  | .badFutureAddress => text "IPvFuture address is invalid"
  | .version4InBrackets => text "An IPv4 address cannot be in brackets"
  | .notAddress host => host.shown ++ text " does not appear to be an IPv4 or IPv6 address"
  | .confusableHost host =>
      text "netloc '" ++ host ++ text "' contains invalid characters under NFKC normalization"

namespace Url

/-- Is it an ASCII letter? -/
def isLetter (p : CodePoint) : Bool :=
  0x41 ≤ p.toNat && p.toNat ≤ 0x5A || 0x61 ≤ p.toNat && p.toNat ≤ 0x7A

/-- May a scheme hold this code point? -/
def isSchemeCode (p : CodePoint) : Bool :=
  isLetter p || p.isDigit || p.isChar '+' || p.isChar '-' || p.isChar '.'

/-- The code points of an address that count. -/
def clean (t : Text) : Text :=
  (t.dropWhile fun p => p.toNat ≤ 0x20).filter fun p =>
    !(p.isChar '\t' || p.isChar '\n' || p.isChar '\r')

/-- The scheme at the head of an address, empty if there is none, and what follows it. -/
def scheme (t : Text) : Text × Text :=
  let front := t.takeWhile (· ≠ .char ':')
  match front, t.drop front.length with
  | p :: _, _ :: rest =>
      if isLetter p && front.all isSchemeCode then (front, rest) else ([], t)
  | _, _ => ([], t)

/-- Does the code point end a host part? -/
def endsHost (p : CodePoint) : Bool := p.isChar '/' || p.isChar '?' || p.isChar '#'

/-- The host part after a scheme, empty if there is none. -/
def host : Text → Text
  | .char '/' :: .char '/' :: rest => rest.takeWhile fun p => !endsHost p
  | _ => []

/-- The code points that only look like delimiters of an address: in their compatibility form they
have one of `/ ? # @ :`. -/
def confusables : List Nat := [
  0x2047, 0x2048, 0x2049, 0x2100, 0x2101, 0x2105, 0x2106, 0x2A74, 0xFE13, 0xFE16, 0xFE55, 0xFE56,
  0xFE5F, 0xFE6B, 0xFF03, 0xFF0F, 0xFF1A, 0xFF1F, 0xFF20]

/-- What stands after the last at sign of a host part. -/
def withoutUser (host : Text) : Text := (host.splitOn '@').getLast?.getD []

/-- What is wrong with the address that stands between brackets, if anything is. -/
def addressFault? (address : Text) : Option UrlFault :=
  if address.startsWith (text "v") then
    if HostAddress.isFuture address then none else some .badFutureAddress
  else if HostAddress.isVersion4 address then some .version4InBrackets
  else if HostAddress.isVersion6 address then none
  else some (.notAddress address)

/-- What is wrong with a host part that has brackets, if anything is. Nothing may stand before the
opening bracket, and only a port after the closing one. -/
def bracketFault? (host : Text) : Option UrlFault :=
  let host := withoutUser host
  let before := host.takeWhile (· ≠ .char '[')
  match host.drop before.length with
  | [] => addressFault? (host.takeWhile (· ≠ .char ':'))
  | _ :: bracketed =>
      let address := bracketed.takeWhile (· ≠ .char ']')
      let port := bracketed.drop (address.length + 1)
      if !before.isEmpty || (!port.isEmpty && port.head? ≠ some (.char ':')) then
        some .misplacedBrackets
      else addressFault? address

/-- What is wrong with a host part, if anything is. -/
def hostFault? (host : Text) : Option UrlFault :=
  let isOpened := host.contains (.char '[')
  let isClosed := host.contains (.char ']')
  if isOpened != isClosed then some .misplacedBrackets
  else
    match if isOpened then bracketFault? host else none with
    | some fault => some fault
    | none =>
        if host.any fun p => confusables.contains p.toNat then some (.confusableHost host) else none

/-- Has the address both a scheme and a host part? -/
def isComplete (url : Text) : Except UrlFault Bool :=
  let (scheme, rest) := scheme (clean url)
  let host := host rest
  match hostFault? host with
  | some fault => .error fault
  | none => .ok (!scheme.isEmpty && !host.isEmpty)

end Url

end EntityForge
