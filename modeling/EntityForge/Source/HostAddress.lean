import EntityForge.Text.Basic

/-! # Numeric addresses of hosts

An address of version 4 has four decimal parts of a byte each. One of version 6 has eight groups of
at most four hexadecimal digits, of which one run may be left out; the last two groups may be given
as an address of version 4, and a zone may follow.
-/

namespace EntityForge.HostAddress

/-- Is it a byte in decimal, without leading zeros? -/
def isOctet (t : Text) : Bool :=
  !t.isEmpty && t.length ≤ 3 && t.all CodePoint.isDigit &&
    (t.length = 1 || !t.startsWith (text "0"))
    && t.digitsValue ≤ 255

/-- Is it an address of version 4? -/
def isVersion4 (t : Text) : Bool :=
  let parts := t.splitOn '.'
  parts.length = 4 && parts.all isOctet

/-- Is it a group of an address of version 6? -/
def isGroup (t : Text) : Bool :=
  !t.isEmpty && t.length ≤ 4 && t.all fun p => p.hexValue?.isSome

/-- The number of groups on one side of the groups that are left out; none may be there. -/
def groupsOf? (parts : List Text) : Option Nat :=
  if parts = [[]] then some 0 else if parts.all isGroup then some parts.length else none

/-- Do the parts between colons make an address of version 6? An empty part that is not the last
stands for the groups that are left out, at least one. -/
def areGroups : List Text → Bool
  | [] => false
  | first :: rest =>
      match rest.dropWhile fun part => !part.isEmpty with
      | _ :: next :: back =>
          match groupsOf? (first :: rest.takeWhile fun part => !part.isEmpty),
            groupsOf? (next :: back) with
          | some before, some after => before + after < 8
          | _, _ => false
      | _ => rest.length = 7 && (first :: rest).all isGroup

/-- Parts whose last one may be an address of version 4 in the place of two groups. -/
def expandLast (parts : List Text) : List Text :=
  match parts.getLast? with
  | none => parts
  | some last => if isVersion4 last then parts.dropLast ++ [text "0", text "0"] else parts

/-- The address without its zone, which must be there if it is announced. -/
def withoutZone? (t : Text) : Option Text :=
  let address := t.takeWhile (· ≠ .char '%')
  match t.drop address.length with
  | [] => some address
  | _ :: zone => if zone.isEmpty || zone.contains (.char '%') then none else some address

/-- Is it an address of version 6? -/
def isVersion6 (t : Text) : Bool :=
  (withoutZone? t).any fun address => areGroups (expandLast (address.splitOn ':'))

/-- Is it an address of a version yet to come: its number in hexadecimal after a `v`, a full stop
and something more? -/
def isFuture : Text → Bool
  | .char 'v' :: rest =>
      let version := rest.takeWhile fun p => p.hexValue?.isSome
      match rest.drop version.length with
      | .char '.' :: more => !version.isEmpty && !more.isEmpty
      | _ => false
  | _ => false

/-- An address of version 4 is none of version 6. -/
example : isVersion4 (text "127.0.0.1") = true ∧ isVersion6 (text "127.0.0.1") = false := by
  decide +kernel

example : isVersion6 (text "::ffff:1.2.3.4") = true ∧ isVersion6 (text "1::2::3") = false := by
  decide +kernel

end EntityForge.HostAddress
