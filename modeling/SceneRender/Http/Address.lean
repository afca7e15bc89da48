/-!
# Addresses of clients

The address in a socket address, as clients are told apart by it: the port and the
zone do not count, and an address of version 6 has all its groups written out, in
lower case and without leading zeros.
-/

namespace SceneRender.Address

/-- The value of a hexadecimal digit. -/
def hexDigitValue? (c : Char) : Option Nat :=
  if c.isDigit then some (c.toNat - '0'.toNat)
  else if 'a' ≤ c && c ≤ 'f' then some (c.toNat - 'a'.toNat + 10)
  else if 'A' ≤ c && c ≤ 'F' then some (c.toNat - 'A'.toNat + 10)
  else none

/-- The number that digits of a base spell, if there is at least one. -/
def number? (base : Nat) (cs : List Char) : Option Nat :=
  if cs.isEmpty then none
  else cs.foldlM (fun n c => do
    let d ← hexDigitValue? c
    if d < base then some (n * base + d) else none) 0

/-- One of the four numbers of an address of version 4. -/
def octet? (s : String) : Option Nat := do
  let n ← number? 10 s.toList
  if n < 256 && s.length ≤ 3 && (s.length == 1 || s.toList.head? != some '0') then some n
  else none

/-- The four numbers of an address of version 4. -/
def octets? (s : String) : Option (List Nat) := do
  let ns ← (s.toList.splitOn '.').mapM fun digits => octet? (String.ofList digits)
  if ns.length == 4 then some ns else none

/-- A group of an address of version 6. -/
def group? (s : String) : Option Nat :=
  if s.length ≤ 4 then number? 16 s.toList else none

/-- The groups in a part of an address; the last two may be written as an address of
version 4. -/
def groups? (mayEndInOctets : Bool) (part : String) : Option (List Nat) :=
  if part.isEmpty then some []
  else
    let pieces := part.splitOn ":"
    match mayEndInOctets, octets? (pieces.getLast?.getD "") with
    | true, some [a, b, c, d] => do
      return (← pieces.dropLast.mapM group?) ++ [a * 256 + b, c * 256 + d]
    | _, _ => pieces.mapM group?

/-- How many groups an address of version 6 has. -/
def groupCount : Nat := 8

/-- All groups of an address of version 6; two colons side by side stand for groups
of noughts. -/
def allGroups? (address : String) : Option (List Nat) :=
  match address.splitOn "::" with
  | [only] => do
    let gs ← groups? true only
    if gs.length == groupCount then some gs else none
  | [front, back] => do
    let front ← groups? false front
    let back ← groups? true back
    let given := front.length + back.length
    if given < groupCount then
      some (front ++ List.replicate (groupCount - given) 0 ++ back)
    else none
  | _ => none

/-- An address of version 6 with all its groups. -/
def written (gs : List Nat) : String :=
  ":".intercalate (gs.map fun g => String.ofList (Nat.toDigits 16 g))

/-- Is the text a number below a bound? -/
def isNumberBelow (bound : Nat) (s : String) : Bool := (number? 10 s.toList).any (· < bound)

/-- Is the text a port? -/
def isPort (s : String) : Bool := isNumberBelow (Nat.pow 2 16) s

/-- The address of version 6 between the brackets of a socket address. -/
def bracketed? (inner : String) : Option String := do
  let (address, zone) ← match inner.splitOn "%" with
    | [address] => some (address, true)
    | [address, zone] => some (address, isNumberBelow (Nat.pow 2 32) zone)
    | _ => none
  let gs ← allGroups? address
  if zone then some (written gs) else none

/-- The address in a socket address: what stands in front of the port, and in front of the
zone if there is one. -/
def ofSocket? (socket : String) : Option String :=
  match socket.toList with
  | '[' :: rest =>
    match rest.dropWhile (· != ']') with
    | ']' :: ':' :: port =>
      if isPort (String.ofList port) then
        bracketed? (String.ofList (rest.takeWhile (· != ']')))
      else none
    | _ => none
  | cs =>
    match cs.splitOn ':' with
    | [address, port] =>
      let address := String.ofList address
      if (octets? address).isSome && isPort (String.ofList port) then some address else none
    | _ => none

end SceneRender.Address
