import ChillerGateway.Text.Digits

/-!
# Socket addresses

A socket address is a host and a port.  The host is four octets with points between them, or eight
groups of sixteen bits in brackets; one run of zero groups may be left out, the last two groups may
be written as octets, and a scope may follow.

* `SocketAddress.parse?` reads an address.
* `SocketAddress.text` writes one: the longest run of at least two zero groups is left out, the
  first of several, and octets are written only behind the prefix of mapped addresses.
-/

namespace ChillerGateway

/-- Four octets. -/
structure Ipv4 where
  a : UInt8
  b : UInt8
  c : UInt8
  d : UInt8
  deriving DecidableEq, Repr

/-- Eight groups of sixteen bits. -/
structure Ipv6 where
  groups : List UInt16
  length_groups : groups.length = 8
  deriving DecidableEq, Repr

inductive SocketAddress where
  | v4 (host : Ipv4) (port : UInt16)
  | v6 (host : Ipv6) (scope : UInt32) (port : UInt16)
  deriving DecidableEq, Repr

namespace SocketAddress

/-! ## Reading -/

/-- A reader takes something from the front of a text and gives back the rest. -/
abbrev Reader (α : Type) := List Char → Option (α × List Char)

/-- All digits that follow, as a number below the limit. -/
def number? (radix limit : Nat) : Reader Nat := fun text =>
  let digits := text.takeWhile (Text.isDigitOf radix)
  let value := Text.valueOf radix digits
  if digits.isEmpty || limit ≤ value then none else some (value, text.drop digits.length)

/-- A decimal number of one octet without leading zeros. -/
def octet? : Reader UInt8
  | '0' :: c :: text => if c.isDigit then none else some (0, c :: text)
  | text => (number? 10 256 text).map fun (n, rest) => (UInt8.ofNat n, rest)

/-- A hexadecimal number of at most four digits. -/
def group? : Reader UInt16 := fun text =>
  if 4 < (text.takeWhile (Text.isDigitOf 16)).length then none
  else (number? 16 65536 text).map fun (n, rest) => (UInt16.ofNat n, rest)

/-- What follows a given character. -/
def after? (c : Char) : List Char → Option (List Char)
  | d :: rest => if c = d then some rest else none
  | [] => none

def ipv4? : Reader Ipv4 := fun text => do
  let (a, text) ← octet? text
  let (b, text) ← octet? (← after? '.' text)
  let (c, text) ← octet? (← after? '.' text)
  let (d, text) ← octet? (← after? '.' text)
  return (⟨a, b, c, d⟩, text)

/-- The two groups of four octets. -/
def pair (h : Ipv4) : List UInt16 :=
  [h.a.toUInt16 * 256 + h.b.toUInt16, h.c.toUInt16 * 256 + h.d.toUInt16]

/-- At most so many groups with colons between them, whether octets ended them, and the rest. -/
def groups : (most : Nat) → (isFirst : Bool) → List Char → List UInt16 × Bool × List Char
  | 0, _, text => ([], false, text)
  | most + 1, isFirst, text =>
    match if isFirst then some text else after? ':' text with
    | none => ([], false, text)
    | some here =>
      match if most = 0 then none else ipv4? here with
      | some (h, rest) => (pair h, true, rest)
      | none =>
        match group? here with
        | none => ([], false, text)
        | some (g, rest) =>
          let (more, octets, rest) := groups most false rest
          (g :: more, octets, rest)

/-- The address of the groups, if there are eight. -/
def ofGroups? (groups : List UInt16) : Option Ipv6 :=
  if h : groups.length = 8 then some ⟨groups, h⟩ else none

/-- Eight groups, or fewer around two colons. -/
def ipv6? : Reader Ipv6 := fun text => do
  let (head, octets, rest) := groups 8 true text
  if head.length = 8 then return (← ofGroups? head, rest)
  if octets then none
  let (tail, _, rest) := groups (7 - head.length) true (← after? ':' (← after? ':' rest))
  let zeros := List.replicate (8 - head.length - tail.length) 0
  return (← ofGroups? (head ++ zeros ++ tail), rest)

def port? : Reader UInt16 := fun text => do
  let (n, rest) ← number? 10 65536 (← after? ':' text)
  return (UInt16.ofNat n, rest)

/-- A scope, which is zero if none is given. -/
def scope (text : List Char) : UInt32 × List Char :=
  match (after? '%' text).bind (number? 10 (Nat.pow 2 32)) with
  | some (n, rest) => (UInt32.ofNat n, rest)
  | none => (0, text)

def read? : Reader SocketAddress
  | '[' :: text => do
    let (host, text) ← ipv6? text
    let (scope, text) := scope text
    let (port, rest) ← port? (← after? ']' text)
    return (.v6 host scope port, rest)
  | text => do
    let (host, text) ← ipv4? text
    let (port, rest) ← port? text
    return (.v4 host port, rest)

/-- The address that a text is. -/
def parse? (text : String) : Option SocketAddress :=
  match read? text.toList with
  | some (address, []) => some address
  | _ => none

/-! ## Writing -/

def ipv4Text (h : Ipv4) : String :=
  toString h.a ++ "." ++ toString h.b ++ "." ++ toString h.c ++ "." ++ toString h.d

/-- A group in hexadecimal, without leading zeros. -/
def groupText (g : UInt16) : String := String.ofList (Nat.toDigits 16 g.toNat)

def groupsText (groups : List UInt16) : String := ":".intercalate (groups.map groupText)

/-- How many zero groups stand at the front. -/
def leadingZeros (groups : List UInt16) : Nat := (groups.takeWhile (· = 0)).length

/-- Where the first of the longest runs of zero groups begins. -/
def longestZeros (groups : List UInt16) : Nat :=
  (List.range groups.length).foldl (fun best i =>
    if leadingZeros (groups.drop best) < leadingZeros (groups.drop i) then i else best) 0

/-- The four octets of a mapped address. -/
def mapped? (h : Ipv6) : Option Ipv4 :=
  match h.groups with
  | [0, 0, 0, 0, 0, 0xFFFF, g, k] =>
    some ⟨(g / 256).toUInt8, g.toUInt8, (k / 256).toUInt8, k.toUInt8⟩
  | _ => none

def ipv6Text (h : Ipv6) : String :=
  match mapped? h with
  | some octets => "::ffff:" ++ ipv4Text octets
  | none =>
    let start := longestZeros h.groups
    let run := leadingZeros (h.groups.drop start)
    if 1 < run then
      groupsText (h.groups.take start) ++ "::" ++ groupsText (h.groups.drop (start + run))
    else groupsText h.groups

/-- The text of an address. -/
def text : SocketAddress → String
  | v4 host port => ipv4Text host ++ ":" ++ toString port
  | v6 host scope port =>
    let scopeText := if scope = 0 then "" else "%" ++ toString scope
    "[" ++ ipv6Text host ++ scopeText ++ "]:" ++ toString port

end SocketAddress

end ChillerGateway
