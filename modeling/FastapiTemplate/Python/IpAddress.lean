import FastapiTemplate.Python.Text

/-!
# Addresses and networks

`ip_address`, `ip_network` and the test whether an address is in a network, of the module `ipaddress`. Every error is a
`ValueError`, so a text that is refused is `none`.
-/

namespace FastapiTemplate.Python

inductive IPAddress where
  | v4 (ip : BitVec 32)
  | v6 (ip : BitVec 128) (scopeId : Option String)
  deriving DecidableEq

/-- A network address without host bits, and the length of the prefix. -/
inductive IPNetwork where
  | v4 (networkAddress netmask : BitVec 32)
  | v6 (networkAddress netmask : BitVec 128)
  deriving DecidableEq

/-! ### IPv4 -/

/-- `int(text)`, of ASCII digits only. -/
def decimal? (text : String) : Option ℕ :=
  if text != "" && text.toList.all Char.isDigit then readDigits 0 false text.toList else none

/-- `_parse_octet`: no more than three digits, and no leading zero. -/
def parseOctet (text : String) : Option ℕ := do
  let octet ← decimal? text
  if 3 < text.length || (text != "0" && text.toList.head? == some '0') || 255 < octet then none else some octet

/-- `IPv4Address(text)` -/
def parseIPv4 (text : String) : Option (BitVec 32) :=
  match split '.' text with
  | [a, b, c, d] => do
    let a ← parseOctet a
    let b ← parseOctet b
    let c ← parseOctet c
    let d ← parseOctet d
    return BitVec.ofNat 32 (((a * 256 + b) * 256 + c) * 256 + d)
  | _ => none

/-! ### IPv6 -/

/-- The value of a hexadecimal digit. -/
def hexValue (c : Char) : Option ℕ := hexAlphabet.findIdx? (· == c.toLower)

/-- `_parse_hextet`: one to four digits. -/
def parseHextet (text : String) : Option ℕ := do
  let digits ← text.toList.mapM hexValue
  if digits.isEmpty || 4 < digits.length then none else some (digits.foldl (fun n d => 16 * n + d) 0)

/-- The hextets as one number. -/
def joinHextets (hextets : List ℕ) : BitVec 128 := BitVec.ofNat 128 (hextets.foldl (fun n h => 65536 * n + h) 0)

/-- The parts between the colons, with an IPv4 suffix as two hextets. -/
def hextetParts (text : String) : Option (List String) :=
  let parts := split ':' text
  if parts.length < 3 then none
  else
    match parts.getLast? with
    | none => none
    | some last =>
      if last.toList.contains '.' then do
        let ipv4 ← parseIPv4 last
        return parts.dropLast ++ [hexText (ipv4.toNat / 65536), hexText (ipv4.toNat % 65536)]
      else some parts
where
  /-- `'%x' % n` -/
  hexText (n : ℕ) : String := String.ofList (Nat.toDigits 16 n)

/-- The parts before and after a run of zeros. The part at an end of the address is empty if the run reaches it. -/
def aroundZeros (hi lo : List String) : Option (BitVec 128) := do
  let hi ← if hi.head? = some "" then (if hi.length = 1 then some [] else none) else some hi
  let lo ← if lo.getLast? = some "" then (if lo.length = 1 then some [] else none) else some lo
  if 8 ≤ hi.length + lo.length then none
  else
    let hi ← hi.mapM parseHextet
    let lo ← lo.mapM parseHextet
    return joinHextets (hi ++ List.replicate (8 - hi.length - lo.length) 0 ++ lo)

/-- `IPv6Address._ip_int_from_string`: a run of zeros is skipped at the only inner part that is empty. -/
def parseHextets (text : String) : Option (BitVec 128) := do
  let parts ← hextetParts text
  if 9 < parts.length then none
  else
    match (List.range parts.length).filter fun i => 0 < i && i + 1 < parts.length && parts[i]? == some "" with
    | [] => if parts.length = 8 then joinHextets <$> parts.mapM parseHextet else none
    | [i] => aroundZeros (parts.take i) (parts.drop (i + 1))
    | _ => none

/-- `IPv6Address(text)` -/
def parseIPv6 (text : String) : Option (BitVec 128 × Option String) :=
  match cut '%' text with
  | none => (parseHextets text).map fun ip => (ip, none)
  | some (address, scopeId) =>
    if scopeId = "" || scopeId.toList.contains '%' then none
    else (parseHextets address).map fun ip => (ip, some scopeId)

/-! ### Addresses and networks -/

/-- `ip_address(text)` -/
def ipAddress (text : String) : Option IPAddress :=
  if text.toList.contains '/' then none
  else
    match parseIPv4 text with
    | some ip => some (.v4 ip)
    | none => (parseIPv6 text).map fun ip => .v6 ip.1 ip.2

/-- The first bits are set. -/
def netmask (w prefixlen : ℕ) : BitVec w := BitVec.allOnes w ^^^ (BitVec.allOnes w >>> prefixlen)

/-- `_prefix_from_prefix_string` -/
def prefixLength (w : ℕ) (text : String) : Option ℕ := do
  let length ← decimal? text
  if length ≤ w then some length else none

/-- `_prefix_from_ip_string`: the address is a netmask, or the complement of one. -/
def netmaskOf (text : String) : Option (BitVec 32) := do
  let ip ← parseIPv4 text
  let masks := (List.range 33).map (netmask 32)
  if masks.contains ip then some ip else if masks.contains (~~~ip) then some (~~~ip) else none

/-- The mask behind the slash. -/
def netmask4 (text : Option String) : Option (BitVec 32) :=
  match text with
  | none => some (BitVec.allOnes 32)
  | some text =>
    match prefixLength 32 text with
    | some length => some (netmask 32 length)
    | none => netmaskOf text

def netmask6 (text : Option String) : Option (BitVec 128) :=
  match text with
  | none => some (BitVec.allOnes 128)
  | some text => (prefixLength 128 text).map (netmask 128)

/-- `ip_network(text)`. An IPv4 network with host bits is refused at once, and so is an IPv6 network with any. -/
def ipNetwork (text : String) : Option IPNetwork := do
  let (address, mask) ← match split '/' text with
    | [address] => some (address, none)
    | [address, mask] => some (address, some mask)
    | _ => none
  match parseIPv4 address, netmask4 mask with
  | some ip, some mask => if ip &&& mask = ip then some (.v4 ip mask) else none
  | _, _ =>
    let ip ← parseIPv6 address
    let mask ← netmask6 mask
    if ip.1 &&& mask = ip.1 then some (.v6 ip.1 mask) else none

/-- `address in network` -/
def IPNetwork.contains : IPNetwork → IPAddress → Bool
  | .v4 networkAddress netmask, .v4 ip => ip &&& netmask == networkAddress
  | .v6 networkAddress netmask, .v6 ip _ => ip &&& netmask == networkAddress
  | _, _ => false

end FastapiTemplate.Python
