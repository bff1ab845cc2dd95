import FastapiTemplate.Python.IpAddress

/-!
# `urllib.parse.urlparse`

The network location and the path of a URL, and the user, the password, the host and the port in the network location.
The query and the fragment are cut off. `nfkc` is the normal form of `unicodedata`; hosts are ASCII, so that only those
letters are put in small letters.
-/

namespace FastapiTemplate.Python

/-! ### Texts in parts -/

/-- `s.partition(sep)`: the text before the first separator, and the one behind it, if there is one. -/
def partition (sep : Char) (cs : List Char) : List Char × Option (List Char) :=
  (cs.takeWhile (· != sep), (cs.dropWhile (· != sep)).tail?)

/-- `s.rpartition(sep)`: the text before the last separator, if there is one, and the one behind it. -/
def rpartition (sep : Char) (cs : List Char) : Option (List Char) × List Char :=
  ((partition sep cs.reverse).2.map List.reverse, (partition sep cs.reverse).1.reverse)

/-! ### `urlsplit` -/

/-- The characters that are taken out of a URL. -/
def isUnsafe (c : Char) : Bool := c == '\t' || c == '\r' || c == '\n'

/-- The URL without control characters and blanks in front, and without the unsafe characters. -/
def sanitized (url : List Char) : List Char := (url.dropWhile fun c => c.toNat ≤ 32).filter fun c => !isUnsafe c

def isSchemeChar (c : Char) : Bool := c.isAlphanum || c == '+' || c == '-' || c == '.'

/-- The scheme, if there is one, and the rest. -/
def splitScheme (url : List Char) : List Char × List Char :=
  match partition ':' url with
  | (scheme, some rest) =>
    if scheme.head?.any Char.isAlpha && scheme.all isSchemeChar then (scheme.map Char.toLower, rest) else ([], url)
  | (_, none) => ([], url)

/-- What ends a network location. -/
def isDelimiter (c : Char) : Bool := c == '/' || c == '?' || c == '#'

/-- `_splitnetloc` of what stands behind two slashes. -/
def splitNetloc (url : List Char) : List Char × List Char :=
  if "//".toList.isPrefixOf url then
    ((url.drop 2).takeWhile fun c => !isDelimiter c, (url.drop 2).dropWhile fun c => !isDelimiter c)
  else ([], url)

/-- `_check_bracketed_host`: an IPv6 address, or `v`, a hexadecimal number, a point and something. -/
def checkBracketedHost (hostname : List Char) : Bool :=
  if hostname.head? = some 'v' then
    match partition '.' (hostname.drop 1) with
    | (version, some address) =>
      !version.isEmpty && (version.all fun c => (hexValue c).isSome) && !address.isEmpty && !address.contains '\n'
    | (_, none) => false
  else
    match ipAddress (String.ofList hostname) with
    | some (.v6 _ _) => true
    | _ => false

/-- `_check_bracketed_netloc` -/
def checkBracketedNetloc (netloc : List Char) : Bool :=
  let hostnameAndPort := (rpartition '@' netloc).2
  match partition '[' hostnameAndPort with
  | (before, some bracketed) =>
    let port := (partition ']' bracketed).2.getD []
    before.isEmpty && (port.isEmpty || port.head? == some ':') && checkBracketedHost (partition ']' bracketed).1
  | (_, none) => checkBracketedHost (partition ':' hostnameAndPort).1

/-- There are brackets of both kinds or none, and they stand around a host. -/
def checkBrackets (netloc : List Char) : Bool :=
  netloc.contains '[' == netloc.contains ']' && (!netloc.contains '[' || checkBracketedNetloc netloc)

/-- `_checknetloc`: no character stands for a separator. -/
def checkNetloc (nfkc : String → String) (netloc : List Char) : Bool :=
  let n := String.ofList (netloc.filter fun c => !("@:#?".toList.contains c))
  (netloc.all fun c => c.toNat < 128) || nfkc n == n || !("/?#@:".toList.any fun c => (nfkc n).toList.contains c)

structure ParseResult where
  scheme : List Char
  netloc : List Char
  path : List Char

def urlsplit (nfkc : String → String) (url : String) : Except BuiltinError ParseResult :=
  let (scheme, rest) := splitScheme (sanitized url.toList)
  let (netloc, rest) := splitNetloc rest
  if checkBrackets netloc && checkNetloc nfkc netloc then
    .ok { scheme := scheme, netloc := netloc, path := (partition '?' (partition '#' rest).1).1 }
  else .error .valueError

/-- The schemes whose paths end at a semicolon. -/
def usesParams : List String :=
  ["", "ftp", "hdl", "prospero", "http", "imap", "https", "shttp", "rtsp", "rtsps", "rtspu", "sip", "sips", "mms", "sftp",
    "tel"]

/-- `_splitparams`: the path up to a semicolon in its last part. -/
def splitParams (path : List Char) : List Char :=
  match rpartition '/' path with
  | (some directory, last) => directory ++ '/' :: (partition ';' last).1
  | (none, last) => (partition ';' last).1

def urlparse (nfkc : String → String) (url : String) : Except BuiltinError ParseResult := do
  let result ← urlsplit nfkc url
  return if usesParams.contains (String.ofList result.scheme) then { result with path := splitParams result.path }
    else result

/-! ### The network location -/

/-- `_userinfo` -/
def userinfo (netloc : List Char) : Option (List Char × Option (List Char)) :=
  (rpartition '@' netloc).1.map (partition ':')

def username (netloc : List Char) : Option (List Char) := (userinfo netloc).map Prod.fst

def password (netloc : List Char) : Option (List Char) := (userinfo netloc).bind Prod.snd

/-- `_hostinfo`: the host, and the text of the port. -/
def hostinfo (netloc : List Char) : List Char × List Char :=
  let hostinfo := (rpartition '@' netloc).2
  match (partition '[' hostinfo).2 with
  | some bracketed =>
    ((partition ']' bracketed).1, (partition ':' ((partition ']' bracketed).2.getD [])).2.getD [])
  | none => ((partition ':' hostinfo).1, (partition ':' hostinfo).2.getD [])

/-- A host in small letters, except for the zone of an IPv6 address. -/
def lowerHost (host : List Char) : List Char :=
  (host.takeWhile (· != '%')).map Char.toLower ++ host.dropWhile (· != '%')

def hostname (netloc : List Char) : List Char := lowerHost (hostinfo netloc).1

/-- The text is a port: digits, of which `int` reads no more than 4300, and a number in the range. -/
def isPort (text : List Char) : Bool :=
  text.all Char.isDigit && text.length ≤ 4300 && Nat.ofDigitChars 10 text 0 ≤ 65535

def port (netloc : List Char) : Except BuiltinError (Option ℕ) :=
  let text := (hostinfo netloc).2
  if text = [] then .ok none
  else if isPort text then .ok (some (Nat.ofDigitChars 10 text 0))
  else .error .valueError

/-! ### Parts -/

section Parts

variable {sep : Char} {a b cs : List Char}

lemma bne_of_notMem (h : sep ∉ cs) : ∀ c ∈ cs, (c != sep) = true := by
  intro c hc
  refine bne_iff_ne.2 ?_
  rintro rfl
  exact h hc

lemma partition_append (h : sep ∉ a) (b : List Char) : partition sep (a ++ sep :: b) = (a, some b) := by
  unfold partition
  rw [List.takeWhile_append_of_pos (bne_of_notMem h), List.takeWhile_cons_of_neg (by simp), List.append_nil,
    List.dropWhile_append_of_pos (bne_of_notMem h), List.dropWhile_cons_of_neg (by simp)]
  rfl

lemma partition_of_notMem (h : sep ∉ cs) : partition sep cs = (cs, none) := by
  unfold partition
  rw [List.takeWhile_eq_self_iff.2 (bne_of_notMem h), List.dropWhile_eq_nil_iff.2 (bne_of_notMem h)]
  rfl

/-- The two ways a text is cut. -/
lemma partition_cases (sep : Char) (cs : List Char) :
    (sep ∉ cs ∧ partition sep cs = (cs, none)) ∨
      ∃ a b, sep ∉ a ∧ cs = a ++ sep :: b ∧ partition sep cs = (a, some b) := by
  by_cases h : sep ∈ cs
  · obtain ⟨a, b, rfl, ha⟩ := List.eq_append_cons_of_mem h
    exact .inr ⟨a, b, ha, rfl, partition_append ha b⟩
  · exact .inl ⟨h, partition_of_notMem h⟩

lemma rpartition_append (h : sep ∉ b) (a : List Char) : rpartition sep (a ++ sep :: b) = (some a, b) := by
  have hreverse : (a ++ sep :: b).reverse = b.reverse ++ sep :: a.reverse := by simp
  unfold rpartition
  rw [hreverse, partition_append fun hmem => h (List.mem_reverse.1 hmem)]
  simp

lemma rpartition_of_notMem (h : sep ∉ cs) : rpartition sep cs = (none, cs) := by
  unfold rpartition
  rw [partition_of_notMem fun hmem => h (List.mem_reverse.1 hmem)]
  simp

lemma rpartition_cases (sep : Char) (cs : List Char) :
    (sep ∉ cs ∧ rpartition sep cs = (none, cs)) ∨
      ∃ a b, sep ∉ b ∧ cs = a ++ sep :: b ∧ rpartition sep cs = (some a, b) := by
  by_cases h : sep ∈ cs.reverse
  · obtain ⟨b, a, hcs, hb⟩ := List.eq_append_cons_of_mem h
    have heq : cs = a.reverse ++ sep :: b.reverse := by
      rw [← List.reverse_reverse cs, hcs]
      simp
    have hb' : sep ∉ b.reverse := fun hmem => hb (List.mem_reverse.1 hmem)
    exact .inr ⟨a.reverse, b.reverse, hb', heq, heq ▸ rpartition_append hb' a.reverse⟩
  · have hnone : sep ∉ cs := fun hmem => h (List.mem_reverse.2 hmem)
    exact .inl ⟨hnone, rpartition_of_notMem hnone⟩

end Parts

end FastapiTemplate.Python
