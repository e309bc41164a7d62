import QuerySynth.Text.PrintTable
import QuerySynth.Text.Blank
import QuerySynth.Text.Digit
import QuerySynth.Text.Utf8

/-! # Addresses

The path of an absolute address, by the rules of the web: the scheme decides how hosts are
checked and whether a backslash is a slash, `.` and `..` segments are resolved, and characters
that may not stand in a path are percent-encoded. An address that these rules refuse has no path.
-/

namespace QuerySynth.Url

open Text

/-- How an address of a scheme is read. -/
inductive SchemeClass where
  /-- A web scheme: a host is required. -/
  | web
  /-- Local files: the host may be empty. -/
  | file
  /-- Any other scheme. -/
  | other
deriving DecidableEq, Repr

/-- The schemes of the web besides `file`. -/
def webSchemes : List String := ["http", "https", "ws", "wss", "ftp"]

def SchemeClass.ofScheme (scheme : String) : SchemeClass :=
  if scheme = "file" then .file else if webSchemes.contains scheme then .web else .other

/-- Whether a character ends a segment. -/
def SchemeClass.isSlash (scheme : SchemeClass) (c : Char) : Bool :=
  c == '/' || (c == '\\' && scheme != .other)

def endsPath (c : Char) : Bool := c == '?' || c == '#'

def isSchemeChar (c : Char) : Bool :=
  c.isAlphanum || c == '+' || c == '-' || c == '.'

/-- The scheme in lower case and what follows its colon. -/
def scheme? (text : List Char) : Option (String × List Char) :=
  let scheme := text.takeWhile isSchemeChar
  match scheme.head?, text.dropWhile isSchemeChar with
  | some c, ':' :: rest =>
    if c.isAlpha then some (String.ofList (scheme.map Char.toLower), rest) else none
  | _, _ => none

/-- The two upper-case hexadecimal digits of a byte, after a percent sign. -/
def percentByte (byte : Nat) : List Char :=
  ['%', (Nat.digitChar (byte / 16)).toUpper, (Nat.digitChar (byte % 16)).toUpper]

def percentEncode (c : Char) : List Char :=
  (textBytes (String.singleton c)).flatMap fun byte => percentByte byte.toNat

/-- Characters that never stand for themselves: controls and everything beyond ASCII. -/
def isControl (c : Char) : Bool :=
  c.toNat < 0x20 || 0x7E < c.toNat

def isEncodedInPath (c : Char) : Bool :=
  isControl c || [' ', '"', '#', '<', '>', '?', '`', '\x7b', '\x7d'].contains c

def encodeSegment (segment : List Char) : List Char :=
  segment.flatMap fun c => if isEncodedInPath c then percentEncode c else [c]

/-- Whether a segment means the current directory. -/
def isHere (segment : List Char) : Bool :=
  ([".", "%2e"].map String.toList).contains (segment.map Char.toLower)

/-- Whether a segment means the directory above. -/
def isAbove (segment : List Char) : Bool :=
  (["..", ".%2e", "%2e.", "%2e%2e"].map String.toList).contains (segment.map Char.toLower)

/-- A letter and a colon, or the bar that once stood for one. -/
def isDrive : List Char → Bool
  | [letter, mark] => letter.isAlpha && (mark == ':' || mark == '|')
  | _ => false

def isPlainDrive (segment : List Char) : Bool :=
  isDrive segment && segment.getLast? == some ':'

/-- The pieces of a path between its slashes. -/
def segments (scheme : SchemeClass) (path : List Char) : List (List Char) :=
  splitOn '/' (path.map fun c => if scheme.isSlash c then '/' else c)

/-- Leave the last segment, except the drive of a file. -/
def leave (scheme : SchemeClass) (done : List (List Char)) : List (List Char) :=
  match scheme, done with
  | .file, [drive] => if isPlainDrive drive then [drive] else []
  | _, _ => done.dropLast

/-- A first segment that names a drive is written with a colon. -/
def driveForm (scheme : SchemeClass) (done : List (List Char)) (segment : List Char) :
    List Char :=
  if scheme = .file ∧ done.isEmpty ∧ isDrive segment then segment.take 1 ++ [':'] else segment

/-- Resolve the segments of a path from left to right. A path that ends in a dot segment ends in
a slash. -/
def resolve (scheme : SchemeClass) (done : List (List Char)) :
    List (List Char) → List (List Char)
  | [] => done
  | segment :: rest =>
    if isAbove segment then
      let left := leave scheme done
      resolve scheme (if rest.isEmpty then left ++ [[]] else left) rest
    else if isHere segment then
      resolve scheme (if rest.isEmpty then done ++ [[]] else done) rest
    else resolve scheme (done ++ [driveForm scheme done (encodeSegment segment)]) rest

/-- Segments with a slash before each. -/
def joined (done : List (List Char)) : List Char :=
  done.flatMap fun segment => '/' :: segment

def hierarchicalPath (scheme : SchemeClass) (text : List Char) : List Char :=
  let path := text.takeWhile (!endsPath ·)
  let body :=
    match path with
    | [] => []
    | c :: rest => if scheme.isSlash c then rest else c :: rest
  match scheme, path with
  | .other, [] => []
  | .file, _ =>
    '/' :: trimLeft (· == '/') (joined (resolve scheme [] (segments scheme body)))
  | _, _ => joined (resolve scheme [] (segments scheme body))

/-- The path of a scheme without segments: everything up to a question mark or hash. -/
def opaquePath (text : List Char) : List Char :=
  (text.takeWhile (!endsPath ·)).flatMap fun c => if isControl c then percentEncode c else [c]

/-- Characters that no host may hold. -/
def isForbidden (c : Char) : Bool :=
  ['\x00', '\t', '\n', '\r', ' ', '#', '/', ':', '<', '>', '?', '@', '[', '\\', ']', '^',
    '|'].contains c

/-- Characters that no domain may hold. -/
def isForbiddenInDomain (c : Char) : Bool :=
  isForbidden c || c.toNat < 0x20 || c == '%' || c.toNat == 0x7F

def hexByte? (high low : UInt8) : Option UInt8 := do
  let h ← hexDigit? (Char.ofUInt8 high)
  let l ← hexDigit? (Char.ofUInt8 low)
  return (16 * h + l).toUInt8

/-- Undo percent-encoding, as bytes. -/
def percentDecode : List UInt8 → List UInt8
  | [] => []
  | [a] => [a]
  | [a, b] => [a, b]
  | a :: b :: c :: rest =>
    match if a = 37 then hexByte? b c else none with
    | some byte => byte :: percentDecode rest
    | none => a :: percentDecode (b :: c :: rest)

/-- The form of a character in a domain: full-width letters and dots become plain ones, and
characters that leave no trace go. -/
def domainChar (c : Char) : List Char :=
  let n := c.toNat
  if n < 128 then [c.toLower]
  else if 0xFF01 ≤ n ∧ n ≤ 0xFF5E then [(Char.ofNat (n - 0xFEE0)).toLower]
  else if n = 0x3002 ∨ n = 0xFF61 then ['.']
  else if n = 0xAD ∨ n = 0x200B ∨ n = 0x2060 ∨ n = 0xFEFF ∨ (0xFE00 ≤ n ∧ n ≤ 0xFE0F) then []
  else if isBlank c then [' ']
  else [c]

def isDomainChar (c : Char) : Bool :=
  !isForbiddenInDomain c && c.toNat != 0xFFFD &&
    (c.toNat < 128 || c.toNat == 0x200C || c.toNat == 0x200D || !unprintableSet.holds c.toNat)

/-- A number of an address of four: decimal, octal after a zero, hexadecimal after `0x`. -/
def addressNumber? (text : List Char) : Option Nat :=
  let read (base : Nat) (digits : List Char) : Option Nat :=
    digits.foldlM (fun value c => do
      let d ← hexDigit? c
      if d < base then some (base * value + d) else none) 0
  match text with
  | [] => none
  | '0' :: 'x' :: digits => read 16 digits
  | '0' :: 'X' :: digits => read 16 digits
  | '0' :: d :: digits => read 8 (d :: digits)
  | digits => read 10 digits

def labels (domain : List Char) : List (List Char) :=
  let parts := splitOn '.' domain
  if parts.getLast? = some [] ∧ 1 < parts.length then parts.dropLast else parts

/-- Whether the last label of a domain is a number, so that the domain must be an address. -/
def endsInNumber (domain : List Char) : Bool :=
  (labels domain).getLast?.any fun label =>
    !label.isEmpty && (label.all Char.isDigit || (addressNumber? label).isSome)

/-- Whether a domain is an address of up to four numbers. -/
def isFourAddress (domain : List Char) : Bool :=
  let parts := labels domain
  match parts.mapM addressNumber? with
  | some numbers =>
    numbers.length ≤ 4 && numbers.dropLast.all (· ≤ 255) &&
      numbers.getLast?.any (· < Nat.pow 256 (5 - numbers.length))
  | none => false

/-- Whether a text is a decimal byte without needless zeros. -/
def isByteText (text : List Char) : Bool :=
  !text.isEmpty && text.length ≤ 3 && text.all Char.isDigit &&
    (text.length == 1 || text.head? != some '0') &&
    text.foldl (fun n c => 10 * n + (c.toNat - '0'.toNat)) 0 ≤ 255

/-- Whether a text is one to four hexadecimal digits. -/
def isPiece (text : List Char) : Bool :=
  !text.isEmpty && text.length ≤ 4 && text.all (hexDigit? · |>.isSome)

/-- The number of 16-bit pieces that groups between colons stand for; the last group may be an
address of four bytes. -/
def pieceCount? (groups : List (List Char)) : Option Nat :=
  match groups.getLast? with
  | none => some 0
  | some last =>
    if last.contains '.' then
      let bytes := splitOn '.' last
      if groups.dropLast.all isPiece && bytes.length == 4 && bytes.all isByteText then
        some (groups.length + 1)
      else none
    else if groups.all isPiece then some groups.length
    else none

/-- The groups of one side of a double colon. -/
def sideGroups (side : List Char) : List (List Char) :=
  if side.isEmpty then [] else splitOn ':' side

/-- Whether a text is an address of eight pieces, some zeros of which a double colon may hide. -/
def isEightAddress (text : List Char) : Bool :=
  match splitOnce? [':', ':'] text with
  | none => pieceCount? (sideGroups text) == some 8
  | some (before, after) =>
    match pieceCount? (sideGroups before), pieceCount? (sideGroups after) with
    | some a, some b => !before.contains '.' && a + b ≤ 7
    | _, _ => false

/-- Whether a host in brackets is a sound address. -/
def isBracketHost (host : List Char) : Bool :=
  host.getLast? == some ']' && isEightAddress (host.drop 1).dropLast

def isDomain (host : List Char) : Bool :=
  let bytes := percentDecode (textBytes (String.ofList host))
  match textOfBytes? bytes with
  | none => false
  | some text =>
    let domain := text.toList.flatMap domainChar
    !domain.isEmpty && domain.all isDomainChar && (!endsInNumber domain || isFourAddress domain)

/-- Whether a host is accepted. -/
def isHost (scheme : SchemeClass) (host : List Char) : Bool :=
  if host.head? == some '[' then isBracketHost host
  else if scheme = .other then !host.any isForbidden
  else isDomain host

/-- The characters of a host, up to a colon, a path or the end; colons in brackets belong to it. -/
def hostLength (scheme : SchemeClass) (inBrackets : Bool) : List Char → Nat
  | [] => 0
  | c :: rest =>
    if c = ':' ∧ !inBrackets then 0
    else if scheme.isSlash c || endsPath c then 0
    else
      1 + hostLength scheme (if c = '[' then true else if c = ']' then false else inBrackets) rest

/-- What follows the number that a colon announces after a host; none when it exceeds 65535. -/
def afterHostNumber? (text : List Char) : Option (List Char) :=
  match text with
  | ':' :: rest =>
    let digits := rest.takeWhile Char.isDigit
    let after := rest.dropWhile Char.isDigit
    let value := digits.foldl (fun n c => min 65536 (10 * n + (c.toNat - '0'.toNat))) 0
    let ends (c : Char) : Bool := c == '/' || c == '\\' || endsPath c
    if value ≤ 65535 ∧ after.head?.all ends then some after else none
  | _ => some text

/-- The text after the user information, and whether there was any. -/
def afterUser? (scheme : SchemeClass) (text : List Char) : Option (Bool × List Char) :=
  let authority := text.takeWhile fun c => !(scheme.isSlash c || endsPath c)
  let rest := text.drop authority.length
  match splitOn '@' authority with
  | [] | [_] => some (false, text)
  | parts =>
    let host := parts.getLast?.getD []
    let user := authority.length - host.length - 1
    if user = 0 then if host.isEmpty ∧ !rest.isEmpty then none else some (false, host ++ rest)
    else some (true, host ++ rest)

/-- The path of the text after the two slashes. -/
def authorityPath? (scheme : SchemeClass) (text : List Char) : Option (List Char) := do
  let (hasUser, text) ← afterUser? scheme text
  let host := text.take (hostLength scheme false text)
  let rest := text.drop host.length
  if host.isEmpty then guard (scheme != .web && !hasUser && rest.head? != some ':')
  else guard (isHost scheme host)
  return hierarchicalPath scheme (← afterHostNumber? rest)

def filePath? (text : List Char) : Option (List Char) :=
  match text with
  | a :: b :: rest =>
    if SchemeClass.file.isSlash a && SchemeClass.file.isSlash b then
      let host := rest.takeWhile fun c => !(SchemeClass.file.isSlash c || endsPath c)
      if isDrive host then some (hierarchicalPath .file rest)
      else if host.isEmpty || isHost .file host then
        some (hierarchicalPath .file (rest.drop host.length))
      else none
    else some (hierarchicalPath .file text)
  | _ => some (hierarchicalPath .file text)

/-- The text as it is read: without controls and spaces at its ends and without tabs and line
ends inside. -/
def prepared (text : List Char) : List Char :=
  (trimEnds (fun c => c.toNat ≤ 0x20) text).filter fun c => !(c == '\t' || c == '\n' || c == '\r')

/-- The path of an absolute address; none when the text is not one. -/
def path? (text : List Char) : Option (List Char) := do
  let (scheme, rest) ← scheme? (prepared text)
  match SchemeClass.ofScheme scheme with
  | .web => authorityPath? .web (rest.dropWhile (SchemeClass.web.isSlash ·))
  | .file => filePath? rest
  | .other =>
    match rest with
    | '/' :: '/' :: after => authorityPath? .other after
    | '/' :: _ => some (hierarchicalPath .other rest)
    | _ => some (opaquePath rest)

end QuerySynth.Url

namespace QuerySynth

/-- Whether a text is an absolute address. -/
def isAddress (text : String) : Bool :=
  (Url.path? text.toList).isSome

/-- The path of a server address, absolute or relative, without slashes at its end; empty when
the text is neither. -/
def basePathOf (address : String) : String :=
  let text := address.toList
  let path := (Url.path? text).orElse fun _ => Url.path? ("http://dummy".toList ++ text)
  String.ofList (Text.trimRight (· == '/') (path.getD []))

end QuerySynth
