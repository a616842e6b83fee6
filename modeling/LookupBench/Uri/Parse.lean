import LookupBench.Uri.FilePath
import LookupBench.Uri.Host

/-!
# URIs

As much of the URL standard as decides two questions: whether a text is a URL, and which path on
this machine a `file` URL names. Blanks and controls around a text do not count, nor do tabs and
line breaks anywhere in it.
-/

namespace LookupBench

/-- A URL, reduced to what file lookups need. -/
inductive Uri where
  /-- A path as written, with escapes, and whether a host other than this one stands before it. -/
  | file (path : List Char) (foreign : Bool)
  | other (scheme : List Char)
  deriving DecidableEq, Repr

namespace Uri

def isEdge (c : Char) : Bool := c.toNat ≤ 0x20

def isDropped (c : Char) : Bool := c = '\t' || c = '\n' || c = '\r'

/-- The text that counts. -/
def relevant (text : List Char) : List Char :=
  ((text.dropWhile isEdge).reverse.dropWhile isEdge).reverse.filter (!isDropped ·)

def isSchemeChar (c : Char) : Bool :=
  isAsciiLetter c || isAsciiDigit c || c = '+' || c = '-' || c = '.'

/-- The scheme in lower case, and what follows its colon. -/
def scheme? (text : List Char) : Option (List Char × List Char) :=
  match text with
  | [] => none
  | c :: _ =>
    if !isAsciiLetter c then none
    else match text.dropWhile isSchemeChar with
      | ':' :: rest => some ((text.takeWhile isSchemeChar).map lowerAscii, rest)
      | _ => none

def specialSchemes : List (List Char) := ["http", "https", "ws", "wss", "ftp"].map String.toList

def endsAuthority (special : Bool) (c : Char) : Bool :=
  c = '/' || c = '?' || c = '#' || (special && c = '\\')

/-- Drop what stands before the last at-sign of an authority. The flag tells whether a user or a
password was given. A lone at-sign with nothing behind it is a fault. -/
def dropUser (special : Bool) (text : List Char) : Option (Bool × List Char) :=
  let authority := text.takeWhile (!endsAuthority special ·)
  if !authority.contains '@' then some (false, text)
  else
    let behind := (authority.reverse.takeWhile (· ≠ '@')).length
    let user := authority.take (authority.length - behind - 1)
    let rest := text.drop (user.length + 1)
    if user.isEmpty then
      match rest with
      | c :: _ => if endsAuthority special c then none else some (false, rest)
      | [] => some (false, rest)
    else some (user ≠ [':'], rest)

/-- The host of an authority, up to a colon outside brackets. -/
def takeHost (special : Bool) : Bool → List Char → List Char
  | _, [] => []
  | inside, c :: rest =>
    if endsAuthority special c || (c = ':' && !inside) then []
    else if c = '[' then c :: takeHost special true rest
    else if c = ']' then c :: takeHost special false rest
    else c :: takeHost special inside rest

def isPort (text : List Char) : Bool :=
  let ds := text.takeWhile isAsciiDigit
  decimalValue ds < 65536
    && (match text.drop ds.length with
      | [] => true
      | c :: _ => isSeparator c || c = '?' || c = '#')

/-- Whether an authority is well formed. -/
def isAuthority (toAscii : ToAscii) (special : Bool) (text : List Char) : Bool :=
  match dropUser special text with
  | none => false
  | some (user, rest) =>
    let host := takeHost special false rest
    let behind := rest.drop host.length
    let port := match behind with
      | ':' :: port => isPort port
      | _ => true
    if special then !host.isEmpty && (host? toAscii host).isSome && port
    else if host.isEmpty then !user && behind.head? ≠ some ':'
    else isOpaqueHost host && port

def localName : List Char := "localhost".toList

def build (draft : Draft) (text : List Char) : Uri :=
  let done := (draft.addAll [] text).finish
  .file done.path done.host

/-- What follows the scheme of a file URL. -/
def parseFile (toAscii : ToAscii) (text : List Char) : Option Uri :=
  match text with
  | a :: b :: rest =>
    if isSeparator a && isSeparator b then
      let host := rest.takeWhile (!endsAuthority true ·)
      let behind := rest.drop host.length
      if isDrive host then some (build ⟨['/'], false⟩ rest)
      else if host.isEmpty then some (build ⟨[], false⟩ behind)
      else match host? toAscii host with
        | none => none
        | some name =>
          if name = localName then some (build ⟨[], false⟩ behind)
          else match behind with
            | c :: more =>
              if isSeparator c then some (build ⟨['/'], true⟩ more)
              else some (build ⟨['/'], true⟩ behind)
            | [] => some (build ⟨['/'], true⟩ [])
    else if isSeparator a then some (build ⟨[], false⟩ text)
    else some (build ⟨['/'], false⟩ text)
  | [a] =>
    if isSeparator a then some (build ⟨[], false⟩ text) else some (build ⟨['/'], false⟩ text)
  | [] => some (build ⟨['/'], false⟩ text)

/-- The URL that a text writes, if it writes one on its own. -/
def parse? (text : List Char) (toAscii : ToAscii := foldName?) : Option Uri :=
  match scheme? (relevant text) with
  | none => none
  | some (scheme, rest) =>
    if scheme = "file".toList then parseFile toAscii rest
    else if specialSchemes.contains scheme then
      if isAuthority toAscii true (rest.dropWhile isSeparator) then some (.other scheme) else none
    else match rest with
      | '/' :: '/' :: more =>
        if isAuthority toAscii false more then some (.other scheme) else none
      | _ => some (.other scheme)

/-- A path that ends in what looks like a drive letter gets a slash behind it. -/
def closeDrive (path : Bytes) : Bytes :=
  match path.reverse with
  | last :: before :: _ :: _ =>
    if isDrive [Char.ofNat before.toNat, Char.ofNat last.toNat] then path ++ [47] else path
  | _ => path

/-- The path that a file URL names on this machine. -/
def path? : Uri → Option Bytes
  | .file path false => some (closeDrive (percentDecode (Utf8.encodeChars path)))
  | _ => none

end Uri

end LookupBench
