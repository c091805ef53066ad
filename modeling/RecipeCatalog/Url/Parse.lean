import RecipeCatalog.Url.Host
import RecipeCatalog.Text.Point

/-!
# Absolute URLs

An absolute URL is read as the WHATWG URL standard reads one without a base. Leading and trailing
controls and spaces are trimmed and tabs and line breaks dropped; the text must then begin with a
scheme (an ASCII letter, then letters, digits, `+`, `-` or `.`, then `:`). Paths, queries and
fragments never make a URL fail, so what can fail is the authority:

* a special scheme (`http`, `https`, `ws`, `wss`, `ftp`) always has one, after any run of
  slashes and backslashes, and its host may not be empty;
* `file` has one after two slashes, where a host that is empty or a drive letter stands for no
  host;
* any other scheme has one only after `//`, with a host taken as it is.

In an authority, credentials end at the last `@` before the first of `/`, `?`, `#` (and `\` for
special schemes); the host ends at a `:` outside brackets or at one of those; a port is up to
five digits with a value at most 65535, followed by nothing or one of `/`, `\`, `?`, `#`.

Main definitions: `Url.Parts`, `Url.parse?`, `Url.isAbsolute`.
-/

namespace RecipeCatalog

namespace Url

/-- The parts of an absolute URL that reading decides on. -/
structure Parts where
  scheme : String
  host : Option Host
  port : Option Nat
  deriving DecidableEq, Repr

/-- Trims controls and spaces at both ends and drops tabs and line breaks. -/
def clean (cs : List Char) : List Char :=
  let blank (c : Char) : Bool := c.toNat ≤ 0x20
  let trimmed := ((cs.dropWhile blank).reverse.dropWhile blank).reverse
  trimmed.filter (fun c => c != '\t' && c != '\n' && c != '\r')

/-- Whether a character may follow the first letter of a scheme. -/
def isSchemeChar (c : Char) : Bool :=
  (c.toNat < 0x80 && c.isAlphanum) || c == '+' || c == '-' || c == '.'

/-- The lowercase scheme and the text after its colon. -/
def scheme? : List Char → Option (String × List Char)
  | [] => none
  | c :: rest =>
    if c.toNat < 0x80 && c.isAlpha then
      let name := rest.takeWhile isSchemeChar
      match rest.drop name.length with
      | ':' :: after => some (String.ofList ((c :: name).map Char.toLower), after)
      | _ => none
    else none

/-- Whether a scheme is special. -/
def isSpecial (scheme : String) : Bool :=
  ["http", "https", "ws", "wss", "ftp"].contains scheme

/-- The port a special scheme has when none is written. -/
def defaultPort (scheme : String) : Option Nat :=
  match scheme with
  | "http" | "ws" => some 80
  | "https" | "wss" => some 443
  | "ftp" => some 21
  | _ => none

/-- Whether a character ends a port. -/
def endsPort (c : Char) : Bool := c == '/' || c == '\\' || c == '?' || c == '#'

/-- The port after a colon: none when it fails, some none when it is empty or the default. -/
def port? (scheme : String) (cs : List Char) : Option (Option Nat) :=
  let ds := cs.takeWhile (fun c => c.isDigit)
  let value := ds.foldl (fun acc c => acc * 10 + (c.toNat - '0'.toNat)) 0
  let follows := match cs.drop ds.length with
    | [] => true
    | c :: _ => endsPort c
  if !follows || 65535 < value then none
  else if ds.isEmpty || defaultPort scheme == some value then some none
  else some (some value)

/-- Splits the text of a host from what follows it: the host ends at a `:` outside brackets,
at `/`, `?`, `#`, or at `\` for special schemes. -/
def splitHost (special : Bool) : Bool → List Char → List Char × List Char
  | _, [] => ([], [])
  | inside, c :: rest =>
    if (c == ':' && !inside) || (special && c == '\\') || c == '/' || c == '?' || c == '#' then
      ([], c :: rest)
    else
      let inside := if c == '[' then true else if c == ']' then false else inside
      let (host, after) := splitHost special inside rest
      (c :: host, after)

/-- The host and port of an authority, after its credentials. -/
def hostPort? (scheme : String) (credentials : Bool) (cs : List Char) :
    Option (Host × Option Nat) := do
  let special := isSpecial scheme
  let (text, rest) := splitHost special false cs
  if special && text.isEmpty then none
  let host ← if special then Host.special? text else Host.plain? text
  if host == .empty && (rest.head? == some ':' || credentials) then none
  match rest with
  | ':' :: after => do
    let port ← port? scheme after
    pure (host, port)
  | _ => pure (host, none)

/-- The position of the last `@` in a list. -/
def lastAt? (cs : List Char) : Option Nat :=
  if cs.contains '@' then some (cs.length - 1 - cs.reverse.idxOf '@') else none

/-- The host and port of an authority. Credentials end at the last `@` before the end of the
authority; an `@` that comes first and is followed by the end of the authority leaves no
host. -/
def authority? (scheme : String) (cs : List Char) : Option (Host × Option Nat) :=
  let special := isSpecial scheme
  let stops (c : Char) : Bool := c == '/' || c == '?' || c == '#' || (special && c == '\\')
  match lastAt? (cs.takeWhile (fun c => !stops c)) with
  | none => hostPort? scheme false cs
  | some k =>
    let after := cs.drop (k + 1)
    if k == 0 then
      match after with
      | c :: _ => if stops c then none else hostPort? scheme false after
      | [] => hostPort? scheme false after
    else hostPort? scheme (cs.take k != [':']) after

/-- The host of a `file` URL after its two slashes. -/
def fileHost? (cs : List Char) : Option Host :=
  Host.file? (cs.takeWhile (fun c => !(c == '/' || c == '\\' || c == '?' || c == '#')))

/-- Whether a character is a slash or a backslash. -/
def isSlash (c : Char) : Bool := c == '/' || c == '\\'

/-- Reads an absolute URL. -/
def parse? (text : List Char) : Option Parts := do
  let (scheme, rest) ← scheme? (clean text)
  if scheme == "file" then
    match rest with
    | a :: b :: more =>
      if isSlash a && isSlash b then
        let host ← fileHost? more
        pure ⟨scheme, some host, none⟩
      else pure ⟨scheme, none, none⟩
    | _ => pure ⟨scheme, none, none⟩
  else if isSpecial scheme then
    let (host, port) ← authority? scheme (rest.dropWhile isSlash)
    pure ⟨scheme, some host, port⟩
  else
    match rest with
    | '/' :: '/' :: more =>
      let (host, port) ← authority? scheme more
      pure ⟨scheme, some host, port⟩
    | _ => pure ⟨scheme, none, none⟩

/-- Whether text is an absolute URL; text holding a lone surrogate is not. -/
def isAbsolute (t : Text) : Bool :=
  match t.toString? with
  | some s => (parse? s.toList).isSome
  | none => false

end Url

end RecipeCatalog
