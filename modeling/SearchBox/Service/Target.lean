import SearchBox.Text.Percent
import SearchBox.Text.Quoted
import SearchBox.Text.Split

/-!
This module contains the targets of requests. A target may be a whole address or only the end of
one, and it may take detours through dots and percent escapes. All that remains of it is the path
that it leads to.
-/

namespace SearchBox

structure Target where
  path : String
  deriving DecidableEq, Repr, Inhabited

namespace Target

inductive Fault where
  | tooLong
  | unprintable (c : Char) (position : Nat)
  /--
  The path starts with two slashes, and there is neither a scheme nor a host before it.
  -/
  | doubleSlash
  /--
  The path starts with a colon, and there is neither a scheme nor a host before it.
  -/
  | colon
  deriving DecidableEq, Repr

def Fault.message : Fault → String
  | .tooLong => "URL too long"
  | .unprintable c position =>
    "Invalid non-printable ASCII character in URL, " ++ Text.quoted (String.singleton c)
      ++ " at position " ++ toString position ++ "."
  | .doubleSlash => "Relative URLs cannot have a path starting with '//'"
  | .colon => "Relative URLs cannot have a path starting with ':'"

def maxLength : Nat :=
  65536

def isControl (c : Char) : Bool :=
  c.toNat < 0x20 || c.toNat == 0x7F

def isScheme : List Char → Bool
  | [] => true
  | c :: cs => c.isAlpha && cs.all (fun c => c.isAlphanum || c == '+' || c == '.' || c == '-')

def splitScheme (cs : List Char) : List Char × List Char :=
  match cs.dropWhile (· != ':') with
  | _ :: rest =>
    let scheme := cs.takeWhile (· != ':')
    if isScheme scheme then (scheme, rest) else ([], cs)
  | [] => ([], cs)

/--
Whether `c` ends the path of an address. What follows is a query or a fragment.
-/
def endsPath (c : Char) : Bool :=
  c == '?' || c == '#'

/--
The host of an address behind its scheme, and what follows it. A host stands behind two slashes.
-/
def splitHost : List Char → List Char × List Char
  | '/' :: '/' :: cs =>
    let inHost := fun c => c != '/' && !endsPath c
    (cs.takeWhile inHost, cs.dropWhile inHost)
  | cs => ([], cs)

/--
Add a component to those before it, of which the last one comes first.
-/
def addComponent (before : List (List Char)) (component : List Char) : List (List Char) :=
  if component = ['.'] then
    before
  else if component = ['.', '.'] then
    -- the empty component at the front stays
    if before = [[]] then before else before.tail
  else
    component :: before

def withoutDots (path : List Char) : List Char :=
  ['/'].intercalate ((Text.splitOn '/' path).foldl addComponent []).reverse

def destination (path : List Char) : Target :=
  let path := withoutDots path
  let path := if path.isEmpty then ['/'] else path
  -- the escapes are replaced at both ends of the way
  ⟨String.ofList (Text.unescapePercent (Text.unescapePercent path))⟩

/--
The target behind the address of the service, to which all but whole addresses belong.
-/
def ofAddress (cs : List Char) : Except Fault Target :=
  let (scheme, rest) := splitScheme cs
  let (host, rest) := splitHost rest
  let path := rest.takeWhile (!endsPath ·)
  if scheme.isEmpty && host.isEmpty && ['/', '/'].isPrefixOf path then
    .error .doubleSlash
  else if scheme.isEmpty && host.isEmpty && [':'].isPrefixOf path then
    .error .colon
  else if scheme.isEmpty || host.isEmpty then
    .ok (destination ('/' :: path.dropWhile (· == '/')))
  else
    .ok (destination path)

def ofText (text : String) : Except Fault Target :=
  let cs := text.toList
  if maxLength < cs.length then
    .error .tooLong
  else
    match cs.findIdx? isControl with
    | some position => .error (.unprintable (cs.getD position ' ') position)
    | none => ofAddress cs

end Target

end SearchBox
