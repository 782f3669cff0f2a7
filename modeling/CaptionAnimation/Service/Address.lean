import CaptionAnimation.Text.Case
import CaptionAnimation.Text.Digit

/-! # Addresses of requests

Which path a request goes to. An address may name a scheme and a host, and carry a query and a fragment; all of these
are passed over. Steps to the same or the upper level are taken before escaped characters are read, and these are
read twice: once when a request is sent and once when it arrives. -/
namespace CaptionAnimation.Service.Address

/-- The part before the first of some characters. -/
def upTo (stops : List Char) (cs : List Char) : List Char := cs.takeWhile fun c => !stops.contains c

def isSchemeChar (c : Char) : Bool := c.isAlphanum || c == '+' || c == '.' || c == '-'

/-- Splits off a scheme. -/
def splitScheme (cs : List Char) : List Char × List Char :=
  let scheme := cs.takeWhile isSchemeChar
  match cs.drop scheme.length with
  | ':' :: rest => if scheme.head?.all Char.isAlpha then (scheme, rest) else ([], cs)
  | _ => ([], cs)

/-- Splits off a host. -/
def splitHost : List Char → List Char × List Char
  | '/' :: '/' :: rest =>
    let host := upTo ['/'] rest
    (host, rest.drop host.length)
  | cs => ([], cs)

/-- Leaves out steps to the same level, and takes back a level for each step up. -/
def settleSteps : (done : List (List Char)) → (steps : List (List Char)) → List (List Char)
  | done, [] => done.reverse
  | done, step :: rest =>
    if step == ['.'] then settleSteps done rest
    else if step == ['.', '.'] then settleSteps (if done == [[]] then done else done.tail) rest
    else settleSteps (step :: done) rest

def settle (path : List Char) : List Char :=
  ['/'].intercalate (settleSteps [] (path.splitOn '/'))

/-- The path of an address, with its escapes. Without a scheme and a host the path begins at the root. -/
def rawPath (address : List Char) : List Char :=
  let (scheme, rest) := splitScheme (upTo ['?', '#'] address)
  let (host, path) := splitHost rest
  let path := settle (if scheme.isEmpty || host.isEmpty then '/' :: path.dropWhile (· == '/') else path)
  if path.isEmpty then ['/'] else path

/-- The ASCII character that two hexadecimal digits stand for. -/
def escaped? (high low : Char) : Option Char := do
  let n := 16 * (← Text.hexValue? high) + (← Text.hexValue? low)
  if n < 0x80 then some (Char.ofNat n) else none

/-- Reads the escapes of ASCII characters; no path of the service has others. -/
def unescape : List Char → List Char
  | [] => []
  | '%' :: high :: low :: rest =>
    match escaped? high low with
    | some c => c :: unescape rest
    | none => '%' :: unescape (high :: low :: rest)
  | c :: rest => c :: unescape rest

/-- The path that a request arrives at. Slashes at its end are not looked at, nor is a line break after the name. -/
def path (address : String) : String :=
  let arrived := unescape (unescape (rawPath address.toList))
  let name := (arrived.reverse.dropWhile (· == '/'))
  String.ofList (if name.head? == some '\n' then name.tail else name).reverse

/-- The method of a request, in upper case. -/
def method (name : String) : String := String.ofList (Text.upper name.toList)

end CaptionAnimation.Service.Address
