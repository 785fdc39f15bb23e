import RowGate.Number.Decimal
import RowGate.Text.Percent

set_option autoImplicit false

/-!
# URLs

A URL whose path is a list of segments. Every part is kept as it is written, so `Url.write` only puts
the parts together. `push` adds one segment, escaping what would end it.
-/

namespace RowGate

structure Url.Authority where
  user : List Char := []
  password : List Char := []
  host : List Char
  port : Option Nat := none
  deriving DecidableEq

structure Url where
  scheme : List Char
  authority : Option Url.Authority
  -- The texts behind each slash; an empty path has none.
  segments : List (List Char)
  query : Option (List Char) := none
  fragment : Option (List Char) := none
  deriving DecidableEq

namespace Url

def file : List Char := "file".toList

def defaultPorts : List (List Char × Option Nat) :=
  [("http".toList, some 80), ("https".toList, some 443), ("ws".toList, some 80),
    ("wss".toList, some 443), ("ftp".toList, some 21), (file, none)]

def defaultPort? (scheme : List Char) : Option Nat :=
  (defaultPorts.lookup scheme).join

def isSpecial (scheme : List Char) : Bool :=
  (defaultPorts.lookup scheme).isSome

def plainOutside (escaped : List Char) (c : Char) : Bool :=
  0x20 < c.toNat && c.toNat < 0x7F && !escaped.contains c

def fragmentEscapes : List Char := ['"', '<', '>', '`']

def pathEscapes : List Char := fragmentEscapes ++ ['#', '?', '\x7b', '\x7d']

def userEscapes : List Char :=
  pathEscapes ++ ['/', ':', ';', '=', '@', '[', '\\', ']', '^', '|']

def queryEscapes (special : Bool) : List Char :=
  ['"', '#', '<', '>'] ++ if special then ['\''] else []

def segmentEscapes (special : Bool) : List Char :=
  pathEscapes ++ ['/', '%'] ++ if special then ['\\'] else []

def escape (escaped text : List Char) : List Char :=
  Text.Percent.encode (plainOutside escaped) text

def isBreak (c : Char) : Bool :=
  c = '\t' || c = '\n' || c = '\r'

def withoutBreaks (text : List Char) : List Char :=
  text.filter (!isBreak ·)

def isSingleDot (segment : List Char) : Bool :=
  ["%2e".toList, ['.']].contains (segment.map Char.toLower)

def isDoubleDot (segment : List Char) : Bool :=
  ["..".toList, ".%2e".toList, "%2e.".toList, "%2e%2e".toList].contains (segment.map Char.toLower)

def isDrive : List Char → Bool
  | [letter, mark] => letter.isAlpha && (mark = ':' || mark = '|')
  | _ => false

def shorten (segments : List (List Char)) : List (List Char) :=
  if segments.getLast?.any isDrive then segments else segments.dropLast

-- Segments as they are read from the front.
structure Trail where
  segments : List (List Char) := []
  -- The drive of a file URL comes first and leaves no room for a host.
  hasDrive : Bool := false

namespace Trail

-- Cuts a drive from more text when a break stands between them.
def cutDrive? (text : List Char) : Option (List Char × List Char) :=
  match text.dropWhile isBreak with
  | letter :: rest =>
    match rest.dropWhile isBreak with
    | ':' :: more =>
      if letter.isAlpha && more.head?.any isBreak && withoutBreaks more ≠ [] then
        some ([letter, ':'], withoutBreaks more)
      else none
    | _ => none
  | [] => none

-- Behind the last dots the path ends in a slash.
def endSlash (last : Bool) : List (List Char) :=
  if last then [[]] else []

/-- Adds the text of a segment; dots walk the path instead, and in a file URL a first drive is written
with a colon. -/
def add (scheme escaped : List Char) (trail : Trail) (text : List Char) (last : Bool) : Trail :=
  let segment := escape escaped (withoutBreaks text)
  let isFirst := scheme = file && trail.segments = []
  match if isFirst then cutDrive? text else none with
  | some (drive, rest) => { trail with segments := [drive, escape escaped rest] }
  | none =>
    if isDoubleDot segment then
      { trail with segments := shorten trail.segments ++ endSlash last }
    else if isSingleDot segment then
      { trail with segments := trail.segments ++ endSlash last }
    else if isFirst && isDrive segment then
      { segments := [segment.take 1 ++ [':']], hasDrive := true }
    else { trail with segments := trail.segments ++ [segment] }

def addAll (scheme escaped : List Char) : Trail → List (List Char) → Trail
  | trail, [] => trail
  | trail, [text] => trail.add scheme escaped text true
  | trail, text :: rest => addAll scheme escaped (trail.add scheme escaped text false) rest

end Trail

-- The path of a file URL starts with no empty segment.
def withoutLeadingBlanks : List (List Char) → List (List Char)
  | [] :: next :: rest => withoutLeadingBlanks (next :: rest)
  | path => path

def settlePath (scheme : List Char) (path : List (List Char)) : List (List Char) :=
  if scheme = file then withoutLeadingBlanks path else path

-- The root path with nothing behind its slash counts as empty.
def pushOnto (scheme : List Char) (path : List (List Char)) (segment : String) :
    List (List Char) :=
  let trail : Trail := { segments := if path = [[]] then [] else path }
  let escaped := segmentEscapes (isSpecial scheme)
  settlePath scheme (trail.add scheme escaped segment.toList true).segments

-- Adds a segment at the end of the path; `.` and `..` add nothing.
def push (url : Url) (segment : String) : Url :=
  if segment = "." ∨ segment = ".." then url
  else { url with segments := pushOnto url.scheme url.segments segment }

-- Drops the empty segment behind a last slash, but not the root.
def popBlank (url : Url) : Url :=
  if 1 < url.segments.length ∧ url.segments.getLast? = some [] then
    { url with segments := url.segments.dropLast }
  else url

def appendPairs (url : Url) (pairs : List (String × String)) : Url :=
  let more := Text.Percent.formText pairs
  match url.query with
  | none | some [] => { url with query := some more }
  | some query => { url with query := some (query ++ '&' :: more) }

def Authority.write (authority : Authority) : List Char :=
  let password := if authority.password = [] then [] else ':' :: authority.password
  let userinfo := authority.user ++ password
  let userinfo := if userinfo = [] then [] else userinfo ++ ['@']
  let port := (authority.port.map fun port => ':' :: Decimal.write port).getD []
  '/' :: '/' :: userinfo ++ authority.host ++ port

-- Two slashes at the start of a path would open an authority, so a dot stands between them.
def pathMark (url : Url) : List Char :=
  match url.authority, url.segments with
  | none, [] :: _ :: _ => ['/', '.']
  | _, _ => []

def path (url : Url) : List Char :=
  url.segments.flatMap ('/' :: ·)

def write (url : Url) : List Char :=
  url.scheme ++ ':' :: (url.authority.map Authority.write).getD [] ++ pathMark url ++ path url ++
    (url.query.map ('?' :: ·)).getD [] ++ (url.fragment.map ('#' :: ·)).getD []

def text (url : Url) : String :=
  .ofList url.write

end Url

end RowGate
