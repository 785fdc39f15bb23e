import RowGate.Url.Basic
import RowGate.Url.Host

set_option autoImplicit false

namespace RowGate.Url

def isSchemeChar (c : Char) : Bool :=
  c.isAlphanum || c = '+' || c = '-' || c = '.'

def scheme? (text : List Char) : Option (List Char × List Char) :=
  match Text.cut? ':' text with
  | some (first :: more, rest) =>
    if first.isAlpha ∧ more.all isSchemeChar then some ((first :: more).map Char.toLower, rest)
    else none
  | _ => none

def isSeparator (special : Bool) (c : Char) : Bool :=
  c = '/' || (special && c = '\\')

-- Cuts at the last at sign.
def cutUser? (authority : List Char) : Option (List Char × List Char) :=
  (Text.cut? '@' authority.reverse).map fun (host, user) => (user.reverse, host.reverse)

def cutHost : Bool → List Char → List Char × List Char
  | _, [] => ([], [])
  | inside, c :: rest =>
    if c = ':' ∧ inside = false then ([], c :: rest)
    else
      let (host, port) := cutHost (if c = '[' then true else if c = ']' then false else inside) rest
      (c :: host, port)

def readPort (scheme text : List Char) : Except Fault (Option Nat × List Char) :=
  let digits := text.takeWhile Decimal.isDigit
  let rest := text.dropWhile Decimal.isDigit
  let value := Decimal.value digits
  if rest ≠ [] ∧ rest.head? ≠ some '\\' then .error .port
  else if 65535 < value then .error .port
  else .ok (if digits = [] ∨ defaultPort? scheme = some value then none else some value, rest)

def readUser (text : List Char) : List Char × List Char :=
  match Text.cut? ':' text with
  | some (name, password) => (escape userEscapes name, escape userEscapes password)
  | none => (escape userEscapes text, [])

def readAuthority (scheme text : List Char) (atEnd : Bool) : Except Fault (Authority × List Char) := do
  let (userText, hostText) := (cutUser? text).getD ([], text)
  if cutUser? text = some ([], []) ∧ atEnd = false then .error .emptyHost
  else
    let (name, password) := readUser userText
    let (hostText, portText) := cutHost false hostText
    if hostText = [] ∧ isSpecial scheme then .error .emptyHost
    else
      let host ← if isSpecial scheme then Host.special hostText else Host.plain hostText
      if host = [] ∧ (portText ≠ [] ∨ name ≠ [] ∨ password ≠ []) then .error .emptyHost
      else
        let (port, rest) ← readPort scheme (portText.drop 1)
        .ok ({ user := name, password, host, port }, rest)

-- The host of a file URL has no user and no port, and this machine goes without a name.
def fileHost (text : List Char) : Except Fault (List Char) :=
  if text = [] then .ok []
  else (Host.special text).map fun host => if host = "localhost".toList then [] else host

def cutPath (special : Bool) : List Char → List (List Char)
  | [] => [[]]
  | c :: rest =>
    if isSeparator special c then [] :: cutPath special rest
    else
      match cutPath special rest with
      | [] => [[c]]
      | segment :: more => (c :: segment) :: more

def readPath (scheme : List Char) (start : List (List Char)) (text : List Char) : Trail :=
  let special := isSpecial scheme
  match text.dropWhile isBreak with
  | [] => { segments := if special then [[]] else [] }
  | c :: rest =>
    let text := if isSeparator special c then rest else c :: rest
    Trail.addAll scheme pathEscapes { segments := start } (cutPath special text)

def cutTail (text : List Char) : List Char × Option (List Char) × Option (List Char) :=
  let (text, fragment) :=
    match Text.cut? '#' text with
    | some (before, fragment) => (before, some fragment)
    | none => (text, none)
  match Text.cut? '?' text with
  | some (before, query) => (before, some query, fragment)
  | none => (text, none, fragment)

-- What stands in front of a path, and the text of the path.
structure Front where
  authority : Option Authority
  start : List (List Char) := []
  path : List Char

def hierarchy (scheme text : List Char) (atEnd : Bool) : Except Fault Front := do
  let (front, path) := text.span (!isSeparator (isSpecial scheme) ·)
  let (authority, rest) ← readAuthority scheme front (atEnd && path = [])
  .ok { authority := some authority, path := rest ++ path }

/-- Two slashes open a host, unless a drive follows them. Behind an empty host the path keeps its
slash, so no drive in it comes first. -/
def fileFront (text : List Char) : Except Fault Front := do
  match text with
  | a :: b :: rest =>
    if isSeparator true a ∧ isSeparator true b then
      let (front, path) := rest.span (!isSeparator true ·)
      if isDrive front then .ok { authority := some { host := [] }, path := rest }
      else
        let host ← fileHost front
        .ok { authority := some { host }, start := if host = [] then [[]] else [], path }
    else .ok { authority := some { host := [] }, path := text }
  | _ => .ok { authority := some { host := [] }, path := text }

def front? (scheme text : List Char) (atEnd : Bool) : Except Fault (Option Front) :=
  if scheme = file then (fileFront text).map some
  else if isSpecial scheme then
    (hierarchy scheme (text.dropWhile (isSeparator true)) atEnd).map some
  else
    match text with
    | '/' :: '/' :: rest => (hierarchy scheme rest atEnd).map some
    | '/' :: _ => .ok (some { authority := none, path := text })
    | _ => .ok none

-- Drops so many characters, breaks not counted.
def dropCounted : Nat → List Char → List Char
  | 0, text => text
  | _, [] => []
  | count + 1, c :: rest =>
    if isBreak c then dropCounted (count + 1) rest else dropCounted count rest

def lastCounted (count : Nat) (text : List Char) : List Char :=
  dropCounted ((withoutBreaks text).length - count) text

def trimControls (text : List Char) : List Char :=
  let front := text.dropWhile (·.toNat ≤ 0x20)
  (front.reverse.dropWhile (·.toNat ≤ 0x20)).reverse

def read (text : List Char) : Except Fault (Option Url) :=
  let text := trimControls text
  match scheme? (withoutBreaks text) with
  | none => .error .relative
  | some (scheme, rest) => do
    let (rest, query, fragment) := cutTail rest
    let found ← front? scheme rest (query.isNone && fragment.isNone)
    .ok (found.map fun front =>
      -- Breaks still matter in the path, which is therefore read from the whole text.
      let whole := text.takeWhile fun c => c ≠ '#' ∧ c ≠ '?'
      let trail := readPath scheme front.start (lastCounted front.path.length whole)
      { scheme
        authority := if trail.hasDrive then some { host := [] } else front.authority
        segments := settlePath scheme trail.segments
        query := query.map (escape (queryEscapes (isSpecial scheme)))
        fragment := fragment.map (escape fragmentEscapes) })

end RowGate.Url
