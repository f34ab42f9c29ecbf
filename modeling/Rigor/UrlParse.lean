import Rigor.PyText
import Mathlib.Data.List.Infix

/-!
# `urlparse`

The parts of a URL that `urllib.parse.urlparse` gives: scheme, user, password,
hostname and fragment. A text is the list of its code points.
-/

namespace Py

/-- `s.partition(c)`, and whether `c` is there. -/
def partition (c : Nat) (s : Str) : Str × Bool × Str :=
  match s.dropWhile fun x => x ≠ c with
  | [] => (s, false, [])
  | _ :: rest => (s.takeWhile fun x => x ≠ c, true, rest)

/-- `s.rpartition(c)`. -/
def rpartition (c : Nat) (s : Str) : Str × Bool × Str :=
  match partition c s.reverse with
  | (tail, true, head) => (head.reverse, true, tail.reverse)
  | (_, false, _) => ([], false, s)

def isAsciiLetter (c : Nat) : Bool := (65 ≤ c ∧ c ≤ 90) ∨ (97 ≤ c ∧ c ≤ 122)

def isAsciiDigit (c : Nat) : Bool := 48 ≤ c ∧ c ≤ 57

/-- `str.lower` of ASCII letters. -/
def asciiLower (s : Str) : Str := s.map fun c => if 65 ≤ c ∧ c ≤ 90 then c + 32 else c

structure ParseResult where
  scheme : Str
  username : Option Str
  password : Option Str
  hostname : Option Str
  fragment : Str

/-- What `urlparse` and its callers take from the Unicode tables: `str.lower`,
`str.casefold`, and the checks that `_checknetloc` and `_check_bracketed_netloc`
make of a network location. -/
structure UrlText where
  lower : Str → Str
  casefold : Str → Str
  netlocOk : Str → Bool

/-- The scheme and what is behind it. -/
def splitScheme (url : Str) : Str × Str :=
  match partition 58 url with
  | (c :: scheme, true, rest) =>
      if isAsciiLetter c ∧ (c :: scheme).all fun x => isAsciiLetter x || isAsciiDigit x || x ∈ [43, 45, 46]
      then (asciiLower (c :: scheme), rest)
      else ([], url)
  | _ => ([], url)

/-- The network location and what is behind it. -/
def splitNetloc (url : Str) : Str × Str :=
  match url with
  | 47 :: 47 :: rest =>
      let ends := fun x : Nat => x ∈ [47, 63, 35]
      (rest.takeWhile fun x => !ends x, rest.dropWhile fun x => !ends x)
  | _ => ([], url)

/-- `hostname` of a network location without its user. -/
def hostnameOf (t : UrlText) (hostinfo : Str) : Option Str :=
  let host :=
    match partition 91 hostinfo with
    | (_, true, bracketed) => (partition 93 bracketed).1
    | (_, false, _) => (partition 58 hostinfo).1
  if host = [] then none
  else
    match partition 37 host with
    | (name, true, zone) => some (t.lower name ++ 37 :: zone)
    | (name, false, _) => some (t.lower name)

/-- `urlparse`; `none` for a `ValueError`. -/
def urlparse (t : UrlText) (url : Str) : Option ParseResult :=
  let cleaned := (url.dropWhile fun c => c ≤ 32).filter fun c => c ∉ [9, 10, 13]
  let (scheme, behind) := splitScheme cleaned
  let (netloc, path) := splitNetloc behind
  if (91 ∈ netloc) ≠ (93 ∈ netloc) ∨ t.netlocOk netloc = false then none
  else
    let (userinfo, hasUser, hostinfo) := rpartition 64 netloc
    let (username, hasPassword, password) := partition 58 userinfo
    some
      { scheme := scheme
        username := if hasUser then some username else none
        password := if hasUser ∧ hasPassword then some password else none
        hostname := hostnameOf t hostinfo
        fragment := (partition 35 path).2.2 }

/-- `parsed.username or parsed.password`, as a truth value. -/
def ParseResult.hasCredentials (p : ParseResult) : Bool :=
  p.username.any (fun s => s ≠ []) || p.password.any fun s => s ≠ []

end Py
