/-! Globs with brace alternatives, as used to classify paths. `?` stands for one byte, `*` for
any run of bytes (slashes included), `[...]` for a class of characters (`!` or `^` first
negates it), `{a,b}` for either branch (groups nest), and `\` makes the next character
literal. A `**` that fills a whole path component reaches across directories: at the start
it may stand for no directory at all (`**/x`), at the end for everything below (`x/**`), and
in between for one or more components (`a/**/b`). A `**` that does not fill a component is
two plain stars. -/
namespace LintWatch.Glob.Braced

/-- One unit of a parsed glob. -/
inductive Token where
  | literal (c : Char)
  | any
  | zeroOrMore
  /-- `**/` at the start: no directory, or any directories. -/
  | recursivePrefix
  /-- `/**` at the end: a slash, then anything. -/
  | recursiveSuffix
  /-- `/**/` inside: one slash, or a slash, anything, and a slash. -/
  | recursiveZeroOrMore
  /-- Inclusive character ranges. -/
  | charClass (negated : Bool) (ranges : List (Char × Char))
  | alternates (branches : List (List Token))
  deriving Repr, Inhabited

/-- Why a text is not a glob. -/
inductive ErrorKind where
  | unclosedClass
  | invalidRange (lo hi : Char)
  | unopenedAlternates
  | unclosedAlternates
  | danglingEscape
  deriving Repr, BEq, DecidableEq

def ErrorKind.text : ErrorKind → String
  | .unclosedClass => "unclosed character class; missing ']'"
  | .invalidRange lo hi => "invalid range; '" ++ lo.toString ++ "' > '" ++ hi.toString ++ "'"
  | .unopenedAlternates =>
    "unopened alternate group; missing '\x7b' (maybe escape '\x7d' with '[\x7d]'?)"
  | .unclosedAlternates =>
    "unclosed alternate group; missing '\x7d' (maybe escape '\x7b' with '[\x7b]'?)"
  | .danglingEscape => "dangling '\\'"

/-- A glob that failed to parse, with the reason. -/
structure Error where
  glob : String
  kind : ErrorKind
  deriving Repr, BEq

def Error.message (e : Error) : String := "error parsing glob '" ++ e.glob ++ "': " ++ e.kind.text

/-- The parser's position in the nesting of groups: the branch being written (newest token
first), the branches left open around it (innermost first), and for each open group the
number of branches outside it. -/
structure Parser where
  current : List Token := []
  outer : List (List Token) := []
  groups : List Nat := []

namespace Parser

def push (p : Parser) (t : Token) : Parser := { p with current := t :: p.current }

def inGroup (p : Parser) : Bool := !p.outer.isEmpty

/-- `{`: a new group whose first branch is now written. -/
def openGroup (p : Parser) : Parser :=
  { current := [], outer := p.current :: p.outer, groups := (p.outer.length + 1) :: p.groups }

/-- `,` inside a group starts its next branch; outside a group it is a literal. -/
def comma (p : Parser) : Parser :=
  if p.groups.isEmpty then p.push (.literal ',')
  else { p with current := [], outer := p.current :: p.outer }

/-- `}`: the branches of the innermost group become one token of the branch around it. -/
def closeGroup (p : Parser) : Except ErrorKind Parser :=
  match p.groups with
  | [] => .error .unopenedAlternates
  | start :: groups =>
    let k := p.outer.length - start
    let branches := ((p.current :: p.outer.take k).map List.reverse).reverse
    match p.outer.drop k with
    | around :: outer => .ok { current := .alternates branches :: around, outer, groups }
    | [] => .error .unopenedAlternates

/-- Replaces the newest token by a reach across directories, unless it already is one. -/
def reachAcross (p : Parser) (suffix : Bool) : Parser :=
  match p.current with
  | .recursivePrefix :: _ => p
  | .recursiveSuffix :: _ => p
  | _ :: rest =>
    { p with current := (if suffix then .recursiveSuffix else .recursiveZeroOrMore) :: rest }
  | [] => p

/-- After a `*`: `prev` is the character before it and `cs` what follows it. Answers the
parser, the characters left and the last character read. -/
def star (p : Parser) (prev : Option Char) (cs : List Char) : Parser × List Char × Char :=
  let twoStars (rest : List Char) := (p.push .zeroOrMore |>.push .zeroOrMore, rest, '*')
  match cs with
  | '*' :: rest =>
    if p.current.isEmpty then
      match rest with
      | [] => (p.push .recursivePrefix, [], '*')
      | '/' :: rest => (p.push .recursivePrefix, rest, '/')
      | _ => twoStars rest
    else if prev != some '/' && (!p.inGroup || (prev != some ',' && prev != some '\x7b')) then
      twoStars rest
    else
      match rest with
      | [] => (p.reachAcross true, [], '*')
      | '/' :: rest => (p.reachAcross false, rest, '/')
      | c :: rest' =>
        if p.inGroup && (c == ',' || c == '\x7d') then (p.reachAcross true, c :: rest', '*')
        else twoStars rest
  | _ => (p.push .zeroOrMore, cs, '*')

/-- Ends the range written last at `hi`. -/
def closeRange (ranges : List (Char × Char)) (hi : Char) : Except ErrorKind (List (Char × Char)) :=
  match ranges with
  | (lo, _) :: rest => if hi < lo then .error (.invalidRange lo hi) else .ok ((lo, hi) :: rest)
  | [] => .ok [(hi, hi)]

/-- The body of a class after `[` and its negation mark; `ranges` holds the ranges read,
newest first. A `]` or `-` in first place is literal, and a `-` last is literal. Answers the
ranges in written order and the characters after the closing `]`. -/
def classBody (first inRange : Bool) (ranges : List (Char × Char)) :
    List Char → Except ErrorKind (List (Char × Char) × List Char)
  | [] => .error .unclosedClass
  | ']' :: rest =>
    if first then classBody false inRange ((']', ']') :: ranges) rest
    else .ok ((if inRange then ('-', '-') :: ranges else ranges).reverse, rest)
  | '-' :: rest =>
    if first then classBody false false (('-', '-') :: ranges) rest
    else if inRange then do classBody false false (← closeRange ranges '-') rest
    else classBody false true ranges rest
  | c :: rest =>
    if inRange then do classBody false false (← closeRange ranges c) rest
    else classBody false false ((c, c) :: ranges) rest

/-- A class after its `[`: the token and the characters after it. -/
def charClass (cs : List Char) : Except ErrorKind (Token × List Char) := do
  let (negated, cs) := match cs with
    | '!' :: rest => (true, rest)
    | '^' :: rest => (true, rest)
    | _ => (false, cs)
  let (ranges, rest) ← classBody true false [] cs
  .ok (.charClass negated ranges, rest)

/-- Reads the characters `cs`, `prev` being the one before them; each round reads at least
one character, so `fuel` at least their number suffices. -/
def run : Nat → Parser → Option Char → List Char → Except ErrorKind Parser
  | 0, p, _, _ => .ok p
  | _, p, _, [] => .ok p
  | fuel + 1, p, prev, c :: cs =>
    match c with
    | '?' => run fuel (p.push .any) (some c) cs
    | '*' =>
      let (p, rest, last) := p.star prev cs
      run fuel p (some last) rest
    | '[' => do
      let (t, rest) ← charClass cs
      run fuel (p.push t) (some ']') rest
    | '\x7b' => run fuel p.openGroup (some c) cs
    | '\x7d' => do run fuel (← p.closeGroup) (some c) cs
    | ',' => run fuel p.comma (some c) cs
    | '\\' =>
      match cs with
      | [] => .error .danglingEscape
      | d :: rest => run fuel (p.push (.literal d)) (some d) rest
    | c => run fuel (p.push (.literal c)) (some c) cs

end Parser

/-- A parsed glob: its text and its tokens. -/
structure Glob where
  text : String
  tokens : List Token
  deriving Repr, Inhabited

def Glob.parse (text : String) : Except Error Glob :=
  let cs := text.toList
  match Parser.run (cs.length + 1) {} none cs with
  | .error kind => .error ⟨text, kind⟩
  | .ok p =>
    if p.inGroup then .error ⟨text, .unclosedAlternates⟩
    else .ok ⟨text, p.current.reverse⟩

end LintWatch.Glob.Braced
