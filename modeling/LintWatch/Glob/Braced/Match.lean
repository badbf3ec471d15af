import LintWatch.Glob.Braced.Parse

/-! Matching a braced glob against a path. A glob is matched against the bytes of the
path's UTF-8 text, from its first byte to its last: `?` and classes take one byte, so a
class of non-ASCII characters stands for the bytes of their encodings, and a literal takes
the bytes of its character. A group with empty branches leaves them out, so `{a,}` is
`a`; a group with no other branch stands for nothing. The glob `**` alone matches
everything.

Globs that end in a file name written out (`**/name`) or in an extension (`*.ext`,
`**/x.ext`) are judged by the path's file name, and a path ending in `.` has none: such a
glob matches no path that ends in `.`. -/
namespace LintWatch.Glob.Braced

/-- The single-byte pieces a class of characters stands for once its characters are written
as bytes: a range's ends are their encodings, and the range itself runs from the last byte
of its lower end to the first byte of its upper end. -/
def classBytes (ranges : List (Char × Char)) : List (UInt8 × UInt8) :=
  ranges.flatMap fun (lo, hi) =>
    let a := String.utf8EncodeChar lo
    let z := String.utf8EncodeChar hi
    if lo == hi then a.map fun b => (b, b)
    else
      match a.reverse, z with
      | last :: before, head :: after =>
        before.reverse.map (fun b => (b, b)) ++ [(last, head)] ++ after.map fun b => (b, b)
      | _, _ => []

def inClass (items : List (UInt8 × UInt8)) (b : UInt8) : Bool :=
  items.any fun (lo, hi) => lo ≤ b && b ≤ hi

mutual
/-- Whether a token stands for nothing at all: a group all of whose branches do. -/
def Token.silent : Token → Bool
  | .alternates bs => silentBranches bs
  | _ => false

def silentSeq : List Token → Bool
  | [] => true
  | t :: ts => t.silent && silentSeq ts

def silentBranches : List (List Token) → Bool
  | [] => true
  | b :: bs => silentSeq b && silentBranches bs
end

def union (a b : List Nat) : List Nat := (a ++ b).eraseDups

/-- Positions `q ≥ p` of the path that hold a slash. -/
def slashesFrom (s : ByteArray) (p : Nat) : List Nat :=
  (List.range (s.size - p)).filterMap fun i =>
    if s[p + i]? == some ('/'.toNat.toUInt8) then some (p + i) else none

def byteAt? (s : ByteArray) (p : Nat) : Option UInt8 := s[p]?

def isSlashAt (s : ByteArray) (p : Nat) : Bool := byteAt? s p == some ('/'.toNat.toUInt8)

/-- Positions from `p` to the end. -/
def upToEnd (s : ByteArray) (p : Nat) : List Nat := (List.range (s.size + 1 - p)).map (p + ·)

/-- Positions after one byte that passes `ok`. -/
def stepByte (s : ByteArray) (ok : UInt8 → Bool) (ps : List Nat) : List Nat :=
  ps.filterMap fun p => match byteAt? s p with
    | some b => if ok b then some (p + 1) else none
    | none => none

mutual
/-- The positions where a match of the token can end, from matches that start at `ps`. -/
def Token.reach (s : ByteArray) : Token → List Nat → List Nat
  | .literal c, ps => (String.utf8EncodeChar c).foldl (fun ps b => stepByte s (· == b) ps) ps
  | .any, ps => stepByte s (fun _ => true) ps
  | .zeroOrMore, ps => match ps.min? with
    | some p => upToEnd s p
    | none => []
  | .recursivePrefix, ps => (ps.flatMap fun p => p :: (slashesFrom s p).map (· + 1)).eraseDups
  | .recursiveSuffix, ps =>
    (ps.flatMap fun p => if isSlashAt s p then upToEnd s (p + 1) else []).eraseDups
  | .recursiveZeroOrMore, ps =>
    (ps.flatMap fun p =>
      if isSlashAt s p then (p + 1) :: (slashesFrom s (p + 1)).map (· + 1) else []).eraseDups
  | .charClass negated ranges, ps =>
    let items := classBytes ranges
    stepByte s (fun b => inClass items b != negated) ps
  | .alternates bs, ps => if silentBranches bs then ps else reachBranches s bs ps

def reachSeq (s : ByteArray) : List Token → List Nat → List Nat
  | [], ps => ps
  | t :: ts, ps => reachSeq s ts (t.reach s ps)

def reachBranches (s : ByteArray) : List (List Token) → List Nat → List Nat
  | [], _ => []
  | b :: bs, ps => union (if silentSeq b then [] else reachSeq s b ps) (reachBranches s bs ps)
end

def Token.literalChar? : Token → Option Char
  | .literal c => some c
  | _ => none

/-- The characters of tokens that are all literals. -/
def literals? (ts : List Token) : Option (List Char) := ts.mapM Token.literalChar?

namespace Glob

/-- The glob is one fixed text. -/
def isLiteral (g : Glob) : Bool := !g.tokens.isEmpty && (literals? g.tokens).isSome

/-- `**/name`: a written-out file name. -/
def namesFile (g : Glob) : Bool :=
  match g.tokens with
  | .recursivePrefix :: rest =>
    match literals? rest with
    | some cs => !cs.isEmpty && !cs.contains '/'
    | none => false
  | _ => false

/-- `*.ext` or `**/*.ext` with a plain extension. -/
def namesExtension (g : Glob) : Bool :=
  let body := match g.tokens with
    | .recursivePrefix :: rest => rest
    | ts => ts
  match body with
  | .zeroOrMore :: .literal '.' :: rest =>
    match literals? rest with
    | some cs => !cs.contains '.' && !cs.contains '/'
    | none => false
  | _ => false

/-- Fixed text followed by `*` or `/**`. -/
def isPrefix (g : Glob) : Bool :=
  match g.tokens.reverse with
  | .zeroOrMore :: init => match literals? init with
    | some cs => !cs.isEmpty
    | none => false
  | .recursiveSuffix :: init => (literals? init).isSome
  | _ => g.isLiteral

/-- Optional `**/`, optional `*`, then fixed text. -/
def isSuffix (g : Glob) : Bool :=
  let (afterPrefix, lead) := match g.tokens with
    | .recursivePrefix :: rest => (rest, match rest with
      | .literal _ :: _ => "/"
      | _ => "")
    | ts => (ts, "")
  let body? := match afterPrefix with
    | .zeroOrMore :: rest => some rest
    | [] => none
    | ts => some ts
  match body? with
  | some body => match literals? body with
    | some cs => let lit := lead ++ String.ofList cs
      !lit.isEmpty && lit != "/"
    | none => false
  | none => false

/-- The glob ends in fixed text holding a dot with no slash after it. -/
def endsInExtension (g : Glob) : Bool :=
  let tail := (g.tokens.reverse.takeWhile fun t => (t.literalChar?).isSome)
  let cs := tail.filterMap Token.literalChar?
  match cs.findIdx? (· == '.') with
  | some i => !(cs.take i).contains '/'
  | none => false

/-- Whether the glob is judged by the path's file name: a written-out file name, an
extension, or a tail with an extension that no simpler reading covers. -/
def judgedByName (g : Glob) : Bool :=
  g.namesFile || g.namesExtension ||
    (!g.isLiteral && !g.isPrefix && !g.isSuffix && g.endsInExtension)

/-- Whether the glob matches the whole of the path. -/
def accepts (g : Glob) (path : String) : Bool :=
  match g.tokens with
  | [.recursivePrefix] => true
  | ts =>
    let s := path.toUTF8
    (reachSeq s ts [0]).contains s.size && !(g.judgedByName && path.endsWith ".")

end Glob

/-- A list of globs; a path matches the set when it matches one of them. -/
structure GlobSet where
  globs : List Glob
  deriving Repr, Inhabited

namespace GlobSet

/-- Parses every pattern; the first that fails decides the error. -/
def parse (patterns : List String) : Except Error GlobSet :=
  (patterns.mapM Glob.parse).map GlobSet.mk

def accepts (set : GlobSet) (path : String) : Bool := set.globs.any (·.accepts path)

end GlobSet

end LintWatch.Glob.Braced
