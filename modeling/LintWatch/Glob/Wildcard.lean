/-! Wildcard patterns, as used to ignore paths. They are matched against the whole text of a
path, character by character: `?` takes one character, `*` any run of characters (slashes
included), `[abc]` and `[a-z]` one character of a set and `[!abc]` one outside it, and `**`
forms a whole path component that reaches across directories. There are no escapes and no
alternatives.

A match is searched from left to right, and a sequence wildcard first tries to take
nothing. Once the rest of a pattern runs out of text, taking more text for an earlier
wildcard cannot help, so the search stops there. -/
namespace LintWatch.Glob.Wildcard

/-- One character of a set: itself, or an inclusive range. -/
inductive CharSpec where
  | single (c : Char)
  | range (lo hi : Char)
  deriving Repr, BEq, DecidableEq, Inhabited

def CharSpec.admits (c : Char) : CharSpec → Bool
  | .single s => c == s
  | .range lo hi => lo ≤ c && c ≤ hi

/-- One unit of a pattern. -/
inductive Token where
  | char (c : Char)
  | anyChar
  | anySequence
  /-- `**` as a whole component: it takes nothing, or text that ends in a slash. -/
  | anyRecursiveSequence
  | anyWithin (specs : List CharSpec)
  | anyExcept (specs : List CharSpec)
  deriving Repr, BEq, DecidableEq, Inhabited

/-- A pattern that does not parse: where, and why. -/
structure Error where
  position : Nat
  reason : String
  deriving Repr, BEq, DecidableEq

def Error.message (e : Error) : String :=
  "Pattern syntax error near position " ++ toString e.position ++ ": " ++ e.reason

def wildcardsReason : String := "wildcards are either regular `*` or recursive `**`"

def recursiveReason : String := "recursive wildcards must form a single path component"

def rangeReason : String := "invalid range pattern"

/-- The members of a set: `x-y` is a range wherever a `-` stands between two characters,
and every other character stands for itself. -/
def charSpecs : List Char → List CharSpec
  | lo :: '-' :: hi :: rest => .range lo hi :: charSpecs rest
  | c :: rest => .single c :: charSpecs rest
  | [] => []

/-- The index of the first `]` at or after `start`. -/
def closingAfter (cs : Array Char) (start : Nat) : Option Nat :=
  ((List.range (cs.size - start)).find? fun j => cs[start + j]? == some ']').map (start + ·)

/-- The characters from `lo` up to but not including `hi`. -/
def slice (cs : Array Char) (lo hi : Nat) : List Char := ((cs.toList.take hi).drop lo)

/-- Reads the pattern from index `i`; `tokens` holds the tokens read, newest first. Each
round reads at least one character, so `fuel` at least their number suffices. -/
def parseFrom (cs : Array Char) : Nat → Nat → List Token → Except Error (List Token)
  | 0, _, tokens => .ok tokens.reverse
  | fuel + 1, i, tokens =>
    match cs[i]? with
    | none => .ok tokens.reverse
    | some '?' => parseFrom cs fuel (i + 1) (.anyChar :: tokens)
    | some '*' =>
      let stars := ((List.range (cs.size - i)).takeWhile fun j => cs[i + j]? == some '*').length
      let next := i + stars
      if stars > 2 then .error ⟨i + 2, wildcardsReason⟩
      else if stars == 2 then
        if next == 2 || cs[i - 1]? == some '/' then
          let after := if cs[next]? == some '/' then some (next + 1)
            else if next == cs.size then some next else none
          match after with
          | none => .error ⟨next, recursiveReason⟩
          | some after =>
            let tokens := match tokens with
              | .anyRecursiveSequence :: _ :: _ => tokens
              | _ => .anyRecursiveSequence :: tokens
            parseFrom cs fuel after tokens
        else .error ⟨i - 1, recursiveReason⟩
      else parseFrom cs fuel next (.anySequence :: tokens)
    | some '[' =>
      if i + 4 ≤ cs.size && cs[i + 1]? == some '!' then
        match closingAfter cs (i + 3) with
        | some close =>
          parseFrom cs fuel (close + 1) (.anyExcept (charSpecs (slice cs (i + 2) close)) :: tokens)
        | none => .error ⟨i, rangeReason⟩
      else if i + 3 ≤ cs.size && cs[i + 1]? != some '!' then
        match closingAfter cs (i + 2) with
        | some close =>
          parseFrom cs fuel (close + 1) (.anyWithin (charSpecs (slice cs (i + 1) close)) :: tokens)
        | none => .error ⟨i, rangeReason⟩
      else .error ⟨i, rangeReason⟩
    | some c => parseFrom cs fuel (i + 1) (.char c :: tokens)

/-- A parsed pattern. -/
structure Pattern where
  text : String
  tokens : List Token
  deriving Repr, Inhabited

def Pattern.parse (text : String) : Except Error Pattern := do
  let cs := text.toList.toArray
  let tokens ← parseFrom cs (cs.size + 1) 0 []
  .ok ⟨text, tokens⟩

/-- How an attempt to match the rest of a pattern ends: a match, a mismatch that more text
for an earlier wildcard might mend, or one that it cannot. -/
inductive Outcome where
  | matched
  | restMismatch
  | entireMismatch
  deriving Repr, BEq, DecidableEq, Inhabited

/-- The first outcome of `attempt` over `inputs` that decides the match. -/
def firstDecided (attempt : List Char → Outcome) : List (List Char) → Option Outcome
  | [] => none
  | cs :: more =>
    match attempt cs with
    | .restMismatch => firstDecided attempt more
    | o => some o

/-- The text, then what is left after each of its characters. -/
def suffixes : List Char → List (List Char)
  | [] => [[]]
  | c :: rest => (c :: rest) :: suffixes rest

/-- The texts left after each slash of `cs`. -/
def afterSlashes : List Char → List (List Char)
  | [] => []
  | c :: rest => if c == '/' then rest :: afterSlashes rest else afterSlashes rest

/-- Matches tokens against text. A sequence wildcard tries the text as it is, then the
text after each character it may take; when none of those decides, the rest of the
pattern meets the end of the text. -/
def matchFrom : List Token → List Char → Outcome
  | [], cs => if cs.isEmpty then .matched else .restMismatch
  | .anySequence :: ts, cs =>
    (firstDecided (matchFrom ts) (suffixes cs)).getD (matchFrom ts [])
  | .anyRecursiveSequence :: ts, cs =>
    (firstDecided (matchFrom ts) (cs :: afterSlashes cs)).getD (matchFrom ts [])
  | _ :: _, [] => .entireMismatch
  | t :: ts, c :: cs =>
    let ok := match t with
      | .char d => c == d
      | .anyChar => true
      | .anyWithin specs => specs.any (·.admits c)
      | .anyExcept specs => !specs.any (·.admits c)
      | _ => false
    if ok then matchFrom ts cs else .restMismatch

def Pattern.matchesPath (p : Pattern) (text : String) : Bool :=
  matchFrom p.tokens text.toList == .matched

end LintWatch.Glob.Wildcard
