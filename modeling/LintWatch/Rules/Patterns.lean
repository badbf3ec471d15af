import LintWatch.Text.Classes

/-! The three text patterns of the rules, each decided on one line:

* a credential: one of the keywords `api_key` (also `apikey`, `api-key`), `secret`,
  `password`, `passwd`, `token`, in any case and as a whole word, then blanks, `:` or `=`,
  blanks, a quote, at least eight characters that are neither quotes nor blanks, a quote;
* a marker: the leftmost whole word `TODO`, `FIXME` or `XXX`;
* trailing blanks: the line ends in a space or a tab.

A whole word has a word boundary on both sides: a word character on exactly one side. -/
namespace LintWatch.Rules

open LintWatch.Text (isWordChar isBlank)

/-- A word boundary between `before` and `after`; text ends count as non-word. -/
def boundary (before after : Option Char) : Bool :=
  (before.map isWordChar).getD false != (after.map isWordChar).getD false

/-- `c` equals the lower-case letter `lower` under simple case folding, which also folds the
Kelvin sign to `k` and the long s to `s`. -/
def foldsTo (c lower : Char) : Bool :=
  c == lower || c == lower.toUpper ||
  (lower == 'k' && c == Char.ofNat 0x212A) || (lower == 's' && c == Char.ofNat 0x17F)

/-- The text after a case-insensitive occurrence of `word` at its start. -/
def dropFolded : List Char → List Char → Option (List Char)
  | [], cs => some cs
  | w :: ws, c :: cs => if foldsTo c w then dropFolded ws cs else none
  | _ :: _, [] => none

def credentialKeywords : List (List Char) :=
  ["apikey", "api_key", "api-key", "secret", "password", "passwd", "token"].map String.toList

def isQuote (c : Char) : Bool := c == '"' || c == '\''

/-- What follows a keyword: blanks, `:` or `=`, blanks, then a quoted run of at least eight
characters that are neither quotes nor blanks. -/
def credentialTail (cs : List Char) : Bool :=
  match cs.dropWhile isBlank with
  | c :: rest =>
    if c == ':' || c == '=' then
      match rest.dropWhile isBlank with
      | q :: value =>
        if isQuote q then
          let run := value.takeWhile (fun c => !isQuote c && !isBlank c)
          run.length ≥ 8 && (value.drop run.length).head?.any isQuote
        else false
      | [] => false
    else false
  | [] => false

/-- A credential starts at `cs`, which follows the character `before`. -/
def credentialAt (before : Option Char) (cs : List Char) : Bool :=
  boundary before cs.head? &&
    credentialKeywords.any fun kw =>
      match dropFolded kw cs with
      | some rest => boundary kw.getLast? rest.head? && credentialTail rest
      | none => false

/-- A credential occurs somewhere in `cs`, which follows `before`. -/
def hasCredentialFrom (before : Option Char) : List Char → Bool
  | [] => false
  | c :: cs => credentialAt before (c :: cs) || hasCredentialFrom (some c) cs

def hasCredential (line : List Char) : Bool := hasCredentialFrom none line

def markerWords : List String := ["TODO", "FIXME", "XXX"]

/-- The marker word starting at `cs` after `before`, if any. -/
def markerAt (before : Option Char) (cs : List Char) : Option String :=
  if boundary before cs.head? then
    markerWords.find? fun w =>
      w.toList.isPrefixOf cs && boundary w.toList.getLast? (cs.drop w.length).head?
  else none

/-- The leftmost marker word in `cs`, which follows `before`. -/
def firstMarkerFrom (before : Option Char) : List Char → Option String
  | [] => none
  | c :: cs =>
    match markerAt before (c :: cs) with
    | some w => some w
    | none => firstMarkerFrom (some c) cs

def firstMarker (line : List Char) : Option String := firstMarkerFrom none line

/-- The line ends in a space or a tab. -/
def hasTrailingBlank (line : List Char) : Bool :=
  match line.getLast? with
  | some c => c == ' ' || c == '\t'
  | none => false

end LintWatch.Rules
