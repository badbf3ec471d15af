/-! JSON documents. Integers that fit a 64-bit word are kept exact; every other number is a
binary64 float, as a reader that maps numbers to machine words does. Objects keep their
members in the order they were written. -/
namespace LintWatch

inductive Json where
  | null
  | bool (b : Bool)
  | int (i : Int)
  | float (x : Float)
  | str (s : String)
  | arr (items : List Json)
  | obj (fields : List (String × Json))
  deriving Inhabited

namespace Json

/-- The member of an object under a key: the last one written, as a map keeps it. -/
def get? (j : Json) (key : String) : Option Json :=
  match j with
  | obj fields => (fields.reverse.find? (·.1 == key)).map (·.2)
  | _ => none

def getStr? : Json → Option String
  | str s => some s
  | _ => none

def getArr? : Json → Option (List Json)
  | arr xs => some xs
  | _ => none

def getBool? : Json → Option Bool
  | bool b => some b
  | _ => none

def isNull : Json → Bool
  | null => true
  | _ => false

def ofNat (n : Nat) : Json := int n

end Json

end LintWatch
