import Forex.Broker.Terminal

/-!
The order comments that link a broker order to a trade. The EA writes `ea:` and
the first ten characters of the trade id on every leg; the Python bridge writes
`py:` and the same characters.
-/

namespace Forex

def isSpace (c : Char) : Bool :=
  let n := c.toNat
  decide ((9 ≤ n ∧ n ≤ 13) ∨ (28 ≤ n ∧ n ≤ 32) ∨ n = 0x85 ∨ n = 0xa0 ∨ n = 0x1680 ∨
    (0x2000 ≤ n ∧ n ≤ 0x200a) ∨ n = 0x2028 ∨ n = 0x2029 ∨ n = 0x202f ∨ n = 0x205f ∨ n = 0x3000)

def strip (text : List Char) : List Char :=
  ((text.dropWhile isSpace).reverse.dropWhile isSpace).reverse

/-- `str.lower` as far as Latin letters go; U+212A is the one other character
whose lower case is one of them. -/
def lower (text : List Char) : List Char :=
  text.map fun c => if c.toNat = 0x212a then 'k' else c.toLower

def contains (needle text : List Char) : Bool :=
  text.tails.any needle.isPrefixOf

def commentPrefix : List Char := ['e', 'a', ':']

def bridgeCommentPrefix : List Char := ['p', 'y', ':']

def commentIdLen : ℕ := 10

def commentForTrade (tradeId : String) : List Char :=
  commentPrefix ++ tradeId.toList.take commentIdLen

def tradeIdPrefixFromComment (comment : List Char) : Option (List Char) :=
  if commentPrefix.isPrefixOf comment then
    let ident := strip ((comment.drop commentPrefix.length).take commentIdLen)
    if ident = [] then none else some ident
  else none

/-- `find_template_leg_tickets`: positions whose opening deal carries the
trade's comment; an unreadable history resolves to none. -/
def findTemplateLegTickets (tradeId : String) (deals : Read (List Deal)) : List ℤ :=
  match tradeIdPrefixFromComment (commentForTrade tradeId) with
  | none => []
  | some ident =>
      let mine (d : Deal) : Bool :=
        d.opening && decide (tradeIdPrefixFromComment d.comment.toList = some ident) &&
          decide (d.positionId ≠ 0)
      ((deals.orEmptyCaught).filter mine).map Deal.positionId

end Forex
