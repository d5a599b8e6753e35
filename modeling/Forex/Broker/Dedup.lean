import Forex.Broker.Comments

/-!
`find_trade`: has this trade already been placed at the broker? The two reads
are kept apart, since the broker's book can change between them. A read that
fails is neither an answer nor an absence.
-/

namespace Forex

def commentForBridgeOrder (tradeId : String) : List Char :=
  (bridgeCommentPrefix ++ tradeId.toList.take commentIdLen).take 31

def dedupPrefixes (tradeId : String) : List (List Char) :=
  let short := tradeId.toList.take commentIdLen
  if short = [] then [] else [commentPrefix ++ short, bridgeCommentPrefix ++ short]

/-- `_matches`: nothing when the comment is not ours, else whether the EA wrote it. -/
def dedupMatches (prefixes : List (List Char)) (comment : String) : Option Bool :=
  (prefixes.findIdx? fun p => p.isPrefixOf comment.toList).map fun i => decide (i = 0)

structure DedupMatch where
  ticket : Option ℤ
  entryPrice : ℚ
  byEa : Bool
deriving DecidableEq, Repr

inductive DedupResult where
  | found (m : DedupMatch)
  | unknown
  | absent
deriving DecidableEq, Repr

def nonzero (n : ℤ) : Option ℤ := if n = 0 then none else some n

/-- The first half of `find_trade`; no result means that the deals are read next. -/
def findAmongPositions (tradeId : String) : Read (List Position) → Option DedupResult
  | .raised => some .unknown
  | .none => some .unknown
  | .value positions =>
      let ours (p : Position) : Option DedupMatch :=
        (dedupMatches (dedupPrefixes tradeId) p.comment).map fun byEa =>
          ⟨nonzero p.ticket, p.openPrice, byEa⟩
      (positions.findSome? ours).map .found

def findAmongDeals (tradeId : String) : Read (List Deal) → DedupResult
  | .raised => .unknown
  | .none => .unknown
  | .value deals =>
      let ours (d : Deal) : Option DedupMatch :=
        if d.opening then
          (dedupMatches (dedupPrefixes tradeId) d.comment).map fun byEa =>
            ⟨nonzero (if d.order = 0 then d.ticket else d.order), d.price, byEa⟩
        else none
      match deals.findSome? ours with
      | some m => .found m
      | none => .absent

theorem dedupMatches_isSome {prefixes : List (List Char)} {comment : String} :
    (dedupMatches prefixes comment).isSome = true ↔
      ∃ p ∈ prefixes, p.isPrefixOf comment.toList = true := by
  simp [dedupMatches]

theorem findAmongDeals_absent {tradeId : String} {read : Read (List Deal)}
    (h : findAmongDeals tradeId read = .absent) :
    ∃ deals, read = .value deals ∧ ∀ d ∈ deals, d.opening = true →
      dedupMatches (dedupPrefixes tradeId) d.comment = none := by
  cases read with
  | raised => exact absurd h (by simp [findAmongDeals])
  | none => exact absurd h (by simp [findAmongDeals])
  | value deals =>
      refine ⟨deals, rfl, ?_⟩
      intro d mem isOpening
      simp only [findAmongDeals] at h
      split at h
      · exact absurd h (by simp)
      · next nothing =>
          have missed := List.findSome?_eq_none_iff.mp nothing d mem
          simpa [isOpening] using missed

end Forex
