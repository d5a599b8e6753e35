import Forex.Reconcile.Partition
import Mathlib.Data.Prod.Lex
import Mathlib.Data.String.Basic
import Mathlib.Order.WithBot

/-!
The signature of a report, `_diff_signature`, by which a standing disagreement is known for
a repeat: the entries that want attention as sorted tuples. It is to be the same for the
same snapshots in any order, and to be there at all, as a sort raises at two entries of
which only one is `None`.
-/

namespace Forex
open Support

namespace DiffKind

def text : DiffKind → String
  | .brokerOnlyOurs => "broker_only_ours"
  | .brokerOnlyManual => "broker_only_manual"
  | .dbOnlyClosed => "db_only_closed"
  | .dbOnlyNoEvidence => "db_only_no_evidence"
  | .unknownFilled => "unknown_filled"
  | .unknownNotFilled => "unknown_not_filled"
  | .matched => "matched"

/-- `_ATTENTION_KINDS`. -/
def attention : DiffKind → Bool
  | .matched => false
  | _ => true

end DiffKind

/-- The part of an entry that counts for the signature. -/
structure SignatureTuple where
  kind : DiffKind
  tradeId : Option String
  signalId : Option String
  ticket : Option ℤ
  detail : String
deriving DecidableEq, Repr

def DiffEntry.signatureTuple (e : DiffEntry) : Option SignatureTuple :=
  if e.kind.attention then some ⟨e.kind, e.tradeId, e.signalId, e.ticket, e.detail⟩ else none

/-- Two fields of a tuple that `<` can come to: the same, or none of them `None`. -/
def Sortable {α : Type} (x y : Option α) : Prop := x = y ∨ x.isSome = true ∧ y.isSome = true

instance {α : Type} [DecidableEq α] (x y : Option α) : Decidable (Sortable x y) :=
  inferInstanceAs (Decidable (_ ∨ _))

namespace SignatureTuple

/-- `<` of two tuples does not raise: their first fields that differ have an order. -/
def Comparable (a b : SignatureTuple) : Prop :=
  a.kind = b.kind → Sortable a.tradeId b.tradeId ∧
    (a.tradeId = b.tradeId → Sortable a.signalId b.signalId ∧
      (a.signalId = b.signalId → Sortable a.ticket b.ticket))

instance (a b : SignatureTuple) : Decidable (a.Comparable b) :=
  inferInstanceAs (Decidable (_ → _ ∧ (_ → _ ∧ (_ → _))))

/-- The fields in the order of the tuple, where `None` may stand anywhere, as it is never
compared with a value. -/
def order (a : SignatureTuple) :
    String ×ₗ WithBot String ×ₗ WithBot String ×ₗ WithBot ℤ ×ₗ String :=
  toLex (a.kind.text, toLex (a.tradeId, toLex (a.signalId, toLex (a.ticket, a.detail))))

theorem order_injective : Function.Injective order := by
  rintro ⟨k, tr, si, ti, de⟩ ⟨k', tr', si', ti', de'⟩ same
  simp only [order, EmbeddingLike.apply_eq_iff_eq, Prod.mk.injEq] at same
  obtain ⟨kinds, rfl, rfl, rfl, rfl⟩ := same
  have : k = k' := by
    revert kinds
    cases k <;> cases k' <;> decide
  rw [this]

instance : LinearOrder SignatureTuple := LinearOrder.lift' order order_injective

end SignatureTuple

/-- The tuples of a report that go into its signature. -/
def signatureTuples (report : List DiffEntry) : List SignatureTuple :=
  report.filterMap DiffEntry.signatureTuple

/-- `_diff_signature`; none where `sorted` raises. The tuples of one kind fall into classes
with and without `None`, and no sort can put them in order without a comparison across. -/
def diffSignature (report : List DiffEntry) : Option (List SignatureTuple) :=
  let tuples := signatureTuples report
  if ∀ a ∈ tuples, ∀ b ∈ tuples, a.Comparable b then some (tuples.insertionSort (· ≤ ·)) else none

theorem insertionSort_eq_iff {as bs : List SignatureTuple} :
    as.insertionSort (· ≤ ·) = bs.insertionSort (· ≤ ·) ↔ as.Perm bs := by
  constructor
  · intro same
    have sorted := List.perm_insertionSort (· ≤ ·) bs
    rw [← same] at sorted
    exact (List.perm_insertionSort (· ≤ ·) as).symm.trans sorted
  · intro perm
    refine List.Perm.eq_of_pairwise' (List.pairwise_insertionSort _ _)
      (List.pairwise_insertionSort _ _) ?_
    exact (List.perm_insertionSort _ _).trans (perm.trans (List.perm_insertionSort _ _).symm)

section Signature
variable (positions : List Position) (deals : List Deal) (trades : Table Trade Trade.tradeId)
  (unknown : List UnknownSignal)

/-- The signature is there, and the same snapshots in another order have it as well. -/
structure SignatureStable : Prop where
  never_raises : (diffSignature (diffSnapshots positions deals trades.rows unknown)).isSome = true
  same : ∀ positions' deals' rows' unknown', positions'.Perm positions → deals'.Perm deals →
    rows'.Perm trades.rows → unknown'.Perm unknown →
      diffSignature (diffSnapshots positions' deals' rows' unknown') =
        diffSignature (diffSnapshots positions deals trades.rows unknown)

/-- An open row has this ticket. -/
def ByTicket (rows : List Trade) (ticket : ℤ) : Prop :=
  ∃ row ∈ rows.filter Trade.isOpen, ticketOf row = some ticket

/-- An open row is matched by the order comment: no position has its ticket. -/
structure ByComment (rows : List Trade) (row : Trade) : Prop where
  open_ : row ∈ rows.filter Trade.isOpen
  noTicket : ∀ p ∈ positions, ticketOf row ≠ some p.ticket

/-- The positions with the ticket may be some row's, in one order or another. -/
def MaybeTracked (rows : List Trade) (ticket : ℤ) : Prop :=
  ByTicket rows ticket ∨ ∃ row, ByComment positions rows row ∧
    ∃ q ∈ positions, carriesTrade row.tradeId q.comment = true ∧ q.ticket = ticket

/-- A leg that carries the trade of a row without a ticket is the ticket of a row, or the
only one that some such row can have. The positions left over, and the unknown signals, are
then all with or all without what they are sorted by. -/
structure SignatureFits (rows : List Trade) : Prop where
  legs : ∀ row, ByComment positions rows row → ∀ p ∈ positions,
    carriesTrade row.tradeId p.comment = true → ByTicket rows p.ticket ∨
      ∃ owner, ByComment positions rows owner ∧
        (∃ q ∈ positions, carriesTrade owner.tradeId q.comment = true) ∧
          ∀ q ∈ positions, carriesTrade owner.tradeId q.comment = true → q.ticket = p.ticket
  tickets : ∀ p ∈ positions, ∀ q ∈ positions, ¬ MaybeTracked positions rows p.ticket →
    ¬ MaybeTracked positions rows q.ticket → isOurs p.comment = isOurs q.comment →
      (p.ticket = 0 ↔ q.ticket = 0)
  sends : ∀ s ∈ unknown, ∀ s' ∈ unknown,
    sendFilled positions deals s = sendFilled positions deals s' →
      (s.trade = none ↔ s'.trade = none)

end Signature

theorem sortable_nonzero_iff {m n : ℤ} : Sortable (nonzero m) (nonzero n) ↔ (m = 0 ↔ n = 0) := by
  rw [Sortable, nonzero, nonzero]
  by_cases zero : m = 0 <;> by_cases zero' : n = 0 <;> simp [zero, zero', eq_comm]

theorem sortable_iff {α : Type} {x y : Option α} : Sortable x y ↔ (x = none ↔ y = none) := by
  cases x <;> cases y <;> simp [Sortable]

section Tuples
variable {positions positions' : List Position} {deals deals' : List Deal} {rows : List Trade}
  {unknown : List UnknownSignal} {row : Trade} {p : Position}

theorem sendFilled_perm (perm : positions'.Perm positions) (dealsPerm : deals'.Perm deals)
    (sig : UnknownSignal) : sendFilled positions' deals' sig = sendFilled positions deals sig := by
  rw [sendFilled, sendFilled, perm.any_eq, dealsPerm.any_eq]

theorem find?_isSome_perm {α : Type} {as bs : List α} (perm : as.Perm bs) (f : α → Bool) :
    (as.find? f).isSome = (bs.find? f).isSome := by
  rw [List.isSome_find?, List.isSome_find?, perm.any_eq]

/-- Whether a row has a position does not depend on the order of the positions. -/
theorem matchFor_isSome_perm (perm : positions'.Perm positions) (row : Trade) :
    (matchFor positions' row).isSome = (matchFor positions row).isSome := by
  rw [matchFor, matchFor, Option.isSome_or, Option.isSome_or, find?_isSome_perm perm]
  cases ticketOf row with
  | none => rfl
  | some ticket => rw [Option.bind_some, Option.bind_some, find?_isSome_perm perm]

/-- The tuple of a row without a position. -/
def lostTuple (deals : List Deal) (row : Trade) : SignatureTuple :=
  if (DiffEntry.closingDeals deals (ticketOf row)).isEmpty then
    ⟨.dbOnlyNoEvidence, some row.tradeId, none, ticketOf row,
      "open in the database, and the broker has no record of it"⟩
  else ⟨.dbOnlyClosed, some row.tradeId, none, ticketOf row, "closed at the broker across " ++
    toString (DiffEntry.closingDeals deals (ticketOf row)).length ++ " deal(s)"⟩

theorem rowEntry_tuple (positions : List Position) (deals : List Deal) (row : Trade) :
    (rowEntry positions deals row).signatureTuple =
      if (matchFor positions row).isSome then none else some (lostTuple deals row) := by
  rw [rowEntry]
  cases matchFor positions row with
  | some p => rfl
  | none =>
      rw [lostTuple]
      dsimp only
      cases DiffEntry.closingDeals deals (ticketOf row) <;> rfl

theorem lostTuple_perm (perm : deals'.Perm deals) (row : Trade) :
    lostTuple deals' row = lostTuple deals row := by
  have closers : (DiffEntry.closingDeals deals' (ticketOf row)).Perm
      (DiffEntry.closingDeals deals (ticketOf row)) := by
    rw [DiffEntry.closingDeals.eq_def, DiffEntry.closingDeals.eq_def]
    cases ticketOf row with
    | none => exact .refl _
    | some ticket => exact perm.filter _
  rw [lostTuple, lostTuple, closers.length_eq, closers.isEmpty_eq]

def positionTuple (p : Position) : SignatureTuple :=
  ⟨(positionEntry p).kind, none, none, nonzero p.ticket, (positionEntry p).detail⟩

theorem positionEntry_tuple (p : Position) :
    (positionEntry p).signatureTuple = some (positionTuple p) := by
  rw [DiffEntry.signatureTuple, positionTuple, positionEntry]
  by_cases ours : isOurs p.comment = true
  · simp only [ours, if_true]
    rfl
  · simp only [ours]
    rfl

def unknownTuple (positions : List Position) (deals : List Deal) (sig : UnknownSignal) :
    SignatureTuple :=
  ⟨(unknownEntry positions deals sig).kind, sig.trade, some sig.signalId, none,
    (unknownEntry positions deals sig).detail⟩

theorem unknownEntry_tuple (positions : List Position) (deals : List Deal) (sig : UnknownSignal) :
    (unknownEntry positions deals sig).signatureTuple =
      some (unknownTuple positions deals sig) := by
  rw [DiffEntry.signatureTuple, unknownTuple, unknownEntry]
  cases sendFilled positions deals sig <;> rfl

theorem unknownTuple_perm (perm : positions'.Perm positions) (dealsPerm : deals'.Perm deals)
    (sig : UnknownSignal) :
    unknownTuple positions' deals' sig = unknownTuple positions deals sig := by
  simp only [unknownTuple, unknownEntry, sendFilled_perm perm dealsPerm]

/-- The tickets that `diff_snapshots` claims. -/
def claimedTickets (positions : List Position) (rows : List Trade) : List ℤ :=
  (rows.filter Trade.isOpen).filterMap fun row => (matchFor positions row).map Position.ticket

theorem signatureTuples_diffSnapshots :
    signatureTuples (diffSnapshots positions deals rows unknown) =
      ((rows.filter Trade.isOpen).filterMap fun row =>
        if (matchFor positions row).isSome then none else some (lostTuple deals row)) ++
      (positions.filter fun p => decide (p.ticket ∉ claimedTickets positions rows)).map
        positionTuple ++
      unknown.map (unknownTuple positions deals) := by
  rw [signatureTuples, diffSnapshots, List.filterMap_append, List.filterMap_append,
    List.filterMap_map, List.filterMap_map, List.filterMap_map]
  congr 1
  · congr 1
    · exact List.filterMap_congr fun row _ => rowEntry_tuple positions deals row
    · have tuples : DiffEntry.signatureTuple ∘ positionEntry = fun p => some (positionTuple p) :=
        funext positionEntry_tuple
      rw [tuples, List.filterMap_eq_map']
      rfl
  · have tuples : DiffEntry.signatureTuple ∘ unknownEntry positions deals =
        fun sig => some (unknownTuple positions deals sig) :=
      funext (unknownEntry_tuple positions deals)
    rw [tuples, List.filterMap_eq_map']

end Tuples

theorem diffSignature_isSome_iff {report : List DiffEntry} :
    (diffSignature report).isSome = true ↔
      ∀ a ∈ signatureTuples report, ∀ b ∈ signatureTuples report, a.Comparable b := by
  rw [diffSignature]
  split_ifs with comparable
  · exact iff_of_true rfl comparable
  · exact iff_of_false Bool.false_ne_true comparable

theorem diffSignature_of_perm {report report' : List DiffEntry}
    (perm : (signatureTuples report').Perm (signatureTuples report)) :
    diffSignature report' = diffSignature report := by
  rw [diffSignature, diffSignature]
  simp only [perm.mem_iff, insertionSort_eq_iff.mpr perm]

theorem perm_of_diffSignature {report report' : List DiffEntry}
    (there : (diffSignature report).isSome = true)
    (same : diffSignature report' = diffSignature report) :
    (signatureTuples report').Perm (signatureTuples report) := by
  have there' : (diffSignature report').isSome = true := same ▸ there
  rw [diffSignature, diffSignature, if_pos (diffSignature_isSome_iff.mp there),
    if_pos (diffSignature_isSome_iff.mp there')] at same
  exact insertionSort_eq_iff.mp (Option.some.inj same)

section Claimed
variable {positions positions' : List Position} {rows rows' : List Trade} {row : Trade}
  {p : Position}

/-- A row whose ticket the broker has is matched by it. -/
theorem matchFor_byTicket (listed : p ∈ positions) (own : ticketOf row = some p.ticket) :
    (matchFor positions row).map Position.ticket = some p.ticket := by
  have found : (positions.find? fun q => decide (q.ticket = p.ticket)).isSome = true := by
    rw [List.isSome_find?, List.any_eq_true]
    exact ⟨p, listed, decide_eq_true rfl⟩
  obtain ⟨q, first⟩ := Option.isSome_iff_exists.mp found
  have its := List.find?_some first
  rw [matchFor, own, Option.bind_some, first, Option.some_or, Option.map_some,
    of_decide_eq_true its]

theorem matchFor_byComment (noTicket : ∀ p ∈ positions, ticketOf row ≠ some p.ticket) :
    matchFor positions row = positions.find? fun q => carriesTrade row.tradeId q.comment := by
  have missing : ((ticketOf row).bind fun ticket =>
      positions.find? fun q => decide (q.ticket = ticket)) = none := by
    cases own : ticketOf row with
    | none => rfl
    | some ticket =>
        rw [Option.bind_some, List.find?_eq_none]
        intro q listed found
        exact noTicket q listed (own.trans (congrArg some (of_decide_eq_true found).symm))
  rw [matchFor, missing, Option.none_or]

theorem mem_claimedTickets (listed : p ∈ positions) :
    p.ticket ∈ claimedTickets positions rows ↔ ByTicket rows p.ticket ∨
      ∃ row, ByComment positions rows row ∧ ∃ q, positions.find?
        (fun q => carriesTrade row.tradeId q.comment) = some q ∧ q.ticket = p.ticket := by
  rw [claimedTickets, List.mem_filterMap]
  constructor
  · rintro ⟨row, open_, claims⟩
    by_cases own : ∃ q ∈ positions, ticketOf row = some q.ticket
    · obtain ⟨q, known, own⟩ := own
      rw [matchFor_byTicket known own] at claims
      exact .inl ⟨row, open_, own.trans claims⟩
    · have noTicket : ∀ q ∈ positions, ticketOf row ≠ some q.ticket :=
        fun q known same => own ⟨q, known, same⟩
      rw [matchFor_byComment noTicket] at claims
      exact .inr ⟨row, ⟨open_, noTicket⟩, Option.map_eq_some_iff.mp claims⟩
  · rintro (⟨row, open_, own⟩ | ⟨row, byComment, first⟩)
    · exact ⟨row, open_, matchFor_byTicket listed own⟩
    · refine ⟨row, byComment.open_, ?_⟩
      rw [matchFor_byComment byComment.noTicket]
      exact Option.map_eq_some_iff.mpr first

theorem byTicket_perm (perm : rows'.Perm rows) (ticket : ℤ) :
    ByTicket rows' ticket ↔ ByTicket rows ticket := by
  simp only [ByTicket, (perm.filter _).mem_iff]

theorem byComment_perm (perm : positions'.Perm positions) (rowsPerm : rows'.Perm rows)
    (row : Trade) : ByComment positions' rows' row ↔ ByComment positions rows row := by
  constructor <;> rintro ⟨open_, noTicket⟩
  · exact ⟨(rowsPerm.filter _).mem_iff.mp open_, fun p mem => noTicket p (perm.mem_iff.mpr mem)⟩
  · exact ⟨(rowsPerm.filter _).mem_iff.mpr open_, fun p mem => noTicket p (perm.mem_iff.mp mem)⟩

/-- Where every leg by comment is settled, the tickets claimed are known without the order
of the positions. -/
theorem claimed_iff_maybeTracked
    (legs : ∀ row, ByComment positions rows row → ∀ p ∈ positions,
      carriesTrade row.tradeId p.comment = true → ByTicket rows p.ticket ∨
        ∃ owner, ByComment positions rows owner ∧
          (∃ q ∈ positions, carriesTrade owner.tradeId q.comment = true) ∧
            ∀ q ∈ positions, carriesTrade owner.tradeId q.comment = true → q.ticket = p.ticket)
    (perm : positions'.Perm positions) (rowsPerm : rows'.Perm rows) (listed : p ∈ positions) :
    p.ticket ∈ claimedTickets positions' rows' ↔ MaybeTracked positions rows p.ticket := by
  rw [mem_claimedTickets (perm.mem_iff.mpr listed), MaybeTracked, byTicket_perm rowsPerm]
  simp only [byComment_perm perm rowsPerm]
  constructor
  · rintro (own | ⟨row, byComment, q, first, same⟩)
    · exact .inl own
    · have carries := List.find?_some first
      exact .inr ⟨row, byComment, q, perm.mem_iff.mp (List.mem_of_find?_eq_some first), carries,
        same⟩
  · rintro (own | ⟨row, byComment, q, known, carries, same⟩)
    · exact .inl own
    · rw [← same]
      rcases legs row byComment q known carries with own | ⟨owner, byOwner, ⟨leg, some, its⟩, only⟩
      · exact .inl own
      · have found : (positions'.find? fun q => carriesTrade owner.tradeId q.comment).isSome =
            true := by
          rw [List.isSome_find?, List.any_eq_true]
          exact ⟨leg, perm.mem_iff.mpr some, its⟩
        obtain ⟨first, isFirst⟩ := Option.isSome_iff_exists.mp found
        have carries := List.find?_some isFirst
        refine .inr ⟨owner, byOwner, first, isFirst, ?_⟩
        exact only first (perm.mem_iff.mp (List.mem_of_find?_eq_some isFirst)) carries

end Claimed

section Kinds
variable (positions : List Position) (deals : List Deal)

/-- Which of the three lists an entry is made from. -/
def DiffKind.source : DiffKind → ℕ
  | .dbOnlyClosed | .dbOnlyNoEvidence | .matched => 0
  | .brokerOnlyOurs | .brokerOnlyManual => 1
  | .unknownFilled | .unknownNotFilled => 2

theorem lostTuple_source (row : Trade) : (lostTuple deals row).kind.source = 0 := by
  rw [lostTuple]
  split <;> rfl

theorem lostTuple_tradeId (row : Trade) : (lostTuple deals row).tradeId = some row.tradeId := by
  rw [lostTuple]
  split <;> rfl

theorem positionTuple_source (p : Position) : (positionTuple p).kind.source = 1 := by
  rw [positionTuple, positionEntry]
  cases isOurs p.comment <;> rfl

theorem positionTuple_kind_iff (p q : Position) :
    (positionTuple p).kind = (positionTuple q).kind ↔ isOurs p.comment = isOurs q.comment := by
  simp only [positionTuple, positionEntry]
  cases isOurs p.comment <;> cases isOurs q.comment <;> decide

theorem unknownTuple_source (sig : UnknownSignal) :
    (unknownTuple positions deals sig).kind.source = 2 := by
  rw [unknownTuple, unknownEntry]
  cases sendFilled positions deals sig <;> rfl

theorem unknownTuple_kind_iff (s s' : UnknownSignal) :
    (unknownTuple positions deals s).kind = (unknownTuple positions deals s').kind ↔
      sendFilled positions deals s = sendFilled positions deals s' := by
  simp only [unknownTuple, unknownEntry]
  cases sendFilled positions deals s <;> cases sendFilled positions deals s' <;> decide

theorem comparable_of_source {a b : SignatureTuple} (apart : a.kind.source ≠ b.kind.source) :
    a.Comparable b := fun same => absurd (congrArg DiffKind.source same) apart

theorem positionTuple_comparable_iff (p q : Position) :
    (positionTuple p).Comparable (positionTuple q) ↔
      (isOurs p.comment = isOurs q.comment → (p.ticket = 0 ↔ q.ticket = 0)) := by
  rw [SignatureTuple.Comparable, positionTuple_kind_iff, ← sortable_nonzero_iff]
  refine imp_congr_right fun _ => ⟨fun fields => (fields.2 rfl).2 rfl, fun tickets => ?_⟩
  exact ⟨.inl rfl, fun _ => ⟨.inl rfl, fun _ => tickets⟩⟩

theorem unknownTuple_comparable_iff (s s' : UnknownSignal) :
    (unknownTuple positions deals s).Comparable (unknownTuple positions deals s') ↔
      (sendFilled positions deals s = sendFilled positions deals s' →
        (s.trade = none ↔ s'.trade = none)) := by
  rw [SignatureTuple.Comparable, unknownTuple_kind_iff, ← sortable_iff]
  refine imp_congr_right fun _ => ⟨fun fields => fields.1, fun trades => ?_⟩
  exact ⟨trades, fun _ => ⟨.inr ⟨rfl, rfl⟩, fun _ => .inl rfl⟩⟩

/-- The trade ids of the rows tell their tuples apart. -/
theorem lostTuple_comparable {trades : Table Trade Trade.tradeId} {row row' : Trade}
    (listed : row ∈ trades.rows) (listed' : row' ∈ trades.rows) :
    (lostTuple deals row).Comparable (lostTuple deals row') := by
  by_cases same : row.tradeId = row'.tradeId
  · rw [Table.eq_of_mem_of_key listed listed' same]
    exact fun _ => ⟨.inl rfl, fun _ => ⟨.inl rfl, fun _ => .inl rfl⟩⟩
  · intro _
    rw [lostTuple_tradeId, lostTuple_tradeId]
    exact ⟨.inr ⟨rfl, rfl⟩, fun equal => absurd (Option.some.inj equal) same⟩

end Kinds

section Stable
variable {positions : List Position} {deals : List Deal} {trades : Table Trade Trade.tradeId}
  {unknown : List UnknownSignal}

theorem mem_signatureTuples {rows : List Trade} {a : SignatureTuple} :
    a ∈ signatureTuples (diffSnapshots positions deals rows unknown) ↔
      (∃ row ∈ rows.filter Trade.isOpen, (matchFor positions row).isSome = false ∧
        a = lostTuple deals row) ∨
      (∃ p ∈ positions, p.ticket ∉ claimedTickets positions rows ∧ a = positionTuple p) ∨
      ∃ sig ∈ unknown, a = unknownTuple positions deals sig := by
  rw [signatureTuples_diffSnapshots, List.mem_append, List.mem_append, or_assoc, List.mem_filterMap,
    List.mem_map, List.mem_map]
  refine or_congr ?_ (or_congr ?_ ?_)
  · refine exists_congr fun row => and_congr_right fun _ => ?_
    cases (matchFor positions row).isSome <;> simp [eq_comm]
  · refine exists_congr fun p => ?_
    rw [List.mem_filter, decide_eq_true_iff, and_assoc]
    exact and_congr_right fun _ => and_congr_right fun _ => eq_comm
  · exact exists_congr fun sig => and_congr_right fun _ => eq_comm

/-- The signature is there where the positions left over and the unknown signals can be
sorted. -/
theorem signature_isSome_iff :
    (diffSignature (diffSnapshots positions deals trades.rows unknown)).isSome = true ↔
      (∀ p ∈ positions, ∀ q ∈ positions, p.ticket ∉ claimedTickets positions trades.rows →
        q.ticket ∉ claimedTickets positions trades.rows → isOurs p.comment = isOurs q.comment →
          (p.ticket = 0 ↔ q.ticket = 0)) ∧
      ∀ s ∈ unknown, ∀ s' ∈ unknown,
        sendFilled positions deals s = sendFilled positions deals s' →
          (s.trade = none ↔ s'.trade = none) := by
  rw [diffSignature_isSome_iff]
  constructor
  · intro comparable
    constructor
    · intro p listed q listed' free free'
      exact (positionTuple_comparable_iff p q).mp (comparable _
        (mem_signatureTuples.mpr (.inr (.inl ⟨p, listed, free, rfl⟩))) _
        (mem_signatureTuples.mpr (.inr (.inl ⟨q, listed', free', rfl⟩))))
    · intro s told s' told'
      exact (unknownTuple_comparable_iff positions deals s s').mp (comparable _
        (mem_signatureTuples.mpr (.inr (.inr ⟨s, told, rfl⟩))) _
        (mem_signatureTuples.mpr (.inr (.inr ⟨s', told', rfl⟩))))
  · rintro ⟨tickets, sends⟩ a memA b memB
    have listed : ∀ {row : Trade}, row ∈ trades.rows.filter Trade.isOpen → row ∈ trades.rows :=
      fun open_ => (List.mem_filter.mp open_).1
    rcases mem_signatureTuples.mp memA with ⟨row, open_, -, rfl⟩ | ⟨p, known, free, rfl⟩ |
        ⟨s, told, rfl⟩ <;>
      rcases mem_signatureTuples.mp memB with ⟨row', open', -, rfl⟩ | ⟨q, known', free', rfl⟩ |
        ⟨s', told', rfl⟩
    case inl.inl => exact lostTuple_comparable deals (listed open_) (listed open')
    case inr.inl.inr.inl =>
      exact (positionTuple_comparable_iff p q).mpr (tickets p known q known' free free')
    case inr.inr.inr.inr =>
      exact (unknownTuple_comparable_iff positions deals s s').mpr (sends s told s' told')
    -- the others are made from different lists
    all_goals
      refine comparable_of_source ?_
      simp only [lostTuple_source, positionTuple_source, unknownTuple_source]
      decide

/-- The positions with those of the ticket behind the others. -/
def legLast (positions : List Position) (ticket : ℤ) : List Position :=
  positions.filter (fun q => decide (q.ticket ≠ ticket)) ++
    positions.filter fun q => !decide (q.ticket ≠ ticket)

theorem legLast_perm (positions : List Position) (ticket : ℤ) :
    (legLast positions ticket).Perm positions :=
  List.filter_append_perm _ positions

/-- A leg put first is claimed by a row that it could be of. -/
theorem claimed_first {row : Trade} (byComment : ByComment positions trades.rows row) {p : Position}
    (listed : p ∈ positions) (carries : carriesTrade row.tradeId p.comment = true) :
    p.ticket ∈ claimedTickets (p :: positions.erase p) trades.rows := by
  refine (mem_claimedTickets List.mem_cons_self).mpr (.inr ⟨row, ?_, p, ?_, rfl⟩)
  · exact (byComment_perm (List.perm_cons_erase listed).symm (.refl _) row).mpr byComment
  · exact List.find?_cons_of_pos carries

/-- A leg put last is left over where each row that it could be of has another. -/
theorem unclaimed_last {p : Position} (listed : p ∈ positions)
    (noTicket : ¬ ByTicket trades.rows p.ticket)
    (others : ∀ owner, ByComment positions trades.rows owner →
      (∃ q ∈ positions, carriesTrade owner.tradeId q.comment = true) →
        ∃ q ∈ positions, carriesTrade owner.tradeId q.comment = true ∧ q.ticket ≠ p.ticket) :
    p.ticket ∉ claimedTickets (legLast positions p.ticket) trades.rows := by
  have back := legLast_perm positions p.ticket
  intro mem
  rcases (mem_claimedTickets (back.mem_iff.mpr listed)).mp mem with own |
    ⟨owner, byOwner, first, isFirst, same⟩
  · exact noTicket own
  have candidate := List.find?_some isFirst
  obtain ⟨q, known, its, other⟩ := others owner ((byComment_perm back (.refl _) owner).mp byOwner)
    ⟨first, back.mem_iff.mp (List.mem_of_find?_eq_some isFirst), candidate⟩
  have found : ((positions.filter fun q => decide (q.ticket ≠ p.ticket)).find?
      fun q => carriesTrade owner.tradeId q.comment).isSome = true := by
    rw [List.isSome_find?, List.any_eq_true]
    exact ⟨q, List.mem_filter.mpr ⟨known, decide_eq_true other⟩, its⟩
  obtain ⟨early, isEarly⟩ := Option.isSome_iff_exists.mp found
  rw [legLast, List.find?_append, isEarly, Option.some_or] at isFirst
  cases isFirst
  exact of_decide_eq_true (List.mem_filter.mp (List.mem_of_find?_eq_some isEarly)).2 same

/-- A leg that could be a row's, and need not be, makes a difference between two orders:
put first it is claimed, and put last it is left over. -/
theorem legs_of_stable (stable : SignatureStable positions deals trades unknown) {row : Trade}
    (byComment : ByComment positions trades.rows row) {p : Position} (listed : p ∈ positions)
    (carries : carriesTrade row.tradeId p.comment = true) :
    ByTicket trades.rows p.ticket ∨ ∃ owner, ByComment positions trades.rows owner ∧
      (∃ q ∈ positions, carriesTrade owner.tradeId q.comment = true) ∧
        ∀ q ∈ positions, carriesTrade owner.tradeId q.comment = true → q.ticket = p.ticket := by
  by_contra unsettled
  push Not at unsettled
  obtain ⟨noTicket, others⟩ := unsettled
  have front : (p :: positions.erase p).Perm positions := (List.perm_cons_erase listed).symm
  have back := legLast_perm positions p.ticket
  have claimed := claimed_first byComment listed carries
  have free := unclaimed_last listed noTicket others
  have toFront := perm_of_diffSignature stable.never_raises
    (stable.same _ deals trades.rows unknown front (.refl _) (.refl _) (.refl _))
  have toBack := perm_of_diffSignature stable.never_raises
    (stable.same _ deals trades.rows unknown back (.refl _) (.refl _) (.refl _))
  have reported : positionTuple p ∈ signatureTuples
      (diffSnapshots (legLast positions p.ticket) deals trades.rows unknown) :=
    mem_signatureTuples.mpr (.inr (.inl ⟨p, back.mem_iff.mpr listed, free, rfl⟩))
  rcases mem_signatureTuples.mp (toFront.mem_iff.mpr (toBack.mem_iff.mp reported)) with
    ⟨row', -, -, same⟩ | ⟨q, -, free', same⟩ | ⟨sig, -, same⟩
  · have source := congrArg (fun a => a.kind.source) same
    rw [positionTuple_source, lostTuple_source] at source
    nomatch source
  · have tickets : nonzero p.ticket = nonzero q.ticket := congrArg SignatureTuple.ticket same
    rw [nonzero_inj.mp tickets] at claimed
    exact free' claimed
  · have source := congrArg (fun a => a.kind.source) same
    rw [positionTuple_source, unknownTuple_source] at source
    nomatch source

theorem fits_of_stable (stable : SignatureStable positions deals trades unknown) :
    SignatureFits positions deals unknown trades.rows := by
  have legs : ∀ row, ByComment positions trades.rows row → ∀ p ∈ positions,
      carriesTrade row.tradeId p.comment = true → _ :=
    fun row byComment p listed carries => legs_of_stable stable byComment listed carries
  obtain ⟨tickets, sends⟩ := signature_isSome_iff.mp stable.never_raises
  refine ⟨legs, fun p listed q listed' free free' => ?_, sends⟩
  have claimed : ∀ {q : Position}, q ∈ positions →
      (q.ticket ∈ claimedTickets positions trades.rows ↔
        MaybeTracked positions trades.rows q.ticket) :=
    fun known => claimed_iff_maybeTracked legs (.refl _) (.refl _) known
  exact tickets p listed q listed' (fun mem => free ((claimed listed).mp mem))
    fun mem => free' ((claimed listed').mp mem)

theorem stable_of_fits (fits : SignatureFits positions deals unknown trades.rows) :
    SignatureStable positions deals trades unknown := by
  have claimed : ∀ {q : Position}, q ∈ positions →
      (q.ticket ∈ claimedTickets positions trades.rows ↔
        MaybeTracked positions trades.rows q.ticket) :=
    fun known => claimed_iff_maybeTracked fits.legs (.refl _) (.refl _) known
  constructor
  · refine signature_isSome_iff.mpr ⟨fun p listed q listed' free free' => ?_, fits.sends⟩
    exact fits.tickets p listed q listed' (fun own => free ((claimed listed).mpr own))
      fun own => free' ((claimed listed').mpr own)
  · intro positions' deals' rows' unknown' perm dealsPerm rowsPerm unknownPerm
    apply diffSignature_of_perm
    rw [signatureTuples_diffSnapshots, signatureTuples_diffSnapshots]
    refine ((List.Perm.append ?_ ?_).append ?_)
    · simp only [matchFor_isSome_perm perm, lostTuple_perm dealsPerm]
      exact (rowsPerm.filter _).filterMap _
    · refine List.Perm.map _ ?_
      have same : positions'.filter (fun p => decide (p.ticket ∉ claimedTickets positions' rows')) =
          positions'.filter fun p => decide (p.ticket ∉ claimedTickets positions trades.rows) := by
        refine List.filter_congr fun p mem => ?_
        have known := perm.mem_iff.mp mem
        rw [decide_eq_decide, claimed known,
          claimed_iff_maybeTracked fits.legs perm rowsPerm known]
      rw [same]
      exact perm.filter _
    · simp only [funext (unknownTuple_perm perm dealsPerm)]
      exact unknownPerm.map _

end Stable

theorem signature_stable_iff (positions : List Position) (deals : List Deal)
    (trades : Table Trade Trade.tradeId) (unknown : List UnknownSignal) :
    SignatureStable positions deals trades unknown ↔
      SignatureFits positions deals unknown trades.rows :=
  ⟨fits_of_stable, stable_of_fits⟩

/-- The placeholder of a grid as the only open row. -/
def gridTrades : Table Trade Trade.tradeId where
  rows := [gridRow]
  unique := List.nodup_singleton _

/-- The leg that is reported depends on the order of the positions. -/
theorem second_leg_changes_signature :
    ¬ ∀ (positions : List Position) (deals : List Deal) (trades : Table Trade Trade.tradeId)
      (unknown : List UnknownSignal), SignatureStable positions deals trades unknown := by
  intro stable
  have both := stable gridLegs.rows [] gridTrades []
  have same := both.same gridLegs.rows.reverse [] gridTrades.rows [] (List.reverse_perm _)
    (.refl _) (.refl _) (.refl _)
  have tuples := perm_of_diffSignature both.never_raises same
  exact absurd tuples (by decide)

end Forex
