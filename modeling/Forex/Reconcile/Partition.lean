import Forex.Reconcile.Diff
import Mathlib.Data.List.Nodup

/-!
`diff_snapshots` as a classification of the open rows and of the broker's
positions. A row claims one position at most, so the report is a partition just
when every position belongs to one party and that party has no other.
-/

namespace Forex
open Support

namespace DiffKind

def ofRow : DiffKind → Bool
  | .matched => true
  | .dbOnlyClosed => true
  | .dbOnlyNoEvidence => true
  | _ => false

def brokerOnly : DiffKind → Bool
  | .brokerOnlyOurs => true
  | .brokerOnlyManual => true
  | _ => false

end DiffKind

section Counts
variable (report : List DiffEntry)

def rowClasses (tradeId : String) : ℕ :=
  report.countP fun e => e.kind.ofRow && decide (e.tradeId = some tradeId)

def rowClaims (p : Position) : ℕ :=
  report.countP fun e => decide (e.kind = .matched ∧ e.ticket = nonzero p.ticket)

def untrackedReports (p : Position) : ℕ :=
  report.countP fun e => e.kind.brokerOnly && decide (e.ticket = nonzero p.ticket)

end Counts

def sendClaims (unknown : List UnknownSignal) (p : Position) : ℕ :=
  unknown.countP fun sig => carriesTrade (sig.tradeId.getD "") p.comment

structure IsPartition (positions : Table Position Position.ticket) (rows : List Trade)
    (unknown : List UnknownSignal) (report : List DiffEntry) : Prop where
  classes : ∀ tradeId, rowClasses report tradeId =
    (rows.filter Trade.isOpen).countP fun row => decide (row.tradeId = tradeId)
  once : ∀ p ∈ positions.rows,
    rowClaims report p + sendClaims unknown p + untrackedReports report p = 1
  legs : ∀ p ∈ positions.rows, ∀ row ∈ rows.filter Trade.isOpen,
    carriesTrade row.tradeId p.comment = true → untrackedReports report p = 0
  apart : ∀ p ∈ positions.rows, rowClaims report p ≤ 1

/-- The one position of a row: the one with its ticket or, where the broker has
none, the first whose comment carries its trade. -/
def OwnPosition (positions : List Position) (row : Trade) (p : Position) : Prop :=
  if ∃ q ∈ positions, ticketOf row = some q.ticket then
    p ∈ positions ∧ ticketOf row = some p.ticket
  else positions.find? (fun q => carriesTrade row.tradeId q.comment) = some p

/-- No two rows share a position, no row has a further leg that is not some
row's own, and no parked send has a position. -/
structure OnePositionEach (positions : List Position) (rows : List Trade)
    (unknown : List UnknownSignal) : Prop where
  single : (rows.filter Trade.isOpen).Pairwise fun a b =>
    ∀ p, OwnPosition positions a p → ¬ OwnPosition positions b p
  noOtherLeg : ∀ p ∈ positions, ∀ row ∈ rows.filter Trade.isOpen,
    carriesTrade row.tradeId p.comment = true →
      ∃ owner ∈ rows.filter Trade.isOpen, OwnPosition positions owner p
  noSend : ∀ p ∈ positions, ∀ sig ∈ unknown,
    carriesTrade (sig.tradeId.getD "") p.comment = false

theorem nonzero_inj {a b : ℤ} : nonzero a = nonzero b ↔ a = b := by
  rw [nonzero, nonzero]
  by_cases ha : a = 0 <;> by_cases hb : b = 0
  · simp [ha, hb]
  · simp [ha, hb, Ne.symm hb]
  · simp [ha, hb]
  · simp [ha, hb]

section Match
variable {positions : Table Position Position.ticket} {deals : List Deal} {row : Trade}
  {p : Position}

theorem find_ticket (ticket : ℤ) (mem : p ∈ positions.rows) :
    positions.rows.find? (fun q => decide (q.ticket = ticket)) = some p ↔ p.ticket = ticket := by
  constructor
  · intro found
    exact Table.key_of_find found
  · intro same
    exact Table.find_eq_some_iff.mpr ⟨mem, same⟩

theorem matchFor_eq_some_iff :
    matchFor positions.rows row = some p ↔ OwnPosition positions.rows row p := by
  rw [matchFor, OwnPosition]
  cases ticket : ticketOf row with
  | none => simp
  | some n =>
      by_cases live : ∃ q ∈ positions.rows, some n = some q.ticket
      · obtain ⟨q, mem, same⟩ := live
        have found : positions.rows.find? (fun q => decide (q.ticket = n)) = some q :=
          (find_ticket n mem).mpr (Option.some.inj same).symm
        rw [if_pos ⟨q, mem, same⟩]
        simp only [Option.bind_some, found, Option.some_or, Option.some.injEq]
        constructor
        · rintro rfl
          exact ⟨mem, Option.some.inj same⟩
        · intro ⟨hp, own⟩
          exact Table.eq_of_mem_of_key mem hp ((Option.some.inj same).symm.trans own)
      · have missing : positions.rows.find? (fun q => decide (q.ticket = n)) = none := by
          rw [List.find?_eq_none]
          intro q mem found
          exact live ⟨q, mem, congrArg some (of_decide_eq_true found).symm⟩
        rw [if_neg live]
        simp only [Option.bind_some, missing, Option.none_or]

theorem own_mem (own : OwnPosition positions.rows row p) : p ∈ positions.rows := by
  rw [OwnPosition] at own
  split at own
  · exact own.1
  · exact List.mem_of_find?_eq_some own

theorem rowEntry_matched (mem : p ∈ positions.rows) :
    (rowEntry positions.rows deals row).kind = .matched ∧
        (rowEntry positions.rows deals row).ticket = nonzero p.ticket ↔
      OwnPosition positions.rows row p := by
  rw [← matchFor_eq_some_iff, rowEntry]
  cases found : matchFor positions.rows row with
  | none =>
      dsimp only
      split <;> simp
  | some q =>
      have hq : q ∈ positions.rows := own_mem (matchFor_eq_some_iff.mp found)
      simp only [true_and, Option.some.injEq, nonzero_inj]
      constructor
      · exact fun same => Table.eq_of_mem_of_key hq mem same
      · exact fun same => congrArg Position.ticket same

variable (positions deals row) in
theorem rowEntry_ofRow : (rowEntry positions.rows deals row).kind.ofRow = true ∧
    (rowEntry positions.rows deals row).kind.brokerOnly = false ∧
      (rowEntry positions.rows deals row).tradeId = some row.tradeId := by
  rw [rowEntry]
  split
  · exact ⟨rfl, rfl, rfl⟩
  · dsimp only
    split <;> exact ⟨rfl, rfl, rfl⟩

theorem positionEntry_class (q : Position) : (positionEntry q).kind.brokerOnly = true ∧
    (positionEntry q).kind.ofRow = false ∧ (positionEntry q).kind ≠ .matched ∧
      (positionEntry q).ticket = nonzero q.ticket := by
  rw [positionEntry]
  split <;> exact ⟨rfl, rfl, by simp, rfl⟩

variable (positions deals) in
theorem unknownEntry_class (sig : UnknownSignal) :
    (unknownEntry positions.rows deals sig).kind.brokerOnly = false ∧
      (unknownEntry positions.rows deals sig).kind.ofRow = false ∧
        (unknownEntry positions.rows deals sig).kind ≠ .matched := by
  rw [unknownEntry]
  dsimp only
  split <;> exact ⟨rfl, rfl, by simp⟩

end Match

section Report
variable (positions : Table Position Position.ticket) (deals : List Deal) (rows : List Trade)
  (unknown : List UnknownSignal)

theorem rowClasses_diffSnapshots (tradeId : String) :
    rowClasses (diffSnapshots positions.rows deals rows unknown) tradeId =
      (rows.filter Trade.isOpen).countP fun row => decide (row.tradeId = tradeId) := by
  rw [rowClasses, diffSnapshots, List.countP_append, List.countP_append, List.countP_map,
    List.countP_map, List.countP_map]
  have fromPositions : ∀ l : List Position, l.countP
      ((fun e => e.kind.ofRow && decide (e.tradeId = some tradeId)) ∘ positionEntry) = 0 := by
    intro l
    exact List.countP_eq_zero.mpr fun q _ => by simp [(positionEntry_class q).2.1]
  have fromUnknown : unknown.countP
      ((fun e => e.kind.ofRow && decide (e.tradeId = some tradeId)) ∘
        unknownEntry positions.rows deals) = 0 :=
    List.countP_eq_zero.mpr fun sig _ => by
      simp [(unknownEntry_class positions deals sig).2.1]
  rw [fromPositions, fromUnknown]
  apply List.countP_congr
  intro row _
  obtain ⟨ofRow, -, tradeIdOf⟩ := rowEntry_ofRow positions deals row
  simp [ofRow, tradeIdOf]

variable {positions rows} {p : Position}

variable (rows) in
theorem rowClaims_diffSnapshots (mem : p ∈ positions.rows) :
    rowClaims (diffSnapshots positions.rows deals rows unknown) p =
      (rows.filter Trade.isOpen).countP fun row =>
        decide (matchFor positions.rows row = some p) := by
  rw [rowClaims, diffSnapshots, List.countP_append, List.countP_append, List.countP_map,
    List.countP_map, List.countP_map]
  have fromPositions : ∀ l : List Position, l.countP
      ((fun e => decide (e.kind = .matched ∧ e.ticket = nonzero p.ticket)) ∘ positionEntry) =
        0 := by
    intro l
    exact List.countP_eq_zero.mpr fun q _ => by simp [(positionEntry_class q).2.2.1]
  have fromUnknown : unknown.countP
      ((fun e => decide (e.kind = .matched ∧ e.ticket = nonzero p.ticket)) ∘
        unknownEntry positions.rows deals) = 0 :=
    List.countP_eq_zero.mpr fun sig _ => by
      simp [(unknownEntry_class positions deals sig).2.2]
  rw [fromPositions, fromUnknown]
  apply List.countP_congr
  intro row _
  simp only [Function.comp_apply, decide_eq_true_eq, rowEntry_matched mem, matchFor_eq_some_iff]

/-- The ticket of a position is claimed just when the position is some row's own. -/
theorem ticket_claimed_iff (mem : p ∈ positions.rows) :
    p.ticket ∈ (rows.filter Trade.isOpen).filterMap
        (fun row => (matchFor positions.rows row).map Position.ticket) ↔
      ∃ owner ∈ rows.filter Trade.isOpen, OwnPosition positions.rows owner p := by
  rw [List.mem_filterMap]
  constructor
  · intro ⟨owner, open_, found⟩
    obtain ⟨q, own, same⟩ := Option.map_eq_some_iff.mp found
    have hq := own_mem (matchFor_eq_some_iff.mp own)
    cases Table.eq_of_mem_of_key hq mem same
    exact ⟨owner, open_, matchFor_eq_some_iff.mp own⟩
  · intro ⟨owner, open_, own⟩
    exact ⟨owner, open_, by rw [matchFor_eq_some_iff.mpr own, Option.map_some]⟩

variable (rows) in
theorem untracked_diffSnapshots (mem : p ∈ positions.rows) :
    untrackedReports (diffSnapshots positions.rows deals rows unknown) p =
      if p.ticket ∈ (rows.filter Trade.isOpen).filterMap
        (fun row => (matchFor positions.rows row).map Position.ticket) then 0 else 1 := by
  rw [untrackedReports, diffSnapshots, List.countP_append, List.countP_append, List.countP_map,
    List.countP_map, List.countP_map]
  have fromRows : ∀ l : List Trade, l.countP
      ((fun e => e.kind.brokerOnly && decide (e.ticket = nonzero p.ticket)) ∘
        rowEntry positions.rows deals) = 0 := by
    intro l
    exact List.countP_eq_zero.mpr fun row _ => by
      simp [(rowEntry_ofRow positions deals row).2.1]
  have fromUnknown : unknown.countP
      ((fun e => e.kind.brokerOnly && decide (e.ticket = nonzero p.ticket)) ∘
        unknownEntry positions.rows deals) = 0 :=
    List.countP_eq_zero.mpr fun sig _ => by
      simp [(unknownEntry_class positions deals sig).1]
  rw [fromRows, fromUnknown, Nat.zero_add, Nat.add_zero]
  generalize (rows.filter Trade.isOpen).filterMap
    (fun row => (matchFor positions.rows row).map Position.ticket) = claimed
  have byTicket : (positions.rows.filter fun q => decide (q.ticket ∉ claimed)).countP
      ((fun e => e.kind.brokerOnly && decide (e.ticket = nonzero p.ticket)) ∘ positionEntry) =
        ((positions.rows.filter fun q => decide (q.ticket ∉ claimed)).map Position.ticket).count
          p.ticket := by
    rw [List.count, List.countP_map]
    apply List.countP_congr
    intro q _
    obtain ⟨broker, -, -, ticket⟩ := positionEntry_class q
    simp [broker, ticket, nonzero_inj]
  have unique : ((positions.rows.filter fun q => decide (q.ticket ∉ claimed)).map
      Position.ticket).Nodup :=
    positions.unique.sublist (List.filter_sublist.map Position.ticket)
  rw [byTicket, unique.count]
  have listed : p.ticket ∈ (positions.rows.filter fun q => decide (q.ticket ∉ claimed)).map
      Position.ticket ↔ p.ticket ∉ claimed := by
    rw [List.mem_map]
    constructor
    · rintro ⟨q, hq, same⟩
      rw [← same]
      exact of_decide_eq_true (List.mem_filter.mp hq).2
    · intro free
      exact ⟨p, List.mem_filter.mpr ⟨mem, decide_eq_true free⟩, rfl⟩
  by_cases free : p.ticket ∈ claimed
  · rw [if_neg fun h => listed.mp h free, if_pos free]
  · rw [if_pos (listed.mpr free), if_neg free]

end Report

theorem pairwise_of_countP_le_one {rows : List Trade} {f : Trade → Option Position}
    (h : ∀ p, rows.countP (fun row => decide (f row = some p)) ≤ 1) :
    rows.Pairwise fun a b => ∀ p, f a = some p → f b ≠ some p := by
  induction rows with
  | nil => exact List.Pairwise.nil
  | cons row rest ih =>
      refine List.Pairwise.cons ?_ (ih fun p => ?_)
      · intro other mem p own same
        have twice := h p
        rw [List.countP_cons_of_pos (by simp [own])] at twice
        have some : 0 < rest.countP fun row => decide (f row = some p) :=
          List.countP_pos_iff.mpr ⟨other, mem, by simp [same]⟩
        omega
      · exact (List.Sublist.countP_le (List.sublist_cons_self row rest)).trans (h p)

theorem countP_le_one_of_pairwise {rows : List Trade} {f : Trade → Option Position} {p : Position}
    (h : rows.Pairwise fun a b => ∀ p, f a = some p → f b ≠ some p) :
    rows.countP (fun row => decide (f row = some p)) ≤ 1 := by
  induction h with
  | nil => exact Nat.zero_le 1
  | @cons row rest apart _ ih =>
      rw [List.countP_cons]
      by_cases own : f row = some p
      · have none : rest.countP (fun row => decide (f row = some p)) = 0 :=
          List.countP_eq_zero.mpr fun other mem => by simpa using apart other mem p own
        simp [none, own]
      · simpa [own] using ih

section Partition
variable {positions : Table Position Position.ticket} {deals : List Deal} {rows : List Trade}
  {unknown : List UnknownSignal}

theorem onePositionEach_of_isPartition
    (h : IsPartition positions rows unknown (diffSnapshots positions.rows deals rows unknown)) :
    OnePositionEach positions.rows rows unknown where
  single := by
    have apart : ∀ p, (rows.filter Trade.isOpen).countP
        (fun row => decide (matchFor positions.rows row = some p)) ≤ 1 := by
      intro p
      by_cases mem : p ∈ positions.rows
      · rw [← rowClaims_diffSnapshots deals rows unknown mem]
        exact h.apart p mem
      · have none : (rows.filter Trade.isOpen).countP
            (fun row => decide (matchFor positions.rows row = some p)) = 0 :=
          List.countP_eq_zero.mpr fun row _ found =>
            mem (own_mem (matchFor_eq_some_iff.mp (of_decide_eq_true found)))
        omega
    apply (pairwise_of_countP_le_one apart).imp
    intro a b distinct p ownA ownB
    exact distinct p (matchFor_eq_some_iff.mpr ownA) (matchFor_eq_some_iff.mpr ownB)
  noOtherLeg p mem row open_ carries := by
    have tracked := h.legs p mem row open_ carries
    rw [untracked_diffSnapshots deals rows unknown mem] at tracked
    rw [← ticket_claimed_iff mem]
    by_contra free
    rw [if_neg free] at tracked
    exact Nat.one_ne_zero tracked
  noSend p mem sig told := by
    cases carries : carriesTrade (sig.tradeId.getD "") p.comment with
    | false => rfl
    | true =>
        have claimed : 0 < sendClaims unknown p := List.countP_pos_iff.mpr ⟨sig, told, carries⟩
        have once := h.once p mem
        have tracked := untracked_diffSnapshots deals rows unknown mem
        have claims := rowClaims_diffSnapshots deals rows unknown mem
        -- the send takes the whole count, yet a position no row claims is reported as well
        have unclaimed : p.ticket ∉ (rows.filter Trade.isOpen).filterMap
            fun row => (matchFor positions.rows row).map Position.ticket := by
          intro listed
          obtain ⟨owner, open_, own⟩ := (ticket_claimed_iff mem).mp listed
          have some : 0 < (rows.filter Trade.isOpen).countP
              fun row => decide (matchFor positions.rows row = some p) :=
            List.countP_pos_iff.mpr ⟨owner, open_, by simpa using matchFor_eq_some_iff.mpr own⟩
          omega
        rw [if_neg unclaimed] at tracked
        omega

theorem isPartition_of_onePositionEach (h : OnePositionEach positions.rows rows unknown) :
    IsPartition positions rows unknown (diffSnapshots positions.rows deals rows unknown) := by
  have distinct : (rows.filter Trade.isOpen).Pairwise fun a b =>
      ∀ p, matchFor positions.rows a = some p → matchFor positions.rows b ≠ some p := by
    apply h.single.imp
    intro a b apart p ownA ownB
    exact apart p (matchFor_eq_some_iff.mp ownA) (matchFor_eq_some_iff.mp ownB)
  have claims : ∀ p ∈ positions.rows,
      rowClaims (diffSnapshots positions.rows deals rows unknown) p ≤ 1 := by
    intro p mem
    rw [rowClaims_diffSnapshots deals rows unknown mem]
    exact countP_le_one_of_pairwise distinct
  refine ⟨rowClasses_diffSnapshots positions deals rows unknown, ?_, ?_, claims⟩
  · intro p mem
    have noSend : sendClaims unknown p = 0 :=
      List.countP_eq_zero.mpr fun sig told => by simp [h.noSend p mem sig told]
    have atMost := claims p mem
    rw [noSend, untracked_diffSnapshots deals rows unknown mem]
    rw [rowClaims_diffSnapshots deals rows unknown mem] at atMost ⊢
    split
    · next listed =>
        obtain ⟨owner, open_, own⟩ := (ticket_claimed_iff mem).mp listed
        have some : 0 < (rows.filter Trade.isOpen).countP
            fun row => decide (matchFor positions.rows row = some p) :=
          List.countP_pos_iff.mpr ⟨owner, open_, by simpa using matchFor_eq_some_iff.mpr own⟩
        omega
    · next free =>
        have none : (rows.filter Trade.isOpen).countP
            (fun row => decide (matchFor positions.rows row = some p)) = 0 :=
          List.countP_eq_zero.mpr fun owner open_ found => free ((ticket_claimed_iff mem).mpr
            ⟨owner, open_, matchFor_eq_some_iff.mp (of_decide_eq_true found)⟩)
        omega
  · intro p mem row open_ carries
    rw [untracked_diffSnapshots deals rows unknown mem,
      if_pos ((ticket_claimed_iff mem).mpr (h.noOtherLeg p mem row open_ carries))]

end Partition

/-- The report is a partition exactly where each row and each parked send has at
most its one position. -/
theorem diff_is_partition_iff (positions : Table Position Position.ticket) (deals : List Deal)
    (rows : List Trade) (unknown : List UnknownSignal) :
    IsPartition positions rows unknown (diffSnapshots positions.rows deals rows unknown) ↔
      OnePositionEach positions.rows rows unknown :=
  ⟨onePositionEach_of_isPartition, isPartition_of_onePositionEach⟩

/-- A template placeholder with no ticket yet. -/
def gridRow : Trade := { Trade.oneLot with tradeId := "0123456789abcdef", mt5Ticket := none }

def gridLegs : Table Position Position.ticket where
  rows :=
    [⟨9001, .buy, 1, 2000, 2000, 1990, 0, 0, 0, "ea:0123456789"⟩,
      ⟨9002, .buy, 1, 2000, 2000, 1990, 0, 0, 0, "ea:0123456789"⟩]
  unique := by decide

/-- Both legs of one open row have filled: one is matched, and the other is
reported as placed by the app and lost. -/
theorem second_leg_reported_lost :
    ¬ ∀ (positions : Table Position Position.ticket) (deals : List Deal) (rows : List Trade)
      (unknown : List UnknownSignal),
      IsPartition positions rows unknown (diffSnapshots positions.rows deals rows unknown) := by
  intro partition
  have legs := (partition gridLegs [] [gridRow] []).legs
  have second := legs ⟨9002, .buy, 1, 2000, 2000, 1990, 0, 0, 0, "ea:0123456789"⟩
    (by decide) gridRow (by decide) (by decide)
  exact absurd second (by decide)

end Forex
