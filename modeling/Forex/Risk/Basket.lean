import Forex.Close.CloseTrade
import Forex.Risk.CircuitBreaker
import Forex.Support.Run
import Mathlib.Data.Finset.Basic
import Mathlib.Logic.Function.Basic

/-!
`basket_breaker`: several positions closed as one action are announced as a
basket and scored once, on its net. The book beside the registry says what was
announced, which tickets have closed and which were scored on their own.
-/

namespace Forex
open Support

structure Basket where
  net : ℚ
  /-- The key `open`. -/
  waiting : Finset ℤ
  scored : Bool

/-- The two maps `_ticket_basket` and `_baskets`. -/
structure Registry where
  ticketBasket : ℤ → Option String
  baskets : String → Option Basket

/-- What a close does to the breaker. -/
inductive Scoring where
  | alone
  | basketWin (basketId : String)
  | quiet
deriving DecidableEq, Repr

/-- How a leg of a held basket scores: the first one, by the net. -/
def legScoring (basketId : String) (basket : Basket) : Scoring :=
  if basket.scored then .quiet
  else if 0 ≤ basket.net then .basketWin basketId
  else .quiet

def basketTickets (tickets : List (Option ℤ)) : Finset ℤ :=
  (tickets.filterMap linkedTicket).toFinset

namespace Registry
variable (reg : Registry)

def forgotten : Registry := ⟨fun _ => none, fun _ => none⟩

def held (basketId : String) : Bool := (reg.baskets basketId).isSome

def register (basketId : String) (netPnl : ℚ) (tickets : List (Option ℤ)) : Registry :=
  let ids := basketTickets tickets
  if ids = ∅ then reg
  else if reg.held basketId then reg
  else
    { ticketBasket := fun t => if t ∈ ids then some basketId else reg.ticketBasket t
      baskets := Function.update reg.baskets basketId (some ⟨netPnl, ids, false⟩) }

/-- The basket a ticket is looked up in; a blank id is none. -/
def basketOf (ticket : ℤ) : Option (String × Basket) :=
  (reg.ticketBasket ticket).bind fun basketId =>
    if basketId = "" then none else (reg.baskets basketId).map fun b => (basketId, b)

def legClosed (basketId : String) (basket : Basket) (ticket : ℤ) : Registry :=
  let waiting := basket.waiting.erase ticket
  if waiting = ∅ then
    { ticketBasket := fun t => (reg.ticketBasket t).filter fun b => decide (b ≠ basketId)
      baskets := Function.update reg.baskets basketId none }
  else
    { reg with
      baskets := Function.update reg.baskets basketId (some ⟨basket.net, waiting, true⟩) }

def settle (ticket : ℤ) : Registry × Scoring :=
  match reg.basketOf ticket with
  | none => (reg, .alone)
  | some (basketId, basket) =>
      (reg.legClosed basketId basket ticket, legScoring basketId basket)

end Registry

def Scoring.record (scoring : Scoring) (rs : BreakerSettings) (won : Bool) (now : ℚ) :
    BreakerSettings × BreakerState :=
  match scoring with
  | .alone => rs.recordLiveTradeOutcome won now
  | .basketWin _ => rs.recordLiveTradeOutcome true now
  | .quiet => (rs, rs.quietState now)

def scoreClose (reg : Registry) (rs : BreakerSettings) (mt5Ticket : Option ℤ) (won : Bool)
    (now : ℚ) : Registry × BreakerSettings × BreakerState :=
  let settled := reg.settle (mt5Ticket.getD 0)
  (settled.1, settled.2.record rs won now)

/-- A basket as it was announced, and the outcomes scored on its behalf. It is
live while the registry holds it; an announcement under a live id adds to it. -/
structure Announced where
  basketId : String
  net : ℚ
  tickets : Finset ℤ
  outcomes : ℕ
  live : Bool

namespace Announced
variable (b : Announced)

def extend (basketId : String) (ids : Finset ℤ) : Announced :=
  if b.live ∧ b.basketId = basketId then { b with tickets := b.tickets ∪ ids } else b

def credit : Scoring → Announced
  | .basketWin basketId =>
      if b.live ∧ b.basketId = basketId then { b with outcomes := b.outcomes + 1 } else b
  | .alone => b
  | .quiet => b

def retire (reg : Registry) : Announced := { b with live := b.live && reg.held b.basketId }

/-- The outcomes a basket is due: a win on a net that is not negative. -/
def due : ℕ := if 0 ≤ b.net then 1 else 0

end Announced

structure Scorer where
  reg : Registry
  breaker : BreakerSettings
  book : List Announced
  closed : Finset ℤ
  alone : Finset ℤ

inductive BasketCall where
  | register (basketId : String) (net : ℚ) (tickets : List (Option ℤ))
  | scoreClose (mt5Ticket : Option ℤ) (won : Bool) (now : ℚ)

namespace Scorer
variable (s : Scorer)

def start (rs : BreakerSettings) : Scorer := ⟨Registry.forgotten, rs, [], ∅, ∅⟩

def Told (ticket : ℤ) : Prop := ∃ b ∈ s.book, ticket ∈ b.tickets

def announce (basketId : String) (net : ℚ) (ids : Finset ℤ) : List Announced :=
  if ids = ∅ then s.book
  else if s.reg.held basketId then s.book.map fun b => b.extend basketId ids
  else ⟨basketId, net, ids, 0, true⟩ :: s.book

def step : BasketCall → Scorer
  | .register basketId net tickets =>
      { s with
        reg := s.reg.register basketId net tickets
        book := s.announce basketId net (basketTickets tickets) }
  | .scoreClose mt5Ticket won now =>
      let ticket := mt5Ticket.getD 0
      let settled := s.reg.settle ticket
      let scored := scoreClose s.reg s.breaker mt5Ticket won now
      { reg := scored.1
        breaker := scored.2.1
        book := s.book.map fun b => (b.credit settled.2).retire scored.1
        closed := insert ticket s.closed
        alone := if settled.2 = .alone then insert ticket s.alone else s.alone }

/-- An announced ticket closes once, after it was announced. -/
def InOrder : BasketCall → Prop
  | .register _ _ tickets => ∀ t ∈ basketTickets tickets, t ∉ s.closed
  | .scoreClose mt5Ticket _ _ => s.Told (mt5Ticket.getD 0) → mt5Ticket.getD 0 ∉ s.closed

/-- An announcement under an id still held brings no ticket that is new, any
other has an id and brings only tickets that are in no basket. -/
def KeepsApart : BasketCall → Prop
  | .register basketId _ tickets =>
      if s.reg.held basketId then
        ∀ t ∈ basketTickets tickets, (s.reg.ticketBasket t).isSome = true
      else
        basketTickets tickets = ∅ ∨
          basketId ≠ "" ∧ ∀ t ∈ basketTickets tickets, s.reg.ticketBasket t = none
  | .scoreClose _ _ _ => True

/-- A ticket in no basket is scored as it was before there were baskets. -/
def ScoredAsBefore : BasketCall → Prop
  | .register _ _ _ => True
  | .scoreClose mt5Ticket won now =>
      ¬ s.Told (mt5Ticket.getD 0) →
        scoreClose s.reg s.breaker mt5Ticket won now =
          (s.reg, s.breaker.recordLiveTradeOutcome won now)

instance (ticket : ℤ) : Decidable (s.Told ticket) :=
  inferInstanceAs (Decidable (∃ b ∈ s.book, ticket ∈ b.tickets))

instance decidableInOrder : ∀ call, Decidable (s.InOrder call)
  | .register _ _ tickets => inferInstanceAs (Decidable (∀ t ∈ basketTickets tickets, t ∉ s.closed))
  | .scoreClose mt5Ticket _ _ =>
      inferInstanceAs (Decidable (s.Told (mt5Ticket.getD 0) → mt5Ticket.getD 0 ∉ s.closed))

instance decidableKeepsApart : ∀ call, Decidable (s.KeepsApart call)
  | .register basketId _ tickets =>
      inferInstanceAs (Decidable
        (if s.reg.held basketId then
          ∀ t ∈ basketTickets tickets, (s.reg.ticketBasket t).isSome = true
        else
          basketTickets tickets = ∅ ∨
            basketId ≠ "" ∧ ∀ t ∈ basketTickets tickets, s.reg.ticketBasket t = none))
  | .scoreClose _ _ _ => isTrue trivial

structure Sound : Prop where
  apart : ∀ t ∈ s.alone, ¬ s.Told t
  once : ∀ b ∈ s.book, b.outcomes ≤ b.due ∧ (b.tickets ⊆ s.closed → b.outcomes = b.due)
  emptied : (∀ t, s.Told t → t ∈ s.closed) →
    (∀ t, s.reg.ticketBasket t = none) ∧ ∀ basketId, s.reg.baskets basketId = none

end Scorer

namespace Registry
variable {reg : Registry} {basketId : String} {basket : Basket} {ticket : ℤ}

theorem basketOf_eq_some (h : reg.basketOf ticket = some (basketId, basket)) :
    reg.ticketBasket ticket = some basketId ∧ basketId ≠ "" ∧
      reg.baskets basketId = some basket := by
  obtain ⟨own, mapped, found⟩ := Option.bind_eq_some_iff.mp h
  by_cases blank : own = ""
  · simp [blank] at found
  · rw [if_neg blank] at found
    obtain ⟨k, hk, same⟩ := Option.map_eq_some_iff.mp found
    cases same
    exact ⟨mapped, blank, hk⟩

theorem basketOf_of_mapped (mapped : reg.ticketBasket ticket = some basketId)
    (named : basketId ≠ "") (found : reg.baskets basketId = some basket) :
    reg.basketOf ticket = some (basketId, basket) := by
  simp [basketOf, mapped, named, found]

theorem basketOf_eq_none_of_unmapped (h : reg.ticketBasket ticket = none) :
    reg.basketOf ticket = none := by
  simp [basketOf, h]

theorem legClosed_baskets_of_ne {other : String} (ne : other ≠ basketId) :
    (reg.legClosed basketId basket ticket).baskets other = reg.baskets other := by
  rw [legClosed]
  split <;> exact Function.update_of_ne ne _ _

theorem legClosed_baskets_self :
    (reg.legClosed basketId basket ticket).baskets basketId =
      if basket.waiting.erase ticket = ∅ then none
      else some ⟨basket.net, basket.waiting.erase ticket, true⟩ := by
  rw [legClosed]
  split <;> exact Function.update_self _ _ _

theorem legClosed_ticketBasket {t : ℤ} {other : String} :
    (reg.legClosed basketId basket ticket).ticketBasket t = some other ↔
      reg.ticketBasket t = some other ∧
        (basket.waiting.erase ticket = ∅ → other ≠ basketId) := by
  rw [legClosed]
  split
  · next empty => simp [Option.filter_eq_some_iff, empty]
  · next rest => simp [rest]

theorem settle_of_none (h : reg.basketOf ticket = none) : reg.settle ticket = (reg, .alone) := by
  simp only [settle, h]

theorem settle_of_some (h : reg.basketOf ticket = some (basketId, basket)) :
    reg.settle ticket =
      (reg.legClosed basketId basket ticket, legScoring basketId basket) := by
  simp only [settle, h]

theorem settle_alone_iff : (reg.settle ticket).2 = .alone ↔ reg.basketOf ticket = none := by
  cases found : reg.basketOf ticket with
  | none => simp [settle_of_none found]
  | some held =>
      rw [settle_of_some found, legScoring]
      by_cases scored : held.2.scored <;> by_cases won : 0 ≤ held.2.net <;> simp [scored, won]

end Registry

namespace Scorer

/-- How the two maps and the book stand to each other: each open ticket of the
book is waited for by a basket, and each basket waits for open tickets only. -/
structure Consistent (s : Scorer) : Prop where
  pending : ∀ t, s.Told t → t ∉ s.closed → ∃ basketId basket,
    s.reg.basketOf t = some (basketId, basket) ∧ t ∈ basket.waiting
  mapped : ∀ t basketId, s.reg.ticketBasket t = some basketId →
    s.Told t ∧ s.reg.held basketId = true
  waits : ∀ basketId basket, s.reg.baskets basketId = some basket →
    basket.waiting ≠ ∅ ∧ ∀ t ∈ basket.waiting, s.Told t ∧ t ∉ s.closed ∧
      s.reg.ticketBasket t = some basketId
  live : ∀ b ∈ s.book, b.live = true → ∃ basket, s.reg.baskets b.basketId = some basket ∧
    basket.net = b.net ∧ basket.waiting ⊆ b.tickets ∧
      b.outcomes = if basket.scored then b.due else 0
  settled : ∀ b ∈ s.book, b.live = false → b.outcomes = b.due
  alone : ∀ t ∈ s.alone, t ∈ s.closed ∧ ¬ s.Told t

theorem consistent_start (rs : BreakerSettings) : (start rs).Consistent := by
  constructor <;> simp [start, Told, Registry.forgotten]

theorem Consistent.sound {s : Scorer} (good : s.Consistent) : s.Sound where
  apart t alone := (good.alone t alone).2
  once b mem := by
    cases alive : b.live with
    | false =>
        have paid := good.settled b mem alive
        exact ⟨paid.le, fun _ => paid⟩
    | true =>
        obtain ⟨k, found, -, own, paid⟩ := good.live b mem alive
        refine ⟨?_, fun allClosed => ?_⟩
        · rw [paid]
          split
          · exact le_rfl
          · exact Nat.zero_le _
        · obtain ⟨some, waiting⟩ := good.waits b.basketId k found
          obtain ⟨t, ht⟩ := Finset.nonempty_iff_ne_empty.mpr some
          exact absurd (allClosed (own ht)) (waiting t ht).2.1
  emptied allClosed := by
    have noBasket : ∀ basketId, s.reg.baskets basketId = none := by
      intro basketId
      cases found : s.reg.baskets basketId with
      | none => rfl
      | some k =>
          obtain ⟨some, waiting⟩ := good.waits basketId k found
          obtain ⟨t, ht⟩ := Finset.nonempty_iff_ne_empty.mpr some
          exact absurd (allClosed t (waiting t ht).1) (waiting t ht).2.1
    refine ⟨fun t => ?_, noBasket⟩
    cases found : s.reg.ticketBasket t with
    | none => rfl
    | some basketId =>
        have heldStill := (good.mapped t basketId found).2
        simp [Registry.held, noBasket] at heldStill

@[simp] theorem extend_live (b : Announced) (basketId : String) (ids : Finset ℤ) :
    (b.extend basketId ids).live = b.live := by
  rw [Announced.extend]
  split <;> rfl

@[simp] theorem extend_basketId (b : Announced) (basketId : String) (ids : Finset ℤ) :
    (b.extend basketId ids).basketId = b.basketId := by
  rw [Announced.extend]
  split <;> rfl

@[simp] theorem extend_net (b : Announced) (basketId : String) (ids : Finset ℤ) :
    (b.extend basketId ids).net = b.net := by
  rw [Announced.extend]
  split <;> rfl

@[simp] theorem extend_outcomes (b : Announced) (basketId : String) (ids : Finset ℤ) :
    (b.extend basketId ids).outcomes = b.outcomes := by
  rw [Announced.extend]
  split <;> rfl

theorem subset_extend (b : Announced) (basketId : String) (ids : Finset ℤ) :
    b.tickets ⊆ (b.extend basketId ids).tickets := by
  rw [Announced.extend]
  split
  · exact Finset.subset_union_left
  · exact Finset.Subset.refl _

theorem extend_subset (b : Announced) (basketId : String) (ids : Finset ℤ) :
    (b.extend basketId ids).tickets ⊆ b.tickets ∪ ids := by
  rw [Announced.extend]
  split
  · exact Finset.Subset.refl _
  · exact Finset.subset_union_left

section Register
variable {s : Scorer} {basketId : String} {net : ℚ} {tickets : List (Option ℤ)}

variable (basketId) in
theorem told_extend (known : ∀ t ∈ basketTickets tickets, s.Told t) (t : ℤ) :
    (∃ b ∈ s.book.map fun b => b.extend basketId (basketTickets tickets), t ∈ b.tickets) ↔
      s.Told t := by
  constructor
  · intro ⟨b', mem, ht⟩
    obtain ⟨b, hb, rfl⟩ := List.mem_map.mp mem
    cases Finset.mem_union.mp (extend_subset b basketId _ ht) with
    | inl own => exact ⟨b, hb, own⟩
    | inr new => exact known t new
  · intro ⟨b, hb, ht⟩
    exact ⟨_, List.mem_map_of_mem hb, subset_extend b basketId _ ht⟩

theorem register_held_keeps (good : s.Consistent)
    (known : ∀ t ∈ basketTickets tickets, s.Told t) :
    Consistent
      { s with book := s.book.map fun b => b.extend basketId (basketTickets tickets) } := by
  have told := told_extend basketId known
  constructor
  · intro t ht
    exact good.pending t ((told t).mp ht)
  · intro t other mapped
    exact ⟨(told t).mpr (good.mapped t other mapped).1, (good.mapped t other mapped).2⟩
  · intro other k found
    refine ⟨(good.waits other k found).1, fun t ht => ?_⟩
    obtain ⟨old, rest⟩ := (good.waits other k found).2 t ht
    exact ⟨(told t).mpr old, rest⟩
  · intro b' mem alive
    obtain ⟨b, hb, rfl⟩ := List.mem_map.mp mem
    rw [extend_live] at alive
    obtain ⟨k, found, same, own, paid⟩ := good.live b hb alive
    refine ⟨k, by rw [extend_basketId, found], by rw [extend_net, same],
      own.trans (subset_extend b basketId _), ?_⟩
    rw [extend_outcomes, paid, Announced.due, Announced.due, extend_net]
  · intro b' mem gone
    obtain ⟨b, hb, rfl⟩ := List.mem_map.mp mem
    rw [extend_live] at gone
    rw [extend_outcomes, good.settled b hb gone, Announced.due, Announced.due, extend_net]
  · intro t alone
    exact ⟨(good.alone t alone).1, fun ht => (good.alone t alone).2 ((told t).mp ht)⟩

section New
variable {reg : Registry} (new : basketTickets tickets ≠ ∅) (free : reg.held basketId = false)
include new free

theorem register_ticketBasket_of_mem {t : ℤ} (ht : t ∈ basketTickets tickets) :
    (reg.register basketId net tickets).ticketBasket t = some basketId := by
  simp [Registry.register, new, free, ht]

theorem register_ticketBasket_of_notMem {t : ℤ} (ht : t ∉ basketTickets tickets) :
    (reg.register basketId net tickets).ticketBasket t = reg.ticketBasket t := by
  simp [Registry.register, new, free, ht]

theorem register_baskets_self :
    (reg.register basketId net tickets).baskets basketId =
      some ⟨net, basketTickets tickets, false⟩ := by
  simp [Registry.register, new, free]

theorem register_baskets_of_ne {other : String} (ne : other ≠ basketId) :
    (reg.register basketId net tickets).baskets other = reg.baskets other := by
  simp [Registry.register, new, free, ne]

/-- The id was free, so a basket held before is another one. -/
theorem register_baskets_of_held {other : String} {k : Basket}
    (held : reg.baskets other = some k) :
    (reg.register basketId net tickets).baskets other = some k := by
  have ne : other ≠ basketId := by
    intro same
    rw [← same, Registry.held, held] at free
    cases free
  rw [register_baskets_of_ne new free ne, held]

end New

variable (s basketId net tickets) in
theorem told_announced (t : ℤ) :
    (∃ b ∈ (⟨basketId, net, basketTickets tickets, 0, true⟩ : Announced) :: s.book,
      t ∈ b.tickets) ↔ t ∈ basketTickets tickets ∨ s.Told t := by
  rw [List.exists_mem_cons_iff, Told]

/-- A new basket's tickets were in none, and its id was free. -/
theorem register_new_keeps (good : s.Consistent) (new : basketTickets tickets ≠ ∅)
    (free : s.reg.held basketId = false) (named : basketId ≠ "")
    (unclosed : ∀ t ∈ basketTickets tickets, t ∉ s.closed)
    (unspoken : ∀ t ∈ basketTickets tickets, s.reg.ticketBasket t = none) :
    Consistent { s with
      reg := s.reg.register basketId net tickets
      book := ⟨basketId, net, basketTickets tickets, 0, true⟩ :: s.book } := by
  have own : (s.reg.register basketId net tickets).baskets basketId = _ :=
    register_baskets_self new free
  have told := told_announced s basketId net tickets
  constructor
  · intro t ht stillOpen
    by_cases mine : t ∈ basketTickets tickets
    · refine ⟨basketId, _, Registry.basketOf_of_mapped ?_ named own, mine⟩
      exact register_ticketBasket_of_mem new free mine
    · obtain ⟨other, k, found, waiting⟩ :=
        good.pending t (((told t).mp ht).resolve_left mine) stillOpen
      obtain ⟨mapped, otherNamed, held⟩ := Registry.basketOf_eq_some found
      refine ⟨other, k, Registry.basketOf_of_mapped ?_ otherNamed ?_, waiting⟩
      · rw [register_ticketBasket_of_notMem new free mine, mapped]
      · exact register_baskets_of_held new free held
  · intro t other mapped
    by_cases mine : t ∈ basketTickets tickets
    · rw [register_ticketBasket_of_mem new free mine] at mapped
      cases mapped
      exact ⟨(told t).mpr (.inl mine), by simp [Registry.held, own]⟩
    · rw [register_ticketBasket_of_notMem new free mine] at mapped
      obtain ⟨old, held⟩ := good.mapped t other mapped
      obtain ⟨k, found⟩ := Option.isSome_iff_exists.mp held
      refine ⟨(told t).mpr (.inr old), ?_⟩
      rw [Registry.held, register_baskets_of_held new free found]
      rfl
  · intro other k found
    by_cases same : other = basketId
    · rw [same, own] at found
      cases found
      refine ⟨new, fun t ht => ⟨(told t).mpr (.inl ht), unclosed t ht, ?_⟩⟩
      rw [same, register_ticketBasket_of_mem new free ht]
    · rw [register_baskets_of_ne new free same] at found
      obtain ⟨some, waiting⟩ := good.waits other k found
      refine ⟨some, fun t ht => ?_⟩
      obtain ⟨old, stillOpen, mapped⟩ := waiting t ht
      have foreign : t ∉ basketTickets tickets := by
        intro mine
        rw [unspoken t mine] at mapped
        cases mapped
      exact ⟨(told t).mpr (.inr old), stillOpen, by
        rw [register_ticketBasket_of_notMem new free foreign, mapped]⟩
  · intro b hb alive
    cases List.mem_cons.mp hb with
    | inl same =>
        subst same
        exact ⟨_, own, rfl, Finset.Subset.refl _, rfl⟩
    | inr old =>
        obtain ⟨k, found, rest⟩ := good.live b old alive
        exact ⟨k, register_baskets_of_held new free found, rest⟩
  · intro b hb dead
    cases List.mem_cons.mp hb with
    | inl same =>
        subst same
        cases dead
    | inr old => exact good.settled b old dead
  · intro t alone
    refine ⟨(good.alone t alone).1, fun ht => ?_⟩
    cases (told t).mp ht with
    | inl mine => exact unclosed t mine (good.alone t alone).1
    | inr old => exact (good.alone t alone).2 old

end Register

section Score
variable {s : Scorer} {ticket : ℤ} {basketId : String} {basket : Basket}

@[simp] theorem credit_tickets (b : Announced) (scoring : Scoring) :
    (b.credit scoring).tickets = b.tickets := by
  cases scoring with
  | basketWin _ =>
      rw [Announced.credit]
      split <;> rfl
  | alone | quiet => rfl

@[simp] theorem credit_net (b : Announced) (scoring : Scoring) :
    (b.credit scoring).net = b.net := by
  cases scoring with
  | basketWin _ =>
      rw [Announced.credit]
      split <;> rfl
  | alone | quiet => rfl

@[simp] theorem credit_basketId (b : Announced) (scoring : Scoring) :
    (b.credit scoring).basketId = b.basketId := by
  cases scoring with
  | basketWin _ =>
      rw [Announced.credit]
      split <;> rfl
  | alone | quiet => rfl

@[simp] theorem credit_live (b : Announced) (scoring : Scoring) :
    (b.credit scoring).live = b.live := by
  cases scoring with
  | basketWin _ =>
      rw [Announced.credit]
      split <;> rfl
  | alone | quiet => rfl

theorem told_settled (book : List Announced) (scoring : Scoring) (reg : Registry) (t : ℤ) :
    (∃ b ∈ book.map fun b => (b.credit scoring).retire reg, t ∈ b.tickets) ↔
      ∃ b ∈ book, t ∈ b.tickets := by
  constructor
  · intro ⟨b', mem, ht⟩
    obtain ⟨b, hb, rfl⟩ := List.mem_map.mp mem
    exact ⟨b, hb, by simpa [Announced.retire] using ht⟩
  · intro ⟨b, hb, ht⟩
    exact ⟨_, List.mem_map_of_mem hb, by simpa [Announced.retire] using ht⟩

/-- A ticket of no basket leaves the registry and the book as they were. -/
theorem score_alone_keeps (good : s.Consistent) (untold : ¬ s.Told ticket) (rs : BreakerSettings) :
    Consistent
      { s with
        breaker := rs
        book := s.book.map fun b => (b.credit .alone).retire s.reg
        closed := insert ticket s.closed
        alone := insert ticket s.alone } := by
  have told := told_settled s.book .alone s.reg
  have other : ∀ t, s.Told t → t ≠ ticket := by
    intro t ht same
    exact untold (same ▸ ht)
  constructor
  · intro t ht stillOpen
    exact good.pending t ((told t).mp ht) fun closed =>
      stillOpen (Finset.mem_insert_of_mem closed)
  · intro t basketId mapped
    exact ⟨(told t).mpr (good.mapped t basketId mapped).1, (good.mapped t basketId mapped).2⟩
  · intro basketId k found
    refine ⟨(good.waits basketId k found).1, fun t ht => ?_⟩
    obtain ⟨old, stillOpen, mapped⟩ := (good.waits basketId k found).2 t ht
    refine ⟨(told t).mpr old, fun closed => ?_, mapped⟩
    cases Finset.mem_insert.mp closed with
    | inl same => exact other t old same
    | inr before => exact stillOpen before
  · intro b' mem alive
    obtain ⟨b, hb, rfl⟩ := List.mem_map.mp mem
    have was : b.live = true := (Bool.and_eq_true_iff.mp alive).1
    exact good.live b hb was
  · intro b' mem dead
    obtain ⟨b, hb, rfl⟩ := List.mem_map.mp mem
    cases alive : b.live with
    | false => exact good.settled b hb alive
    | true =>
        obtain ⟨k, found, -⟩ := good.live b hb alive
        simp [Announced.retire, Announced.credit, Registry.held, alive, found] at dead
  · intro t alone
    cases Finset.mem_insert.mp alone with
    | inl same =>
        subst same
        exact ⟨Finset.mem_insert_self _ _, fun ht => untold ((told _).mp ht)⟩
    | inr before =>
        exact ⟨Finset.mem_insert_of_mem (good.alone t before).1,
          fun ht => (good.alone t before).2 ((told t).mp ht)⟩

theorem credit_leg_self {b : Announced} (alive : b.live = true) (same : basket.net = b.net)
    (paid : b.outcomes = if basket.scored then b.due else 0) :
    (b.credit (legScoring b.basketId basket)).outcomes = b.due := by
  rw [legScoring, same]
  cases scored : basket.scored with
  | true =>
      rw [scored] at paid
      exact paid
  | false =>
      rw [scored] at paid
      by_cases win : 0 ≤ b.net
      · simpa [Announced.credit, Announced.due, win, alive] using paid
      · simpa [Announced.credit, Announced.due, win] using paid

theorem credit_leg_of_ne {b : Announced} (ne : b.basketId ≠ basketId) :
    b.credit (legScoring basketId basket) = b := by
  rw [legScoring]
  split_ifs <;> simp [Announced.credit, ne]

theorem credit_leg_of_dead {b : Announced} (dead : b.live = false) :
    b.credit (legScoring basketId basket) = b := by
  rw [legScoring]
  split_ifs <;> simp [Announced.credit, dead]

section Leg
variable (good : s.Consistent) (found : s.reg.basketOf ticket = some (basketId, basket))
include good found

/-- A ticket that is still open is waited for by the basket it was in. -/
theorem pending_leg {t : ℤ} (ht : s.Told t) (stillOpen : t ∉ insert ticket s.closed) :
    ∃ other k, (s.reg.legClosed basketId basket ticket).basketOf t = some (other, k) ∧
      t ∈ k.waiting := by
  obtain ⟨-, -, held⟩ := Registry.basketOf_eq_some found
  have ne : t ≠ ticket := fun same => stillOpen (same ▸ Finset.mem_insert_self _ _)
  obtain ⟨other, k, own, waiting⟩ := good.pending t ht fun closed =>
    stillOpen (Finset.mem_insert_of_mem closed)
  obtain ⟨ownMapped, ownNamed, ownHeld⟩ := Registry.basketOf_eq_some own
  by_cases same : other = basketId
  · subst same
    rw [held] at ownHeld
    cases ownHeld
    have rest : t ∈ basket.waiting.erase ticket := Finset.mem_erase.mpr ⟨ne, waiting⟩
    have some : basket.waiting.erase ticket ≠ ∅ := Finset.ne_empty_of_mem rest
    refine ⟨other, ⟨basket.net, basket.waiting.erase ticket, true⟩,
      Registry.basketOf_of_mapped ?_ ownNamed ?_, rest⟩
    · exact Registry.legClosed_ticketBasket.mpr ⟨ownMapped, fun h => absurd h some⟩
    · rw [Registry.legClosed_baskets_self, if_neg some]
  · refine ⟨other, k, Registry.basketOf_of_mapped ?_ ownNamed ?_, waiting⟩
    · exact Registry.legClosed_ticketBasket.mpr ⟨ownMapped, fun _ => same⟩
    · rw [Registry.legClosed_baskets_of_ne same, ownHeld]

/-- A basket that is left waits for open tickets of its own. -/
theorem waits_leg {other : String} {k : Basket}
    (now : (s.reg.legClosed basketId basket ticket).baskets other = some k) :
    k.waiting ≠ ∅ ∧ ∀ t ∈ k.waiting, s.Told t ∧ t ∉ insert ticket s.closed ∧
      (s.reg.legClosed basketId basket ticket).ticketBasket t = some other := by
  obtain ⟨mapped, -, held⟩ := Registry.basketOf_eq_some found
  by_cases same : other = basketId
  · subst same
    by_cases some : basket.waiting.erase ticket = ∅
    · rw [Registry.legClosed_baskets_self, if_pos some] at now
      cases now
    · rw [Registry.legClosed_baskets_self, if_neg some] at now
      cases now
      refine ⟨some, fun t ht => ?_⟩
      obtain ⟨ne, waiting⟩ := Finset.mem_erase.mp ht
      obtain ⟨old, stillOpen, was⟩ := (good.waits other basket held).2 t waiting
      refine ⟨old, fun closed => ?_,
        Registry.legClosed_ticketBasket.mpr ⟨was, fun h => absurd h some⟩⟩
      exact stillOpen ((Finset.mem_insert.mp closed).resolve_left ne)
  · rw [Registry.legClosed_baskets_of_ne same] at now
    refine ⟨(good.waits other k now).1, fun t ht => ?_⟩
    obtain ⟨old, stillOpen, was⟩ := (good.waits other k now).2 t ht
    have ne : t ≠ ticket := by
      intro own
      rw [own, mapped] at was
      exact same (Option.some.inj was).symm
    refine ⟨old, fun closed => ?_, Registry.legClosed_ticketBasket.mpr ⟨was, fun _ => same⟩⟩
    exact stillOpen ((Finset.mem_insert.mp closed).resolve_left ne)

theorem live_leg {b : Announced} (hb : b ∈ s.book) (was : b.live = true)
    (stillHeld : (s.reg.legClosed basketId basket ticket).held b.basketId = true) :
    ∃ k, (s.reg.legClosed basketId basket ticket).baskets b.basketId = some k ∧ k.net = b.net ∧
      k.waiting ⊆ b.tickets ∧ (b.credit (legScoring basketId basket)).outcomes =
        if k.scored then b.due else 0 := by
  obtain ⟨-, -, held⟩ := Registry.basketOf_eq_some found
  obtain ⟨k, own, net, waiting, paid⟩ := good.live b hb was
  by_cases same : b.basketId = basketId
  · subst same
    rw [held] at own
    cases own
    have some : basket.waiting.erase ticket ≠ ∅ := by
      intro empty
      simp [Registry.held, Registry.legClosed_baskets_self, empty] at stillHeld
    refine ⟨⟨basket.net, basket.waiting.erase ticket, true⟩, ?_, net,
      (Finset.erase_subset _ _).trans waiting, credit_leg_self was net paid⟩
    rw [Registry.legClosed_baskets_self, if_neg some]
  · rw [credit_leg_of_ne same]
    exact ⟨k, by rw [Registry.legClosed_baskets_of_ne same, own], net, waiting, paid⟩

/-- A basket whose last ticket has closed has given what it owes. -/
theorem settled_leg {b : Announced} (hb : b ∈ s.book)
    (dead : (b.live && (s.reg.legClosed basketId basket ticket).held b.basketId) = false) :
    (b.credit (legScoring basketId basket)).outcomes = b.due := by
  obtain ⟨-, -, held⟩ := Registry.basketOf_eq_some found
  cases was : b.live with
  | false =>
      rw [credit_leg_of_dead was]
      exact good.settled b hb was
  | true =>
      obtain ⟨k, own, net, waiting, paid⟩ := good.live b hb was
      by_cases same : b.basketId = basketId
      · subst same
        rw [held] at own
        cases own
        exact credit_leg_self was net paid
      · simp [Registry.held, was, Registry.legClosed_baskets_of_ne same, own] at dead

theorem score_leg_keeps (rs : BreakerSettings) :
    Consistent
      { s with
        reg := s.reg.legClosed basketId basket ticket
        breaker := rs
        book := s.book.map fun b =>
          (b.credit (legScoring basketId basket)).retire (s.reg.legClosed basketId basket ticket)
        closed := insert ticket s.closed } := by
  have told := told_settled s.book (legScoring basketId basket)
    (s.reg.legClosed basketId basket ticket)
  constructor
  · intro t ht
    exact pending_leg good found ((told t).mp ht)
  · intro t other now
    obtain ⟨before, kept⟩ := Registry.legClosed_ticketBasket.mp now
    obtain ⟨old, oldHeld⟩ := good.mapped t other before
    refine ⟨(told t).mpr old, ?_⟩
    by_cases same : other = basketId
    · have some : basket.waiting.erase ticket ≠ ∅ := fun empty => kept empty same
      simp [Registry.held, same, Registry.legClosed_baskets_self, some]
    · rw [Registry.held, Registry.legClosed_baskets_of_ne same]
      exact oldHeld
  · intro other k now
    obtain ⟨some, waiting⟩ := waits_leg good found now
    refine ⟨some, fun t ht => ?_⟩
    obtain ⟨old, rest⟩ := waiting t ht
    exact ⟨(told t).mpr old, rest⟩
  · intro b' mem alive
    obtain ⟨b, hb, rfl⟩ := List.mem_map.mp mem
    obtain ⟨was, stillHeld⟩ := Bool.and_eq_true_iff.mp alive
    rw [credit_live] at was
    rw [credit_basketId] at stillHeld
    obtain ⟨k, own, net, waiting, paid⟩ := live_leg good found hb was stillHeld
    refine ⟨k, ?_, ?_, ?_, ?_⟩ <;>
      simpa only [Announced.retire, Announced.due, credit_basketId, credit_net, credit_tickets]
  · intro b' mem dead
    obtain ⟨b, hb, rfl⟩ := List.mem_map.mp mem
    rw [Announced.retire, credit_live, credit_basketId] at dead
    simpa only [Announced.retire, Announced.due, credit_net] using settled_leg good found hb dead
  · intro t alone
    exact ⟨Finset.mem_insert_of_mem (good.alone t alone).1,
      fun ht => (good.alone t alone).2 ((told t).mp ht)⟩

end Leg

end Score

theorem step_keeps {s : Scorer} {call : BasketCall} (good : s.Consistent)
    (ok : s.InOrder call ∧ s.KeepsApart call) : (s.step call).Consistent := by
  obtain ⟨ordered, apart⟩ := ok
  cases call with
  | register basketId net tickets =>
      dsimp only [step, announce]
      by_cases empty : basketTickets tickets = ∅
      · rw [Registry.register, if_pos empty, if_pos empty]
        exact good
      · rw [if_neg empty]
        cases held : s.reg.held basketId with
        | true =>
            rw [KeepsApart, if_pos held] at apart
            rw [Registry.register, if_neg empty, if_pos held]
            apply register_held_keeps good
            intro t ht
            obtain ⟨other, mapped⟩ := Option.isSome_iff_exists.mp (apart t ht)
            exact (good.mapped t other mapped).1
        | false =>
            rw [KeepsApart, if_neg (by simp [held])] at apart
            obtain ⟨named, unspoken⟩ := apart.resolve_left empty
            exact register_new_keeps good empty held named ordered unspoken
  | scoreClose mt5Ticket won now =>
      dsimp only [step, scoreClose]
      cases found : s.reg.basketOf (mt5Ticket.getD 0) with
      | none =>
          rw [Registry.settle_of_none found, if_pos rfl]
          apply score_alone_keeps good
          intro told
          obtain ⟨other, k, own, -⟩ := good.pending _ told (ordered told)
          rw [found] at own
          cases own
      | some held =>
          have inBasket : (s.reg.settle (mt5Ticket.getD 0)).2 ≠ .alone := by
            rw [Ne, Registry.settle_alone_iff, found]
            exact Option.some_ne_none held
          rw [if_neg inBasket, Registry.settle_of_some found]
          exact score_leg_keeps good found _

theorem scoredAsBefore_of_consistent {s : Scorer} {call : BasketCall} (good : s.Consistent) :
    s.ScoredAsBefore call := by
  cases call with
  | register _ _ _ => trivial
  | scoreClose mt5Ticket won now =>
      intro untold
      have free : s.reg.ticketBasket (mt5Ticket.getD 0) = none := by
        cases mapped : s.reg.ticketBasket (mt5Ticket.getD 0) with
        | none => rfl
        | some other => exact absurd (good.mapped _ other mapped).1 untold
      rw [scoreClose, Registry.settle_of_none (Registry.basketOf_eq_none_of_unmapped free)]
      rfl

end Scorer

/-- While no announcement overlaps another, no leg of a basket is scored on its
own, a basket is scored once on its net, and the registry empties. -/
theorem baskets_scored_once (rs : BreakerSettings) (calls : List BasketCall)
    (run : Meets Scorer.step (fun s call => s.InOrder call ∧ s.KeepsApart call)
      (Scorer.start rs) calls) :
    (∀ s ∈ states Scorer.step (Scorer.start rs) calls, s.Sound) ∧
      Meets Scorer.step Scorer.ScoredAsBefore (Scorer.start rs) calls := by
  have keep : ∀ (s : Scorer) (call : BasketCall), s.Consistent →
      s.InOrder call ∧ s.KeepsApart call → (s.step call).Consistent :=
    fun _ _ good ok => Scorer.step_keeps good ok
  constructor
  · intro s mem
    exact (states_invariant keep (Scorer.consistent_start rs) run s mem).sound
  · exact meets_of_invariant keep (fun _ _ good _ => Scorer.scoredAsBefore_of_consistent good)
      (Scorer.consistent_start rs) run

def breakerAtThree : BreakerSettings := ⟨true, 3, 60, 0, 0⟩

def harvestOfTwo : List BasketCall :=
  [.register "bh-gold-t" 107 [some 11, some 12], .scoreClose (some 11) false 0,
    .scoreClose (some 12) true 1, .scoreClose (some 13) false 2]

theorem baskets_scored_once_harvest :
    (∀ s ∈ states Scorer.step (Scorer.start breakerAtThree) harvestOfTwo, s.Sound) ∧
      Meets Scorer.step Scorer.ScoredAsBefore (Scorer.start breakerAtThree) harvestOfTwo :=
  baskets_scored_once breakerAtThree harvestOfTwo (by decide)

/-- The threshold is crossed again while leg 12 is still closing. -/
def protectTwice : List BasketCall :=
  [.register "ep-gold-t" (-30) [some 11, some 12], .scoreClose (some 11) false 0,
    .register "ep-gold-t" (-20) [some 12, some 13], .scoreClose (some 12) false 1,
    .scoreClose (some 13) false 2]

/-- An announcement under an id that is still held is dropped whole, and its new
leg is counted as a loss of its own. -/
theorem baskets_scored_once_unless_reused :
    Meets Scorer.step Scorer.InOrder (Scorer.start breakerAtThree) protectTwice ∧
      ¬ ∀ s ∈ states Scorer.step (Scorer.start breakerAtThree) protectTwice, s.Sound := by
  refine ⟨by decide, fun sound => ?_⟩
  have last := sound _ (foldl_mem_states Scorer.step (Scorer.start breakerAtThree) protectTwice)
  exact last.apart 13 (by decide) (by decide)

end Forex
