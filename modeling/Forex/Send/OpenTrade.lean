import Forex.Broker.Dedup
import Forex.Send.Classified
import Forex.Support.Run

/-!
One call of `open_trade` for a strategy that is not a template: the request to
the EA, its acknowledgement or the timeout, the look at the broker, and the
order through the Python bridge. The EA takes the request from its socket when
it comes to it; nothing recalls a request that was sent.
-/

namespace Forex
open Support

structure BrokerOrder where
  position : Position
  deal : Deal
  isOpen : Bool
  isOpening : deal.opening = true
  sameComment : deal.comment = position.comment

namespace BrokerOrder

def market (ticket : ℤ) (direction : Direction) (volume price : ℚ) (comment : String) :
    BrokerOrder where
  position := ⟨ticket, direction, volume, price, price, 0, 0, 0, 0, comment⟩
  deal := ⟨ticket, ticket, ticket, 0, 0, volume, price, 0, 0, 0, 0, comment⟩
  isOpen := true
  isOpening := rfl
  sameComment := rfl

def closeIf (ticket : ℤ) (o : BrokerOrder) : BrokerOrder :=
  if o.position.ticket = ticket then { o with isOpen := false } else o

theorem closeIf_deal (ticket : ℤ) (o : BrokerOrder) : (closeIf ticket o).deal = o.deal := by
  rw [closeIf]
  split <;> rfl

end BrokerOrder

/-- The comment the EA writes: `ea:` and twelve characters of the id. -/
def eaOrderComment (tradeId : String) : List Char :=
  commentPrefix ++ tradeId.toList.take 12

inductive EaAck where
  | opened (ticket : ℤ) (fillPrice : ℚ)
  | failed (error : String)
deriving DecidableEq, Repr

inductive SendVerdict where
  | placed (ticket : Option ℤ) (fillPrice : Option ℚ)
  | outcomeUnknown (error : String)
  | rejected (error : String)
deriving DecidableEq, Repr

/-- `_raise_if_send_unknown`, then the test of the error. -/
def judgeReply (r : OrderReply) : SendVerdict :=
  if r.unknown then .outcomeUnknown ("broker gave no usable answer: " ++ r.error.getD "None")
  else
    match r.error with
    | some error =>
        if error = "" then .placed (r.success.map Fill.ticket) (r.success.map Fill.fillPrice)
        else .rejected ("MT5 order rejected: " ++ error)
    | none => .placed (r.success.map Fill.ticket) (r.success.map Fill.fillPrice)

inductive CallPhase where
  | start
  | awaitAck
  | lookPositions
  | lookDeals
  | send
  | openedByEa (ticket : ℤ) (fillPrice : ℚ)
  | adopted (m : DedupMatch)
  | outcomeUnknown
  | sent (verdict : SendVerdict)
deriving DecidableEq, Repr

structure OpenCall where
  tradeId : String
  direction : Direction
  lots : ℚ
  sl : Option ℚ
  tp : Option ℚ
  phase : CallPhase
  /-- The request is with the EA, which has not acted on it. -/
  request : Bool
  acks : List EaAck
  placed : List BrokerOrder

inductive OpenStep where
  | skipEa
  | askEa
  | askEaFails (written : Bool)
  | loseRequest
  | eaPlaces (ticket : ℤ) (price : ℚ) (ack : EaAck)
  | eaRefuses (error : String)
  | ackArrives
  | ackTimesOut
  | readPositions (others : Read (List Position))
  | readDeals (others : Read (List Deal))
  | positionCloses (ticket : ℤ)
  | bridgeSends (configured : Bool) (exchange : Exchange) (m : Terminal)
      (landed : Option (ℤ × ℚ))

namespace OpenCall

def readOwn {α : Type} (own : List α) : Read (List α) → Read (List α)
  | .value others => .value (own ++ others)
  | .none => .none
  | .raised => .raised

def openPositions (s : OpenCall) : List Position :=
  (s.placed.filter BrokerOrder.isOpen).map BrokerOrder.position

def deals (s : OpenCall) : List Deal := s.placed.map BrokerOrder.deal

def resolve : DedupResult → CallPhase
  | .found m => .adopted m
  | .unknown => .outcomeUnknown
  | .absent => .send

def eaOrder (s : OpenCall) (ticket : ℤ) (price : ℚ) : BrokerOrder :=
  .market ticket s.direction s.lots price (String.ofList (eaOrderComment s.tradeId))

def bridgeCall (s : OpenCall) : OrderCall :=
  ⟨s.direction, s.lots, s.sl, s.tp, String.ofList (commentForBridgeOrder s.tradeId)⟩

/-- The orders left by sends that may have left one. -/
def bridgeOrders (s : OpenCall) (sends : List SendAnswer) : Option (ℤ × ℚ) → List BrokerOrder
  | none => []
  | some (ticket, price) =>
      (sends.filter SendAnswer.mayExist).map fun _ =>
        .market ticket s.direction s.lots price s.bridgeCall.comment

def step (s : OpenCall) : OpenStep → OpenCall
  | .skipEa => if s.phase = .start then { s with phase := .send } else s
  | .askEa => if s.phase = .start then { s with phase := .awaitAck, request := true } else s
  | .askEaFails written =>
      if s.phase = .start then { s with phase := .lookPositions, request := written } else s
  | .loseRequest => { s with request := false }
  | .eaPlaces ticket price ack =>
      if s.request then
        { s with
          request := false
          placed := s.placed ++ [s.eaOrder ticket price]
          acks := s.acks ++ [ack] }
      else s
  | .eaRefuses error =>
      if s.request then { s with request := false, acks := s.acks ++ [.failed error] } else s
  | .ackArrives =>
      match s.phase, s.acks with
      | .awaitAck, .opened ticket price :: acks =>
          { s with phase := .openedByEa ticket price, acks := acks }
      | .awaitAck, .failed _ :: acks => { s with phase := .lookPositions, acks := acks }
      | _, _ => s
  | .ackTimesOut => if s.phase = .awaitAck then { s with phase := .lookPositions } else s
  | .readPositions others =>
      if s.phase = .lookPositions then
        -- a blank id is not looked for
        if dedupPrefixes s.tradeId = [] then { s with phase := .send }
        else
          match findAmongPositions s.tradeId (readOwn s.openPositions others) with
          | some result => { s with phase := resolve result }
          | none => { s with phase := .lookDeals }
      else s
  | .readDeals others =>
      if s.phase = .lookDeals then
        { s with phase := resolve (findAmongDeals s.tradeId (readOwn s.deals others)) }
      else s
  | .positionCloses ticket => { s with placed := s.placed.map (BrokerOrder.closeIf ticket) }
  | .bridgeSends configured exchange m landed =>
      if s.phase = .send then
        let done := clientPlaceOrder configured exchange m s.bridgeCall
        { s with
          phase := .sent (judgeReply done.1), placed := s.placed ++ s.bridgeOrders done.2 landed }
      else s

/-- The look at the broker found nothing, or was not needed. -/
def cleared (s : OpenCall) : Bool :=
  match s.phase with
  | .send => true
  | .sent _ => true
  | _ => false

def timely (s : OpenCall) : OpenStep → Bool
  | .eaPlaces _ _ _ => !s.cleared
  | _ => true

def begin (tradeId : String) (direction : Direction) (lots : ℚ) (sl tp : Option ℚ) : OpenCall :=
  ⟨tradeId, direction, lots, sl, tp, .start, false, [], []⟩

structure Once (s : OpenCall) : Prop where
  identified : dedupPrefixes s.tradeId ≠ []
  named : ∀ o ∈ s.placed,
    (dedupMatches (dedupPrefixes s.tradeId) o.deal.comment).isSome = true
  started : s.phase = .start → s.placed = [] ∧ s.request = false
  clear : s.phase = .send → s.placed = []
  /-- An order of the EA that is still to come is counted before the look. -/
  pending : s.cleared = false → s.placed.length + s.request.toNat ≤ 1
  one : s.placed.length ≤ 1

end OpenCall

theorem dedupPrefixes_of_ne {tradeId : String} (h : tradeId ≠ "") :
    dedupPrefixes tradeId =
      [commentPrefix ++ tradeId.toList.take commentIdLen,
        bridgeCommentPrefix ++ tradeId.toList.take commentIdLen] := by
  have short : tradeId.toList.take commentIdLen ≠ [] := by
    simpa [commentIdLen, List.take_eq_nil_iff] using h
  simp [dedupPrefixes, short]

theorem dedupPrefixes_ne_nil_iff {tradeId : String} :
    dedupPrefixes tradeId ≠ [] ↔ tradeId ≠ "" := by
  constructor
  · rintro listed rfl
    exact listed rfl
  · intro ne
    rw [dedupPrefixes_of_ne ne]
    exact List.cons_ne_nil _ _

theorem eaOrderComment_found {tradeId : String} (h : dedupPrefixes tradeId ≠ []) :
    (dedupMatches (dedupPrefixes tradeId)
      (String.ofList (eaOrderComment tradeId))).isSome = true := by
  rw [dedupMatches_isSome, dedupPrefixes_of_ne (dedupPrefixes_ne_nil_iff.mp h)]
  refine ⟨_, List.mem_cons_self, ?_⟩
  rw [List.isPrefixOf_iff_prefix, String.toList_ofList, eaOrderComment,
    List.prefix_append_right_inj]
  exact List.take_prefix_take_left (by decide)

/-- The limit of the broker cuts nothing off. -/
theorem commentForBridgeOrder_eq (tradeId : String) :
    commentForBridgeOrder tradeId =
      bridgeCommentPrefix ++ tradeId.toList.take commentIdLen := by
  have short : (tradeId.toList.take commentIdLen).length ≤ commentIdLen :=
    List.length_take_le _ _
  apply List.take_of_length_le
  rw [List.length_append]
  exact (Nat.add_le_add_left short _).trans (by decide)

theorem commentForBridgeOrder_found {tradeId : String} (h : dedupPrefixes tradeId ≠ []) :
    (dedupMatches (dedupPrefixes tradeId)
      (String.ofList (commentForBridgeOrder tradeId))).isSome = true := by
  rw [dedupMatches_isSome, dedupPrefixes_of_ne (dedupPrefixes_ne_nil_iff.mp h)]
  refine ⟨_, List.mem_cons_of_mem _ List.mem_cons_self, ?_⟩
  rw [commentForBridgeOrder_eq, String.toList_ofList]
  exact List.isPrefixOf_iff_prefix.mpr List.prefix_rfl

namespace OpenCall

theorem placed_of_absent {s : OpenCall} (inv : s.Once) {others : Read (List Deal)}
    (h : findAmongDeals s.tradeId (readOwn s.deals others) = .absent) : s.placed = [] := by
  obtain ⟨deals, read, clean⟩ := findAmongDeals_absent h
  have listed : ∀ d ∈ s.deals, d ∈ deals := by
    intro d mem
    cases others with
    | value foreign =>
        rw [readOwn, Read.value.injEq] at read
        rw [← read]
        exact List.mem_append_left foreign mem
    | none => exact absurd read (by simp [readOwn])
    | raised => exact absurd read (by simp [readOwn])
  rw [List.eq_nil_iff_forall_not_mem]
  intro o mem
  have missed := clean o.deal (listed _ (List.mem_map_of_mem mem)) o.isOpening
  have found := inv.named o mem
  rw [missed] at found
  exact absurd found (by simp)

theorem Once.frame {s t : OpenCall} (inv : s.Once) (ident : t.tradeId = s.tradeId)
    (placed : t.placed = s.placed) (request : t.request = true → s.request = true)
    (phase : t.phase = s.phase ∨
      (t.phase ≠ .start ∧ t.phase ≠ .send ∧ s.cleared = false)) : t.Once := by
  have fewer : t.request.toNat ≤ s.request.toNat := by
    cases asked : t.request with
    | false => exact Nat.zero_le _
    | true => rw [request asked]
  refine ⟨?_, ?_, ?_, ?_, ?_, ?_⟩
  · rw [ident]
    exact inv.identified
  · rw [ident, placed]
    exact inv.named
  · intro h
    cases phase with
    | inl same =>
        obtain ⟨none, unasked⟩ := inv.started (same ▸ h)
        refine ⟨placed.trans none, ?_⟩
        cases asked : t.request with
        | false => rfl
        | true => exact absurd (request asked) (by simp [unasked])
    | inr other => exact absurd h other.1
  · intro h
    cases phase with
    | inl same => exact placed.trans (inv.clear (same ▸ h))
    | inr other => exact absurd h other.2.1
  · intro h
    have uncleared : s.cleared = false := by
      cases phase with
      | inl same => rwa [cleared, same] at h
      | inr other => exact other.2.2
    have bound := inv.pending uncleared
    rw [placed]
    omega
  · rw [placed]
    exact inv.one

theorem cleared_of_phase {s : OpenCall} {phase : CallPhase} (h : s.phase = phase)
    (notSend : phase ≠ .send) (notSent : ∀ v, phase ≠ .sent v) : s.cleared = false := by
  rw [cleared, h]
  cases phase with
  | send => exact absurd rfl notSend
  | sent v => exact absurd rfl (notSent v)
  | _ => rfl

/-- A look that finds the order, or cannot see, does not clear the call. -/
theorem Once.resolved {s : OpenCall} (inv : s.Once) (uncleared : s.cleared = false)
    {result : DedupResult} (known : result ≠ .absent) :
    ({ s with phase := resolve result } : OpenCall).Once := by
  cases result with
  | found m => exact inv.frame rfl rfl id (.inr ⟨by simp [resolve], by simp [resolve], uncleared⟩)
  | unknown => exact inv.frame rfl rfl id (.inr ⟨by simp [resolve], by simp [resolve], uncleared⟩)
  | absent => exact absurd rfl known

theorem Once.asked {s : OpenCall} (inv : s.Once) (fresh : s.phase = .start) {phase : CallPhase}
    (begun : phase ≠ .start) (notSend : phase ≠ .send) (request : Bool) :
    ({ s with phase := phase, request := request } : OpenCall).Once := by
  obtain ⟨none, _⟩ := inv.started fresh
  refine ⟨inv.identified, inv.named, fun h => absurd h begun, fun h => absurd h notSend, ?_,
    inv.one⟩
  intro _
  change s.placed.length + request.toNat ≤ 1
  rw [none]
  cases request <;> simp

theorem Once.eaPlaces {s : OpenCall} (inv : s.Once) (ticket : ℤ) (price : ℚ) (ack : EaAck)
    (uncleared : s.cleared = false) : (s.step (.eaPlaces ticket price ack)).Once := by
  rw [step]
  cases asked : s.request with
  | false => simpa using inv
  | true =>
      have none : s.placed = [] := by
        have bound := inv.pending uncleared
        rw [asked, Bool.toNat_true] at bound
        exact List.length_eq_zero_iff.mp (by omega)
      rw [if_pos rfl, none, List.nil_append]
      refine ⟨inv.identified, ?_, ?_, ?_, fun _ => Nat.le_refl 1, Nat.le_refl 1⟩
      · intro o mem
        rw [List.mem_singleton.mp mem]
        exact eaOrderComment_found inv.identified
      · intro h
        exact absurd (inv.started h).2 (by simp [asked])
      · intro h
        exact absurd uncleared (by simp [cleared, show s.phase = .send from h])

theorem Once.bridgeSends {s : OpenCall} (inv : s.Once) (configured : Bool) (exchange : Exchange)
    (m : Terminal) (landed : Option (ℤ × ℚ)) :
    (s.step (.bridgeSends configured exchange m landed)).Once := by
  rw [step]
  by_cases ready : s.phase = .send
  · rw [if_pos ready, inv.clear ready]
    have few := clientPlaceOrder_length_mayExist configured exchange m s.bridgeCall
    have one : (s.bridgeOrders (clientPlaceOrder configured exchange m s.bridgeCall).2
        landed).length ≤ 1 := by
      cases landed with
      | none => exact Nat.zero_le 1
      | some fill => simpa [bridgeOrders] using few
    refine ⟨inv.identified, ?_, ?_, ?_, ?_, one⟩
    · intro o mem
      cases landed with
      | none => exact absurd mem (by simp [bridgeOrders])
      | some fill =>
          obtain ⟨a, _, eq⟩ := List.mem_map.mp mem
          rw [← eq]
          exact commentForBridgeOrder_found inv.identified
    · intro h
      exact absurd h (by simp)
    · intro h
      exact absurd h (by simp)
    · intro h
      exact absurd h (by simp [cleared])
  · rw [if_neg ready]
    exact inv

theorem Once.readPositions {s : OpenCall} (inv : s.Once) (others : Read (List Position)) :
    (s.step (.readPositions others)).Once := by
  rw [step]
  by_cases looking : s.phase = .lookPositions
  · have uncleared := cleared_of_phase looking (by simp) (by simp)
    rw [if_pos looking, if_neg inv.identified]
    cases found : findAmongPositions s.tradeId (readOwn s.openPositions others) with
    | none => exact inv.frame rfl rfl id (.inr ⟨by simp, by simp, uncleared⟩)
    | some result =>
        -- the positions alone never report an absence
        have known : result ≠ .absent := by
          intro absent
          rw [absent] at found
          cases others <;> simp [readOwn, findAmongPositions] at found
        exact inv.resolved uncleared known
  · rw [if_neg looking]
    exact inv

theorem Once.readDeals {s : OpenCall} (inv : s.Once) (others : Read (List Deal)) :
    (s.step (.readDeals others)).Once := by
  rw [step]
  by_cases looking : s.phase = .lookDeals
  · have uncleared := cleared_of_phase looking (by simp) (by simp)
    rw [if_pos looking]
    cases found : findAmongDeals s.tradeId (readOwn s.deals others) with
    | found m => exact inv.resolved uncleared (by simp)
    | unknown => exact inv.resolved uncleared (by simp)
    | absent =>
        have none := placed_of_absent inv found
        refine ⟨inv.identified, inv.named, ?_, fun _ => none, ?_, inv.one⟩
        · intro h
          exact absurd h (by simp [resolve])
        · intro h
          exact absurd h (by simp [resolve, cleared])
  · rw [if_neg looking]
    exact inv

theorem Once.positionCloses {s : OpenCall} (inv : s.Once) (ticket : ℤ) :
    (s.step (.positionCloses ticket)).Once := by
  have length : (s.placed.map (BrokerOrder.closeIf ticket)).length = s.placed.length :=
    List.length_map _
  have none : s.placed = [] → s.placed.map (BrokerOrder.closeIf ticket) = [] := by
    intro h
    rw [h, List.map_nil]
  refine ⟨inv.identified, ?_, ?_, fun h => none (inv.clear h), ?_, ?_⟩
  · intro o mem
    obtain ⟨o', mem', eq⟩ := List.mem_map.mp mem
    rw [← eq, BrokerOrder.closeIf_deal]
    exact inv.named o' mem'
  · intro h
    exact ⟨none (inv.started h).1, (inv.started h).2⟩
  · intro h
    exact length ▸ inv.pending h
  · exact length ▸ inv.one

theorem Once.step {s : OpenCall} (inv : s.Once) (a : OpenStep) (ok : s.timely a = true) :
    (s.step a).Once := by
  cases a with
  | skipEa =>
      rw [OpenCall.step]
      by_cases fresh : s.phase = .start
      · rw [if_pos fresh]
        refine ⟨inv.identified, inv.named, ?_, fun _ => (inv.started fresh).1, ?_, inv.one⟩
        · intro h
          exact absurd h (by simp)
        · intro h
          exact absurd h (by simp [cleared])
      · rw [if_neg fresh]
        exact inv
  | askEa =>
      rw [OpenCall.step]
      by_cases fresh : s.phase = .start
      · rw [if_pos fresh]
        exact inv.asked fresh (by simp) (by simp) true
      · rw [if_neg fresh]
        exact inv
  | askEaFails written =>
      rw [OpenCall.step]
      by_cases fresh : s.phase = .start
      · rw [if_pos fresh]
        exact inv.asked fresh (by simp) (by simp) written
      · rw [if_neg fresh]
        exact inv
  | loseRequest => exact inv.frame rfl rfl (by simp [OpenCall.step]) (.inl rfl)
  | eaPlaces ticket price ack => exact inv.eaPlaces ticket price ack (by simpa [timely] using ok)
  | eaRefuses error =>
      rw [OpenCall.step]
      cases s.request with
      | false => simpa using inv
      | true => exact inv.frame rfl rfl (by simp) (.inl rfl)
  | ackArrives =>
      rw [OpenCall.step]
      split
      · next waiting _ =>
          exact inv.frame rfl rfl id
            (.inr ⟨by simp, by simp, cleared_of_phase waiting (by simp) (by simp)⟩)
      · next waiting _ =>
          exact inv.frame rfl rfl id
            (.inr ⟨by simp, by simp, cleared_of_phase waiting (by simp) (by simp)⟩)
      · exact inv
  | ackTimesOut =>
      rw [OpenCall.step]
      by_cases waiting : s.phase = .awaitAck
      · rw [if_pos waiting]
        exact inv.frame rfl rfl id
          (.inr ⟨by simp, by simp, cleared_of_phase waiting (by simp) (by simp)⟩)
      · rw [if_neg waiting]
        exact inv
  | readPositions others => exact inv.readPositions others
  | readDeals others => exact inv.readDeals others
  | positionCloses ticket => exact inv.positionCloses ticket
  | bridgeSends configured exchange m landed => exact inv.bridgeSends configured exchange m landed

theorem once_begin {tradeId : String} (h : tradeId ≠ "") (direction : Direction) (lots : ℚ)
    (sl tp : Option ℚ) : (begin tradeId direction lots sl tp).Once := by
  refine ⟨?_, fun o mem => absurd mem List.not_mem_nil, fun _ => ⟨rfl, rfl⟩, fun _ => rfl,
    fun _ => Nat.zero_le 1, Nat.zero_le 1⟩
  change dedupPrefixes tradeId ≠ []
  rw [dedupPrefixes_of_ne h]
  simp

theorem open_trade_at_most_one_order {tradeId : String} (h : tradeId ≠ "")
    (direction : Direction) (lots : ℚ) (sl tp : Option ℚ) (run : List OpenStep)
    (ok : Meets step (fun s a => s.timely a = true) (begin tradeId direction lots sl tp) run) :
    ∀ s ∈ states step (begin tradeId direction lots sl tp) run, s.placed.length ≤ 1 := by
  intro s mem
  have once := states_invariant (I := Once) (fun s a inv ok => inv.step a ok)
    (once_begin h direction lots sl tp) ok s mem
  exact once.one

def slowEa : List OpenStep :=
  [.askEa, .ackTimesOut, .readPositions (.value []), .eaPlaces 7001 2000 (.opened 7001 2000),
    .readDeals (.value [])]

theorem open_trade_at_most_one_order_slowEa :
    (slowEa.foldl step (begin "0123456789abcdef" .buy 1 (some 1990) none)).placed.length = 1 ∧
      ∀ s ∈ states step (begin "0123456789abcdef" .buy 1 (some 1990) none) slowEa,
        s.placed.length ≤ 1 := by
  refine ⟨by decide, ?_⟩
  exact open_trade_at_most_one_order (by decide) .buy 1 (some 1990) none slowEa
    (by decide)

/-- The EA comes to the request after the look at the broker. -/
def lateEa : List OpenStep :=
  [.askEa, .ackTimesOut, .readPositions (.value []), .readDeals (.value []),
    .bridgeSends true .answered (.answering retcodeDone) (some (7002, 2001)),
    .eaPlaces 7001 2000 (.opened 7001 2000)]

theorem open_trade_two_orders :
    ¬ ∀ s ∈ states step (begin "0123456789abcdef" .buy 1 (some 1990) none) lateEa,
      s.placed.length ≤ 1 := by
  decide

end OpenCall

end Forex
