import Forex.Send.OpenTrade

/-!
`find_trade` over both reads, as the fallback of `open_trade` asks it. The answer
is compared with what the two senders write on the orders of a trade, and the
reads with what the HTTP client makes of an exchange with the bridge.
-/

namespace Forex

inductive Sender where
  | ea
  | bridge
deriving DecidableEq, Repr

/-- What the EA places for a trade: one order, at the market or resting, or the
legs of a template. -/
inductive EaOrder where
  | single
  | anchor (leg : ℕ)
  | grid (leg : ℕ)
deriving DecidableEq, Repr

def EaOrder.comment (tradeId : String) : EaOrder → List Char
  | .single => eaOrderComment tradeId
  | .anchor leg => commentForTrade tradeId ++ 'a' :: (toString leg).toList
  | .grid leg => commentForTrade tradeId ++ 'g' :: (toString leg).toList

namespace Sender

def tag : Sender → List Char
  | .ea => commentPrefix
  | .bridge => bridgeCommentPrefix

/-- The comment is one that the sender writes for the trade. -/
def Writes (tradeId : String) (s : Sender) (comment : String) : Prop :=
  match s with
  | .ea => ∃ o : EaOrder, comment.toList = o.comment tradeId
  | .bridge => comment.toList = commentForBridgeOrder tradeId

/-- The comment begins with the tag of the sender and the short id. -/
def Signs (tradeId : String) (s : Sender) (comment : String) : Prop :=
  s.tag ++ tradeId.toList.take commentIdLen <+: comment.toList

instance decidableSigns (tradeId : String) (s : Sender) (comment : String) :
    Decidable (s.Signs tradeId comment) :=
  inferInstanceAs (Decidable (s.tag ++ tradeId.toList.take commentIdLen <+: comment.toList))

end Sender

/-- What the two reads of one look give, when they are made. -/
structure BrokerReads where
  positions : Read (List Position)
  deals : Read (List Deal)
deriving DecidableEq, Repr

/-- `find_trade`. -/
def findTrade (bridge : Option BrokerReads) (tradeId : String) : DedupResult :=
  if dedupPrefixes tradeId = [] then .absent
  else
    match bridge with
    | none => .unknown
    | some reads =>
        (findAmongPositions tradeId reads.positions).getD (findAmongDeals tradeId reads.deals)

inductive FallbackDecision where
  | send
  | adopt (m : DedupMatch)
  | outcomeUnknown
deriving DecidableEq, Repr

/-- `_resolve_fallback_send`. -/
def resolveFallbackSend (bridge : Option BrokerReads) (tradeId : String) (eaAttempted : Bool) :
    FallbackDecision :=
  if !eaAttempted then .send
  else
    match findTrade bridge tradeId with
    | .found m => .adopt m
    | .unknown => .outcomeUnknown
    | .absent => .send

section Client
variable {α : Type}

/-- The field of the body that is asked for. -/
inductive ReadBody (α : Type) where
  /-- Not JSON, or not an object. -/
  | unreadable
  | missing
  | null
  | list (as : List α)
deriving DecidableEq, Repr

inductive ReadAnswer (α : Type) where
  | failed
  | replied (status : ℕ) (body : ReadBody α)
deriving DecidableEq, Repr

def ReadBody.field : ReadBody α → Read (List α)
  | .unreadable => .none
  | .missing => .value []
  | .null => .none
  | .list as => .value as

/-- `MT5BridgeClient.get_positions` and `get_deal_history`, over one exchange. -/
def clientRead (configured : Bool) (answer : ReadAnswer α) : Read (List α) :=
  if !configured then .none
  else
    match answer with
    | .failed => .none
    | .replied status body => if status = 200 then body.field else .none

/-- A list is never made up: it is that of a body, or there was no such field. -/
theorem clientRead_eq_value_iff {configured : Bool} {answer : ReadAnswer α} {as : List α} :
    clientRead configured answer = .value as ↔
      configured = true ∧
        (answer = .replied 200 (.list as) ∨ answer = .replied 200 .missing ∧ as = []) := by
  cases configured with
  | false => simp [clientRead]
  | true =>
      cases answer with
      | failed => simp [clientRead]
      | replied status body =>
          by_cases ok : status = 200
          · cases body <;> simp [clientRead, ReadBody.field, ok, eq_comm]
          · simp [clientRead, ok]

theorem clientRead_ne_raised (configured : Bool) (answer : ReadAnswer α) :
    clientRead configured answer ≠ .raised := by
  intro raised
  cases configured with
  | false => cases raised
  | true =>
      cases answer with
      | failed => cases raised
      | replied status body =>
          by_cases ok : status = 200
          · cases body <;> simp [clientRead, ReadBody.field, ok] at raised
          · simp [clientRead, ok] at raised

/-- A read that succeeded was answered, and has what the answer lists. -/
theorem clientRead_of_succeeded {configured : Bool} {answer : ReadAnswer α}
    (succeeded : (clientRead configured answer).Succeeded) :
    configured = true ∧ ∃ body, answer = .replied 200 body ∧
      ∃ as, clientRead configured answer = .value as ∧
        ∀ listed, body = .list listed → as = listed := by
  cases read : clientRead configured answer with
  | none => exact absurd succeeded (by rw [read]; exact id)
  | raised => exact absurd read (clientRead_ne_raised configured answer)
  | value as =>
      obtain ⟨on, rfl | ⟨rfl, rfl⟩⟩ := clientRead_eq_value_iff.mp read
      · exact ⟨on, _, rfl, as, rfl, fun listed same => ReadBody.list.inj same⟩
      · exact ⟨on, _, rfl, [], rfl, fun listed same => by cases same⟩

end Client

namespace BrokerReads
variable (Carries : Sender → String → Prop) (reads : BrokerReads)

/-- A read that succeeded has an order that carries the trade, and this is what
is known of it. -/
inductive Shows : DedupMatch → Prop where
  | position (s : Sender) (ps : List Position) (p : Position) (read : reads.positions = .value ps)
      (mem : p ∈ ps) (carries : Carries s p.comment) :
      Shows ⟨nonzero p.ticket, p.openPrice, decide (s = .ea)⟩
  | deal (s : Sender) (ds : List Deal) (d : Deal) (read : reads.deals = .value ds)
      (mem : d ∈ ds) (isOpening : d.opening = true) (carries : Carries s d.comment) :
      Shows ⟨nonzero (if d.order = 0 then d.ticket else d.order), d.price, decide (s = .ea)⟩

/-- Both reads succeeded and neither has an order of the trade. -/
def Clear : Prop :=
  reads.positions.Succeeded ∧ reads.deals.Succeeded ∧ ¬ ∃ m, reads.Shows Carries m

/-- The three answers, each exactly when it should be given. -/
structure ThreeStates (answer : DedupResult) : Prop where
  safe : answer = .absent ↔ reads.Clear Carries
  found : (∃ m, answer = .found m) ↔ ∃ m, reads.Shows Carries m
  adopted : ∀ m, answer = .found m → reads.Shows Carries m
  unknown : answer = .unknown ↔ ¬ reads.Clear Carries ∧ ¬ ∃ m, reads.Shows Carries m

/-- The reads as they are made: where the positions cannot be read the deals are
not asked for. -/
def made : BrokerReads :=
  { reads with deals := if reads.positions.Succeeded then reads.deals else .none }

variable {Carries reads}

theorem Shows.not_clear {m : DedupMatch} (shows : reads.Shows Carries m) : ¬ reads.Clear Carries :=
  fun clear => clear.2.2 ⟨m, shows⟩

theorem made_of_value {ps : List Position} (read : reads.positions = .value ps) :
    reads.made = reads := by
  have succeeded : reads.positions.Succeeded := read ▸ trivial
  rw [made, if_pos succeeded]

/-- Where the positions cannot be read, nothing is shown. -/
theorem made_not_shows (failed : ¬ reads.positions.Succeeded) :
    ¬ ∃ m, reads.made.Shows Carries m := by
  have unasked : reads.made.deals = .none := if_neg failed
  rintro ⟨m, shows⟩
  cases shows with
  | position s ps p read mem carries => exact failed (read ▸ trivial)
  | deal s ds d read mem isOpening carries => cases unasked.symm.trans read

/-- The answers exclude each other, and so do what they stand for. -/
theorem ThreeStates.of_answer {answer : DedupResult}
    (absent : answer = .absent → reads.Clear Carries)
    (found : ∀ m, answer = .found m → reads.Shows Carries m)
    (unknown : answer = .unknown → ¬ reads.Clear Carries ∧ ¬ ∃ m, reads.Shows Carries m) :
    reads.ThreeStates Carries answer := by
  cases answer with
  | found m =>
      have shows := found m rfl
      exact ⟨iff_of_false (fun h => by cases h) shows.not_clear,
        iff_of_true ⟨m, rfl⟩ ⟨m, shows⟩, found,
        iff_of_false (fun h => by cases h) fun neither => neither.2 ⟨m, shows⟩⟩
  | unknown =>
      have neither := unknown rfl
      exact ⟨iff_of_false (fun h => by cases h) neither.1,
        iff_of_false (fun ⟨_, h⟩ => by cases h) neither.2, found, iff_of_true rfl neither⟩
  | absent =>
      have clear := absent rfl
      exact ⟨iff_of_true rfl clear, iff_of_false (fun ⟨_, h⟩ => by cases h) clear.2.2, found,
        iff_of_false (fun h => by cases h) fun neither => neither.1 clear⟩

end BrokerReads

namespace Sender
variable {tradeId comment : String}

theorem Signs.tag_eq {s s' : Sender} (h : s.Signs tradeId comment) {other : String}
    (h' : s'.Signs other comment) : s = s' := by
  obtain ⟨rest, eq⟩ := h
  obtain ⟨rest', eq'⟩ := h'
  have same := congrArg List.head? (eq.trans eq'.symm)
  cases s with
  | ea =>
      cases s' with
      | ea => rfl
      | bridge => cases same
  | bridge =>
      cases s' with
      | ea => cases same
      | bridge => rfl

/-- `_matches` finds the sender whose tag and short id the comment begins with. -/
theorem dedupMatches_eq_some_iff (ne : tradeId ≠ "") {byEa : Bool} :
    dedupMatches (dedupPrefixes tradeId) comment = some byEa ↔
      ∃ s : Sender, s.Signs tradeId comment ∧ byEa = decide (s = .ea) := by
  have ea : (commentPrefix ++ tradeId.toList.take commentIdLen).isPrefixOf comment.toList = true ↔
      Sender.ea.Signs tradeId comment := List.isPrefixOf_iff_prefix
  have bridge :
      (bridgeCommentPrefix ++ tradeId.toList.take commentIdLen).isPrefixOf comment.toList = true ↔
        Sender.bridge.Signs tradeId comment := List.isPrefixOf_iff_prefix
  rw [dedupMatches, dedupPrefixes_of_ne ne, List.findIdx?_cons]
  by_cases byEa : Sender.ea.Signs tradeId comment
  · rw [if_pos (ea.mpr byEa)]
    constructor
    · intro found
      exact ⟨.ea, byEa, (Option.some.inj found).symm⟩
    · rintro ⟨s, signs, rfl⟩
      rw [signs.tag_eq byEa]
      rfl
  · rw [if_neg (mt ea.mp byEa), List.findIdx?_cons]
    by_cases byBridge : Sender.bridge.Signs tradeId comment
    · rw [if_pos (bridge.mpr byBridge)]
      constructor
      · intro found
        exact ⟨.bridge, byBridge, (Option.some.inj found).symm⟩
      · rintro ⟨s, signs, rfl⟩
        rw [signs.tag_eq byBridge]
        rfl
    · rw [if_neg (mt bridge.mp byBridge)]
      refine iff_of_false (fun found => by cases found) ?_
      rintro ⟨s, signs, -⟩
      cases s with
      | ea => exact byEa signs
      | bridge => exact byBridge signs

theorem dedupMatches_eq_none_iff (ne : tradeId ≠ "") :
    dedupMatches (dedupPrefixes tradeId) comment = none ↔
      ∀ s : Sender, ¬ s.Signs tradeId comment := by
  rw [Option.eq_none_iff_forall_ne_some]
  constructor
  · intro missed s signs
    exact missed _ ((dedupMatches_eq_some_iff ne).mpr ⟨s, signs, rfl⟩)
  · intro unsigned byEa found
    obtain ⟨s, signs, _⟩ := (dedupMatches_eq_some_iff ne).mp found
    exact unsigned s signs

/-- Whatever a sender writes for a trade, it signs. -/
theorem Writes.signs {s : Sender} (writes : s.Writes tradeId comment) :
    s.Signs tradeId comment := by
  cases s with
  | ea =>
      obtain ⟨o, eq⟩ := writes
      rw [Signs, eq]
      cases o with
      | single =>
          exact (List.prefix_append_right_inj _).mpr (List.take_prefix_take_left (by decide))
      | anchor leg => exact List.prefix_append _ _
      | grid leg => exact List.prefix_append _ _
  | bridge =>
      rw [Signs, writes, commentForBridgeOrder_eq]
      exact List.prefix_rfl

/-- Full short ids that differ sign differently. -/
theorem Signs.take_eq {s s' : Sender} {other : String} (h : s.Signs tradeId comment)
    (h' : s'.Signs other comment) (long : commentIdLen ≤ tradeId.length)
    (long' : commentIdLen ≤ other.length) :
    tradeId.toList.take commentIdLen = other.toList.take commentIdLen := by
  rw [h.tag_eq h'] at h
  have same : (tradeId.toList.take commentIdLen).length =
      (other.toList.take commentIdLen).length := by
    rw [List.length_take, List.length_take, String.length_toList, String.length_toList,
      min_eq_left long, min_eq_left long']
  have nested := List.prefix_of_prefix_length_le h h' (by
    rw [List.length_append, List.length_append, same])
  exact ((List.prefix_append_right_inj _).mp nested).eq_of_length same

end Sender

section Look
open BrokerReads
variable {tradeId : String}

theorem findAmongPositions_some {read : Read (List Position)} {answer : DedupResult}
    (ne : tradeId ≠ "") (h : findAmongPositions tradeId read = some answer) :
    answer = .unknown ∧ ¬ read.Succeeded ∨
      ∃ ps, read = .value ps ∧ ∃ p ∈ ps, ∃ s : Sender, s.Signs tradeId p.comment ∧
        answer = .found ⟨nonzero p.ticket, p.openPrice, decide (s = .ea)⟩ := by
  cases read with
  | none => exact .inl ⟨(Option.some.inj h).symm, id⟩
  | raised => exact .inl ⟨(Option.some.inj h).symm, id⟩
  | value ps =>
      obtain ⟨m, first, rfl⟩ := Option.map_eq_some_iff.mp h
      obtain ⟨p, mem, ours⟩ := List.exists_of_findSome?_eq_some first
      obtain ⟨byEa, matched, rfl⟩ := Option.map_eq_some_iff.mp ours
      obtain ⟨s, signs, rfl⟩ := (Sender.dedupMatches_eq_some_iff ne).mp matched
      exact .inr ⟨ps, rfl, p, mem, s, signs, rfl⟩

theorem findAmongPositions_none {read : Read (List Position)} (ne : tradeId ≠ "")
    (h : findAmongPositions tradeId read = none) :
    ∃ ps, read = .value ps ∧ ∀ p ∈ ps, ∀ s : Sender, ¬ s.Signs tradeId p.comment := by
  cases read with
  | none => cases h
  | raised => cases h
  | value ps =>
      refine ⟨ps, rfl, fun p mem => (Sender.dedupMatches_eq_none_iff ne).mp ?_⟩
      have missed := List.findSome?_eq_none_iff.mp (Option.map_eq_none_iff.mp h) p mem
      exact Option.map_eq_none_iff.mp missed

theorem findAmongDeals_found {read : Read (List Deal)} {m : DedupMatch} (ne : tradeId ≠ "")
    (h : findAmongDeals tradeId read = .found m) :
    ∃ ds, read = .value ds ∧ ∃ d ∈ ds, d.opening = true ∧ ∃ s : Sender, s.Signs tradeId d.comment ∧
      m = ⟨nonzero (if d.order = 0 then d.ticket else d.order), d.price, decide (s = .ea)⟩ := by
  cases read with
  | none => cases h
  | raised => cases h
  | value ds =>
      simp only [findAmongDeals] at h
      split at h
      · next first =>
          obtain ⟨d, mem, ours⟩ := List.exists_of_findSome?_eq_some first
          split at ours
          · next isOpening =>
              obtain ⟨byEa, matched, eq⟩ := Option.map_eq_some_iff.mp ours
              obtain ⟨s, signs, rfl⟩ := (Sender.dedupMatches_eq_some_iff ne).mp matched
              refine ⟨ds, rfl, d, mem, isOpening, s, signs, ?_⟩
              rw [← DedupResult.found.inj h, eq]
          · cases ours
      · cases h

theorem findAmongDeals_unknown {read : Read (List Deal)}
    (h : findAmongDeals tradeId read = .unknown) : ¬ read.Succeeded := by
  cases read with
  | none => exact id
  | raised => exact id
  | value ds =>
      simp only [findAmongDeals] at h
      split at h <;> cases h

theorem findTrade_of_ne (ne : tradeId ≠ "") (reads : BrokerReads) :
    findTrade (some reads) tradeId =
      (findAmongPositions tradeId reads.positions).getD (findAmongDeals tradeId reads.deals) := by
  rw [findTrade, if_neg (dedupPrefixes_ne_nil_iff.mpr ne)]

/-- The look-up is sound and complete for the reads as they are made. -/
theorem findTrade_threeStates (ne : tradeId ≠ "") (reads : BrokerReads) :
    reads.made.ThreeStates (Sender.Signs tradeId) (findTrade (some reads) tradeId) := by
  rw [findTrade_of_ne ne]
  cases first : findAmongPositions tradeId reads.positions with
  | some answer =>
      rw [Option.getD_some]
      obtain ⟨rfl, failed⟩ | ⟨ps, read, p, mem, s, signs, rfl⟩ := findAmongPositions_some ne first
      · exact .of_answer (fun h => by cases h) (fun m h => by cases h)
          fun _ => ⟨fun clear => failed clear.1, made_not_shows failed⟩
      · refine .of_answer (fun h => by cases h) (fun m h => ?_) (fun h => by cases h)
        rw [← DedupResult.found.inj h]
        exact .position s ps p read mem signs
  | none =>
      obtain ⟨ps, read, unsigned⟩ := findAmongPositions_none ne first
      rw [Option.getD_none, made_of_value read]
      have onlyDeals {m : DedupMatch} (shows : reads.Shows (Sender.Signs tradeId) m) :
          ∃ ds, reads.deals = .value ds ∧ ∃ d ∈ ds, d.opening = true ∧
            ∃ s : Sender, s.Signs tradeId d.comment := by
        cases shows with
        | position s ps' p read' mem signs =>
            rw [read, Read.value.injEq] at read'
            exact absurd signs (unsigned p (read' ▸ mem) s)
        | deal s ds d read' mem isOpening signs => exact ⟨ds, read', d, mem, isOpening, s, signs⟩
      refine .of_answer (fun absent => ?_) (fun m found => ?_) fun unknown => ?_
      · obtain ⟨ds, asked, clean⟩ := findAmongDeals_absent absent
        refine ⟨read ▸ trivial, asked ▸ trivial, ?_⟩
        rintro ⟨m, shows⟩
        obtain ⟨ds', asked', d, mem, isOpening, s, signs⟩ := onlyDeals shows
        rw [asked, Read.value.injEq] at asked'
        exact (Sender.dedupMatches_eq_none_iff ne).mp (clean d (asked' ▸ mem) isOpening) s signs
      · obtain ⟨ds, asked, d, mem, isOpening, s, signs, rfl⟩ := findAmongDeals_found ne found
        exact .deal s ds d asked mem isOpening signs
      · have failed := findAmongDeals_unknown unknown
        refine ⟨fun clear => failed clear.2.1, ?_⟩
        rintro ⟨m, shows⟩
        obtain ⟨ds, asked, _⟩ := onlyDeals shows
        exact failed (asked ▸ trivial)

/-- Ids that are long enough and differ in the short id do not find each other's
orders. -/
theorem dedupMatches_of_other {other comment : String} {s : Sender} (ne : tradeId ≠ "")
    (long : commentIdLen ≤ tradeId.length) (long' : commentIdLen ≤ other.length)
    (differ : tradeId.toList.take commentIdLen ≠ other.toList.take commentIdLen)
    (writes : s.Writes other comment) : dedupMatches (dedupPrefixes tradeId) comment = none := by
  rw [Sender.dedupMatches_eq_none_iff ne]
  intro s' signs
  exact differ (signs.take_eq writes.signs long long')

theorem resolveFallbackSend_eq_send_iff (ne : tradeId ≠ "") (reads : BrokerReads)
    {eaAttempted : Bool} :
    resolveFallbackSend (some reads) tradeId eaAttempted = .send ↔
      eaAttempted = false ∨ reads.made.Clear (Sender.Signs tradeId) := by
  cases eaAttempted with
  | false => exact iff_of_true rfl (.inl rfl)
  | true =>
      rw [← (findTrade_threeStates ne reads).safe]
      cases answer : findTrade (some reads) tradeId <;> simp [resolveFallbackSend, answer]

/-- After the EA was asked, an order goes out through the bridge only if both
exchanges with it were answered, and no order in the answers is the trade's. -/
theorem resolveFallbackSend_client (ne : tradeId ≠ "") {configured : Bool}
    {positions : ReadAnswer Position} {deals : ReadAnswer Deal}
    (sends : resolveFallbackSend
      (some ⟨clientRead configured positions, clientRead configured deals⟩) tradeId true = .send) :
    configured = true ∧
      (∃ body, positions = .replied 200 body ∧ ∀ ps, body = .list ps →
        ∀ p ∈ ps, ∀ s : Sender, ¬ s.Signs tradeId p.comment) ∧
      ∃ body, deals = .replied 200 body ∧ ∀ ds, body = .list ds →
        ∀ d ∈ ds, d.opening = true → ∀ s : Sender, ¬ s.Signs tradeId d.comment := by
  obtain unasked | clear := (resolveFallbackSend_eq_send_iff ne _).mp sends
  · cases unasked
  · obtain ⟨on, body, answered, ps, read, listed⟩ := clientRead_of_succeeded clear.1
    rw [made_of_value read] at clear
    obtain ⟨_, body', answered', ds, read', listed'⟩ := clientRead_of_succeeded clear.2.1
    refine ⟨on, ⟨body, answered, ?_⟩, body', answered', ?_⟩
    · intro ps' eq p mem s signs
      exact clear.2.2 ⟨_, .position s ps p read (listed ps' eq ▸ mem) signs⟩
    · intro ds' eq d mem isOpening s signs
      exact clear.2.2 ⟨_, .deal s ds d read' (listed' ds' eq ▸ mem) isOpening signs⟩

/-- The look that `OpenCall` takes in two steps is this one. -/
theorem OpenCall.look_eq_findTrade {c : OpenCall} (looks : c.phase = .lookPositions)
    (ne : c.tradeId ≠ "") (positions : Read (List Position)) (deals : Read (List Deal)) :
    ((c.step (.readPositions positions)).step (.readDeals deals)).phase =
      OpenCall.resolve (findTrade
        (some ⟨OpenCall.readOwn c.openPositions positions, OpenCall.readOwn c.deals deals⟩)
        c.tradeId) := by
  have asked := dedupPrefixes_ne_nil_iff.mpr ne
  rw [findTrade_of_ne ne]
  cases found : findAmongPositions c.tradeId (OpenCall.readOwn c.openPositions positions) with
  | some result =>
      have first : c.step (.readPositions positions) =
          { c with phase := OpenCall.resolve result } := by
        rw [OpenCall.step, if_pos looks, if_neg asked, found]
      rw [first, Option.getD_some]
      cases result <;> rfl
  | none =>
      have first : c.step (.readPositions positions) = { c with phase := .lookDeals } := by
        rw [OpenCall.step, if_pos looks, if_neg asked, found]
      rw [first, Option.getD_none]
      rfl

/-- The answer is right in all three states, for comments that begin as those of
the trade do and for the reads as they are made; every comment the senders write
for the trade begins so, and none that they write for another full id. -/
theorem duplicate_lookup_sound (ne : tradeId ≠ "") (reads : BrokerReads) :
    reads.made.ThreeStates (Sender.Signs tradeId) (findTrade (some reads) tradeId) ∧
      (∀ (s : Sender) (comment : String), s.Writes tradeId comment → s.Signs tradeId comment) ∧
      ∀ other : String, commentIdLen ≤ tradeId.length → commentIdLen ≤ other.length →
        tradeId.toList.take commentIdLen ≠ other.toList.take commentIdLen →
        ∀ (s : Sender) (comment : String), s.Writes other comment →
          dedupMatches (dedupPrefixes tradeId) comment = none :=
  ⟨findTrade_threeStates ne reads, fun _ _ writes => writes.signs,
    fun _ long long' differ _ _ writes => dedupMatches_of_other ne long long' differ writes⟩

end Look

def uuidId : String := "5b88a61e-63f0-42"

/-- The positions could not be read; among the deals there is the trade's own. -/
def halfBlind : BrokerReads :=
  ⟨.none, .value [(BrokerOrder.market 7001 .buy 1 2000 "py:5b88a61e-6").deal]⟩

theorem duplicate_lookup_half_blind :
    halfBlind.made.ThreeStates (Sender.Signs uuidId) (findTrade (some halfBlind) uuidId) ∧
      dedupMatches (dedupPrefixes uuidId)
        (String.ofList (commentForBridgeOrder "0c4f2d7a-91b3-4e")) = none :=
  have sound := @duplicate_lookup_sound uuidId (by decide) halfBlind
  ⟨sound.1, sound.2.2 "0c4f2d7a-91b3-4e" (by decide) (by decide) (by decide)
    .bridge _ (String.toList_ofList ..)⟩

/-- A position of another trade whose id has the same first ten characters. -/
def strangerHeld : BrokerReads :=
  ⟨.value [(BrokerOrder.market 7002 .buy 1 2000 "ea:5b88a61e-6bb").position], .value []⟩

theorem stranger_not_written (s : Sender) : ¬ s.Writes uuidId "ea:5b88a61e-6bb" := by
  cases s with
  | ea =>
      rintro ⟨o, written⟩
      -- the eleventh character of the id
      have same := congrArg (fun text => text[13]?) written
      cases o with
      | single => exact absurd same (by decide)
      | anchor leg =>
          simp [EaOrder.comment, commentForTrade, uuidId, commentPrefix, commentIdLen] at same
      | grid leg =>
          simp [EaOrder.comment, commentForTrade, uuidId, commentPrefix, commentIdLen] at same
  | bridge => exact fun written => absurd (show _ = _ from written) (by decide)

/-- It goes by the short id and not by the comment as written, does not ask for
the deals where the positions could not be read, and a short id of fewer characters
finds the orders of longer ones. -/
theorem duplicate_lookup_not_exact :
    ¬ strangerHeld.ThreeStates (Sender.Writes uuidId) (findTrade (some strangerHeld) uuidId) ∧
      ¬ halfBlind.ThreeStates (Sender.Writes uuidId) (findTrade (some halfBlind) uuidId) ∧
      ("5b88".toList.take commentIdLen ≠ uuidId.toList.take commentIdLen ∧
        dedupMatches (dedupPrefixes "5b88") (String.ofList (commentForBridgeOrder uuidId)) ≠
          none) := by
  refine ⟨fun stated => ?_, fun stated => ?_, by decide, by decide⟩
  · obtain ⟨m, shows⟩ := stated.found.mp ⟨⟨some 7002, 2000, true⟩, by decide⟩
    cases shows with
    | position s ps p read mem writes =>
        cases read
        rw [List.mem_singleton.mp mem] at writes
        exact stranger_not_written s writes
    | deal s ds d read mem isOpening writes =>
        cases read
        cases mem
  · have answer : findTrade (some halfBlind) uuidId = .unknown := by decide
    refine (stated.unknown.mp answer).2 ⟨_, .deal .bridge _ _ rfl List.mem_cons_self rfl ?_⟩
    show _ = _
    decide

end Forex
