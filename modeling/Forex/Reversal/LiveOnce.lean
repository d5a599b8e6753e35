import Forex.Reversal.LiveExecute
import Forex.Signals.Parked
import Mathlib.Data.Finset.Insert
import Mathlib.Data.Fintype.Defs

/-!
One order at the broker for one Reversal Engine signal. Nothing in the code
relates the vantage signals that the attempts mint, and a failed attempt hands
its signal back whatever the broker has made of the order; the result is for the
runs in which neither does harm.
-/

namespace Forex
open Support

instance : Fintype LiveCaller where
  elems := {.staging, .outcome, .watcher}
  complete c := by
    cases c <;> simp

namespace LivePhase

def held : LivePhase → Option String
  | .minted signalId | .claimed signalId _ | .sending signalId _ => some signalId
  | _ => none

def unclaimed : LivePhase → Option String
  | .minted signalId => some signalId
  | _ => none

def pastClaim : LivePhase → Option String
  | .claimed signalId _ | .sending signalId _ => some signalId
  | _ => none

def unsent : LivePhase → Option String
  | .claimed signalId _ => some signalId
  | _ => none

/-- `open_trade` may send a second order, by the Python bridge. -/
def resends : LivePhase → Option String
  | .sending signalId .market => some signalId
  | _ => none

theorem held_of_pastClaim {p : LivePhase} {signalId : String} (h : signalId ∈ p.pastClaim) :
    signalId ∈ p.held := by
  cases p with
  | idle | gates | minted _ => exact absurd h (by simp [pastClaim])
  | claimed _ _ | sending _ _ => exact h

theorem pastClaim_of_unsent {p : LivePhase} {signalId : String} (h : signalId ∈ p.unsent) :
    signalId ∈ p.pastClaim := by
  cases p with
  | idle | gates | minted _ | sending _ _ => exact absurd h (by simp [unsent])
  | claimed _ _ => exact h

end LivePhase

/-- The signal has a row, in a state that nothing here leaves again. -/
def Db.Ended (db : Db) (signalId : String) : Prop :=
  (db.statusOf signalId).any SignalStatus.isOver = true

instance (db : Db) (signalId : String) : Decidable (db.Ended signalId) :=
  inferInstanceAs (Decidable (_ = _))

namespace LiveDesk
variable (cap : ℕ) (s : LiveDesk)

/-- What the broker holds or may still take for a vantage signal. -/
def load (signalId : String) : ℕ := s.sent.count signalId + s.placed.count signalId

/-- Nothing was placed for the signal, is on its way or is about to be sent. -/
def Free (signalId : String) : Prop :=
  s.load signalId = 0 ∧ ∀ c, signalId ∉ (s.phase c).pastClaim

def Over (signalId : String) : Prop := s.db.Ended signalId ∧ s.Free signalId

instance (signalId : String) : Decidable (s.Free signalId) := inferInstanceAs (Decidable (_ ∧ _))

instance (signalId : String) : Decidable (s.Over signalId) := inferInstanceAs (Decidable (_ ∧ _))

/-- An attempt mints only when the signals minted before are over without an
order; a claim is won only on a signal that is free; and a second order of one
open is sent only when the first is known to be lost. -/
def Careful : LiveStep → Prop
  | .mint _ _ => ∀ signalId ∈ s.minted, s.Over signalId
  | .claim c _ now =>
      ∀ signalId ∈ (s.phase c).unclaimed,
        (s.db.claimSignalActivation cap signalId now).isSome = true → s.Free signalId
  | .look .goesAhead now =>
      ∀ signalId ∈ s.watch.queue.head?,
        (s.db.claimSignalActivation cap signalId now).isSome = true → s.Free signalId
  | .send c => ∀ signalId ∈ (s.phase c).resends, s.load signalId = 0
  | _ => True

instance : ∀ a, Decidable (s.Careful cap a)
  | .mint _ _ => inferInstanceAs (Decidable (∀ signalId ∈ s.minted, s.Over signalId))
  | .claim c _ _ => inferInstanceAs (Decidable (∀ signalId ∈ (s.phase c).unclaimed, _ → _))
  | .look .goesAhead _ => inferInstanceAs (Decidable (∀ signalId ∈ s.watch.queue.head?, _ → _))
  | .send c => inferInstanceAs (Decidable (∀ signalId ∈ (s.phase c).resends, _ = 0))
  | .look .aged _ | .look .held _ | .look .atCap _ | .look (.refused _) _
  | .stage | .readOpen | .visit _ _ | .skip _ _ | .refuse _ _ _ | .take _ | .lose _
  | .orderPlaced _ _ | .tradeOpened _ _ _ | .fail _ _ | .readQueue | .handleFailure | .crash
  | .release _ | .settle _ _ | .fill _ _ _ _ | .elsewhere _ => isTrue True.intro

end LiveDesk

namespace Db
variable {db : Db} {signalId : String}

theorem ended_iff : db.Ended signalId ↔
    ∃ sig, db.signals.find signalId = some sig ∧ sig.status.isOver = true := by
  rw [Ended, statusOf]
  cases db.signals.find signalId <;> simp

theorem Ended.congr {db' : Db} (h : db.Ended signalId)
    (same : db'.signals.find signalId = db.signals.find signalId) : db'.Ended signalId := by
  rw [Ended, statusOf, same]
  exact h

theorem Ended.updateWhere (h : db.Ended signalId) {p : Signal → Bool}
    (f : Assign Signal.signalId)
    (refuses : ∀ row : Signal, row.status.isOver = true → p row = false) :
    Db.Ended { db with signals := db.signals.updateWhere p f } signalId := by
  obtain ⟨sig, found, isOver⟩ := ended_iff.mp h
  exact ended_iff.mpr ⟨sig, by simp [Table.find_updateWhere, found, refuses sig isOver], isOver⟩

theorem Ended.restore (h : db.Ended signalId) (other : String) :
    (db.restoreSignalAfterFailedOpen other).Ended signalId := by
  refine h.updateWhere _ ?_
  intro row isOver
  cases state : row.status <;> simp [state, SignalStatus.isOver, Signal.isActivating] at isOver ⊢

theorem Ended.park (h : db.Ended signalId) (other : String) :
    (db.parkSignalUnknown other).Ended signalId := by
  refine h.updateWhere _ ?_
  intro row isOver
  cases state : row.status <;> simp [state, SignalStatus.isOver] at isOver ⊢

theorem Ended.release (h : db.Ended signalId) (now : ℚ) :
    (db.releaseStrandedActivations now).Ended signalId := by
  refine h.updateWhere _ ?_
  intro row isOver
  cases state : row.status <;> simp [state, SignalStatus.isOver, Signal.isActivating] at isOver ⊢

theorem Ended.routeFailedOpen (h : db.Ended signalId) (other : String) (unanswered : Bool) :
    (routeFailedOpen db other unanswered).Ended signalId := by
  cases unanswered with
  | true => exact h.park other
  | false => exact h.restore other

theorem Ended.setOver (h : db.Ended signalId) (other : String) (status : SignalStatus)
    (isOver : status.isOver = true) : (db.setSignalStatus other status).Ended signalId := by
  obtain ⟨sig, found, _⟩ := ended_iff.mp h
  by_cases same : signalId = other
  · subst same
    refine ended_iff.mpr ⟨Signal.setStatus status sig, ?_, isOver⟩
    rw [setSignalStatus, Table.find_update_self, found, Option.map_some]
  · refine h.congr ?_
    rw [setSignalStatus, Table.find_update_of_ne _ _ same]

theorem Ended.setOther (h : db.Ended signalId) {other : String} (ne : signalId ≠ other)
    (status : SignalStatus) : (db.setSignalStatus other status).Ended signalId := by
  refine h.congr ?_
  rw [setSignalStatus, Table.find_update_of_ne _ _ ne]

theorem Ended.insertTrade (h : db.Ended signalId) {t : Trade} {db' : Db}
    (ne : signalId ≠ t.signalId) (done : insertTradeAndActivateSignal db t = some db') :
    db'.Ended signalId := by
  obtain ⟨trades, _, rfl⟩ := Option.map_eq_some_iff.mp done
  exact (Ended.congr h rfl : Db.Ended { db with trades := trades } signalId).setOther ne .active

theorem not_ended_of_claim {cap : ℕ} {now : ℚ} {db' : Db}
    (won : db.claimSignalActivation cap signalId now = some db') : ¬ db.Ended signalId := by
  intro h
  obtain ⟨sig, found, isOver⟩ := ended_iff.mp h
  have claimable := (claimSignalActivation_isSome.mp (by rw [won]; rfl)).1
  rw [found, Option.any_some] at claimable
  cases state : sig.status <;>
    simp [state, SignalStatus.isOver, Signal.claimable] at isOver claimable

theorem Ended.claim (h : db.Ended signalId) {cap : ℕ} {other : String} {now : ℚ} {db' : Db}
    (won : db.claimSignalActivation cap other now = some db') : db'.Ended signalId := by
  have ne : signalId ≠ other := by
    rintro rfl
    exact not_ended_of_claim won h
  rw [claimSignalActivation] at won
  split at won
  · rw [← Option.some.inj won]
    exact h.congr (Table.find_update_of_ne _ _ ne)
  · exact absurd won (by simp)

theorem Ended.insertSignal (h : db.Ended signalId) {sig : Signal}
    {signals : Table Signal Signal.signalId} (done : db.signals.insert sig = some signals) :
    Db.Ended { db with signals := signals } signalId := by
  obtain ⟨row, found, isOver⟩ := ended_iff.mp h
  refine ended_iff.mpr ⟨row, ?_, isOver⟩
  rw [Table.find_eq_some_iff] at found ⊢
  rw [(Table.insert_eq_some done).2]
  exact ⟨List.mem_append_left _ found.1, found.2⟩

theorem Ended.fill (h : db.Ended signalId) {o : PendingOrder} (ne : signalId ≠ o.signalId)
    (ticket : Option ℤ) (fillPrice now : ℚ) :
    ((db.applyPendingFill o ticket fillPrice now).getD db).Ended signalId := by
  rw [applyPendingFill]
  cases done : insertTradeAndActivateSignal db (o.filledTrade ticket fillPrice now) with
  | none => exact h
  | some db' => exact (h.insertTrade ne done).congr rfl

end Db

namespace LiveDesk

/-- At most one order for the row: everything in play belongs to a minted
signal, the signals before the newest are over, and a signal has one order at
most, and none while its claim has sent nothing. -/
structure Once (s : LiveDesk) : Prop where
  loaded : ∀ signalId, s.load signalId ≠ 0 → signalId ∈ s.minted
  held : ∀ c, ∀ signalId ∈ (s.phase c).held, signalId ∈ s.minted
  queued : ∀ signalId ∈ s.watch.queue, signalId ∈ s.minted
  older : ∀ signalId ∈ s.minted.tail, s.Over signalId
  single : ∀ c d, ∀ signalId ∈ (s.phase c).pastClaim, signalId ∈ (s.phase d).pastClaim → c = d
  fresh : ∀ c, ∀ signalId ∈ (s.phase c).unsent, s.load signalId = 0
  one : ∀ signalId, s.load signalId ≤ 1

/-- A step that mints nothing, claims nothing and sends nothing. -/
structure Narrows (s t : LiveDesk) : Prop where
  minted : t.minted = s.minted
  load : ∀ signalId, t.load signalId ≤ s.load signalId
  phase : ∀ c, t.phase c = s.phase c ∨ (t.phase c).held = none
  queue : ∀ signalId ∈ t.watch.queue, signalId ∈ s.watch.queue ∨ signalId ∈ s.minted
  ended : ∀ signalId, s.Over signalId → t.db.Ended signalId

end LiveDesk

namespace LivePhase
variable {p q : LivePhase} {signalId : String}

theorem not_pastClaim_of_held (h : p.held = none) : signalId ∉ p.pastClaim := by
  intro past
  exact absurd (held_of_pastClaim past) (by simp [h])

theorem held_of_narrowed (h : p = q ∨ p.held = none) (mem : signalId ∈ p.held) :
    signalId ∈ q.held := by
  rcases h with rfl | none
  · exact mem
  · exact absurd mem (by simp [none])

theorem pastClaim_of_narrowed (h : p = q ∨ p.held = none) (mem : signalId ∈ p.pastClaim) :
    signalId ∈ q.pastClaim := by
  rcases h with rfl | none
  · exact mem
  · exact absurd mem (not_pastClaim_of_held none)

theorem unsent_of_narrowed (h : p = q ∨ p.held = none) (mem : signalId ∈ p.unsent) :
    signalId ∈ q.unsent := by
  rcases h with rfl | none
  · exact mem
  · exact absurd (pastClaim_of_unsent mem) (not_pastClaim_of_held none)

end LivePhase

namespace LiveDesk
variable {cap : ℕ} {s t : LiveDesk}

theorem Free.narrow {signalId : String} (free : s.Free signalId) (n : Narrows s t) :
    t.Free signalId := by
  refine ⟨Nat.le_zero.mp (free.1 ▸ n.load signalId), ?_⟩
  intro c past
  exact free.2 c (LivePhase.pastClaim_of_narrowed (n.phase c) past)

theorem Once.narrow (inv : s.Once) (n : Narrows s t) : t.Once where
  loaded signalId busy := by
    have before := n.load signalId
    rw [n.minted]
    exact inv.loaded signalId (by omega)
  held c signalId mem := by
    rw [n.minted]
    exact inv.held c signalId (LivePhase.held_of_narrowed (n.phase c) mem)
  queued signalId mem := by
    rw [n.minted]
    exact (n.queue signalId mem).elim (inv.queued signalId) id
  older signalId mem := by
    rw [n.minted] at mem
    have ended := inv.older signalId mem
    exact ⟨n.ended signalId ended, ended.2.narrow n⟩
  single c d signalId mem other :=
    inv.single c d signalId (LivePhase.pastClaim_of_narrowed (n.phase c) mem)
      (LivePhase.pastClaim_of_narrowed (n.phase d) other)
  fresh c signalId mem := by
    have none := inv.fresh c signalId (LivePhase.unsent_of_narrowed (n.phase c) mem)
    have before := n.load signalId
    omega
  one signalId := (n.load signalId).trans (inv.one signalId)

theorem Once.placed (inv : s.Once) : s.placed.length ≤ 1 := by
  have busy : ∀ signalId ∈ s.placed, s.load signalId ≠ 0 := by
    intro signalId mem
    have counted := List.count_pos_iff.mpr mem
    rw [load]
    omega
  cases order : s.minted with
  | nil =>
      have none : s.placed = [] := by
        rw [List.eq_nil_iff_forall_not_mem]
        intro signalId mem
        exact absurd (inv.loaded signalId (busy signalId mem)) (by simp [order])
      simp [none]
  | cons newest older =>
      have all : ∀ signalId ∈ s.placed, newest = signalId := by
        intro signalId mem
        have known := inv.loaded signalId (busy signalId mem)
        rw [order] at known
        rcases List.mem_cons.mp known with same | old
        · exact same.symm
        · have ended := inv.older signalId (by rw [order]; exact old)
          exact absurd ended.2.1 (busy signalId mem)
      have one := inv.one newest
      rw [load, List.count_eq_length.mpr all] at one
      omega

theorem Narrows.refl (s : LiveDesk) : Narrows s s where
  minted := rfl
  load _ := Nat.le_refl _
  phase _ := .inl rfl
  queue _ mem := .inl mem
  ended _ ended := ended.1

theorem inPhase_self (s : LiveDesk) (c : LiveCaller) (p : LivePhase) :
    (s.inPhase c p).phase c = p := by
  simp [inPhase]

theorem inPhase_of_ne (s : LiveDesk) {c d : LiveCaller} (ne : d ≠ c) (p : LivePhase) :
    (s.inPhase c p).phase d = s.phase d := by
  simp [inPhase, ne]

/-- After a change of phase, what a caller has is from the new phase or is its own. -/
theorem mem_inPhase {f : LivePhase → Option String} {s : LiveDesk} {c d : LiveCaller}
    {p : LivePhase} {signalId : String} (mem : signalId ∈ f ((s.inPhase c p).phase d)) :
    d = c ∧ signalId ∈ f p ∨ d ≠ c ∧ signalId ∈ f (s.phase d) := by
  by_cases same : d = c
  · subst same
    rw [inPhase_self] at mem
    exact .inl ⟨rfl, mem⟩
  · rw [inPhase_of_ne s same] at mem
    exact .inr ⟨same, mem⟩

theorem mem_of_inPhase {f : LivePhase → Option String} {s : LiveDesk} {c d : LiveCaller}
    {p : LivePhase} {signalId : String} (none : f p = none)
    (mem : signalId ∈ f ((s.inPhase c p).phase d)) : signalId ∈ f (s.phase d) := by
  rcases mem_inPhase mem with ⟨_, own⟩ | ⟨_, before⟩
  · exact absurd own (by simp [none])
  · exact before

theorem Narrows.withDb (n : Narrows s t) (db : Db)
    (ended : ∀ signalId, s.Over signalId → db.Ended signalId) : Narrows s (t.withDb db) :=
  ⟨n.minted, n.load, n.phase, n.queue, ended⟩

theorem Narrows.inPhase (n : Narrows s t) (c : LiveCaller) {p : LivePhase}
    (none : p.held = none) : Narrows s (t.inPhase c p) where
  minted := n.minted
  load := n.load
  phase d := by
    by_cases same : d = c
    · subst same
      exact .inr (by rw [inPhase_self, none])
    · rw [inPhase_of_ne t same]
      exact n.phase d
  queue := n.queue
  ended := n.ended

theorem Narrows.withRow (n : Narrows s t) (row : ReRow) : Narrows s { t with row := row } :=
  ⟨n.minted, n.load, n.phase, n.queue, n.ended⟩

theorem Narrows.raise (n : Narrows s t) (c : LiveCaller) (signalId message : String) :
    Narrows s (t.raise c signalId message) := by
  cases c with
  | staging | outcome => exact n.withRow _
  | watcher => exact ⟨n.minted, n.load, n.phase, n.queue, n.ended⟩

theorem narrows_stage (s : LiveDesk) : Narrows s s.stage := by
  have refl := Narrows.refl s
  rw [stage]
  split_ifs
  · exact ⟨refl.minted, refl.load, refl.phase, refl.queue, refl.ended⟩
  · have next := refl.inPhase .staging (p := .gates) rfl
    exact ⟨next.minted, next.load, next.phase, next.queue, next.ended⟩
  · exact refl

theorem narrows_readOpen (s : LiveDesk) : Narrows s s.readOpen := by
  have refl := Narrows.refl s
  rw [readOpen]
  split_ifs
  · exact ⟨refl.minted, refl.load, refl.phase, refl.queue, refl.ended⟩
  · exact refl

theorem narrows_visit (s : LiveDesk) (price now : ℚ) : Narrows s (s.visit price now) := by
  have refl := Narrows.refl s
  have next := refl.inPhase .outcome (p := .gates) rfl
  rw [visit]
  cases s.read with
  | none => exact refl
  | some read =>
      dsimp only
      split_ifs
      all_goals
        first
        | exact ⟨refl.minted, refl.load, refl.phase, refl.queue, refl.ended⟩
        | exact ⟨next.minted, next.load, next.phase, next.queue, next.ended⟩

theorem narrows_skip (s : LiveDesk) (c : LiveCaller) (status : Option String) :
    Narrows s (s.skip c status) := by
  have refl := Narrows.refl s
  unfold skip
  split
  · cases status with
    | none => exact refl.inPhase c rfl
    | some status => exact (refl.inPhase c rfl).withRow _
  · exact refl

theorem narrows_refuse (s : LiveDesk) (c : LiveCaller) (route : OrderRoute) (message : String) :
    Narrows s (s.refuse c route message) := by
  have refl := Narrows.refl s
  unfold refuse
  split
  · exact (refl.inPhase c rfl).withRow _
  · exact (refl.inPhase c rfl).raise c _ message
  · exact refl

theorem load_take (s : LiveDesk) (signalId other : String) :
    (s.take signalId).load other ≤ s.load other := by
  rw [take]
  split
  · next mem =>
      have counted := List.count_pos_iff.mpr mem
      simp only [load, List.count_erase, List.count_cons]
      split_ifs with same
      · rw [beq_iff_eq] at same
        subst same
        omega
      · omega
  · exact Nat.le_refl _

theorem narrows_take (s : LiveDesk) (signalId : String) : Narrows s (s.take signalId) := by
  have refl := Narrows.refl s
  have lighter := s.load_take signalId
  rw [take] at lighter ⊢
  split_ifs at lighter ⊢
  · exact ⟨refl.minted, lighter, refl.phase, refl.queue, refl.ended⟩
  · exact refl

theorem narrows_lose (s : LiveDesk) (signalId : String) : Narrows s (s.lose signalId) := by
  have refl := Narrows.refl s
  refine ⟨refl.minted, ?_, refl.phase, refl.queue, refl.ended⟩
  intro other
  have fewer : (s.sent.erase signalId).count other ≤ s.sent.count other :=
    (List.erase_sublist).count_le other
  simp only [load, lose]
  omega

theorem narrows_orderPlaced (s : LiveDesk) (c : LiveCaller) (o : PendingOrder) :
    Narrows s (s.orderPlaced c o) := by
  have refl := Narrows.refl s
  rw [orderPlaced]
  split
  · next signalId _ =>
      rw [Db.insertVantagePendingOrder]
      cases s.db.orders.insert { o with status := .working, signalId := signalId } with
      | none => exact (refl.inPhase c rfl).raise c signalId _
      | some orders =>
          have stored := refl.withDb { s.db with orders := orders }
            (fun signalId ended => Db.Ended.congr ended.1 rfl)
          exact (stored.inPhase c rfl).withRow _
  · exact refl

theorem narrows_tradeOpened (s : LiveDesk) (c : LiveCaller) (t : Trade)
    (raised : Option String) : Narrows s (s.tradeOpened c t raised) := by
  have refl := Narrows.refl s
  rw [tradeOpened]
  split
  · next signalId phase =>
      have other : ∀ old, s.Over old → old ≠ signalId := by
        rintro old ended rfl
        exact ended.2.2 c (by rw [phase]; exact rfl)
      cases done : insertTradeAndActivateSignal s.db { t with signalId := signalId } with
      | none =>
          have back := refl.withDb (routeFailedOpen s.db signalId false)
            (fun old ended => ended.1.routeFailedOpen signalId false)
          exact (back.inPhase c rfl).raise c signalId _
      | some db =>
          have stored := refl.withDb db
            (fun old ended => ended.1.insertTrade (other old ended) done)
          have next := stored.inPhase c (p := .idle) rfl
          cases raised with
          | some message => exact next.raise c signalId message
          | none =>
              cases c with
              | staging | outcome => exact next.withRow _
              | watcher => exact ⟨next.minted, next.load, next.phase, next.queue, next.ended⟩
  · exact refl

theorem narrows_failed (s : LiveDesk) (c : LiveCaller) (signalId : String) (e : SendError)
    (route : OrderRoute) : Narrows s (s.failed c signalId e route) := by
  have refl := Narrows.refl s
  cases route with
  | limit =>
      have back := refl.withDb (s.db.restoreSignalAfterFailedOpen signalId)
        (fun old ended => ended.1.restore signalId)
      exact (back.inPhase c rfl).withRow _
  | market =>
      have back := refl.withDb (routeFailedOpen s.db signalId e.unanswered)
        (fun old ended => ended.1.routeFailedOpen signalId e.unanswered)
      exact (back.inPhase c rfl).raise c signalId _

theorem narrows_fail (s : LiveDesk) (c : LiveCaller) (e : SendError) :
    Narrows s (s.fail c e) := by
  rw [fail]
  split
  · exact s.narrows_failed c _ e _
  · exact s.narrows_failed c _ e _
  · exact Narrows.refl s

theorem narrows_readQueue (s : LiveDesk) : Narrows s s.readQueue := by
  have refl := Narrows.refl s
  rw [readQueue]
  split
  · refine ⟨refl.minted, refl.load, refl.phase, ?_, refl.ended⟩
    intro signalId mem
    exact .inr (of_decide_eq_true (List.mem_filter.mp mem).2)
  · exact refl

theorem narrows_crash (s : LiveDesk) : Narrows s s.crash where
  minted := rfl
  load _ := Nat.le_refl _
  phase _ := .inr rfl
  queue _ mem := absurd mem List.not_mem_nil
  ended _ ended := ended.1

theorem narrows_handleFailure (s : LiveDesk) (cap : ℕ) :
    Narrows s { s with watch := s.watch.step cap .handleFailure } := by
  have refl := Narrows.refl s
  rw [Lifecycle.step]
  cases s.watch.raised with
  | none => exact ⟨refl.minted, refl.load, refl.phase, refl.queue, refl.ended⟩
  | some failure =>
      obtain ⟨signalId, message⟩ := failure
      dsimp only
      rw [Lifecycle.handleFailure]
      split_ifs
      · exact ⟨refl.minted, refl.load, refl.phase, refl.queue, refl.ended⟩
      · exact ⟨refl.minted, refl.load, refl.phase, refl.queue, refl.ended⟩
      · refine ⟨refl.minted, refl.load, refl.phase, refl.queue, ?_⟩
        intro old ended
        exact ended.1.setOver signalId .expired rfl

/-- The watcher's turn for a signal it does not open. -/
theorem narrows_lookAt (s : LiveDesk) (cap : ℕ) (signalId : String) (now : ℚ) {l : Look}
    (other : l ≠ .goesAhead) : Narrows s (s.lookAt cap signalId now l) := by
  have refl := Narrows.refl s
  cases l with
  | held => exact refl
  | goesAhead => exact absurd rfl other
  | aged =>
      refine ⟨refl.minted, refl.load, refl.phase, refl.queue, ?_⟩
      intro old ended
      exact ended.1.setOver signalId .expired rfl
  | atCap =>
      refine ⟨refl.minted, refl.load, refl.phase, ?_, refl.ended⟩
      intro old mem
      exact absurd mem List.not_mem_nil
  | refused message =>
      rw [lookAt, Lifecycle.visit]
      split_ifs
      · refine ⟨refl.minted, refl.load, refl.phase, refl.queue, ?_⟩
        intro old ended
        exact ended.1.setOver signalId .activated rfl
      · exact ⟨refl.minted, refl.load, refl.phase, refl.queue, refl.ended⟩

theorem narrows_popped {signalId : String} {rest : List String}
    (queue : s.watch.queue = signalId :: rest) :
    Narrows s { s with watch := { s.watch with queue := rest } } := by
  have refl := Narrows.refl s
  refine ⟨refl.minted, refl.load, refl.phase, ?_, refl.ended⟩
  intro old mem
  rw [queue]
  exact .inl (List.mem_cons_of_mem signalId mem)

theorem narrows_release (s : LiveDesk) (now : ℚ) :
    Narrows s (s.withDb (s.db.releaseStrandedActivations now)) :=
  (Narrows.refl s).withDb _ fun _ ended => ended.1.release now

theorem narrows_settle (s : LiveDesk) (signalId : String) (status : SignalStatus) :
    Narrows s (s.settle signalId status) := by
  rw [settle]
  split_ifs with isOver
  · exact (Narrows.refl s).withDb _ fun _ ended => ended.1.setOver signalId status isOver
  · exact Narrows.refl s

theorem narrows_fill (s : LiveDesk) (o : PendingOrder) (ticket : Option ℤ)
    (fillPrice now : ℚ) : Narrows s (s.fill o ticket fillPrice now) := by
  rw [fill]
  split_ifs with held
  · refine (Narrows.refl s).withDb _ ?_
    intro old ended
    refine ended.1.fill ?_ ticket fillPrice now
    rintro rfl
    have counted := List.count_pos_iff.mpr held
    have none := ended.2.1
    rw [load] at none
    omega
  · exact Narrows.refl s

theorem Once.elsewhere (inv : s.Once) (db : Db) : (s.elsewhere db).Once := by
  rw [LiveDesk.elsewhere]
  split_ifs with same
  · -- a minted signal keeps its row, and no other is ever over
    refine ⟨inv.loaded, inv.held, inv.queued, ?_, inv.single, inv.fresh, inv.one⟩
    intro signalId mem
    have ended := inv.older signalId mem
    exact ⟨ended.1.congr (same signalId (List.mem_of_mem_tail mem)), ended.2⟩
  · exact inv

theorem Once.mint (inv : s.Once) (c : LiveCaller) (sig : Signal)
    (ended : ∀ signalId ∈ s.minted, s.Over signalId) : (s.mint c sig).Once := by
  rw [LiveDesk.mint]
  split
  · cases done : s.db.signals.insert { sig with status := .pending } with
    | none => exact inv.narrow (((Narrows.refl s).inPhase c rfl).raise c _ _)
    | some signals =>
        refine ⟨?_, ?_, ?_, ?_, ?_, ?_, inv.one⟩
        · intro signalId busy
          exact List.mem_cons_of_mem _ (inv.loaded signalId busy)
        · intro d signalId mem
          rcases mem_inPhase (f := LivePhase.held) mem with ⟨_, own⟩ | ⟨_, old⟩
          · rw [LivePhase.held, Option.mem_some_iff] at own
            exact List.mem_cons.mpr (.inl own.symm)
          · exact List.mem_cons_of_mem _ (inv.held d signalId old)
        · intro signalId mem
          exact List.mem_cons_of_mem _ (inv.queued signalId mem)
        · intro signalId mem
          have before := ended signalId mem
          refine ⟨before.1.insertSignal done, before.2.1, ?_⟩
          intro d past
          exact before.2.2 d (mem_of_inPhase (f := LivePhase.pastClaim) rfl past)
        · intro d e signalId mem other
          exact inv.single d e signalId (mem_of_inPhase (f := LivePhase.pastClaim) rfl mem)
            (mem_of_inPhase (f := LivePhase.pastClaim) rfl other)
        · intro d signalId mem
          exact inv.fresh d signalId (mem_of_inPhase (f := LivePhase.unsent) rfl mem)
  · exact inv

/-- A claim won on a signal that is free. -/
theorem Once.claimed (inv : s.Once) {c : LiveCaller} {signalId : String} {route : OrderRoute}
    {now : ℚ} {db : Db} (known : signalId ∈ s.minted) (free : s.Free signalId)
    (won : s.db.claimSignalActivation cap signalId now = some db) :
    ((s.withDb db).inPhase c (.claimed signalId route)).Once := by
  refine ⟨inv.loaded, ?_, inv.queued, ?_, ?_, ?_, inv.one⟩
  · intro d old mem
    rcases mem_inPhase (f := LivePhase.held) mem with ⟨_, own⟩ | ⟨_, before⟩
    · rw [LivePhase.held, Option.mem_some_iff] at own
      exact own ▸ known
    · exact inv.held d old before
  · intro old mem
    have ended := inv.older old mem
    refine ⟨ended.1.claim won, ended.2.1, ?_⟩
    intro d past
    rcases mem_inPhase (f := LivePhase.pastClaim) past with ⟨_, own⟩ | ⟨_, before⟩
    · rw [LivePhase.pastClaim, Option.mem_some_iff] at own
      subst own
      exact Db.not_ended_of_claim won ended.1
    · exact ended.2.2 d before
  · intro d e old mem other
    rcases mem_inPhase (f := LivePhase.pastClaim) mem with ⟨here, own⟩ | ⟨_, before⟩ <;>
    rcases mem_inPhase (f := LivePhase.pastClaim) other with ⟨there, own'⟩ | ⟨_, before'⟩
    · exact here.trans there.symm
    · rw [LivePhase.pastClaim, Option.mem_some_iff] at own
      subst own
      exact absurd before' (free.2 e)
    · rw [LivePhase.pastClaim, Option.mem_some_iff] at own'
      subst own'
      exact absurd before (free.2 d)
    · exact inv.single d e old before before'
  · intro d old mem
    rcases mem_inPhase (f := LivePhase.unsent) mem with ⟨_, own⟩ | ⟨_, before⟩
    · rw [LivePhase.unsent, Option.mem_some_iff] at own
      exact own ▸ free.1
    · exact inv.fresh d old before

theorem load_sent (s : LiveDesk) (c : LiveCaller) (p : LivePhase) (signalId old : String) :
    load { s.inPhase c p with sent := signalId :: s.sent } old =
      s.load old + if signalId = old then 1 else 0 := by
  simp only [load, inPhase, List.count_cons, beq_iff_eq]
  omega

/-- To send changes nothing in who is past the claim of what. -/
theorem pastClaim_of_sending {c d : LiveCaller} {signalId old : String} {route : OrderRoute}
    (past : signalId ∈ (s.phase c).pastClaim)
    (mem : old ∈ ((s.inPhase c (.sending signalId route)).phase d).pastClaim) :
    old ∈ (s.phase d).pastClaim := by
  rcases mem_inPhase (f := LivePhase.pastClaim) mem with ⟨here, own⟩ | ⟨_, before⟩
  · rw [LivePhase.pastClaim, Option.mem_some_iff] at own
    rw [here, ← own]
    exact past
  · exact before

/-- An order sent past a claim, with no other order of its signal in play. -/
theorem Once.sent (inv : s.Once) {c : LiveCaller} {signalId : String} (route : OrderRoute)
    (past : signalId ∈ (s.phase c).pastClaim) (none : s.load signalId = 0) :
    Once { s.inPhase c (.sending signalId route) with sent := signalId :: s.sent } := by
  have known := inv.held c signalId (LivePhase.held_of_pastClaim past)
  refine ⟨?_, ?_, inv.queued, ?_, ?_, ?_, ?_⟩
  · intro old busy
    rw [load_sent] at busy
    by_cases same : signalId = old
    · exact same ▸ known
    · rw [if_neg same] at busy
      exact inv.loaded old busy
  · intro d old mem
    rcases mem_inPhase (f := LivePhase.held) mem with ⟨_, own⟩ | ⟨_, before⟩
    · rw [LivePhase.held, Option.mem_some_iff] at own
      exact own ▸ known
    · exact inv.held d old before
  · intro old mem
    have ended := inv.older old mem
    have other : signalId ≠ old := by
      rintro rfl
      exact ended.2.2 c past
    refine ⟨ended.1, ?_, fun d mem => ended.2.2 d (pastClaim_of_sending past mem)⟩
    rw [load_sent, if_neg other]
    exact ended.2.1
  · intro d e old mem also
    exact inv.single d e old (pastClaim_of_sending past mem) (pastClaim_of_sending past also)
  · intro d old mem
    rcases mem_inPhase (f := LivePhase.unsent) mem with ⟨_, own⟩ | ⟨ne, before⟩
    · exact absurd own (by simp [LivePhase.unsent])
    · have other : signalId ≠ old := by
        rintro rfl
        exact ne (inv.single d c _ (LivePhase.pastClaim_of_unsent before) past)
      rw [load_sent, if_neg other]
      exact inv.fresh d old before
  · intro old
    rw [load_sent]
    split_ifs with same
    · rw [← same, none]
    · exact inv.one old

theorem Once.claim (inv : s.Once) (c : LiveCaller) (route : OrderRoute) (now : ℚ)
    (free : ∀ signalId ∈ (s.phase c).unclaimed,
      (s.db.claimSignalActivation cap signalId now).isSome = true → s.Free signalId) :
    (s.claim cap c route now).Once := by
  rw [LiveDesk.claim]
  split
  · next signalId phase =>
      have known := inv.held c signalId (by rw [phase]; exact rfl)
      cases won : s.db.claimSignalActivation cap signalId now with
      | some db =>
          exact inv.claimed known (free signalId (by rw [phase]; exact rfl) (by simp [won])) won
      | none =>
          have idle := (Narrows.refl s).inPhase c (p := .idle) rfl
          cases route with
          | limit => exact inv.narrow idle
          | market => exact inv.narrow (idle.raise c signalId _)
  · exact inv

theorem Once.send (inv : s.Once) (c : LiveCaller)
    (again : ∀ signalId ∈ (s.phase c).resends, s.load signalId = 0) : (s.send c).Once := by
  rw [LiveDesk.send]
  split
  · next signalId route phase =>
      have unsent : signalId ∈ (s.phase c).unsent := by
        rw [phase]
        exact rfl
      exact inv.sent route (LivePhase.pastClaim_of_unsent unsent) (inv.fresh c signalId unsent)
  · next signalId phase =>
      have sent := inv.sent (c := c) .market (by rw [phase]; exact rfl)
        (again signalId (by rw [phase]; exact rfl))
      have same : s.inPhase c (.sending signalId .market) = s := by
        rw [inPhase, ← phase, Function.update_eq_self]
      rwa [same] at sent
  · exact inv

theorem Once.goesAhead (inv : s.Once) {signalId : String} (now : ℚ)
    (known : signalId ∈ s.minted)
    (free : (s.db.claimSignalActivation cap signalId now).isSome = true → s.Free signalId) :
    (s.goesAhead cap signalId now).Once := by
  rw [LiveDesk.goesAhead]
  split_ifs
  · exact inv.narrow ((Narrows.refl s).withDb _ fun _ ended =>
      ended.1.setOver signalId .activated rfl)
  · cases won : s.db.claimSignalActivation cap signalId now with
    | none => exact inv.narrow ((Narrows.refl s).raise .watcher signalId _)
    | some db => exact inv.claimed known (free (by simp [won])) won

theorem Once.look (inv : s.Once) (l : Look) (now : ℚ)
    (ok : s.Careful cap (.look l now)) : (s.look cap l now).Once := by
  rw [LiveDesk.look]
  split
  · next signalId rest phase raised queue =>
      have popped := narrows_popped queue
      by_cases ahead : l = .goesAhead
      · subst ahead
        have known := inv.queued signalId (by rw [queue]; exact List.mem_cons_self)
        refine (inv.narrow popped).goesAhead now known ?_
        intro won
        exact (ok signalId (by rw [queue]; exact rfl) won).narrow popped
      · exact (inv.narrow popped).narrow (narrows_lookAt _ cap signalId now ahead)
  · exact inv

theorem Once.step (inv : s.Once) (a : LiveStep) (ok : s.Careful cap a) :
    (s.step cap a).Once := by
  cases a with
  | mint c sig => exact inv.mint c sig ok
  | claim c route now => exact inv.claim c route now ok
  | send c => exact inv.send c ok
  | look l now => exact inv.look l now ok
  | elsewhere db => exact inv.elsewhere db
  | stage => exact inv.narrow s.narrows_stage
  | readOpen => exact inv.narrow s.narrows_readOpen
  | visit price now => exact inv.narrow (s.narrows_visit price now)
  | skip c status => exact inv.narrow (s.narrows_skip c status)
  | refuse c route message => exact inv.narrow (s.narrows_refuse c route message)
  | take signalId => exact inv.narrow (s.narrows_take signalId)
  | lose signalId => exact inv.narrow (s.narrows_lose signalId)
  | orderPlaced c o => exact inv.narrow (s.narrows_orderPlaced c o)
  | tradeOpened c t raised => exact inv.narrow (s.narrows_tradeOpened c t raised)
  | fail c e => exact inv.narrow (s.narrows_fail c e)
  | readQueue => exact inv.narrow s.narrows_readQueue
  | handleFailure => exact inv.narrow (s.narrows_handleFailure cap)
  | crash => exact inv.narrow s.narrows_crash
  | release now => exact inv.narrow (s.narrows_release now)
  | settle signalId status => exact inv.narrow (s.narrows_settle signalId status)
  | fill o ticket fillPrice now => exact inv.narrow (s.narrows_fill o ticket fillPrice now)

theorem once_start (row : ReRow) (db : Db) : (start row db).Once where
  loaded _ busy := absurd rfl busy
  held _ _ mem := absurd mem (by simp [start, LivePhase.held])
  queued _ mem := absurd mem List.not_mem_nil
  older _ mem := absurd mem List.not_mem_nil
  single _ _ _ mem := absurd mem (by simp [start, LivePhase.pastClaim])
  fresh _ _ _ := rfl
  one _ := Nat.zero_le 1

theorem re_signal_reaches_broker_once (cap : ℕ) (row : ReRow) (db : Db) (run : List LiveStep)
    (ok : Meets (step cap) (Careful cap) (start row db) run) :
    ∀ s ∈ states (step cap) (start row db) run, s.placed.length ≤ 1 := by
  intro s mem
  have kept := states_invariant (I := Once) (fun _ a inv ok => inv.step a ok)
    (once_start row db) ok s mem
  exact kept.placed

def freshRow : ReRow := ⟨.pending, 0, 2000, 2001, none, none, none⟩

def mintedAt (signalId : String) (now : ℚ) : Signal := ⟨signalId, .pending, now, none⟩

/-- A grid is refused at creation and its signal cancelled; the zone trigger then
rests an order, which fills. -/
def refusedThenResting : List LiveStep :=
  [.stage, .mint .staging (mintedAt "v1" 10), .claim .staging .market 10, .send .staging,
    .lose "v1", .fail .staging (.rejected "No money"), .settle "v1" .cancelled,
    .readOpen, .visit 2000 60, .mint .outcome (mintedAt "v2" 60), .claim .outcome .limit 60,
    .send .outcome, .take "v2", .orderPlaced .outcome (.resting "o2" "v2"),
    .readQueue, .look .goesAhead 70, .fill (.resting "o2" "v2") (some 7002) 2000 80]

theorem re_signal_reaches_broker_once_resting :
    (refusedThenResting.foldl (step 3) (start freshRow oneLotBook)).placed = ["v2"] ∧
      ∀ s ∈ states (step 3) (start freshRow oneLotBook) refusedThenResting,
        s.placed.length ≤ 1 := by
  refine ⟨by decide +kernel, ?_⟩
  exact re_signal_reaches_broker_once 3 freshRow oneLotBook refusedThenResting (by decide +kernel)

/-- The EA rests the order, the acknowledgement comes too late, and the watcher
opens the restored signal. -/
def lateAcknowledgement : List LiveStep :=
  [.readOpen, .visit 2000 60, .mint .outcome (mintedAt "v1" 60), .claim .outcome .limit 60,
    .send .outcome, .take "v1", .fail .outcome (.raised "EA did not respond" true),
    .readQueue, .look .goesAhead 70, .send .watcher, .take "v1",
    .tradeOpened .watcher Trade.oneLot none]

/-- The grid is refused at creation, the zone trigger mints a second signal, and
the watcher opens the first one too. -/
def mintedTwice : List LiveStep :=
  [.stage, .mint .staging (mintedAt "v1" 10), .claim .staging .market 10, .send .staging,
    .lose "v1", .fail .staging (.rejected "No money"), .readOpen, .visit 2000 60,
    .mint .outcome (mintedAt "v2" 60), .claim .outcome .market 60, .send .outcome, .take "v2",
    .tradeOpened .outcome { Trade.oneLot with tradeId := "t2" } none, .readQueue,
    .look .goesAhead 70, .send .watcher, .take "v1"]

theorem re_signal_reaches_broker_twice :
    (¬ ∀ s ∈ states (step 3) (start freshRow oneLotBook) lateAcknowledgement,
        s.placed.length ≤ 1) ∧
      ¬ ∀ s ∈ states (step 3) (start freshRow oneLotBook) mintedTwice, s.placed.length ≤ 1 := by
  refine ⟨?_, ?_⟩ <;>
  · intro h
    exact absurd (h _ (foldl_mem_states _ _ _)) (by decide +kernel)

end LiveDesk

end Forex
