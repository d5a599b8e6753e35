import Forex.Support.Walk
import Forex.Telegram.Settled
import Mathlib.Data.List.Sort

/-!
Scan passes. The reader keeps its messages in a buffer, newest first, and each
pass walks the buffer from its head; so messages that arrive between two passes
are scanned in the reverse of the order they were posted in. The requests of a
run of passes are compared with those of a pass after every single message.
-/

namespace Forex
open Support

/-- A message in the reader, with the time it is sorted by: when it was posted
or, for want of that, received. -/
structure Arrival where
  message : Message
  time : ℚ
deriving DecidableEq, Repr

namespace Arrival

/-- The order of the buffer, newest first. -/
def NotOlder (a b : Arrival) : Prop :=
  b.time < a.time ∨ b.time = a.time ∧ b.message.id ≤ a.message.id

instance : DecidableRel NotOlder := fun a b =>
  inferInstanceAs (Decidable (b.time < a.time ∨ b.time = a.time ∧ b.message.id ≤ a.message.id))

def repeats (a b : Arrival) : Bool :=
  decide (b.message.id = a.message.id ∧ b.message.groupId = a.message.groupId)

end Arrival

def bufferSize : ℕ := 250

/-- How many messages a pass asks the reader for. -/
def passSize : ℕ := 100

/-- `_buffer_message`. -/
def bufferMessage (buffer : List Arrival) (a : Arrival) : List Arrival :=
  ((a :: buffer.filter fun b => !a.repeats b).insertionSort Arrival.NotOlder).take bufferSize

structure Watch where
  state : ScanState
  buffer : List Arrival
  /-- Everything asked for so far. -/
  asked : List Request

namespace Watch

/-- `scan_messages` once, after these messages have come in. -/
def pass (env : ScanEnv) (mk : Market) (w : Watch) (arrived : List Arrival) : Watch :=
  let buffer := arrived.foldl bufferMessage w.buffer
  let scanned := walk (scanMessage env mk) w.state ((buffer.take passSize).map Arrival.message)
  ⟨scanned.1, buffer, w.asked ++ scanned.2⟩

/-- Nothing has been received yet. -/
def start (b : Book) : Watch := ⟨⟨Inbox.empty, b⟩, [], []⟩

def run (env : ScanEnv) (mk : Market) (b : Book) (groups : List (List Arrival)) : Watch :=
  groups.foldl (pass env mk) (start b)

end Watch

/-- A pass after every single message. -/
def singly (groups : List (List Arrival)) : List (List Arrival) :=
  groups.flatten.map fun a => [a]

/-- The messages arrive in the order they were posted in. -/
def InOrder (arrivals : List Arrival) : Prop := arrivals.Pairwise fun a b => b.NotOlder a

instance (arrivals : List Arrival) : Decidable (InOrder arrivals) :=
  inferInstanceAs (Decidable (List.Pairwise _ _))

/-- However the arrivals are grouped into passes, the same is asked for and the
same trades are in the book as when each message has a pass of its own. -/
structure BatchSame (env : ScanEnv) (mk : Market) (b : Book) (groups : List (List Arrival)) :
    Prop where
  requests : InOrder groups.flatten →
    (Watch.run env mk b groups).asked.Perm (Watch.run env mk b (singly groups)).asked
  trades : InOrder groups.flatten →
    (Watch.run env mk b groups).state.book.db.trades.rows.Perm
      (Watch.run env mk b (singly groups)).state.book.db.trades.rows

/-- What is decided about a message that nothing is known of. -/
def firstVerdict (env : ScanEnv) (m : Message) : Verdict := (Inbox.empty.read env m).2

def actsFirst (env : ScanEnv) (m : Message) : Bool := (firstVerdict env m).acts

/-- The message, if a signal, is stored as it is compared, and it waits for no
second one. -/
structure Plain (env : ScanEnv) (m : Message) : Prop where
  trimmed : (firstVerdict env m).isSignal = true → m.text = m.body
  unheld : firstVerdict env m ≠ .held

instance (env : ScanEnv) (m : Message) : Decidable (Plain env m) :=
  decidable_of_iff
    (((firstVerdict env m).isSignal = true → m.text = m.body) ∧ firstVerdict env m ≠ .held)
    ⟨fun h => ⟨h.1, h.2⟩, fun h => ⟨h.trimmed, h.unheld⟩⟩

/-- Of the messages that come in between two passes one at most has the scan do
anything, and no pass is too long to be scanned whole. -/
structure OneActs (env : ScanEnv) (groups : List (List Arrival)) : Prop where
  plain : ∀ a ∈ groups.flatten, Plain env a.message
  distinct : (groups.flatten.map fun a => a.message.id).Nodup
  fits : ∀ group ∈ groups, group.length ≤ passSize
  single : ∀ group ∈ groups, group.countP (fun a => actsFirst env a.message) ≤ 1

/-- States that no later scan tells apart. -/
structure ScanState.Like (s t : ScanState) : Prop where
  book : s.book = t.book
  inbox : Agree everywhere s.inbox t.inbox

section Scan
variable {env : ScanEnv} {mk : Market} {s t : ScanState} {m n : Message} {ch : ChannelConfig}

theorem scanMessage_watched (watched : env.channelOf m.groupId = some ch) (mk : Market)
    (s : ScanState) :
    scanMessage env mk s m =
      (⟨s.inbox.scanned env ch m (outcomeOn env mk s ch m).writes,
        (outcomeOn env mk s ch m).book⟩, (outcomeOn env mk s ch m).requests) := by
  rw [scanMessage, watched]
  rfl

theorem scanMessage_unwatched (unwatched : env.channelOf m.groupId = none) (mk : Market)
    (s : ScanState) : scanMessage env mk s m = (s, []) := by
  rw [scanMessage, unwatched]

theorem scan_respects (env : ScanEnv) (mk : Market) :
    Respects (scanMessage env mk) ScanState.Like where
  equiv :=
    { refl := fun s => ⟨rfl, Agree.refl everywhere s.inbox⟩
      symm := fun st => ⟨st.book.symm, st.inbox.symm⟩
      trans := fun st tu => ⟨st.book.trans tu.book, st.inbox.trans tu.inbox⟩ }
  step := by
    intro s t m st
    cases watched : env.channelOf m.groupId with
    | none =>
        rw [scanMessage_unwatched watched, scanMessage_unwatched watched]
        exact ⟨st, rfl⟩
    | some ch =>
        have seen : s.inbox.view ch m = t.inbox.view ch m := view_everywhere st.inbox ch m
        have same : outcomeOn env mk s ch m = outcomeOn env mk t ch m := by
          rw [outcomeOn, outcomeOn, seen, st.book]
        rw [scanMessage_watched watched, scanMessage_watched watched, same]
        refine ⟨⟨rfl, ?_⟩, rfl⟩
        rw [Inbox.scanned, seen]
        have owned : HoldsOwned everywhere (fun _ => true) s.inbox := fun _ _ => rfl
        exact applyAll_agree rfl rfl _ _ st.inbox owned fun _ _ => rfl

theorem readOn_of_quiet {v : InboxView} (quiet : (env.lookOn ch m v).Quiet v) :
    (env.readOn ch m v).verdict.acts = false ∧
      ∀ w ∈ (env.readOn ch m v).writes, w.redundant v = true := by
  obtain ⟨verdict, settled, idle, redundant⟩ := quiet
  rw [ScanEnv.readOn, ScanEnv.finish, settled]
  exact ⟨idle, redundant⟩

/-- A quiet message is as good as not scanned. -/
theorem scan_quiet (quiet : s.inbox.Quiet env m) :
    Alike ScanState.Like (scanMessage env mk s m) (s, []) := by
  cases watched : env.channelOf m.groupId with
  | none =>
      rw [scanMessage_unwatched watched]
      exact (scan_respects env mk).refl _
  | some ch =>
      obtain ⟨idle, redundant⟩ := readOn_of_quiet (quiet ch watched)
      have outcome : outcomeOn env mk s ch m = Outcome.idle s.book := act_of_not_acts idle ..
      rw [scanMessage_watched watched, outcome]
      refine ⟨⟨rfl, ?_⟩, rfl⟩
      rw [Inbox.scanned, Outcome.idle, List.append_nil]
      exact applyAll_redundant redundant

/-- Everything is known to be unknown about a message but for the book. -/
theorem readOn_of_unseen (unheld : s.inbox.Unheld) (unseen : s.inbox.Unseen m)
    (watched : env.channelOf m.groupId = some ch) :
    (env.readOn ch m (s.inbox.view ch m)).verdict = firstVerdict env m := by
  rw [view_unseen unheld unseen, firstVerdict, Inbox.read, watched]

/-- What the first scan of a plain message changes, and what it leaves alone. -/
structure ScannedOnce (env : ScanEnv) (m : Message) (s t : ScanState) : Prop where
  unheld : t.inbox.Unheld
  quiet : t.inbox.Quiet env m
  others : ∀ n : Message, n.id ≠ m.id → Agree (fun i => decide (i = n.id)) t.inbox s.inbox

theorem scannedOnce (mk : Market) (unheld : s.inbox.Unheld) (unseen : s.inbox.Unseen m)
    (plain : Plain env m) : ScannedOnce env m s (scanMessage env mk s m).1 := by
  cases watched : env.channelOf m.groupId with
  | none =>
      rw [scanMessage_unwatched watched]
      refine ⟨unheld, fun ch other => ?_, fun _ _ => Agree.refl _ _⟩
      rw [watched] at other
      cases other
  | some ch =>
      rw [scanMessage_watched watched]
      have free := plain.unheld
      have trimmed := plain.trimmed
      rw [← readOn_of_unseen unheld unseen watched] at free trimmed
      have answering : ∀ w ∈ (outcomeOn env mk s ch m).writes, w.answers = true :=
        act_answers env mk s.book ch m _ _
      refine ⟨scanned_unheld unheld unseen trimmed free answering,
        quiet_scanned watched unheld unseen trimmed free answering, fun n ne => ?_⟩
      exact applyAll_other unheld (decide_eq_false ne.symm) _

theorem scanned_holdFree (unheld : s.inbox.Unheld) (unseen : s.inbox.Unseen m)
    (plain : Plain env m) (watched : env.channelOf m.groupId = some ch) (mk : Market) :
    ∀ w ∈ (env.readOn ch m (s.inbox.view ch m)).writes ++ (outcomeOn env mk s ch m).writes,
      w.holdFree = true := by
  have free := plain.unheld
  have trimmed := plain.trimmed
  rw [← readOn_of_unseen unheld unseen watched] at free trimmed
  exact fun w mem => (scanned_writes unheld unseen trimmed free
    (act_answers env mk s.book ch m _ _) mem).1

/-- A scan depends on the view of its message and on the book alone. -/
theorem scan_of_seen (watched : env.channelOf m.groupId = some ch)
    (seen : t.inbox.view ch m = s.inbox.view ch m) (book : t.book = s.book) (mk : Market) :
    scanMessage env mk t m =
      (⟨t.inbox.applyAll env.now ch m
          ((env.readOn ch m (s.inbox.view ch m)).writes ++ (outcomeOn env mk s ch m).writes),
        (outcomeOn env mk s ch m).book⟩, (outcomeOn env mk s ch m).requests) := by
  have same : outcomeOn env mk t ch m = outcomeOn env mk s ch m := by
    rw [outcomeOn, outcomeOn, seen, book]
  rw [scanMessage_watched watched, same, Inbox.scanned, seen]

theorem scan_of_idle (watched : env.channelOf m.groupId = some ch)
    (seen : t.inbox.view ch m = s.inbox.view ch m)
    (idle : (env.readOn ch m (s.inbox.view ch m)).verdict.acts = false) (mk : Market) :
    scanMessage env mk t m =
      (⟨t.inbox.applyAll env.now ch m (env.readOn ch m (s.inbox.view ch m)).writes, t.book⟩,
        []) := by
  have outcome : outcomeOn env mk t ch m = Outcome.idle t.book := by
    rw [outcomeOn, seen]
    exact act_of_not_acts idle ..
  rw [scanMessage_watched watched, outcome, Inbox.scanned, seen, Outcome.idle, List.append_nil]

/-- A message without an effect can be scanned before or after another. -/
theorem scan_comm_of_idle (unheld : s.inbox.Unheld) (unseenM : s.inbox.Unseen m)
    (unseenN : s.inbox.Unseen n) (plainM : Plain env m) (plainN : Plain env n) (ne : m.id ≠ n.id)
    (idle : actsFirst env m = false) :
    Alike ScanState.Like (walk (scanMessage env mk) s [m, n])
      (walk (scanMessage env mk) s [n, m]) := by
  have like := scan_respects env mk
  cases watchedM : env.channelOf m.groupId with
  | none =>
      simp only [walk, scanMessage_unwatched watchedM, List.append_nil, List.nil_append]
      exact like.refl _
  | some chm =>
      cases watchedN : env.channelOf n.groupId with
      | none =>
          simp only [walk, scanMessage_unwatched watchedN, List.append_nil, List.nil_append]
          exact like.refl _
      | some chn =>
          have still : (env.readOn chm m (s.inbox.view chm m)).verdict.acts = false := by
            rw [readOn_of_unseen unheld unseenM watchedM]
            exact idle
          have onceM := scannedOnce mk unheld unseenM plainM
          have onceN := scannedOnce mk unheld unseenN plainN
          have firstM := scan_of_idle watchedM rfl still mk
          have firstN := scan_of_seen watchedN (rfl : s.inbox.view chn n = _) rfl mk
          have seenM : (scanMessage env mk s n).1.inbox.view chm m = s.inbox.view chm m :=
            view_own onceN.unheld unheld (onceN.others m ne) (decide_eq_true rfl)
          have seenN : (scanMessage env mk s m).1.inbox.view chn n = s.inbox.view chn n :=
            view_own onceM.unheld unheld (onceM.others n ne.symm) (decide_eq_true rfl)
          have secondN := scan_of_seen watchedN seenN (by rw [firstM]) mk
          have secondM := scan_of_idle watchedM seenM still mk
          simp only [walk]
          rw [secondN, secondM, firstM, firstN]
          refine ⟨⟨rfl, ?_⟩, by simp⟩
          refine applyAll_comm unheld ne (fun w mem => ?_)
            (scanned_holdFree unheld unseenN plainN watchedN mk)
          exact scanned_holdFree unheld unseenM plainM watchedM mk w (List.mem_append_left _ mem)

end Scan

/-- The messages of a pass that are still to be scanned: nothing is known of
them, and one at most acts. -/
structure Ahead (env : ScanEnv) (s : ScanState) (ms : List Message) : Prop where
  unheld : s.inbox.Unheld
  unseen : ∀ m ∈ ms, s.inbox.Unseen m
  plain : ∀ m ∈ ms, Plain env m
  distinct : (ms.map Message.id).Nodup
  single : ms.countP (actsFirst env) ≤ 1

namespace Ahead
variable {env : ScanEnv} {s : ScanState} {m n : Message} {ms ns : List Message}

theorem reorder (perm : ms.Perm ns) (ahead : Ahead env s ms) : Ahead env s ns where
  unheld := ahead.unheld
  unseen m mem := ahead.unseen m (perm.mem_iff.mpr mem)
  plain m mem := ahead.plain m (perm.mem_iff.mpr mem)
  distinct := (perm.map Message.id).nodup_iff.mp ahead.distinct
  single := (perm.countP_eq _).symm ▸ ahead.single

theorem once (mk : Market) (ahead : Ahead env s (m :: ms)) :
    ScannedOnce env m s (scanMessage env mk s m).1 :=
  scannedOnce mk ahead.unheld (ahead.unseen m List.mem_cons_self)
    (ahead.plain m List.mem_cons_self)

theorem ne (ahead : Ahead env s (m :: ms)) (mem : n ∈ ms) : n.id ≠ m.id := by
  have fresh := (List.nodup_cons.mp ahead.distinct).1
  intro same
  exact fresh (same ▸ List.mem_map_of_mem mem)

theorem tail (mk : Market) (ahead : Ahead env s (m :: ms)) :
    Ahead env (scanMessage env mk s m).1 ms where
  unheld := (ahead.once mk).unheld
  unseen n mem :=
    ((ahead.once mk).others n (ahead.ne mem)).trans (ahead.unseen n (List.mem_cons_of_mem m mem))
  plain n mem := ahead.plain n (List.mem_cons_of_mem m mem)
  distinct := (List.nodup_cons.mp ahead.distinct).2
  single := ((List.sublist_cons_self m ms).countP_le).trans ahead.single

/-- Of two messages ahead one has no effect. -/
theorem comm (mk : Market) (ahead : Ahead env s (m :: n :: ms)) :
    Alike ScanState.Like (walk (scanMessage env mk) s [m, n])
      (walk (scanMessage env mk) s [n, m]) := by
  have ne := ahead.ne List.mem_cons_self
  have here := ahead.unseen m List.mem_cons_self
  have next := ahead.unseen n (List.mem_cons_of_mem m List.mem_cons_self)
  have plainM := ahead.plain m List.mem_cons_self
  have plainN := ahead.plain n (List.mem_cons_of_mem m List.mem_cons_self)
  cases idleM : actsFirst env m with
  | false => exact scan_comm_of_idle ahead.unheld here next plainM plainN ne.symm idleM
  | true =>
      have idleN : actsFirst env n = false := by
        have single := ahead.single
        rw [List.countP_cons_of_pos idleM, List.countP_cons] at single
        by_contra acts
        rw [if_pos (by simpa using acts)] at single
        omega
      exact (scan_respects env mk).symm
        (scan_comm_of_idle ahead.unheld next here plainN plainM ne idleN)

/-- The order in which the messages of a pass are scanned does not matter. -/
theorem walk_perm (mk : Market) (ahead : Ahead env s ms) (perm : ms.Perm ns) :
    Alike ScanState.Like (walk (scanMessage env mk) s ms) (walk (scanMessage env mk) s ns) :=
  (scan_respects env mk).walk_perm (Ahead env) reorder (fun ahead => ahead.tail mk)
    (fun ahead => ahead.comm mk) perm ahead

/-- Once scanned, every message of the pass is quiet, and nothing is said of
the others. -/
theorem walked (mk : Market) (ahead : Ahead env s ms) :
    (walk (scanMessage env mk) s ms).1.inbox.Unheld ∧
      (∀ m ∈ ms, (walk (scanMessage env mk) s ms).1.inbox.Quiet env m) ∧
        ∀ n : Message, n.id ∉ ms.map Message.id →
          Agree (fun i => decide (i = n.id)) (walk (scanMessage env mk) s ms).1.inbox s.inbox := by
  induction ms generalizing s with
  | nil => exact ⟨ahead.unheld, by simp, fun _ _ => Agree.refl _ _⟩
  | cons m ms ih =>
      obtain ⟨unheld, quiet, others⟩ := ih (ahead.tail mk)
      have once := ahead.once mk
      refine ⟨unheld, fun n mem => ?_, fun n fresh => ?_⟩
      · rcases List.mem_cons.mp mem with rfl | mem
        · exact once.quiet.frame once.unheld unheld
            (others n (List.nodup_cons.mp ahead.distinct).1)
        · exact quiet n mem
      · rw [List.map_cons, List.mem_cons, not_or] at fresh
        exact (others n fresh.2).trans (once.others n fresh.1)

end Ahead

section Buffer
variable {a : Arrival} {buffer group : List Arrival}

/-- Cutting a list twice is cutting it once. -/
theorem take_append_take {α : Type} (n : ℕ) (xs ys : List α) :
    (xs ++ ys.take n).take n = (xs ++ ys).take n := by
  rw [List.take_append, List.take_append, List.take_take, min_eq_left (Nat.sub_le _ _)]

theorem bufferMessage_newest (order : (a :: buffer).Pairwise Arrival.NotOlder)
    (fresh : a.message.id ∉ buffer.map fun b => b.message.id) :
    bufferMessage buffer a = (a :: buffer).take bufferSize := by
  have kept : (buffer.filter fun b => !a.repeats b) = buffer := by
    refine List.filter_eq_self.mpr fun b mem => ?_
    have ne : b.message.id ≠ a.message.id := fun same => fresh (same ▸ List.mem_map_of_mem mem)
    simp [Arrival.repeats, ne]
  rw [bufferMessage, kept, order.insertionSort_eq]

/-- Messages in their order go to the head of the buffer one by one. -/
theorem foldl_bufferMessage (order : (group.reverse ++ buffer).Pairwise Arrival.NotOlder)
    (distinct : ((group.reverse ++ buffer).map fun b => b.message.id).Nodup)
    (small : buffer.length ≤ bufferSize) :
    group.foldl bufferMessage buffer = (group.reverse ++ buffer).take bufferSize := by
  induction group generalizing buffer with
  | nil => exact (List.take_of_length_le small).symm
  | cons a group ih =>
      rw [List.reverse_cons, List.append_assoc, List.singleton_append] at order distinct ⊢
      have sub : (group.reverse ++ (a :: buffer).take bufferSize).Sublist
          (group.reverse ++ a :: buffer) :=
        (List.take_sublist _ _).append_left _
      have here : (a :: buffer).Pairwise Arrival.NotOlder := (List.pairwise_append.mp order).2.1
      have fresh : a.message.id ∉ buffer.map fun b => b.message.id := by
        rw [List.map_append, List.map_cons] at distinct
        exact (List.nodup_cons.mp (List.nodup_append.mp distinct).2.1).1
      rw [List.foldl_cons, bufferMessage_newest here fresh,
        ih (order.sublist sub) (distinct.sublist (sub.map _)) (List.length_take_le _ _),
        take_append_take]

end Buffer

/-- A watch that has settled what it holds and is to receive these messages. -/
structure Ready (env : ScanEnv) (w : Watch) (arrivals : List Arrival) : Prop where
  unheld : w.state.inbox.Unheld
  quiet : ∀ a ∈ w.buffer, w.state.inbox.Quiet env a.message
  small : w.buffer.length ≤ bufferSize
  order : (arrivals.reverse ++ w.buffer).Pairwise Arrival.NotOlder
  distinct : ((arrivals.reverse ++ w.buffer).map fun a => a.message.id).Nodup
  unseen : ∀ a ∈ arrivals, w.state.inbox.Unseen a.message
  plain : ∀ a ∈ arrivals, Plain env a.message

/-- What a watch is after it has scanned these messages, in this order. -/
structure Passed (env : ScanEnv) (mk : Market) (w : Watch) (group : List Arrival) (w' : Watch) :
    Prop where
  state : ScanState.Like w'.state
    (walk (scanMessage env mk) w.state (group.map Arrival.message)).1
  buffer : w'.buffer = (group.reverse ++ w.buffer).take bufferSize
  asked : w'.asked =
    w.asked ++ (walk (scanMessage env mk) w.state (group.map Arrival.message)).2

namespace Ready
variable {env : ScanEnv} {mk : Market} {w w' : Watch} {group rest : List Arrival}

theorem ahead (ready : Ready env w (group ++ rest))
    (single : group.countP (fun a => actsFirst env a.message) ≤ 1) :
    Ahead env w.state (group.map Arrival.message) where
  unheld := ready.unheld
  unseen m mem := by
    obtain ⟨a, own, rfl⟩ := List.mem_map.mp mem
    exact ready.unseen a (List.mem_append_left rest own)
  plain m mem := by
    obtain ⟨a, own, rfl⟩ := List.mem_map.mp mem
    exact ready.plain a (List.mem_append_left rest own)
  distinct := by
    have distinct := ready.distinct
    rw [List.map_append, List.map_reverse, List.nodup_append, List.nodup_reverse,
      List.map_append, List.nodup_append] at distinct
    rw [List.map_map]
    exact distinct.1.1
  single := by
    rw [List.countP_map]
    exact single

theorem arranged (group rest buffer : List Arrival) :
    (group ++ rest).reverse ++ buffer = rest.reverse ++ (group.reverse ++ buffer) := by
  rw [List.reverse_append, List.append_assoc]

theorem fresh (ready : Ready env w (group ++ rest)) {a : Arrival} (mem : a ∈ rest ++ w.buffer) :
    a.message.id ∉ (group.map Arrival.message).map Message.id := by
  have distinct := ready.distinct
  rw [arranged] at distinct
  have perm : (rest.reverse ++ (group.reverse ++ w.buffer)).Perm (group ++ (rest ++ w.buffer)) :=
    (rest.reverse_perm.append (group.reverse_perm.append_right _)).trans
      (List.perm_append_comm_assoc _ _ _)
  have apart := (perm.map fun a => a.message.id).nodup_iff.mp distinct
  rw [List.map_append] at apart
  intro own
  rw [List.map_map] at own
  exact (List.nodup_append.mp apart).2.2 _ own _ (List.mem_map_of_mem mem) rfl

/-- What has been scanned is settled, and the rest is still to come. -/
theorem passed (ready : Ready env w (group ++ rest))
    (single : group.countP (fun a => actsFirst env a.message) ≤ 1)
    (passed : Passed env mk w group w') : Ready env w' rest := by
  obtain ⟨unheld, quiet, others⟩ := (ready.ahead single).walked mk
  have unheld' : w'.state.inbox.Unheld := passed.state.inbox.unheld unheld
  have distinct := ready.distinct
  have order := ready.order
  rw [arranged] at distinct order
  have sub : (rest.reverse ++ w'.buffer).Sublist (rest.reverse ++ (group.reverse ++ w.buffer)) := by
    rw [passed.buffer]
    exact (List.take_sublist _ _).append_left _
  have same : ∀ a ∈ rest ++ w.buffer,
      Agree (fun i => decide (i = a.message.id)) w'.state.inbox w.state.inbox := fun a mem =>
    (passed.state.inbox.restrict _).trans (others a.message (ready.fresh mem))
  refine ⟨unheld', fun a mem => ?_, ?_, order.sublist sub, distinct.sublist (sub.map _),
    fun a mem => ?_, fun a mem => ready.plain a (List.mem_append_right group mem)⟩
  · rw [passed.buffer] at mem
    cases List.mem_append.mp (List.mem_of_mem_take mem) with
    | inl mem =>
        have done := quiet a.message (List.mem_map_of_mem (List.mem_reverse.mp mem))
        exact done.frame unheld unheld' (passed.state.inbox.restrict _)
    | inr mem =>
        exact (ready.quiet a mem).frame ready.unheld unheld'
          (same a (List.mem_append_right rest mem))
  · rw [passed.buffer]
    exact List.length_take_le _ _
  · exact (same a (List.mem_append_left w.buffer mem)).trans
      (ready.unseen a (List.mem_append_right group mem))

/-- One pass scans what has come in, and what it had scanned before is quiet. -/
theorem pass (mk : Market) (ready : Ready env w (group ++ rest))
    (single : group.countP (fun a => actsFirst env a.message) ≤ 1)
    (fits : group.length ≤ passSize) : Passed env mk w group (w.pass env mk group) := by
  have like := scan_respects env mk
  have distinct := ready.distinct
  have order := ready.order
  rw [arranged] at distinct order
  have sub := List.sublist_append_right rest.reverse (group.reverse ++ w.buffer)
  have buffer := foldl_bufferMessage (order.sublist sub) (distinct.sublist (sub.map _)) ready.small
  have sizes : passSize ≤ bufferSize := by decide
  have seen : (((group.reverse ++ w.buffer).take bufferSize).take passSize).map Arrival.message =
      (group.map Arrival.message).reverse ++
        (w.buffer.take (passSize - group.length)).map Arrival.message := by
    rw [List.take_take, min_eq_left sizes, List.take_append, List.length_reverse,
      List.take_of_length_le (by rwa [List.length_reverse]), List.map_append, List.map_reverse]
  have ahead := ready.ahead single
  have back := ahead.walk_perm mk (List.reverse_perm (group.map Arrival.message)).symm
  obtain ⟨unheld, _, others⟩ := ahead.walked mk
  have still : ∀ m ∈ (w.buffer.take (passSize - group.length)).map Arrival.message,
      Alike ScanState.Like
        (scanMessage env mk (walk (scanMessage env mk) w.state (group.map Arrival.message)).1 m)
        ((walk (scanMessage env mk) w.state (group.map Arrival.message)).1, []) := by
    intro m mem
    obtain ⟨a, old, rfl⟩ := List.mem_map.mp mem
    have held := List.mem_of_mem_take old
    exact scan_quiet ((ready.quiet a held).frame ready.unheld unheld
      (others a.message (ready.fresh (List.mem_append_right rest held))))
  obtain ⟨state, asked⟩ := like.trans
    (like.append (like.symm back) ((w.buffer.take (passSize - group.length)).map Arrival.message))
    (like.drop_idle still)
  simp only [Watch.pass, buffer, seen]
  exact ⟨state, rfl, congrArg (w.asked ++ ·) asked⟩

end Ready

section Runs
variable {env : ScanEnv} {mk : Market} {b : Book} {w u v : Watch} {first then_ : List Arrival}
  {groups : List (List Arrival)}

theorem Passed.append (one : Passed env mk w first u) (two : Passed env mk u then_ v) :
    Passed env mk w (first ++ then_) v := by
  have like := scan_respects env mk
  obtain ⟨state, asked⟩ := like.walk one.state (then_.map Arrival.message)
  refine ⟨?_, ?_, ?_⟩
  · rw [List.map_append, walk_append]
    exact like.equiv.trans two.state state
  · rw [two.buffer, one.buffer, take_append_take, List.reverse_append, List.append_assoc]
  · rw [two.asked, one.asked, asked, List.map_append, walk_append, List.append_assoc]

/-- A run of passes asks for what a scan of its messages in their order would. -/
theorem run_passed (mk : Market) (fits : ∀ group ∈ groups, group.length ≤ passSize)
    (single : ∀ group ∈ groups, group.countP (fun a => actsFirst env a.message) ≤ 1)
    (ready : Ready env w groups.flatten) :
    Passed env mk w groups.flatten (groups.foldl (Watch.pass env mk) w) := by
  induction groups generalizing w with
  | nil => exact ⟨(scan_respects env mk).equiv.refl _, (List.take_of_length_le ready.small).symm,
      (List.append_nil _).symm⟩
  | cons group groups ih =>
      have here := single group List.mem_cons_self
      have passed := ready.pass mk here (fits group List.mem_cons_self)
      exact passed.append (ih (fun g mem => fits g (List.mem_cons_of_mem group mem))
        (fun g mem => single g (List.mem_cons_of_mem group mem)) (ready.passed here passed))

theorem ready_start (batch : OneActs env groups) (order : InOrder groups.flatten) (b : Book) :
    Ready env (Watch.start b) groups.flatten where
  unheld := rfl
  quiet _ mem := nomatch mem
  small := Nat.zero_le _
  order := by
    rw [Watch.start, List.append_nil]
    exact List.pairwise_reverse.mpr order
  distinct := by
    rw [Watch.start, List.append_nil, List.map_reverse, List.nodup_reverse]
    exact batch.distinct
  unseen _ _ := Agree.refl _ _
  plain := batch.plain

theorem flatten_singly (groups : List (List Arrival)) :
    (singly groups).flatten = groups.flatten := by
  rw [singly, ← List.flatMap_def, List.flatMap_singleton']

theorem OneActs.singly (batch : OneActs env groups) : OneActs env (singly groups) := by
  have one : ∀ group ∈ Forex.singly groups, ∃ a, group = [a] := by
    intro group mem
    obtain ⟨a, _, rfl⟩ := List.mem_map.mp mem
    exact ⟨a, rfl⟩
  refine ⟨?_, ?_, fun group mem => ?_, fun group mem => ?_⟩
  · rw [flatten_singly]
    exact batch.plain
  · rw [flatten_singly]
    exact batch.distinct
  · obtain ⟨a, rfl⟩ := one group mem
    exact (by decide : 1 ≤ passSize)
  · obtain ⟨a, rfl⟩ := one group mem
    exact List.countP_le_length

/-- A run whose passes each bring one message at most that acts asks for the
same, and leaves the same book, as a pass after every message. -/
theorem batch_same (env : ScanEnv) (mk : Market) (b : Book) (groups : List (List Arrival))
    (batch : OneActs env groups) : BatchSame env mk b groups := by
  have same : InOrder groups.flatten →
      (Watch.run env mk b groups).asked = (Watch.run env mk b (singly groups)).asked ∧
        (Watch.run env mk b groups).state.book =
          (Watch.run env mk b (singly groups)).state.book := by
    intro order
    have whole := run_passed mk batch.fits batch.single (ready_start batch order b)
    have each := run_passed mk batch.singly.fits batch.singly.single
      (ready_start batch.singly (by rwa [flatten_singly]) b)
    rw [flatten_singly] at each
    exact ⟨whole.asked.trans each.asked.symm, whole.state.book.trans each.state.book.symm⟩
  refine ⟨fun order => ?_, fun order => ?_⟩
  · rw [(same order).1]
  · rw [(same order).2]

end Runs

/-- A close command posted right after the bare trigger. -/
def closeAllAfter : Message := ⟨8, "G", "CLOSE ALL", .posted 801, false, false⟩

/-- Both come in before the next pass. -/
def entryThenClose : List (List Arrival) := [[⟨bareBuy, 800⟩, ⟨closeAllAfter, 801⟩]]

/-- The close is scanned first and finds nothing open; the trade that the entry
then opens is never closed. -/
theorem entry_then_close_left_open :
    ¬ BatchSame (bareBuyEnv false) Market.calm Book.empty entryThenClose := by
  intro same
  have order : InOrder entryThenClose.flatten := by decide +kernel
  have lengths := (same.requests order).length_eq
  exact absurd lengths (by decide +kernel)

/-- The same two messages, in a pass each, with a chat message before them. -/
theorem batch_same_apart :
    BatchSame (bareBuyEnv false) Market.calm Book.empty
      [[⟨⟨6, "G", "GOOD MORNING", .posted 700, false, false⟩, 700⟩, ⟨bareBuy, 800⟩],
        [⟨closeAllAfter, 801⟩]] :=
  batch_same _ _ _ _ ⟨by decide +kernel, by decide +kernel, by decide +kernel, by decide +kernel⟩

end Forex
