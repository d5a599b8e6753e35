import Forex.Support.Run
import Forex.Telegram.Holds

/-!
Holds over whole runs of `scan_messages`. Every pass reads the messages that are
still in the buffer, each at its own time; a history beside the tables has every
hold that was left and every follow-up that was handed on, read off the table of
holds before and after each message.
-/

namespace Forex
open Support

/-- The signal that a message goes on as. -/
def Stage.signal : Stage → Option Parsed
  | .parsed p => some p
  | .settled _ => none

/-- A hold that is no longer waiting: the levels it had by then, what the message
then read stated, and the signal that went on. -/
structure HoldExit where
  id : ℕ
  levels : Option FollowUpLevels
  stated : Option Parsed
  signal : Option Parsed
  firstSeenAt : ℚ
  leftAt : ℚ
  window : ℚ

/-- A hold that was given levels, with the message that gave them, its channel
and the holds of that channel that waited for levels. -/
structure Completion where
  followUp : ℕ
  channel : String
  hold : Hold
  levels : FollowUpLevels
  eligible : List Hold

structure HoldDesk where
  state : ScanState
  exits : List HoldExit
  completions : List Completion
  /-- The holds first seen by then had run out when the last pass began. -/
  deadline : Option ℚ

/-- One pass: what it is given, and the messages it reads, each at its time. The
window is not less than the one second of `match_window_sec`. -/
structure HoldPass where
  env : ScanEnv
  market : Market
  reads : List (ℚ × Message)
  window : 1 ≤ env.settings.matchWindowSec
  clock : ∀ r ∈ reads, env.now ≤ r.1

namespace HoldPass
variable (p : HoldPass)

def at_ (now : ℚ) : ScanEnv := { p.env with now := now }

def deadline : ℚ := p.env.now - p.env.settings.matchWindowSec

def ids : List ℕ := p.reads.map fun r => r.2.id

end HoldPass

namespace HoldDesk

def start (s : ScanState) : HoldDesk := ⟨s, [], [], none⟩

variable (d : HoldDesk)

def holds : Table Hold Hold.tgMessageId := d.state.inbox.holds

def waits (id : ℕ) : Bool := (d.holds.find id).any Hold.waiting

/-- The holds that wait before a message and do not wait after it. -/
def leftBy (after : Table Hold Hold.tgMessageId) : List Hold :=
  d.holds.rows.filter fun h => h.waiting && !(after.find h.tgMessageId).any Hold.waiting

/-- The holds that have levels after a message and had none before. -/
def completedBy (after : Table Hold Hold.tgMessageId) : List (Hold × FollowUpLevels) :=
  (d.holds.rows.filter fun h =>
      h.levels.isNone && ((after.find h.tgMessageId).bind Hold.levels).isSome).filterMap fun h =>
    ((after.find h.tgMessageId).bind Hold.levels).map fun levels => (h, levels)

/-- One message of a pass. -/
def scan (env : ScanEnv) (mk : Market) (m : Message) : HoldDesk :=
  match env.channelOf m.groupId with
  | none => d
  | some ch =>
      let after := (scanMessage env mk d.state m).1
      let stage := (env.lookOn ch m (d.state.inbox.view ch m)).stage
      { d with
        state := after
        exits := (d.leftBy after.inbox.holds).map (fun h =>
          ⟨h.tgMessageId, h.levels, (env.parsers.partialAnyFormat m.body).toOption.join,
            stage.signal, h.firstSeenAt, env.now, env.settings.matchWindowSec⟩) ++ d.exits
        completions := (d.completedBy after.inbox.holds).map (fun c =>
          ⟨m.id, ch.name, c.1, c.2, d.holds.rows.filter (Hold.waitsOn ch.name)⟩) ++
            d.completions }

def read (p : HoldPass) (r : ℚ × Message) : HoldDesk := d.scan (p.at_ r.1) p.market r.2

def pass (p : HoldPass) : HoldDesk :=
  { p.reads.foldl (fun d r => d.read p r) d with deadline := some p.deadline }

end HoldDesk

section Tables
variable {d : HoldDesk} {after : Table Hold Hold.tgMessageId}

theorem find_of_mem {h : Hold} (mem : h ∈ d.holds.rows) : d.holds.find h.tgMessageId = some h :=
  Table.find_eq_some_iff.mpr ⟨mem, rfl⟩

theorem leftBy_nil
    (stays : ∀ h ∈ d.holds.rows, h.waiting = true →
      (after.find h.tgMessageId).any Hold.waiting = true) : d.leftBy after = [] := by
  refine List.filter_eq_nil_iff.mpr fun h mem left => ?_
  rw [Bool.and_eq_true, Bool.not_eq_true'] at left
  rw [stays h mem left.1] at left
  cases left.2

theorem completedBy_nil
    (stays : ∀ h ∈ d.holds.rows, h.levels = none →
      (after.find h.tgMessageId).bind Hold.levels = none) : d.completedBy after = [] := by
  have nothing : (d.holds.rows.filter fun h =>
      h.levels.isNone && ((after.find h.tgMessageId).bind Hold.levels).isSome) = [] := by
    refine List.filter_eq_nil_iff.mpr fun h mem given => ?_
    rw [Bool.and_eq_true, Option.isNone_iff_eq_none] at given
    rw [stays h mem given.1] at given
    cases given.2
  rw [HoldDesk.completedBy, nothing]
  rfl

theorem leftBy_insert (r : Hold) : d.leftBy (d.holds.insertOrIgnore r) = [] := by
  refine leftBy_nil fun h mem waiting => ?_
  rw [Table.find_insertOrIgnore, find_of_mem mem]
  exact waiting

theorem completedBy_insert (r : Hold) : d.completedBy (d.holds.insertOrIgnore r) = [] := by
  refine completedBy_nil fun h mem bare => ?_
  rw [Table.find_insertOrIgnore, find_of_mem mem]
  exact bare

theorem leftBy_attach (id : ℕ) (levels : FollowUpLevels) :
    d.leftBy (d.holds.update id (Hold.attach levels)) = [] := by
  refine leftBy_nil fun h mem waiting => ?_
  by_cases same : h.tgMessageId = id
  · rw [← same, Table.find_update_self, find_of_mem mem]
    exact waiting
  · rw [Table.find_update_of_ne _ _ same, find_of_mem mem]
    exact waiting

theorem completedBy_resolve (id : ℕ) : d.completedBy (d.holds.update id Hold.resolve) = [] := by
  refine completedBy_nil fun h mem bare => ?_
  by_cases same : h.tgMessageId = id
  · rw [← same, Table.find_update_self, find_of_mem mem]
    exact bare
  · rw [Table.find_update_of_ne _ _ same, find_of_mem mem]
    exact bare

theorem leftBy_resolve {h : Hold} {id : ℕ} (found : d.holds.find id = some h)
    (waiting : h.waiting = true) : d.leftBy (d.holds.update id Hold.resolve) = [h] := by
  have own : h.tgMessageId = id := Table.key_of_find found
  refine (Table.filter_of_find found fun s mem left => ?_).trans (if_pos ?_)
  · rw [Bool.and_eq_true, Bool.not_eq_true'] at left
    by_contra other
    rw [Table.find_update_of_ne _ _ other, find_of_mem mem, Option.any_some, left.1] at left
    cases left.2
  · rw [own, Table.find_update_self, found, waiting]
    rfl

theorem completedBy_attach {h : Hold} (mem : h ∈ d.holds.rows) (bare : h.levels = none)
    (levels : FollowUpLevels) :
    d.completedBy (d.holds.update h.tgMessageId (Hold.attach levels)) = [(h, levels)] := by
  have found := find_of_mem mem
  have given : ((d.holds.update h.tgMessageId (Hold.attach levels)).find h.tgMessageId).bind
      Hold.levels = some levels := by
    rw [Table.find_update_self, found]
    rfl
  have one : (d.holds.rows.filter fun g => g.levels.isNone &&
      (((d.holds.update h.tgMessageId (Hold.attach levels)).find g.tgMessageId).bind
        Hold.levels).isSome) = [h] := by
    refine (Table.filter_of_find found fun g here fits => ?_).trans (if_pos ?_)
    · rw [Bool.and_eq_true, Option.isNone_iff_eq_none] at fits
      by_contra other
      rw [Table.find_update_of_ne _ _ other, find_of_mem here, Option.bind_some, fits.1] at fits
      cases fits.2
    · rw [given, bare]
      rfl
  rw [HoldDesk.completedBy, one, List.filterMap_cons_some (by rw [given]; rfl)]
  rfl

end Tables

/-- What one message does to the holds and to their history. -/
inductive HoldDesk.Scanned (env : ScanEnv) (m : Message) (d d' : HoldDesk) : Prop
  | idle (holds : d'.holds = d.holds) (exits : d'.exits = d.exits)
      (completions : d'.completions = d.completions)
  | opened (ch : ChannelConfig) (fresh : d.waits m.id = false)
      (holds : d'.holds = d.holds.insertOrIgnore ⟨m.id, ch.name, env.now, none, true⟩)
      (exits : d'.exits = d.exits) (completions : d'.completions = d.completions)
  | left (h : Hold) (stated : Parsed) (found : d.holds.find m.id = some h)
      (waiting : h.waiting = true)
      (due : h.levels = none → env.settings.matchWindowSec ≤ env.now - h.firstSeenAt)
      (holds : d'.holds = d.holds.update m.id Hold.resolve)
      (exits : d'.exits = ⟨m.id, h.levels, some stated,
        some (h.levels.elim stated (ScanEnv.mergeLevels stated)), h.firstSeenAt, env.now,
          env.settings.matchWindowSec⟩ :: d.exits)
      (completions : d'.completions = d.completions)
  | completed (ch : ChannelConfig) (h : Hold) (levels : FollowUpLevels)
      (watched : env.channelOf m.groupId = some ch) (newest : newestOf d.holds ch.name = some h)
      (holds : d'.holds = d.holds.update h.tgMessageId (Hold.attach levels))
      (exits : d'.exits = d.exits)
      (completions : d'.completions =
        ⟨m.id, ch.name, h, levels, d.holds.rows.filter (Hold.waitsOn ch.name)⟩ :: d.completions)

section Scan
variable {env : ScanEnv} {mk : Market} {m : Message} {d : HoldDesk} {ch : ChannelConfig}

theorem scan_eq (watched : env.channelOf m.groupId = some ch) :
    d.scan env mk m =
      let after := (scanMessage env mk d.state m).1
      let stage := (env.lookOn ch m (d.state.inbox.view ch m)).stage
      { d with
        state := after
        exits := (d.leftBy after.inbox.holds).map (fun h =>
          ⟨h.tgMessageId, h.levels, (env.parsers.partialAnyFormat m.body).toOption.join,
            stage.signal, h.firstSeenAt, env.now, env.settings.matchWindowSec⟩) ++ d.exits
        completions := (d.completedBy after.inbox.holds).map (fun c =>
          ⟨m.id, ch.name, c.1, c.2, d.holds.rows.filter (Hold.waitsOn ch.name)⟩) ++
            d.completions } := by
  rw [HoldDesk.scan, watched]

theorem newestOf_waits {holds : Table Hold Hold.tgMessageId} {channel : String} {h : Hold}
    (found : newestOf holds channel = some h) :
    h ∈ holds.rows ∧ h.channel = channel ∧ h.waiting = true ∧ h.levels = none := by
  obtain ⟨mem, waits⟩ := List.mem_filter.mp (newest_mem _ found)
  rw [Hold.waitsOn, Bool.and_eq_true, Bool.and_eq_true, decide_eq_true_eq,
    Option.isNone_iff_eq_none] at waits
  exact ⟨mem, waits.1.1, waits.1.2, waits.2⟩

theorem waits_iff (id : ℕ) :
    d.waits id = true ↔ ∃ h, d.holds.find id = some h ∧ h.waiting = true := by
  rw [HoldDesk.waits]
  cases d.holds.find id with
  | none => simp
  | some h => simp

theorem not_waits_of_fresh {id : ℕ} (fresh : (d.holds.find id).filter Hold.waiting = none) :
    d.waits id = false := by
  rw [HoldDesk.waits]
  cases found : d.holds.find id with
  | none => rfl
  | some h =>
      rw [found, Option.filter_some] at fresh
      cases waiting : h.waiting with
      | false => exact waiting
      | true =>
          rw [waiting] at fresh
          cases fresh

/-- Every message does one of four things to the holds. -/
theorem scanned (d : HoldDesk) : d.Scanned env m (d.scan env mk m) := by
  cases watched : env.channelOf m.groupId with
  | none =>
      have same : d.scan env mk m = d := by rw [HoldDesk.scan, watched]
      rw [same]
      exact .idle rfl rfl rfl
  | some ch =>
      have after := @holds_scanMessage ch m env mk d.state watched
      have moves : (env.lookOn ch m (d.state.inbox.view ch m)).Moves env m
          (d.state.inbox.view ch m) := lookOn_moves
      rw [scan_eq watched]
      cases moves with
      | idle writes =>
          rw [writes] at after
          have same : (scanMessage env mk d.state m).1.inbox.holds = d.holds := after
          refine .idle same ?_ ?_
          · dsimp only
            rw [same, leftBy_nil fun h mem waiting => by rw [find_of_mem mem]; exact waiting]
            rfl
          · dsimp only
            rw [same, completedBy_nil fun h mem bare => by rw [find_of_mem mem]; exact bare]
            rfl
      | opens fresh writes =>
          rw [writes] at after
          have same : (scanMessage env mk d.state m).1.inbox.holds =
              d.holds.insertOrIgnore ⟨m.id, ch.name, env.now, none, true⟩ := after
          refine .opened ch (not_waits_of_fresh fresh) same ?_ ?_
          · dsimp only
            rw [same, leftBy_insert]
            rfl
          · dsimp only
            rw [same, completedBy_insert]
            rfl
      | leaves stated h own reads due stage writes =>
          rw [writes] at after
          have same : (scanMessage env mk d.state m).1.inbox.holds =
              d.holds.update m.id Hold.resolve := after
          obtain ⟨found, waiting⟩ := Option.filter_eq_some_iff.mp own
          have key : h.tgMessageId = m.id := Table.key_of_find found
          refine .left h stated found waiting due same ?_ ?_
          · dsimp only
            rw [same, leftBy_resolve found waiting, reads, stage, List.map_singleton, key]
            rfl
          · dsimp only
            rw [same, completedBy_resolve]
            rfl
      | attaches levels waits reads writes =>
          have some_ : (newestOf d.holds ch.name).isSome = true := waits
          obtain ⟨h, newest⟩ := Option.isSome_iff_exists.mp some_
          obtain ⟨mem, -, -, bare⟩ := newestOf_waits newest
          rw [writes, List.foldl_cons, List.foldl_nil, holdsAfter] at after
          have chosen : newestOf d.state.inbox.holds ch.name = some h := newest
          rw [chosen] at after
          have same : (scanMessage env mk d.state m).1.inbox.holds =
              d.holds.update h.tgMessageId (Hold.attach levels) := after
          refine .completed ch h levels watched newest same ?_ ?_
          · dsimp only
            rw [same, leftBy_attach]
            rfl
          · dsimp only
            rw [same, completedBy_attach mem bare]
            rfl

end Scan

/-- The levels of a follow-up on a bare entry: what it states is taken, and where
it is silent the entry keeps what it states. -/
structure Fills (levels : FollowUpLevels) (stated signal : Parsed) : Prop where
  direction : signal.direction = stated.direction
  entry : signal.entryLow = stated.entryLow ∧ signal.entryHigh = stated.entryHigh
  stop : signal.stopLoss = levels.stopLoss.or stated.stopLoss
  target : ∀ (n : ℕ) (level : ℚ), levels.tps[n]? = some (some level) → n < stated.tps.length →
    signal.tps[n]? = some (some level)
  silent : ∀ n : ℕ, levels.tps[n]? = some none → signal.tps[n]? = stated.tps[n]?
  runner : levels.tpOpen = false → signal.tpOpen = stated.tpOpen

theorem mergeLevels_fills (levels : FollowUpLevels) (stated : Parsed) :
    Fills levels stated (ScanEnv.mergeLevels stated levels) where
  direction := rfl
  entry := ⟨rfl, rfl⟩
  stop := rfl
  target n level given long := by
    have merged : (List.zipWith Option.or levels.tps stated.tps)[n]? =
        some ((some level).or stated.tps[n]) := by
      rw [List.getElem?_zipWith, given, List.getElem?_eq_getElem long]
    exact merged
  silent n quiet := by
    have merged : (List.zipWith Option.or levels.tps stated.tps)[n]? = stated.tps[n]? := by
      rw [List.getElem?_zipWith, quiet]
      cases stated.tps[n]? with
      | none => rfl
      | some level => rfl
    exact merged
  runner closed := by
    rw [ScanEnv.mergeLevels, closed]
    cases stated.tpOpen with
    | none => rfl
    | some flag => rfl

/-- A hold is left with what its message states, filled from its follow-up, or
bare once the window is over. -/
inductive HoldExit.Sound (e : HoldExit) : Prop
  | completed (levels : FollowUpLevels) (stated signal : Parsed) (given : e.levels = some levels)
      (reads : e.stated = some stated) (leaves : e.signal = some signal)
      (fills : Fills levels stated signal)
  | bare (stated : Parsed) (none : e.levels = none) (reads : e.stated = some stated)
      (leaves : e.signal = some stated) (due : e.window ≤ e.leftAt - e.firstSeenAt)

/-- The hold was one of its channel's that waited for levels, and none of these
was newer. -/
structure Completion.Newest (c : Completion) : Prop where
  channel : c.hold.channel = c.channel
  eligible : c.hold ∈ c.eligible
  newest : ∀ h ∈ c.eligible, h.firstSeenAt ≤ c.hold.firstSeenAt

namespace HoldDesk

def exitIds (d : HoldDesk) : List ℕ := d.exits.map HoldExit.id

def followUps (d : HoldDesk) : List ℕ := d.completions.map Completion.followUp

def completedIds (d : HoldDesk) : List ℕ := d.completions.map fun c => c.hold.tgMessageId

/-- Every hold is left once, completed or bare, and none that had run out when
the last pass began is still waiting; every follow-up completes one hold at most,
the newest there was. -/
structure Once (d : HoldDesk) : Prop where
  leftOnce : d.exitIds.Nodup
  leftOrWaits : ∀ h ∈ d.holds.rows, h.tgMessageId ∈ d.exitIds ↔ h.waiting = false
  noneOverdue : ∀ deadline ∈ d.deadline, ∀ h ∈ d.holds.rows, h.waiting = true →
    deadline < h.firstSeenAt
  sound : ∀ e ∈ d.exits, e.Sound
  notBoth : ∀ e ∈ d.exits, e.id ∈ d.completedIds ↔ e.levels.isSome = true
  oneHoldEach : d.followUps.Nodup
  oneFollowUpEach : d.completedIds.Nodup
  newest : ∀ c ∈ d.completions, c.Newest

/-- No message that has completed a hold is read again while its channel has one
that waits for levels, and a message whose hold waits is read as a bare entry. -/
def readOk (d : HoldDesk) (env : ScanEnv) (m : Message) : Bool :=
  match env.channelOf m.groupId with
  | none => !d.waits m.id
  | some ch =>
      (decide (m.id ∉ d.followUps) || (newestOf d.holds ch.name).isNone) &&
        (!d.waits m.id ||
          (d.state.inbox.rows.find m.id).isNone && (env.bareEntry ch m).isSome)

/-- The messages whose holds have run out are still in the buffer, and every
message is read as it may be. -/
structure PassOk (d : HoldDesk) (p : HoldPass) : Prop where
  buffered : ∀ h ∈ d.holds.rows, h.waiting = true → h.firstSeenAt ≤ p.deadline →
    h.tgMessageId ∈ p.ids
  reads : Meets (fun d r => d.read p r) (fun d r => d.readOk (p.at_ r.1) r.2 = true) d p.reads

/-- What the history says of the table, whatever is read. -/
structure Books (d : HoldDesk) : Prop where
  exitRow : ∀ e ∈ d.exits, ∃ h ∈ d.holds.rows,
    h.tgMessageId = e.id ∧ h.waiting = false ∧ h.levels = e.levels
  rowExit : ∀ h ∈ d.holds.rows, h.waiting = false → h.tgMessageId ∈ d.exitIds
  completionRow : ∀ c ∈ d.completions, ∃ h ∈ d.holds.rows,
    h.tgMessageId = c.hold.tgMessageId ∧ h.levels.isSome = true
  rowCompletion : ∀ h ∈ d.holds.rows, h.levels.isSome = true → h.tgMessageId ∈ d.completedIds
  leftOnce : d.exitIds.Nodup
  oneFollowUpEach : d.completedIds.Nodup
  sound : ∀ e ∈ d.exits, e.Sound
  newest : ∀ c ∈ d.completions, c.Newest

end HoldDesk

section Books
variable {env : ScanEnv} {mk : Market} {m : Message} {d d' : HoldDesk}

theorem HoldDesk.Books.insert (books : d.Books) (r : Hold) (waiting : r.waiting = true)
    (bare : r.levels = none) (holds : d'.holds = d.holds.insertOrIgnore r)
    (exits : d'.exits = d.exits) (completions : d'.completions = d.completions) : d'.Books := by
  have rows (h : Hold) (mem : h ∈ d'.holds.rows) : h ∈ d.holds.rows ∨ h = r := by
    rw [holds, Table.rows_insertOrIgnore] at mem
    split_ifs at mem
    · exact .inl mem
    · exact (List.mem_append.mp mem).imp_right List.mem_singleton.mp
  have kept (h : Hold) (mem : h ∈ d.holds.rows) : h ∈ d'.holds.rows := by
    rw [holds, Table.rows_insertOrIgnore]
    split_ifs
    · exact mem
    · exact List.mem_append_left _ mem
  refine ⟨?_, ?_, ?_, ?_, ?_, ?_, ?_, ?_⟩
  · intro e mem
    rw [exits] at mem
    obtain ⟨h, here, fits⟩ := books.exitRow e mem
    exact ⟨h, kept h here, fits⟩
  · intro h mem gone
    rw [HoldDesk.exitIds, exits]
    obtain old | rfl := rows h mem
    · exact books.rowExit h old gone
    · rw [waiting] at gone
      cases gone
  · intro c mem
    rw [completions] at mem
    obtain ⟨h, here, fits⟩ := books.completionRow c mem
    exact ⟨h, kept h here, fits⟩
  · intro h mem given
    rw [HoldDesk.completedIds, completions]
    obtain old | rfl := rows h mem
    · exact books.rowCompletion h old given
    · rw [bare] at given
      cases given
  · rw [HoldDesk.exitIds, exits]
    exact books.leftOnce
  · rw [HoldDesk.completedIds, completions]
    exact books.oneFollowUpEach
  · rw [exits]
    exact books.sound
  · rw [completions]
    exact books.newest

/-- A hold that waits has no exit in the history. -/
theorem HoldDesk.Books.not_left (books : d.Books) {h : Hold} {id : ℕ}
    (found : d.holds.find id = some h) (waiting : h.waiting = true) : id ∉ d.exitIds := by
  intro mem
  obtain ⟨e, here, own⟩ := List.mem_map.mp mem
  obtain ⟨g, row, same, gone, -⟩ := books.exitRow e here
  have one : g = h := Table.eq_of_mem_of_key row (Table.find_mem found)
    (same.trans (own.trans (Table.key_of_find found).symm))
  rw [one, waiting] at gone
  cases gone

/-- A hold without levels has no follow-up in the history. -/
theorem HoldDesk.Books.not_completed (books : d.Books) {h : Hold} (mem : h ∈ d.holds.rows)
    (bare : h.levels = none) : h.tgMessageId ∉ d.completedIds := by
  intro done
  obtain ⟨c, here, own⟩ := List.mem_map.mp done
  obtain ⟨g, row, same, given⟩ := books.completionRow c here
  rw [Table.eq_of_mem_of_key row mem (same.trans own), bare] at given
  cases given

theorem HoldDesk.Books.resolve (books : d.Books) {h : Hold} {stated : Parsed} {leftAt window : ℚ}
    (found : d.holds.find m.id = some h) (waiting : h.waiting = true)
    (due : h.levels = none → window ≤ leftAt - h.firstSeenAt)
    (holds : d'.holds = d.holds.update m.id Hold.resolve)
    (exits : d'.exits = ⟨m.id, h.levels, some stated,
      some (h.levels.elim stated (ScanEnv.mergeLevels stated)), h.firstSeenAt, leftAt, window⟩ ::
        d.exits)
    (completions : d'.completions = d.completions) : d'.Books := by
  have key : h.tgMessageId = m.id := Table.key_of_find found
  have mine := Table.find_mem found
  -- A row keeps its levels, and is waiting afterwards if it was and is not the one resolved.
  obtain ⟨onward, back⟩ := @Table.update_related _ _ _ _ d.holds m.id Hold.resolve
    (fun g g' => g'.tgMessageId = g.tgMessageId ∧ g'.levels = g.levels ∧
      (g'.waiting = false ↔ g.waiting = false ∨ g.tgMessageId = m.id))
    (fun g same => ⟨rfl, rfl, iff_of_true rfl (.inr same)⟩)
    fun g other => ⟨rfl, rfl, (or_iff_left other).symm⟩
  rw [← holds] at onward back
  refine ⟨?_, ?_, ?_, ?_, ?_, ?_, ?_, ?_⟩
  · intro e mem
    rw [exits] at mem
    obtain rfl | old := List.mem_cons.mp mem
    · obtain ⟨g', row, id, levels, gone⟩ := onward h mine
      exact ⟨g', row, id.trans key, gone.mpr (.inr key), levels⟩
    · obtain ⟨g, here, id, gone, levels⟩ := books.exitRow e old
      obtain ⟨g', row, id', levels', gone'⟩ := onward g here
      exact ⟨g', row, id'.trans id, gone'.mpr (.inl gone), levels'.trans levels⟩
  · intro g' mem gone
    obtain ⟨g, here, id, -, before⟩ := back g' mem
    rw [HoldDesk.exitIds, exits, List.map_cons, id]
    obtain old | own := before.mp gone
    · exact List.mem_cons_of_mem _ (books.rowExit g here old)
    · rw [own]
      exact List.mem_cons_self
  · intro c mem
    rw [completions] at mem
    obtain ⟨g, here, id, given⟩ := books.completionRow c mem
    obtain ⟨g', row, id', levels', -⟩ := onward g here
    exact ⟨g', row, id'.trans id, levels' ▸ given⟩
  · intro g' mem given
    obtain ⟨g, here, id, levels, -⟩ := back g' mem
    rw [HoldDesk.completedIds, completions, id]
    exact books.rowCompletion g here (levels ▸ given)
  · rw [HoldDesk.exitIds, exits]
    exact List.nodup_cons.mpr ⟨books.not_left found waiting, books.leftOnce⟩
  · rw [HoldDesk.completedIds, completions]
    exact books.oneFollowUpEach
  · rw [exits]
    refine List.forall_mem_cons.mpr ⟨?_, books.sound⟩
    cases levels : h.levels with
    | none => exact .bare stated rfl rfl rfl (due levels)
    | some given =>
        exact .completed given stated _ rfl rfl rfl (mergeLevels_fills given stated)
  · rw [completions]
    exact books.newest

theorem HoldDesk.Books.attach (books : d.Books) {ch : ChannelConfig} {h : Hold}
    {levels : FollowUpLevels} (newest : newestOf d.holds ch.name = some h)
    (holds : d'.holds = d.holds.update h.tgMessageId (Hold.attach levels))
    (exits : d'.exits = d.exits)
    (completions : d'.completions =
      ⟨m.id, ch.name, h, levels, d.holds.rows.filter (Hold.waitsOn ch.name)⟩ :: d.completions) :
    d'.Books := by
  obtain ⟨mine, channel, waiting, bare⟩ := newestOf_waits newest
  -- A row waits as before, and has levels afterwards if it had or is the one attached to.
  obtain ⟨onward, back⟩ := @Table.update_related _ _ _ _ d.holds h.tgMessageId (Hold.attach levels)
    (fun g g' => g'.tgMessageId = g.tgMessageId ∧ g'.waiting = g.waiting ∧
      (g.tgMessageId ≠ h.tgMessageId → g'.levels = g.levels) ∧
      (g'.levels.isSome = true ↔ g.levels.isSome = true ∨ g.tgMessageId = h.tgMessageId))
    (fun g same => ⟨rfl, rfl, fun other => absurd same other, iff_of_true rfl (.inr same)⟩)
    fun g other => ⟨rfl, rfl, fun _ => rfl, (or_iff_left other).symm⟩
  rw [← holds] at onward back
  refine ⟨?_, ?_, ?_, ?_, ?_, ?_, ?_, ?_⟩
  · intro e mem
    rw [exits] at mem
    obtain ⟨g, here, id, gone, given⟩ := books.exitRow e mem
    obtain ⟨g', row, id', same, kept, -⟩ := onward g here
    refine ⟨g', row, id'.trans id, same.trans gone, (kept fun one => ?_).trans given⟩
    rw [Table.eq_of_mem_of_key here mine one, waiting] at gone
    cases gone
  · intro g' mem gone
    obtain ⟨g, here, id, same, -, -⟩ := back g' mem
    rw [HoldDesk.exitIds, exits, id]
    exact books.rowExit g here (same ▸ gone)
  · intro c mem
    rw [completions] at mem
    obtain rfl | old := List.mem_cons.mp mem
    · obtain ⟨g', row, id, -, -, given⟩ := onward h mine
      exact ⟨g', row, id, given.mpr (.inr rfl)⟩
    · obtain ⟨g, here, id, given⟩ := books.completionRow c old
      obtain ⟨g', row, id', -, -, given'⟩ := onward g here
      exact ⟨g', row, id'.trans id, given'.mpr (.inl given)⟩
  · intro g' mem given
    obtain ⟨g, here, id, -, -, before⟩ := back g' mem
    rw [HoldDesk.completedIds, completions, List.map_cons, id]
    obtain old | own := before.mp given
    · exact List.mem_cons_of_mem _ (books.rowCompletion g here old)
    · rw [own]
      exact List.mem_cons_self
  · rw [HoldDesk.exitIds, exits]
    exact books.leftOnce
  · rw [HoldDesk.completedIds, completions]
    exact List.nodup_cons.mpr ⟨books.not_completed mine bare, books.oneFollowUpEach⟩
  · rw [exits]
    exact books.sound
  · rw [completions]
    refine List.forall_mem_cons.mpr ⟨⟨channel, ?_, newest_ge _ newest⟩, books.newest⟩
    exact newest_mem _ newest

/-- The history keeps true of the table over every message. -/
theorem HoldDesk.Books.scan (books : d.Books) : (d.scan env mk m).Books := by
  cases @scanned env mk m d with
  | idle holds exits completions =>
      refine ⟨?_, ?_, ?_, ?_, ?_, ?_, ?_, ?_⟩
      · rw [exits, holds]
        exact books.exitRow
      · rw [HoldDesk.exitIds, exits, holds]
        exact books.rowExit
      · rw [completions, holds]
        exact books.completionRow
      · rw [HoldDesk.completedIds, completions, holds]
        exact books.rowCompletion
      · rw [HoldDesk.exitIds, exits]
        exact books.leftOnce
      · rw [HoldDesk.completedIds, completions]
        exact books.oneFollowUpEach
      · rw [exits]
        exact books.sound
      · rw [completions]
        exact books.newest
  | opened ch fresh holds exits completions => exact books.insert _ rfl rfl holds exits completions
  | left h stated found waiting due holds exits completions =>
      exact books.resolve found waiting due holds exits completions
  | completed ch h levels watched newest holds exits completions =>
      exact books.attach newest holds exits completions

end Books

section Overdue
variable {env : ScanEnv} {mk : Market} {m : Message} {d : HoldDesk}

/-- A hold that waits after a message waited before it, or is begun with it. -/
theorem waited_before {h : Hold} (mem : h ∈ (d.scan env mk m).holds.rows)
    (waiting : h.waiting = true) :
    (∃ g ∈ d.holds.rows, g.tgMessageId = h.tgMessageId ∧ g.firstSeenAt = h.firstSeenAt ∧
      g.waiting = true) ∨ h.firstSeenAt = env.now := by
  cases @scanned env mk m d with
  | idle holds exits completions =>
      rw [holds] at mem
      exact .inl ⟨h, mem, rfl, rfl, waiting⟩
  | opened ch fresh holds exits completions =>
      rw [holds, Table.rows_insertOrIgnore] at mem
      split_ifs at mem
      · exact .inl ⟨h, mem, rfl, rfl, waiting⟩
      · obtain old | new := List.mem_append.mp mem
        · exact .inl ⟨h, old, rfl, rfl, waiting⟩
        · rw [List.mem_singleton.mp new]
          exact .inr rfl
  | left g stated found still due holds exits completions =>
      rw [holds] at mem
      obtain ⟨old, here, rfl⟩ := Table.mem_update.mp mem
      by_cases same : old.tgMessageId = m.id
      · rw [if_pos same] at waiting
        cases waiting
      · rw [if_neg same] at waiting ⊢
        exact .inl ⟨old, here, rfl, rfl, waiting⟩
  | completed ch g levels watched newest holds exits completions =>
      rw [holds] at mem
      obtain ⟨old, here, rfl⟩ := Table.mem_update.mp mem
      refine .inl ⟨old, here, ?_⟩
      by_cases same : old.tgMessageId = g.tgMessageId
      · rw [if_pos same] at waiting ⊢
        exact ⟨rfl, rfl, waiting⟩
      · rw [if_neg same] at waiting ⊢
        exact ⟨rfl, rfl, waiting⟩

/-- Where a message with a waiting hold is read as a bare entry after its window,
its hold is left. -/
theorem leaves_when_over (ok : d.readOk env m = true) {h : Hold}
    (found : d.holds.find m.id = some h) (waiting : h.waiting = true)
    (over_ : env.settings.matchWindowSec ≤ env.now - h.firstSeenAt) :
    (d.scan env mk m).waits m.id = false := by
  have waits : d.waits m.id = true := (waits_iff m.id).mpr ⟨h, found, waiting⟩
  rw [HoldDesk.readOk, waits] at ok
  cases watched : env.channelOf m.groupId with
  | none =>
      rw [watched] at ok
      cases ok
  | some ch =>
      rw [watched] at ok
      simp only [Bool.and_eq_true, Bool.not_true, Bool.false_or] at ok
      obtain ⟨p, bare⟩ := Option.isSome_iff_exists.mp ok.2.2
      have row : (d.state.inbox.view ch m).row = none := Option.isNone_iff_eq_none.mp ok.2.1
      have own : (d.state.inbox.view ch m).hold = some h :=
        Option.filter_eq_some_iff.mpr ⟨found, waiting⟩
      have resolved : holdWrites (env.lookOn ch m (d.state.inbox.view ch m)).writes =
          [.resolveHold] := by
        rw [lookOn_bareEntry bare row, ScanEnv.holdOrResolve, own]
        dsimp only
        cases h.levels with
        | some levels => rfl
        | none =>
            dsimp only
            rw [if_pos over_]
            rfl
      have after := @holds_scanMessage ch m env mk d.state watched
      rw [resolved] at after
      have same : (d.scan env mk m).holds = d.holds.update m.id Hold.resolve := by
        rw [scan_eq watched]
        exact after
      rw [HoldDesk.waits, same, Table.find_update_self, found]
      rfl

/-- The holds that had run out by the deadline are those of messages still to be
read. -/
def HoldDesk.Pending (d : HoldDesk) (deadline : ℚ) (ids : List ℕ) : Prop :=
  ∀ h ∈ d.holds.rows, h.waiting = true → h.firstSeenAt ≤ deadline → h.tgMessageId ∈ ids

theorem HoldDesk.Pending.scan {deadline : ℚ} {ids : List ℕ}
    (pending : d.Pending deadline (m.id :: ids))
    (ok : d.readOk env m = true) (window : 1 ≤ env.settings.matchWindowSec)
    (clock : deadline + env.settings.matchWindowSec ≤ env.now) :
    (d.scan env mk m).Pending deadline ids := by
  intro h mem waiting ran
  obtain ⟨g, here, id, seen, still⟩ | new := waited_before mem waiting
  · obtain own | rest := List.mem_cons.mp (pending g here still (seen ▸ ran))
    · have found : d.holds.find m.id = some g := own ▸ find_of_mem here
      have gone := @leaves_when_over env mk m d ok g found still (by linarith)
      have waits : (d.scan env mk m).waits m.id = true :=
        (waits_iff m.id).mpr ⟨h, (id.symm.trans own) ▸ find_of_mem mem, waiting⟩
      rw [gone] at waits
      cases waits
    · exact id ▸ rest
  · linarith

theorem HoldDesk.Pending.reads {deadline : ℚ} (p : HoldPass) (start : deadline = p.deadline)
    {reads : List (ℚ × Message)} (later : ∀ r ∈ reads, p.env.now ≤ r.1)
    (ok : Meets (fun d r => d.read p r) (fun d r => d.readOk (p.at_ r.1) r.2 = true) d reads)
    (pending : d.Pending deadline (reads.map fun r => r.2.id)) :
    (reads.foldl (fun d r => d.read p r) d).Pending deadline [] := by
  induction reads generalizing d with
  | nil => exact pending
  | cons r rest ih =>
      refine ih (fun r mem => later r (List.mem_cons_of_mem _ mem)) ok.2 ?_
      refine HoldDesk.Pending.scan pending ok.1 p.window ?_
      have now := later r List.mem_cons_self
      rw [start, HoldPass.deadline]
      change p.env.now - p.env.settings.matchWindowSec + p.env.settings.matchWindowSec ≤ r.1
      linarith

end Overdue

section Runs
variable {env : ScanEnv} {mk : Market} {m : Message} {d : HoldDesk}

/-- A follow-up that may be read completes no second hold. -/
theorem followUps_scan (once : d.followUps.Nodup) (ok : d.readOk env m = true) :
    (d.scan env mk m).followUps.Nodup := by
  cases @scanned env mk m d with
  | idle holds exits completions =>
      rw [HoldDesk.followUps, completions]
      exact once
  | opened ch fresh holds exits completions =>
      rw [HoldDesk.followUps, completions]
      exact once
  | left h stated found waiting due holds exits completions =>
      rw [HoldDesk.followUps, completions]
      exact once
  | completed ch h levels watched newest holds exits completions =>
      rw [HoldDesk.readOk, watched] at ok
      simp only [newest, Option.isNone_some, Bool.or_false, Bool.and_eq_true,
        decide_eq_true_eq] at ok
      rw [HoldDesk.followUps, completions, List.map_cons]
      exact List.nodup_cons.mpr ⟨ok.1, once⟩

/-- What holds of the history and the table after every pass. -/
structure HoldDesk.Kept (d : HoldDesk) : Prop where
  books : d.Books
  followUps : d.followUps.Nodup
  noneOverdue : ∀ deadline ∈ d.deadline, ∀ h ∈ d.holds.rows, h.waiting = true →
    deadline < h.firstSeenAt

theorem HoldDesk.Kept.pass (kept : d.Kept) {p : HoldPass} (ok : d.PassOk p) :
    (d.pass p).Kept := by
  have walked : (p.reads.foldl (fun d r => d.read p r) d).Books ∧
      (p.reads.foldl (fun d r => d.read p r) d).followUps.Nodup :=
    states_invariant (I := fun d : HoldDesk => d.Books ∧ d.followUps.Nodup)
      (fun d r held fine => ⟨held.1.scan, followUps_scan held.2 fine⟩)
      ⟨kept.books, kept.followUps⟩ ok.reads _ (foldl_mem_states ..)
  have none_ : (p.reads.foldl (fun d r => d.read p r) d).Pending p.deadline [] :=
    HoldDesk.Pending.reads p rfl p.clock ok.reads ok.buffered
  refine ⟨⟨walked.1.exitRow, walked.1.rowExit, walked.1.completionRow, walked.1.rowCompletion,
    walked.1.leftOnce, walked.1.oneFollowUpEach, walked.1.sound, walked.1.newest⟩, walked.2, ?_⟩
  intro deadline now h mem waiting
  cases now
  by_contra ran
  cases none_ h mem waiting (not_lt.mp ran)

theorem HoldDesk.Kept.once (kept : d.Kept) : d.Once where
  leftOnce := kept.books.leftOnce
  leftOrWaits h mem := by
    constructor
    · intro left
      obtain ⟨e, here, id⟩ := List.mem_map.mp left
      obtain ⟨g, row, same, gone, -⟩ := kept.books.exitRow e here
      rw [← Table.eq_of_mem_of_key row mem (same.trans id)]
      exact gone
    · exact kept.books.rowExit h mem
  noneOverdue := kept.noneOverdue
  sound := kept.books.sound
  notBoth e mem := by
    obtain ⟨h, row, id, -, levels⟩ := kept.books.exitRow e mem
    constructor
    · intro completed
      obtain ⟨c, here, same⟩ := List.mem_map.mp completed
      obtain ⟨g, row', id', given⟩ := kept.books.completionRow c here
      have one : g = h := Table.eq_of_mem_of_key row' row (id'.trans (same.trans id.symm))
      rw [← levels, ← one]
      exact given
    · intro given
      rw [← id]
      exact kept.books.rowCompletion h row (levels ▸ given)
  oneHoldEach := kept.followUps
  oneFollowUpEach := kept.books.oneFollowUpEach
  newest := kept.books.newest

/-- In every run of passes, on any settings, parsers and channels: if the
messages whose holds have run out are still read, as the bare entries they were,
and no message that has completed a hold is read again while its channel has one
that waits for levels, then every hold is left once and every follow-up completes
one hold at most. -/
theorem second_message_once (s : ScanState) (passes : List HoldPass)
    (unheld : s.inbox.holds.rows = [])
    (ok : Meets HoldDesk.pass HoldDesk.PassOk (.start s) passes) :
    ∀ d ∈ states HoldDesk.pass (.start s) passes, d.Once := by
  have empty : (HoldDesk.start s).holds.rows = [] := unheld
  have start : (HoldDesk.start s).Kept := by
    refine ⟨⟨?_, ?_, ?_, ?_, List.nodup_nil, List.nodup_nil, ?_, ?_⟩, List.nodup_nil, ?_⟩
    · exact fun e mem => by cases mem
    · rw [empty]
      exact fun h mem => by cases mem
    · exact fun c mem => by cases mem
    · rw [empty]
      exact fun h mem => by cases mem
    · exact fun e mem => by cases mem
    · exact fun c mem => by cases mem
    · exact fun deadline now => by cases now
  intro d mem
  exact (states_invariant (fun d p kept fine => kept.pass fine) start ok d mem).once

end Runs

instance (d : HoldDesk) (p : HoldPass) : Decidable (d.PassOk p) :=
  decidable_of_iff
    ((∀ h ∈ d.holds.rows, h.waiting = true → h.firstSeenAt ≤ p.deadline → h.tgMessageId ∈ p.ids) ∧
      Meets (fun d r => d.read p r) (fun d r => d.readOk (p.at_ r.1) r.2 = true) d p.reads)
    ⟨fun ok => ⟨ok.1, ok.2⟩, fun ok => ⟨ok.buffered, ok.reads⟩⟩

/-- A channel that posts an entry and its levels apart. -/
def apartParsers : Parsers :=
  { Parsers.silent with
    tpSlOnly text :=
      .ok (if text = "SL 4160 TP 4130" then
        some ⟨some 4160, some 4130 :: List.replicate 7 none, false⟩ else none)
    partialAnyFormat text :=
      .ok (if text = "XAU USD SELL NOW 4150 - 4155" then
        some ⟨.sell, 4150, 4155, none, List.replicate 8 none, none⟩ else none) }

def apartEnv (now : ℚ) : ScanEnv :=
  { ScanEnv.shipped apartParsers now with
    settings := { ScanSettings.shipped with secondMessage := true } }

def bareSell (id : ℕ) (time : ℚ) : Message :=
  ⟨id, "G", "XAU USD SELL NOW 4150 - 4155", .posted time, false, false⟩

def levelsOnly (time : ℚ) : Message := ⟨2, "G", "SL 4160 TP 4130", .posted time, false, false⟩

/-- A pass that reads all its messages at one time. -/
def apartPass (now : ℚ) (messages : List Message) : HoldPass where
  env := apartEnv now
  market := Market.calm
  reads := messages.map fun m => (now, m)
  window := by
    change (1 : ℚ) ≤ 120
    decide
  clock := by
    intro r mem
    obtain ⟨m, -, rfl⟩ := List.mem_map.mp mem
    exact le_rfl

/-- The entry, the entry again with its levels, and both once more. -/
theorem second_message_once_apart :
    (HoldDesk.pass (HoldDesk.pass (HoldDesk.pass (.start ScanState.start)
      (apartPass 100 [bareSell 1 99]))
        (apartPass 110 [levelsOnly 109, bareSell 1 99]))
          (apartPass 111 [levelsOnly 109, bareSell 1 99])).Once :=
  second_message_once ScanState.start
    [apartPass 100 [bareSell 1 99], apartPass 110 [levelsOnly 109, bareSell 1 99],
      apartPass 111 [levelsOnly 109, bareSell 1 99]]
    rfl (by decide +kernel) _ (foldl_mem_states ..)

/-- The next entry of the channel is given the levels of the one before it, which
are still in the buffer. -/
theorem follow_up_completes_two :
    ¬ ∀ (s : ScanState) (passes : List HoldPass), s.inbox.holds.rows = [] →
      ∀ d ∈ states HoldDesk.pass (.start s) passes, d.Once := by
  intro all
  have last := all ScanState.start
    [apartPass 100 [bareSell 1 99], apartPass 110 [levelsOnly 109, bareSell 1 99],
      apartPass 130 [bareSell 3 129, levelsOnly 109, bareSell 1 99]] rfl _
    (foldl_mem_states ..)
  exact absurd last.oneHoldEach (by decide +kernel)

end Forex
