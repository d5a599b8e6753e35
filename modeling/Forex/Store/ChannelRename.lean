import Forex.Risk.ScheduleGate
import Forex.Store.Transaction

/-!
`sync_channel_rename`: one transaction over the tables that key rows by a
channel's name, with a handler around the statements of each table, and the
alias table of the process after it. Any statement may fail.
-/

namespace Forex
open Support

/-- `_CHANNEL_NAME_TABLES`. -/
inductive NameTable where
  | channelParserConfig
  | channelPerformance
  | channelStrategyRec
  | simulatedTrades
  | pendingOrders
  | consolidatedTrades
  | tgSignals
deriving DecidableEq, Repr

def channelNameTables : List NameTable :=
  [.channelParserConfig, .channelPerformance, .channelStrategyRec, .simulatedTrades,
    .pendingOrders, .consolidatedTrades, .tgSignals]

namespace NameTable

/-- `_CHANNEL_UNIQUE_TABLES`. -/
def unique : NameTable → Bool
  | channelParserConfig | channelPerformance | channelStrategyRec => true
  | _ => false

/-- The override is carried over to a row that exists. -/
def carries : NameTable → Bool
  | channelPerformance => true
  | _ => false

end NameTable

structure NamedRow where
  name : String
  strategyOverride : Option String
  autoStrategy : Option ℤ
deriving DecidableEq, Repr

abbrev NamedRows := List NamedRow

abbrev NameTables := NameTable → NamedRows

inductive RenameWrite where
  | rename (olds : List String) (new : String)
  | carry (strategyOverride : Option String) (autoStrategy : Option ℤ) (new : String)
  | delete (old : String)
deriving DecidableEq, Repr

def RenameWrite.apply (rows : NamedRows) : RenameWrite → NamedRows
  | .rename olds new => rows.map fun r => if r.name ∈ olds then { r with name := new } else r
  | .carry strategyOverride autoStrategy new =>
      rows.map fun r =>
        if r.name = new then
          { r with strategyOverride := strategyOverride, autoStrategy := autoStrategy }
        else r
  | .delete old => rows.filter fun r => decide (r.name ≠ old)

def applyWrites (rows : NamedRows) (writes : List RenameWrite) : NamedRows :=
  writes.foldl RenameWrite.apply rows

/-- A statement that is carried out: a read, or an update of no row, writes
nothing. -/
abbrev Statements := List (Option RenameWrite)

def Statements.writes (stmts : Statements) : List RenameWrite := stmts.filterMap id

/-- The statements of `_fold_renamed_row`. -/
def foldRenamedRow (carries : Bool) (rows : NamedRows) (old new : String) : Statements :=
  match rows.find? fun r => decide (r.name = old) with
  | none => [none]
  | some row =>
      if rows.any fun r => decide (r.name = new) then
        [none, none] ++
          (if carries && row.strategyOverride.isSome then
            [some (.carry row.strategyOverride row.autoStrategy new)]
          else []) ++
          [some (.delete old)]
      else [none, none, some (.rename [old] new)]

/-- The names of one rename: the one stored, the bucket it leads to, the new one. -/
structure RenameNames where
  old : String
  canon : String
  new : String
deriving DecidableEq, Repr

namespace RenameNames
variable (names : RenameNames)

def firstFold (t : NameTable) (rows : NamedRows) : Statements :=
  foldRenamedRow t.carries rows names.old names.new

def secondFold (t : NameTable) (rows : NamedRows) : Statements :=
  if names.canon = names.old then []
  else
    foldRenamedRow t.carries (applyWrites rows (names.firstFold t rows).writes) names.canon
      names.new

def plainUpdate (rows : NamedRows) : Statements :=
  [if rows.any fun r => decide (r.name ∈ [names.canon, names.old]) then
    some (.rename [names.canon, names.old] names.new)
  else none]

/-- The statements for one table when none of them fails. -/
def statements (t : NameTable) (rows : NamedRows) : Statements :=
  if t.unique then names.firstFold t rows ++ names.secondFold t rows else names.plainUpdate rows

end RenameNames

/-- One statement that does not fail. -/
def statementWrite (t : NameTable) : Option RenameWrite → Code (NameTable × RenameWrite) true
  | none => .skip
  | some w => .write (t, w)

/-- Statements one after another, of which some fail. -/
def statementCode (t : NameTable) :
    (ℕ → Bool) → Statements → Code (NameTable × RenameWrite) true
  | _, [] => .skip
  | fails, stmt :: rest =>
      .seq (if fails 0 then .raise else statementWrite t stmt)
        (statementCode t (fun k => fails (k + 1)) rest)

/-- What can go wrong in one rename: the statements of each table that fail, by
their positions, and the commit. -/
structure RenameFailures where
  fails : NameTable → ℕ → Bool
  commitFails : Bool

namespace RenameNames
variable (names : RenameNames)

/-- What stands in the handler of one table. -/
def tableCode (tables : NameTables) (fails : NameTable → ℕ → Bool) (t : NameTable) :
    Code (NameTable × RenameWrite) true :=
  if t.unique then
    let first := names.firstFold t (tables t)
    .seq (.block (statementCode t (fails t) first))
      (.block (statementCode t (fun k => fails t (first.length + k))
        (names.secondFold t (tables t))))
  else statementCode t (fails t) (names.plainUpdate (tables t))

def renameCode (tables : NameTables) (f : RenameFailures) : Code (NameTable × RenameWrite) false :=
  .block
    (.seq
      (.all ((channelNameTables.map (names.tableCode tables f.fails)).map
        fun p => .guarded p .skip))
      (if f.commitFails then .raise else .skip))

/-- Every variant of the old name, and the new name itself, lead to the new name. -/
def moveAliases (aliases : ChannelAliases) : ChannelAliases :=
  let moved := aliases.map fun e => if e.2 = names.canon then (e.1, names.new) else e
  if (aliases.get names.new).isSome then
    moved.map fun e => if e.1 = names.new then (names.new, names.new) else e
  else moved ++ [(names.new, names.new)]

end RenameNames

structure ChannelStore where
  tables : NameTables
  aliases : ChannelAliases

def stripped (name : String) : String := String.ofList (strip name.toList)

/-- The names of a rename that is carried out. -/
def renameNames (aliases : ChannelAliases) (oldName newName : String) : Option RenameNames :=
  let old := stripped oldName
  let new := stripped newName
  if old = "" ∨ new = "" ∨ old = new then none
  else
    let canon := canonical aliases old
    if canon = new then none else some ⟨old, canon, new⟩

/-- What the database holds of a table after these writes. -/
def tableAfter (rows : NamedRows) (t : NameTable) (log : List (NameTable × RenameWrite)) :
    NamedRows :=
  applyWrites rows (log.filterMap fun e => if e.1 = t then some e.2 else none)

def ChannelStore.syncChannelRename (s : ChannelStore) (f : RenameFailures)
    (oldName newName : String) : ChannelStore :=
  match renameNames s.aliases oldName newName with
  | none => s
  | some names =>
      let ran := Conn.exec (names.renameCode s.tables f) ⟨[], [], 0⟩
      { tables := fun t => tableAfter (s.tables t) t ran.1.committed
        aliases := if ran.2 then s.aliases else names.moveAliases s.aliases }

/-- The writes of the statements before the first that fails. -/
def ranWrites : (ℕ → Bool) → Statements → List RenameWrite
  | _, [] => []
  | fails, stmt :: rest =>
      if fails 0 then [] else stmt.toList ++ ranWrites (fun k => fails (k + 1)) rest

def anyFails : (ℕ → Bool) → Statements → Bool
  | _, [] => false
  | fails, _ :: rest => fails 0 || anyFails (fun k => fails (k + 1)) rest

/-- No statement up to this position fails. -/
def Reached (fails : ℕ → Bool) (j : ℕ) : Prop := ∀ k ≤ j, fails k = false

section Statements
variable {t : NameTable} {fails : ℕ → Bool} {w : RenameWrite}

theorem reached_zero : Reached fails 0 ↔ fails 0 = false := by
  constructor
  · intro reached
    exact reached 0 (Nat.le_refl 0)
  · intro first k le
    rw [Nat.le_zero.mp le]
    exact first

theorem reached_succ (j : ℕ) :
    Reached fails (j + 1) ↔ fails 0 = false ∧ Reached (fun k => fails (k + 1)) j := by
  constructor
  · intro reached
    exact ⟨reached 0 (Nat.zero_le _), fun k le => reached (k + 1) (Nat.succ_le_succ le)⟩
  · rintro ⟨first, rest⟩ k le
    cases k with
    | zero => exact first
    | succ k => exact rest k (Nat.le_of_succ_le_succ le)

theorem statementWrite_raises (stmt : Option RenameWrite) :
    (statementWrite t stmt).raises = false := by
  cases stmt <;> rfl

theorem statementWrite_remains (stmt : Option RenameWrite) :
    (statementWrite t stmt).remains = stmt.toList.map fun w => (t, w) := by
  cases stmt <;> rfl

theorem statementCode_raises (stmts : Statements) :
    (statementCode t fails stmts).raises = anyFails fails stmts := by
  induction stmts generalizing fails with
  | nil => rfl
  | cons stmt rest ih =>
      rw [statementCode, Code.raises, ih, anyFails]
      cases fails 0 with
      | true => rfl
      | false => rw [if_neg Bool.false_ne_true, statementWrite_raises]

theorem statementCode_remains (stmts : Statements) :
    (statementCode t fails stmts).remains = (ranWrites fails stmts).map fun w => (t, w) := by
  induction stmts generalizing fails with
  | nil => rfl
  | cons stmt rest ih =>
      rw [statementCode, Code.remains, ih, ranWrites]
      cases fails 0 with
      | true => rfl
      | false =>
          rw [if_neg Bool.false_ne_true, if_neg Bool.false_ne_true, statementWrite_raises,
            if_neg Bool.false_ne_true, statementWrite_remains, List.map_append]

theorem ranWrites_append (a b : Statements) :
    ranWrites fails (a ++ b) =
      ranWrites fails a ++
        if anyFails fails a then [] else ranWrites (fun k => fails (a.length + k)) b := by
  induction a generalizing fails with
  | nil => simp [ranWrites, anyFails]
  | cons stmt rest ih =>
      rw [List.cons_append, ranWrites, ranWrites, anyFails, ih]
      cases fails 0 with
      | true => rfl
      | false => simp [Nat.add_right_comm]

theorem writes_cons (stmt : Option RenameWrite) (rest : Statements) :
    Statements.writes (stmt :: rest) = stmt.toList ++ Statements.writes rest := by
  cases stmt <;> rfl

theorem writes_append (a b : Statements) :
    Statements.writes (a ++ b) = Statements.writes a ++ Statements.writes b :=
  List.filterMap_append

theorem ranWrites_prefix (fails : ℕ → Bool) (stmts : Statements) :
    ranWrites fails stmts <+: Statements.writes stmts := by
  induction stmts generalizing fails with
  | nil => exact List.prefix_refl _
  | cons stmt rest ih =>
      rw [ranWrites, writes_cons]
      split
      · exact List.nil_prefix
      · exact List.prefix_append_right_inj _ |>.mpr (ih _)

theorem ranWrites_of_none (stmts : Statements) (none : anyFails fails stmts = false) :
    ranWrites fails stmts = Statements.writes stmts := by
  induction stmts generalizing fails with
  | nil => rfl
  | cons stmt rest ih =>
      rw [anyFails, Bool.or_eq_false_iff] at none
      rw [ranWrites, writes_cons, none.1, if_neg Bool.false_ne_true, ih none.2]

theorem mem_ranWrites (stmts : Statements) :
    w ∈ ranWrites fails stmts ↔ ∃ j, stmts[j]? = some (some w) ∧ Reached fails j := by
  induction stmts generalizing fails with
  | nil => simp [ranWrites]
  | cons stmt rest ih =>
      rw [ranWrites]
      constructor
      · intro mem
        split at mem
        · cases mem
        · next fine =>
            cases List.mem_append.mp mem with
            | inl now =>
                refine ⟨0, ?_, reached_zero.mpr (Bool.eq_false_iff.mpr fine)⟩
                simpa using now
            | inr later =>
                obtain ⟨j, at', reached⟩ := ih.mp later
                exact ⟨j + 1, at', (reached_succ j).mpr ⟨Bool.eq_false_iff.mpr fine, reached⟩⟩
      · rintro ⟨j, at', reached⟩
        rw [reached 0 (Nat.zero_le j), if_neg Bool.false_ne_true]
        cases j with
        | zero => exact List.mem_append_left _ (by simpa using at')
        | succ j =>
            exact List.mem_append_right _ (ih.mpr ⟨j, at', ((reached_succ j).mp reached).2⟩)

/-- Every write is carried out exactly when each of them is reached. -/
theorem ranWrites_eq_iff (stmts : Statements) :
    ranWrites fails stmts = Statements.writes stmts ↔
      ∀ j w, stmts[j]? = some (some w) → Reached fails j := by
  induction stmts generalizing fails with
  | nil => simp [ranWrites, Statements.writes]
  | cons stmt rest ih =>
      rw [ranWrites, writes_cons]
      cases first : fails 0 with
      | true =>
          rw [if_pos rfl]
          constructor
          · intro none j w at'
            have mem : w ∈ stmt.toList ++ Statements.writes rest := by
              rw [← writes_cons]
              exact List.mem_filterMap.mpr ⟨some w, List.mem_of_getElem? at', rfl⟩
            rw [← none] at mem
            cases mem
          · intro all
            rw [← writes_cons, eq_comm]
            apply List.eq_nil_iff_forall_not_mem.mpr
            intro w mem
            obtain ⟨s, mem, rfl⟩ := List.mem_filterMap.mp mem
            obtain ⟨j, at'⟩ := List.getElem?_of_mem mem
            exact Bool.false_ne_true ((all j w at' 0 (Nat.zero_le j)).symm.trans first)
      | false =>
          rw [if_neg Bool.false_ne_true, List.append_cancel_left_eq, ih]
          constructor
          · intro all j w at'
            cases j with
            | zero => exact reached_zero.mpr first
            | succ j => exact (reached_succ j).mpr ⟨first, all j w at'⟩
          · intro all j w at'
            exact ((reached_succ j).mp (all (j + 1) w at')).2

end Statements

/-- A table has a row under this name. -/
def NamedRows.Has (rows : NamedRows) (name : String) : Prop := ∃ r ∈ rows, r.name = name

/-- The name a write may give. -/
def RenameWrite.target : RenameWrite → Option String
  | .rename _ new => some new
  | .carry _ _ _ | .delete _ => none

section Rows
variable {rows : NamedRows} {name old new : String}

theorem applyWrites_append (a b : List RenameWrite) :
    applyWrites rows (a ++ b) = applyWrites (applyWrites rows a) b := List.foldl_append

theorem RenameWrite.apply_has (w : RenameWrite) (other : w.target ≠ some name)
    (has : NamedRows.Has (w.apply rows) name) : NamedRows.Has rows name := by
  obtain ⟨r, mem, is⟩ := has
  cases w with
  | rename olds new =>
      obtain ⟨r', mem', rfl⟩ := List.mem_map.mp mem
      split at is
      · exact absurd (congrArg some is) other
      · exact ⟨r', mem', is⟩
  | carry o a new =>
      obtain ⟨r', mem', rfl⟩ := List.mem_map.mp mem
      refine ⟨r', mem', ?_⟩
      split at is <;> exact is
  | delete old => exact ⟨r, (List.mem_filter.mp mem).1, is⟩

theorem applyWrites_has (writes : List RenameWrite) (others : ∀ w ∈ writes, w.target ≠ some name)
    (has : NamedRows.Has (applyWrites rows writes) name) : NamedRows.Has rows name := by
  induction writes generalizing rows with
  | nil => exact has
  | cons w rest ih =>
      exact w.apply_has (others w List.mem_cons_self)
        (ih (fun v mem => others v (List.mem_cons_of_mem w mem)) has)

theorem carry_has (o : Option String) (a : Option ℤ) (has : NamedRows.Has rows name) :
    NamedRows.Has ((RenameWrite.carry o a new).apply rows) name := by
  obtain ⟨r, mem, is⟩ := has
  refine ⟨_, List.mem_map.mpr ⟨r, mem, rfl⟩, ?_⟩
  split <;> exact is

theorem delete_has_not : ¬ NamedRows.Has ((RenameWrite.delete old).apply rows) old := by
  rintro ⟨r, mem, is⟩
  exact of_decide_eq_true (List.mem_filter.mp mem).2 is

theorem rename_has_not {olds : List String} (mem : old ∈ olds) (other : old ≠ new) :
    ¬ NamedRows.Has ((RenameWrite.rename olds new).apply rows) old := by
  rintro ⟨r, inRows, is⟩
  obtain ⟨r', -, rfl⟩ := List.mem_map.mp inRows
  split at is
  · exact other is.symm
  · next out => exact out (is ▸ mem)

/-- What a fold may have written when it was left early. -/
def FoldStart (new : String) (writes : List RenameWrite) : Prop :=
  writes = [] ∨ ∃ o a, writes = [.carry o a new]

theorem foldRenamedRow_writes (carries : Bool) (rows : NamedRows) (old new : String) :
    (¬ rows.Has old ∧ Statements.writes (foldRenamedRow carries rows old new) = []) ∨
      rows.Has old ∧ ∃ front last,
        Statements.writes (foldRenamedRow carries rows old new) = front ++ [last] ∧
          FoldStart new front ∧ (last = .delete old ∨ last = .rename [old] new) := by
  rw [foldRenamedRow]
  cases found : rows.find? fun r => decide (r.name = old) with
  | none =>
      left
      refine ⟨?_, rfl⟩
      rintro ⟨r, mem, is⟩
      exact List.find?_eq_none.mp found r mem (decide_eq_true is)
  | some row =>
      right
      refine ⟨⟨row, List.mem_of_find?_eq_some found,
        by simpa using List.find?_some found⟩, ?_⟩
      dsimp only
      split
      · split
        · exact ⟨[.carry row.strategyOverride row.autoStrategy new], .delete old, rfl,
            .inr ⟨_, _, rfl⟩, .inl rfl⟩
        · exact ⟨[], .delete old, rfl, .inl rfl, .inl rfl⟩
      · exact ⟨[], .rename [old] new, rfl, .inl rfl, .inr rfl⟩

theorem foldRenamedRow_target {carries : Bool} {w : RenameWrite}
    (mem : w ∈ Statements.writes (foldRenamedRow carries rows old new)) (other : name ≠ new) :
    w.target ≠ some name := by
  have target : w.target = none ∨ w.target = some new := by
    cases foldRenamedRow_writes carries rows old new with
    | inl absent =>
        rw [absent.2] at mem
        cases mem
    | inr present =>
        obtain ⟨-, front, last, writes, start, ends⟩ := present
        rw [writes] at mem
        cases List.mem_append.mp mem with
        | inl early =>
            rcases start with rfl | ⟨o, a, rfl⟩
            · cases early
            · rw [List.mem_singleton.mp early]
              exact .inl rfl
        | inr late =>
            rw [List.mem_singleton.mp late]
            rcases ends with rfl | rfl
            · exact .inl rfl
            · exact .inr rfl
  intro is
  rcases target with none | some
  · exact Option.some_ne_none name (is.symm.trans none)
  · exact other (Option.some.inj (is.symm.trans some))

/-- A fold carried out leaves no row under the old name. -/
theorem foldRenamedRow_has_not (carries : Bool) (rows : NamedRows) (other : old ≠ new) :
    ¬ NamedRows.Has
      (applyWrites rows (Statements.writes (foldRenamedRow carries rows old new))) old := by
  cases foldRenamedRow_writes carries rows old new with
  | inl absent =>
      rw [absent.2]
      exact absent.1
  | inr present =>
      obtain ⟨-, front, last, writes, -, ends⟩ := present
      rw [writes, applyWrites_append]
      rcases ends with rfl | rfl
      · exact delete_has_not
      · exact rename_has_not List.mem_cons_self other

theorem foldStart_has {writes : List RenameWrite} (start : FoldStart new writes)
    (has : rows.Has name) : NamedRows.Has (applyWrites rows writes) name := by
  rcases start with rfl | ⟨o, a, rfl⟩
  · exact has
  · exact carry_has o a has

theorem foldStart_target {writes : List RenameWrite} (start : FoldStart new writes) :
    ∀ w ∈ writes, w.target ≠ some name := by
  intro w mem
  rcases start with rfl | ⟨o, a, rfl⟩
  · cases mem
  · rw [List.mem_singleton.mp mem]
    exact (Option.some_ne_none name).symm

theorem foldStart_prefix {writes before : List RenameWrite} (start : FoldStart new writes)
    (pre : before <+: writes) : FoldStart new before := by
  rcases start with rfl | ⟨o, a, rfl⟩
  · exact .inl (List.prefix_nil.mp pre)
  · cases List.prefix_concat_iff.mp (show before <+: [] ++ [_] from pre) with
    | inl whole => exact .inr ⟨o, a, whole⟩
    | inr none => exact .inl (List.prefix_nil.mp none)

/-- A fold is carried out, or the old row is there and stays. -/
theorem foldRenamedRow_ran (carries : Bool) (rows : NamedRows) (fails : ℕ → Bool) :
    ranWrites fails (foldRenamedRow carries rows old new) =
        Statements.writes (foldRenamedRow carries rows old new) ∨
      rows.Has old ∧ FoldStart new (ranWrites fails (foldRenamedRow carries rows old new)) := by
  have ran := ranWrites_prefix fails (foldRenamedRow carries rows old new)
  cases foldRenamedRow_writes carries rows old new with
  | inl absent =>
      rw [absent.2] at ran ⊢
      exact .inl (List.prefix_nil.mp ran)
  | inr present =>
      obtain ⟨has, front, last, writes, start, -⟩ := present
      rw [writes] at ran ⊢
      cases List.prefix_concat_iff.mp ran with
      | inl whole => exact .inl whole
      | inr early => exact .inr ⟨has, foldStart_prefix start early⟩

/-- A fold that has something to write has an old row. -/
theorem foldRenamedRow_has {carries : Bool}
    (writes : Statements.writes (foldRenamedRow carries rows old new) ≠ []) : rows.Has old := by
  cases foldRenamedRow_writes carries rows old new with
  | inl absent => exact absurd absent.2 writes
  | inr present => exact present.1

end Rows

namespace RenameNames
variable {names : RenameNames} {rows : NamedRows}

/-- The two old names differ from the new one. -/
def Proper (names : RenameNames) : Prop := ∀ name ∈ [names.canon, names.old], name ≠ names.new

theorem plainUpdate_writes (names : RenameNames) (rows : NamedRows) :
    (∃ name ∈ [names.canon, names.old], rows.Has name) ∧
        names.plainUpdate rows = [some (.rename [names.canon, names.old] names.new)] ∨
      (¬ ∃ name ∈ [names.canon, names.old], rows.Has name) ∧ names.plainUpdate rows = [none] := by
  rw [plainUpdate]
  cases any : rows.any fun r => decide (r.name ∈ [names.canon, names.old]) with
  | true =>
      obtain ⟨r, mem, named⟩ := List.any_eq_true.mp any
      exact .inl ⟨⟨r.name, of_decide_eq_true named, r, mem, rfl⟩, rfl⟩
  | false =>
      right
      refine ⟨?_, rfl⟩
      rintro ⟨name, old, r, mem, rfl⟩
      exact List.any_eq_false.mp any r mem (decide_eq_true old)

theorem statements_has (t : NameTable)
    (writes : Statements.writes (names.statements t rows) ≠ []) :
    ∃ name ∈ [names.canon, names.old], rows.Has name := by
  rw [statements] at writes
  split at writes
  · rw [writes_append] at writes
    cases first : Statements.writes (names.firstFold t rows) with
    | nil =>
        rw [first, List.nil_append, secondFold, first] at writes
        split at writes
        · exact absurd rfl writes
        · exact ⟨names.canon, List.mem_cons_self, foldRenamedRow_has writes⟩
    | cons w rest =>
        have some : Statements.writes (names.firstFold t rows) ≠ [] := by
          rw [first]
          exact List.cons_ne_nil w rest
        exact ⟨names.old, List.mem_cons_of_mem _ List.mem_cons_self, foldRenamedRow_has some⟩
  · cases plainUpdate_writes names rows with
    | inl some => exact some.1
    | inr none =>
        rw [none.2] at writes
        exact absurd rfl writes

/-- The statements carried out leave no row under either old name. -/
theorem statements_has_not (proper : names.Proper) (rows : NamedRows) (t : NameTable)
    {name : String} (old : name ∈ [names.canon, names.old]) :
    ¬ NamedRows.Has (applyWrites rows (Statements.writes (names.statements t rows))) name := by
  rw [statements]
  split
  · rw [writes_append, applyWrites_append, secondFold]
    have first : ¬ NamedRows.Has
        (applyWrites rows (Statements.writes (names.firstFold t rows))) names.old :=
      foldRenamedRow_has_not t.carries rows
        (proper _ (List.mem_cons_of_mem _ List.mem_cons_self))
    split
    · next same =>
        rcases List.mem_cons.mp old with rfl | last
        · rwa [same]
        · rwa [List.mem_singleton.mp last]
    · rcases List.mem_cons.mp old with rfl | last
      · exact foldRenamedRow_has_not t.carries _ (proper _ List.mem_cons_self)
      · intro has
        rw [List.mem_singleton.mp last] at has
        refine first (applyWrites_has _ ?_ has)
        intro w mem
        exact foldRenamedRow_target mem (proper _ (List.mem_cons_of_mem _ List.mem_cons_self))
  · cases plainUpdate_writes names rows with
    | inl some =>
        rw [some.2]
        exact rename_has_not old (proper name old)
    | inr none =>
        rw [none.2]
        intro has
        exact none.1 ⟨name, old, has⟩

theorem secondFold_ran (names : RenameNames) (rows : NamedRows) (fails : ℕ → Bool)
    (t : NameTable) (left : Bool) :
    (if left then [] else ranWrites fails (names.secondFold t rows)) =
        Statements.writes (names.secondFold t rows) ∨
      NamedRows.Has (applyWrites rows (Statements.writes (names.firstFold t rows))) names.canon ∧
        FoldStart names.new (if left then [] else ranWrites fails (names.secondFold t rows)) := by
  rw [secondFold]
  by_cases same : names.canon = names.old
  · rw [if_pos same]
    cases left <;> exact .inl rfl
  · rw [if_neg same]
    cases left with
    | false => exact foldRenamedRow_ran _ _ _
    | true =>
        rw [if_pos rfl]
        by_cases none : Statements.writes (foldRenamedRow t.carries (applyWrites rows
          (Statements.writes (names.firstFold t rows))) names.canon names.new) = []
        · exact .inl none.symm
        · exact .inr ⟨foldRenamedRow_has none, .inl rfl⟩

/-- A table's statements are carried out, or an old row is there and stays. -/
theorem statements_ran (names : RenameNames) (rows : NamedRows) (fails : ℕ → Bool)
    (t : NameTable) :
    ranWrites fails (names.statements t rows) = Statements.writes (names.statements t rows) ∨
      ∃ done start, ranWrites fails (names.statements t rows) = done ++ start ∧
        FoldStart names.new start ∧
        (∃ name ∈ [names.canon, names.old], NamedRows.Has (applyWrites rows done) name) ∧
        (done = [] ∨ done = Statements.writes (names.firstFold t rows)) := by
  rw [statements]
  split
  · rw [ranWrites_append, writes_append]
    by_cases whole : ranWrites fails (names.firstFold t rows) =
      Statements.writes (names.firstFold t rows)
    · rw [whole]
      cases secondFold_ran names rows (fun k => fails ((names.firstFold t rows).length + k)) t
        (anyFails fails (names.firstFold t rows)) with
      | inl all => exact .inl (congrArg _ all)
      | inr early =>
          exact .inr ⟨_, _, rfl, early.2, ⟨names.canon, List.mem_cons_self, early.1⟩, .inr rfl⟩
    · have early := (foldRenamedRow_ran t.carries rows fails).resolve_left whole
      have failed : anyFails fails (names.firstFold t rows) = true := by
        by_contra none
        exact whole (ranWrites_of_none _ (Bool.eq_false_iff.mpr none))
      rw [failed, if_pos rfl, List.append_nil]
      exact .inr ⟨[], _, rfl, early.2,
        ⟨names.old, List.mem_cons_of_mem _ List.mem_cons_self, early.1⟩, .inl rfl⟩
  · cases plainUpdate_writes names rows with
    | inl some =>
        rw [some.2]
        cases first : fails 0 with
        | true => exact .inr ⟨[], [], by simp [ranWrites, first], .inl rfl, some.1, .inl rfl⟩
        | false => exact .inl (by simp [ranWrites, first, Statements.writes])
    | inr none =>
        rw [none.2]
        left
        cases first : fails 0 <;> simp [ranWrites, first, Statements.writes]

/-- A table is moved exactly when all its writes are carried out. -/
theorem moved_iff (proper : names.Proper) (fails : ℕ → Bool) (t : NameTable) :
    applyWrites rows (ranWrites fails (names.statements t rows)) =
        applyWrites rows (Statements.writes (names.statements t rows)) ↔
      ∀ j w, (names.statements t rows)[j]? = some (some w) → Reached fails j := by
  rw [← ranWrites_eq_iff]
  constructor
  · intro moved
    cases statements_ran names rows fails t with
    | inl whole => exact whole
    | inr early =>
        obtain ⟨done, start, ran, carried, ⟨name, old, has⟩, -⟩ := early
        refine absurd ?_ (statements_has_not proper rows t old)
        rw [← moved, ran, applyWrites_append]
        exact foldStart_has carried has
  · exact congrArg _

theorem applyWrites_unchanged {writes : List RenameWrite}
    (idle : ∀ w ∈ writes, w.apply rows = rows) : applyWrites rows writes = rows := by
  induction writes with
  | nil => rfl
  | cons w rest ih =>
      rw [applyWrites, List.foldl_cons, idle w List.mem_cons_self]
      exact ih fun v mem => idle v (List.mem_cons_of_mem w mem)

theorem foldStart_unchanged {new : String} {writes : List RenameWrite}
    (start : FoldStart new writes) (same : applyWrites rows writes = rows) :
    ∀ w ∈ writes, w.apply rows = rows := by
  intro w mem
  rcases start with rfl | ⟨o, a, rfl⟩
  · cases mem
  · rw [List.mem_singleton.mp mem]
    exact same

/-- A table is as it was exactly when no write that is reached changes it. -/
theorem untouched_iff (proper : names.Proper) (fails : ℕ → Bool) (t : NameTable) :
    applyWrites rows (ranWrites fails (names.statements t rows)) = rows ↔
      ∀ j w, (names.statements t rows)[j]? = some (some w) → Reached fails j →
        w.apply rows = rows := by
  have members : (∀ w ∈ ranWrites fails (names.statements t rows), w.apply rows = rows) ↔
      ∀ j w, (names.statements t rows)[j]? = some (some w) → Reached fails j →
        w.apply rows = rows := by
    constructor
    · intro all j w at' reached
      exact all w ((mem_ranWrites _).mpr ⟨j, at', reached⟩)
    · intro all w mem
      obtain ⟨j, at', reached⟩ := (mem_ranWrites _).mp mem
      exact all j w at' reached
  rw [← members]
  constructor
  · intro same
    cases statements_ran names rows fails t with
    | inl whole =>
        by_cases none : Statements.writes (names.statements t rows) = []
        · rw [whole, none]
          intro w mem
          cases mem
        · obtain ⟨name, old, has⟩ := statements_has t none
          refine absurd ?_ (statements_has_not proper rows t old)
          rw [← whole, same]
          exact has
    | inr early =>
        obtain ⟨done, start, ran, carried, -, done_eq⟩ := early
        rcases done_eq with rfl | rfl
        · rw [ran, List.nil_append] at same ⊢
          exact foldStart_unchanged carried same
        · by_cases none : Statements.writes (names.firstFold t rows) = []
          · rw [ran, none, List.nil_append] at same ⊢
            exact foldStart_unchanged carried same
          · have old := foldRenamedRow_has none
            rw [← same, ran, applyWrites_append] at old
            exact absurd (applyWrites_has _ (foldStart_target carried) old)
              (foldRenamedRow_has_not t.carries rows
                (proper _ (List.mem_cons_of_mem _ List.mem_cons_self)))
  · exact applyWrites_unchanged

theorem tableCode_remains (tables : NameTables) (fails : NameTable → ℕ → Bool) (t : NameTable) :
    (names.tableCode tables fails t).remains =
      (ranWrites (fails t) (names.statements t (tables t))).map fun w => (t, w) := by
  rw [tableCode, statements]
  split
  · rw [ranWrites_append, Code.remains, Code.remains, Code.remains, Code.raises,
      statementCode_remains, statementCode_remains, statementCode_raises, List.map_append]
    split <;> rfl
  · exact statementCode_remains _

theorem renameCode_raises (names : RenameNames) (tables : NameTables) (f : RenameFailures) :
    (names.renameCode tables f).raises = f.commitFails := by
  rw [renameCode, Code.raises, Code.raises, Code.raises_all_guarded, Bool.false_or]
  cases f.commitFails <;> rfl

theorem renameCode_remains (tables : NameTables) (f : RenameFailures) :
    (names.renameCode tables f).remains =
      if f.commitFails then []
      else channelNameTables.flatMap fun t => (names.tableCode tables f.fails t).remains := by
  have raised := renameCode_raises names tables f
  rw [renameCode, Code.raises] at raised
  rw [renameCode, Code.remains, raised]
  cases f.commitFails with
  | true => rfl
  | false =>
      rw [if_neg Bool.false_ne_true, if_neg Bool.false_ne_true, Code.remains,
        Code.raises_all_guarded, Code.remains_all_guarded, List.flatMap_map]
      exact List.append_nil _

theorem proper_of_renameNames {aliases : ChannelAliases} {oldName newName : String}
    (done : renameNames aliases oldName newName = some names) : names.Proper := by
  simp only [renameNames] at done
  split at done
  · cases done
  · next kept =>
      split at done
      · cases done
      · next other =>
          obtain rfl := Option.some.inj done
          intro name mem
          rcases List.mem_cons.mp mem with rfl | last
          · exact other
          · rw [List.mem_singleton.mp last]
            exact fun same => kept (.inr (.inr same))

/-- A table of which every row has gone to the new name. -/
def movedTable (names : RenameNames) (t : NameTable) (rows : NamedRows) : NamedRows :=
  applyWrites rows (Statements.writes (names.statements t rows))

/-- Every write of the rename is reached. -/
def Complete (names : RenameNames) (tables : NameTables) (fails : NameTable → ℕ → Bool) : Prop :=
  ∀ t j w, (names.statements t (tables t))[j]? = some (some w) → Reached (fails t) j

/-- Every write of the rename that is reached stores what is there. -/
def Idle (names : RenameNames) (tables : NameTables) (fails : NameTable → ℕ → Bool) : Prop :=
  ∀ t j w, (names.statements t (tables t))[j]? = some (some w) → Reached (fails t) j →
    w.apply (tables t) = tables t

end RenameNames

theorem filterMap_of_table (t u : NameTable) (writes : List RenameWrite) :
    ((writes.map fun w => (u, w)).filterMap fun e => if e.1 = t then some e.2 else none) =
      if u = t then writes else [] := by
  rw [List.filterMap_map]
  split
  · next same => simp [same]
  · next other => simp [other]

theorem tableAfter_flatMap (rows : NamedRows) (t : NameTable)
    (writes : NameTable → List RenameWrite) :
    tableAfter rows t (channelNameTables.flatMap fun u => (writes u).map fun w => (u, w)) =
      applyWrites rows (writes t) := by
  rw [tableAfter, List.filterMap_flatMap]
  simp only [filterMap_of_table]
  cases t <;> simp [channelNameTables]

namespace ChannelStore
variable (s : ChannelStore) (f : RenameFailures) (oldName newName : String)

theorem syncChannelRename_some {names : RenameNames}
    (done : renameNames s.aliases oldName newName = some names) :
    s.syncChannelRename f oldName newName =
      if f.commitFails then s
      else
        ⟨fun t => applyWrites (s.tables t)
            (ranWrites (f.fails t) (names.statements t (s.tables t))),
          names.moveAliases s.aliases⟩ := by
  rw [syncChannelRename, done]
  dsimp only
  rw [Conn.exec_outside, List.nil_append, RenameNames.renameCode_raises,
    RenameNames.renameCode_remains]
  cases f.commitFails with
  | true => rfl
  | false =>
      simp only [RenameNames.tableCode_remains, Bool.false_eq_true, if_false, tableAfter_flatMap]

/-- Every table and the alias table have gone to the new name, or nothing has
changed. -/
def RenameAtomic : Prop :=
  (∃ names, renameNames s.aliases oldName newName = some names ∧
      s.syncChannelRename f oldName newName =
        ⟨fun t => names.movedTable t (s.tables t), names.moveAliases s.aliases⟩) ∨
    s.syncChannelRename f oldName newName = s

/-- The commit fails, or no write is kept from being carried out, or there is
nothing that the rename changes. -/
def RenameUnharmed : Prop :=
  ∀ names, renameNames s.aliases oldName newName = some names →
    f.commitFails = true ∨ names.Complete s.tables f.fails ∨
      (names.moveAliases s.aliases = s.aliases ∧ names.Idle s.tables f.fails)

theorem renameAtomic_iff :
    s.RenameAtomic f oldName newName ↔ s.RenameUnharmed f oldName newName := by
  rw [RenameAtomic, RenameUnharmed]
  cases done : renameNames s.aliases oldName newName with
  | none => simp [syncChannelRename, done]
  | some names =>
      have proper := RenameNames.proper_of_renameNames done
      rw [s.syncChannelRename_some f oldName newName done]
      have whole : (∀ t, applyWrites (s.tables t)
          (ranWrites (f.fails t) (names.statements t (s.tables t))) =
            names.movedTable t (s.tables t)) ↔ names.Complete s.tables f.fails :=
        forall_congr' fun t => RenameNames.moved_iff proper (f.fails t) t
      have same : (∀ t, applyWrites (s.tables t)
          (ranWrites (f.fails t) (names.statements t (s.tables t))) = s.tables t) ↔
            names.Idle s.tables f.fails :=
        forall_congr' fun t => RenameNames.untouched_iff proper (f.fails t) t
      cases f.commitFails with
      | true => simp
      | false =>
          cases s with
          | mk tables aliases =>
              simp only [Option.some.injEq, exists_eq_left', forall_eq', Bool.false_eq_true,
                if_false, false_or, ChannelStore.mk.injEq, and_true, funext_iff, whole, same]
              exact or_congr_right and_comm

end ChannelStore

/-- Only outermost blocks commit and roll back, so a block left by an exception
that is caught further out keeps its writes; the rename catches around every
table. -/
theorem blocks_all_or_nothing {ω : Type} (p : Code ω false) (s : ChannelStore)
    (f : RenameFailures) (oldName newName : String) :
    (AllOrNothing p ↔ p.Tidy) ∧
      (s.RenameAtomic f oldName newName ↔ s.RenameUnharmed f oldName newName) :=
  ⟨allOrNothing_iff p, s.renameAtomic_iff f oldName newName⟩

/-- Two channels with performance rows, the first with a chosen strategy. -/
def twoPerformanceRows : ChannelStore where
  tables
    | .channelPerformance => [⟨"Gold A", some "scalp_runner", none⟩, ⟨"Gold B", none, none⟩]
    | _ => []
  aliases := []

/-- The DELETE that ends the fold of those rows fails. -/
def deleteFails : RenameFailures where
  fails := fun t k => decide (t = .channelPerformance ∧ k = 3)
  commitFails := false

theorem failed_fold_is_committed :
    (¬ AllOrNothing ((RenameNames.mk "Gold A" "Gold A" "Gold B").renameCode
        twoPerformanceRows.tables deleteFails)) ∧
      ¬ twoPerformanceRows.RenameAtomic deleteFails "Gold A" "Gold B" := by
  have strategies : ((twoPerformanceRows.syncChannelRename deleteFails "Gold A" "Gold B").tables
      .channelPerformance) =
        [⟨"Gold A", some "scalp_runner", none⟩, ⟨"Gold B", some "scalp_runner", none⟩] := by
    decide +kernel
  constructor
  · intro all
    exact absurd (all []) (by decide +kernel)
  · intro atomic
    rcases atomic with ⟨names, rename, moved⟩ | unchanged
    · rw [moved] at strategies
      have canon : names = ⟨"Gold A", "Gold A", "Gold B"⟩ := by
        have done : renameNames twoPerformanceRows.aliases "Gold A" "Gold B" =
            some ⟨"Gold A", "Gold A", "Gold B"⟩ := by decide +kernel
        exact Option.some.inj (rename.symm.trans done)
      rw [canon] at strategies
      exact absurd strategies (by decide +kernel)
    · rw [unchanged] at strategies
      exact absurd strategies (by decide +kernel)

end Forex
