import Forex.Close.TpLadder
import Mathlib.Data.List.TakeWhile

/-!
Runs of the ladder of one trade: the set of triggered levels with its
time-to-live, and the walk of each tick taken apart into what one level writes.
A tick reads the row of the trade as it is then; `modify_order` answers with an
error and does not raise.
-/

namespace Forex
open Support

/-- `_TP_NUM_RE`: the number after a leading `TP`. -/
def tpNumOf (reason : String) : Option ℕ :=
  match reason.toList with
  | t :: p :: rest =>
      let digits := rest.takeWhile Char.isDigit
      if (t = 'T' ∨ t = 't') ∧ (p = 'P' ∨ p = 'p') ∧ digits ≠ [] then
        some (Nat.ofDigitChars 10 digits 0)
      else none
  | _ => none

def tpCacheTtl : ℚ := 5 / 2

def tpMarkers (db : Db) (tradeId : String) : List ℕ :=
  (db.partials.filter fun p => decide (p.tradeId = tradeId)).filterMap fun p => tpNumOf p.reason

/-- `get_triggered_tps`, with the time the set was read. -/
def getTriggeredTps (cache : Option (List ℕ × ℚ)) (db : Db) (tradeId : String) (now : ℚ) :
    List ℕ × ℚ :=
  match cache with
  | none => (tpMarkers db tradeId, now)
  | some cached =>
      if now - cached.2 < tpCacheTtl then cached else (tpMarkers db tradeId, now)

structure LadderTick where
  tick : Tick
  rule : LadderRule
  reply : ℕ → Reply
  now : ℚ

structure LadderDesk where
  db : Db
  cache : Option (List ℕ × ℚ)

def LadderTick.walk (t : LadderTick) (db : Db) (trade : Trade) (triggered : List ℕ) : LadderWalk :=
  runTpLadder db trade t.tick t.rule triggered t.reply (fun _ => false) t.now

def LadderDesk.step (tradeId : String) (s : LadderDesk) (t : LadderTick) : LadderDesk :=
  match s.db.getTrade tradeId with
  | none => s
  | some trade =>
      if trade.isOpen then
        let read := getTriggeredTps s.cache s.db tradeId t.now
        let w := t.walk s.db trade read.1
        ⟨w.db, some (w.triggered, read.2)⟩
      else s

theorem toList_tpReason (n : ℕ) : (tpReason n).toList = 'T' :: 'P' :: Nat.toDigits 10 n := by
  rw [tpReason, String.toList_append]
  exact congrArg (fun digits => 'T' :: 'P' :: digits) (Nat.toList_repr (n := n))

theorem tpNumOf_tpReason (n : ℕ) : tpNumOf (tpReason n) = some n := by
  have digits : (Nat.toDigits 10 n).takeWhile Char.isDigit = Nat.toDigits 10 n :=
    List.takeWhile_eq_self_iff.mpr fun c mem =>
      Nat.isDigit_of_mem_toDigits (by omega) (by omega) mem
  rw [tpNumOf, toList_tpReason]
  dsimp only
  rw [digits, if_pos ⟨.inl rfl, .inl rfl, Nat.toDigits_ne_nil⟩, Nat.ofDigitChars_ten_toDigits]

theorem tpReason_injective {n m : ℕ} (h : tpReason n = tpReason m) : n = m := by
  have same := congrArg tpNumOf h
  rw [tpNumOf_tpReason, tpNumOf_tpReason] at same
  exact Option.some.inj same

/-- `get_remaining_lots`. -/
def remainingLotsOf (db : Db) (tradeId : String) : ℚ :=
  ((db.getTrade tradeId).map Trade.remainingLots).getD 0

/-- The lots and the price that a close of a level books, unless the broker
refuses it or the call raises. -/
def confirmedClose (trade : Trade) (tpPrice lots : ℚ) (reply : Reply) : Option (ℚ × ℚ) :=
  match linkedTicket trade.mt5Ticket with
  | none => some (lots, tpPrice)
  | some _ =>
      match reply with
      | .raised => none
      | .answered r =>
          if r.succeeded then some (r.lotsClosed.getD lots, r.closePrice.getD tpPrice)
          else if r.hasError || r.refused then none
          else some (lots, tpPrice)

def closeWrite (db : Db) (trade : Trade) (tpNum : ℕ) (tpPrice lots : ℚ) (reply : Reply)
    (now : ℚ) : Option PartialWrite :=
  match confirmedClose trade tpPrice lots reply with
  | none => none
  | some (lots, price) => partialCloseTrade db trade.tradeId lots price (tpReason tpNum) now

section CloseTp
variable {db : Db} {trade : Trade} {tpNum : ℕ} {tpPrice lots now : ℚ} {reply : Reply}

theorem closeTp_eq :
    closeTp db trade tpNum tpPrice lots reply now =
      match confirmedClose trade tpPrice lots reply with
      | some (lots, price) => bookTp db trade.tradeId tpNum lots price now
      | none => if reply = .raised then .raised else .skipped := by
  simp only [closeTp, confirmedClose]
  cases linkedTicket trade.mt5Ticket with
  | none => rfl
  | some _ =>
      cases reply with
      | raised => rfl
      | answered r =>
          dsimp only
          by_cases done : r.succeeded = true
          · rw [if_pos done, if_pos done]
          · by_cases refused : (r.hasError || r.refused) = true
            · rw [if_neg done, if_neg done, if_pos refused, if_pos refused]
              rfl
            · rw [if_neg done, if_neg done, if_neg refused, if_neg refused]

theorem closeTp_of_no_write (none : closeWrite db trade tpNum tpPrice lots reply now = none) :
    closeTp db trade tpNum tpPrice lots reply now = .raised ∨
      closeTp db trade tpNum tpPrice lots reply now = .skipped := by
  rw [closeWrite] at none
  rw [closeTp_eq]
  cases close : confirmedClose trade tpPrice lots reply with
  | none =>
      dsimp only
      split_ifs
      · exact .inl rfl
      · exact .inr rfl
  | some asked =>
      rw [close] at none
      dsimp only at none ⊢
      rw [bookTp, none]
      exact .inr rfl

theorem closeTp_of_write {p : PartialWrite}
    (write : closeWrite db trade tpNum tpPrice lots reply now = some p) :
    closeTp db trade tpNum tpPrice lots reply now =
      .booked (p.apply db) (decide (p.newRemaining ≤ 0)) := by
  rw [closeWrite] at write
  rw [closeTp_eq]
  cases close : confirmedClose trade tpPrice lots reply with
  | none =>
      rw [close] at write
      cases write
  | some asked =>
      rw [close] at write
      dsimp only at write ⊢
      rw [bookTp, write]

end CloseTp

/-- The stop `a` is closer to the profit than `b`. -/
def Direction.tighter (direction : Direction) (a b : ℚ) : Bool :=
  match direction with
  | .buy => decide (b < a)
  | .sell => decide (a < b)

theorem closeWrite_eq_some {db : Db} {trade : Trade} {tpNum : ℕ} {tpPrice lots now : ℚ}
    {reply : Reply} {p : PartialWrite}
    (write : closeWrite db trade tpNum tpPrice lots reply now = some p) :
    db.getTrade trade.tradeId = some p.row ∧ p.row.isOpen = true ∧ p.reason = tpReason tpNum ∧
      confirmedClose trade tpPrice lots reply = some (p.requested, p.closePrice) := by
  rw [closeWrite] at write
  cases close : confirmedClose trade tpPrice lots reply with
  | none =>
      rw [close] at write
      cases write
  | some asked =>
      rw [close] at write
      dsimp only at write
      obtain ⟨found, isOpen, -⟩ := partialCloseTrade_eq_some write
      rw [partialCloseTrade, found] at write
      dsimp only at write
      rw [if_pos isOpen] at write
      rw [← Option.some.inj write]
      exact ⟨found, isOpen, rfl, rfl⟩

/-- The number of each booking of the trade is in the set. -/
def Known (db : Db) (tradeId : String) (triggered : List ℕ) : Prop :=
  ∀ p ∈ db.partials, p.tradeId = tradeId → ∀ n, tpNumOf p.reason = some n → n ∈ triggered

theorem known_tpMarkers (db : Db) (tradeId : String) : Known db tradeId (tpMarkers db tradeId) := by
  intro p mem own n number
  exact List.mem_filterMap.mpr ⟨p, List.mem_filter.mpr ⟨mem, decide_eq_true own⟩, number⟩

theorem known_getTriggeredTps {cache : Option (List ℕ × ℚ)} {db : Db} {tradeId : String}
    (known : ∀ cached, cache = some cached → Known db tradeId cached.1) (now : ℚ) :
    Known db tradeId (getTriggeredTps cache db tradeId now).1 := by
  cases cache with
  | none => exact known_tpMarkers db tradeId
  | some cached =>
      rw [getTriggeredTps]
      split
      · exact known cached rfl
      · exact known_tpMarkers db tradeId

/-- A level that is not in the set has no booking, so its write is a new one. -/
theorem Known.write_new {db : Db} {trade : Trade} {triggered : List ℕ} {p : PartialWrite} {n : ℕ}
    (known : Known db trade.tradeId triggered) (fresh : n ∉ triggered)
    (found : db.getTrade trade.tradeId = some p.row) (reason : p.reason = tpReason n) :
    db.alreadyRecorded p.booking = false := by
  rw [Db.alreadyRecorded, Bool.and_eq_false_iff]
  refine .inr (List.any_eq_false.mpr fun q mem => ?_)
  rw [PartialClose.clashes, decide_eq_true_eq]
  intro clash
  have row : p.row.tradeId = trade.tradeId := Table.key_of_find found
  have own : q.tradeId = trade.tradeId := clash.1.symm.trans row
  have number : tpNumOf q.reason = some n := by
    rw [← clash.2.1, PartialWrite.booking, reason, tpNumOf_tpReason]
  exact fresh (known q mem own n number)

theorem Known.booked {db db' : Db} {tradeId : String} {triggered : List ℕ} {b : PartialClose}
    {n : ℕ} (known : Known db tradeId triggered) (partials : db'.partials = db.partials ++ [b])
    (reason : b.reason = tpReason n) : Known db' tradeId (n :: triggered) := by
  intro p mem own m number
  rw [partials] at mem
  cases List.mem_append.mp mem with
  | inl old => exact List.mem_cons_of_mem n (known p old own m number)
  | inr last =>
      rw [List.mem_singleton.mp last, reason, tpNumOf_tpReason] at number
      rw [Option.some.inj number]
      exact List.mem_cons_self

theorem ladderTps_afterPartial ( be : Bool) (now closePrice partialPnl newRemaining entryPrice : ℚ)
    (row : Trade) :
    ladderTps (Trade.afterPartial be now closePrice partialPnl newRemaining entryPrice row) =
      ladderTps row := by
  rw [Trade.afterPartial]
  split_ifs <;> rfl

/-- The numbers of the levels are those of the columns, in order. -/
theorem nodup_ladderTps (trade : Trade) : ((ladderTps trade).map Prod.fst).Nodup := by
  have columns : ((trade.tps.zipIdx 1).map Prod.snd).Nodup := by
    rw [List.zipIdx_map_snd]
    exact List.nodup_range'
  rw [ladderTps, List.Nodup, List.pairwise_map]
  apply List.Pairwise.filter
  refine List.pairwise_filterMap.mpr ((List.pairwise_map.mp columns).imp ?_)
  intro a b ne x hx y hy
  obtain ⟨-, -, rfl⟩ := Option.map_eq_some_iff.mp hx
  obtain ⟨-, -, rfl⟩ := Option.map_eq_some_iff.mp hy
  exact ne

namespace Onward

def walk : Onward → LadderWalk
  | .next w => w
  | .stop w => w

/-- What the levels after this one meet, if the loop goes on. -/
def Goes (p : LadderWalk → Prop) : Onward → Prop
  | .next w => p w
  | .stop _ => True

instance (p : LadderWalk → Prop) [∀ w, Decidable (p w)] : ∀ o : Onward, Decidable (o.Goes p)
  | .next w => inferInstanceAs (Decidable (p w))
  | .stop _ => isTrue True.intro

end Onward

namespace LadderTick
variable (t : LadderTick) (trade : Trade) (tps : List (ℕ × ℚ))

def level (w : LadderWalk) (l : (ℕ × ℚ) × ℕ) : Onward :=
  walkTp trade t.tick t.rule t.reply (fun _ => false) t.now tps w l.2 l.1.1 l.1.2

def levels (w : LadderWalk) (ls : List ((ℕ × ℚ) × ℕ)) : LadderWalk :=
  walkFrom trade t.tick t.rule t.reply (fun _ => false) t.now tps w ls

/-- Each level that the walk comes to meets the condition in the state the
walk comes to it in. -/
def LevelsMeet (ok : LadderWalk → (ℕ × ℚ) × ℕ → Prop) :
    LadderWalk → List ((ℕ × ℚ) × ℕ) → Prop
  | _, [] => True
  | w, l :: rest => ok w l ∧ (level t trade tps w l).Goes fun w => LevelsMeet ok w rest

instance decidableLevelsMeet (ok : LadderWalk → (ℕ × ℚ) × ℕ → Prop)
    [∀ w l, Decidable (ok w l)] : ∀ w ls, Decidable (LevelsMeet t trade tps ok w ls)
  | _, [] => isTrue True.intro
  | w, l :: rest =>
      have := fun w => decidableLevelsMeet ok w rest
      inferInstanceAs (Decidable
        (ok w l ∧ (level t trade tps w l).Goes fun w => LevelsMeet t trade tps ok w rest))

variable {t trade tps}

theorem levels_cons (w : LadderWalk) (l : (ℕ × ℚ) × ℕ) (rest : List ((ℕ × ℚ) × ℕ)) :
    t.levels trade tps w (l :: rest) =
      match t.level trade tps w l with
      | .stop w => w
      | .next w => t.levels trade tps w rest := by
  rw [levels, walkFrom]
  rfl

/-- An invariant that each level meeting the condition keeps holds after the
walk. -/
theorem levels_invariant {ok : LadderWalk → (ℕ × ℚ) × ℕ → Prop} {I : LadderWalk → Prop}
    {ls : List ((ℕ × ℚ) × ℕ)}
    (keep : ∀ w, ∀ l ∈ ls, I w → ok w l → I (t.level trade tps w l).walk)
    {w : LadderWalk} (start : I w) (run : t.LevelsMeet trade tps ok w ls) :
    I (t.levels trade tps w ls) := by
  induction ls generalizing w with
  | nil => exact start
  | cons l rest ih =>
      have kept := keep w l List.mem_cons_self start run.1
      have onward := run.2
      rw [levels_cons]
      cases result : t.level trade tps w l with
      | stop w' =>
          rw [result] at kept
          exact kept
      | next w' =>
          rw [result] at kept onward
          exact ih (fun w l mem => keep w l (List.mem_cons_of_mem _ mem)) kept onward

/-- Along the same walks, whatever the invariant and the condition give of one
level is true of every level. -/
theorem levelsMeet_of_invariant {ok P : LadderWalk → (ℕ × ℚ) × ℕ → Prop} {I : LadderWalk → Prop}
    {ls : List ((ℕ × ℚ) × ℕ)}
    (keep : ∀ w, ∀ l ∈ ls, I w → ok w l → I (t.level trade tps w l).walk)
    (give : ∀ w, ∀ l ∈ ls, I w → ok w l → P w l)
    {w : LadderWalk} (start : I w) (run : t.LevelsMeet trade tps ok w ls) :
    t.LevelsMeet trade tps P w ls := by
  induction ls generalizing w with
  | nil => exact True.intro
  | cons l rest ih =>
      have kept := keep w l List.mem_cons_self start run.1
      have onward := run.2
      refine ⟨give w l List.mem_cons_self start run.1, ?_⟩
      cases result : t.level trade tps w l with
      | stop w' => exact True.intro
      | next w' =>
          rw [result] at kept onward
          exact ih (fun w l mem => keep w l (List.mem_cons_of_mem _ mem))
            (fun w l mem => give w l (List.mem_cons_of_mem _ mem)) kept onward

variable (t trade tps)

/-- The booking that a level of the walk makes. -/
def levelWrite (w : LadderWalk) (l : (ℕ × ℚ) × ℕ) : Option PartialWrite :=
  if l.1.1 ∈ w.triggered then none
  else if !tpHit trade.direction t.tick l.1.2 then none
  else if remainingLotsOf w.db trade.tradeId ≤ 0 then none
  else
    match lotsAt trade t.rule tps l.2 (remainingLotsOf w.db trade.tradeId) with
    | none => none
    | some lots =>
        if lots ≤ 0 then none
        else closeWrite w.db trade l.1.1 l.1.2 lots (t.reply l.1.1) t.now

def booked (w : LadderWalk) (l : (ℕ × ℚ) × ℕ) (p : PartialWrite) : LadderWalk :=
  { w with db := p.apply w.db, triggered := l.1.1 :: w.triggered }

variable {t trade tps}

theorem level_eq (w : LadderWalk) (l : (ℕ × ℚ) × ℕ) :
    t.level trade tps w l =
      if l.1.1 ∈ w.triggered then .next w
      else if !tpHit trade.direction t.tick l.1.2 then .stop w
      else if remainingLotsOf w.db trade.tradeId ≤ 0 then .stop w
      else
        match lotsAt trade t.rule tps l.2 (remainingLotsOf w.db trade.tradeId) with
        | none => .stop w
        | some lots =>
            if lots ≤ 0 then .next w
            else
              match closeTp w.db trade l.1.1 l.1.2 lots (t.reply l.1.1) t.now with
              | .raised => .stop w
              | .skipped => .next w
              | .booked db autoClosed =>
                  let w := { w with db := db, triggered := l.1.1 :: w.triggered }
                  if autoClosed && (linkedTicket trade.mt5Ticket).isSome then .stop w
                  else trailStop trade t.rule (fun _ => false) tps l.2 l.1.1 w := rfl

theorem level_of_idle {w : LadderWalk} {l : (ℕ × ℚ) × ℕ}
    (idle : t.levelWrite trade tps w l = none) : (t.level trade tps w l).walk = w := by
  rw [level_eq]
  rw [levelWrite] at idle
  split_ifs at idle ⊢
  · rfl
  · rfl
  · rfl
  · cases asked : lotsAt trade t.rule tps l.2 (remainingLotsOf w.db trade.tradeId) with
    | none => rfl
    | some lots =>
        rw [asked] at idle
        dsimp only at idle ⊢
        split_ifs at idle ⊢
        · rfl
        · cases closeTp_of_no_write idle with
          | inl raised =>
              rw [raised]
              rfl
          | inr skipped =>
              rw [skipped]
              rfl

/-- What a booking level has met: it is not triggered yet, its price is hit and
there are lots left, and the write is that of a close at the level. -/
theorem levelWrite_eq_some {w : LadderWalk} {l : (ℕ × ℚ) × ℕ} {p : PartialWrite}
    (write : t.levelWrite trade tps w l = some p) :
    l.1.1 ∉ w.triggered ∧ tpHit trade.direction t.tick l.1.2 = true ∧
      0 < remainingLotsOf w.db trade.tradeId ∧
      ∃ lots, lotsAt trade t.rule tps l.2 (remainingLotsOf w.db trade.tradeId) = some lots ∧
        0 < lots ∧ closeWrite w.db trade l.1.1 l.1.2 lots (t.reply l.1.1) t.now = some p := by
  rw [levelWrite] at write
  by_cases old : l.1.1 ∈ w.triggered
  · rw [if_pos old] at write
    cases write
  · rw [if_neg old] at write
    by_cases missed : (!tpHit trade.direction t.tick l.1.2) = true
    · rw [if_pos missed] at write
      cases write
    · rw [if_neg missed] at write
      by_cases empty : remainingLotsOf w.db trade.tradeId ≤ 0
      · rw [if_pos empty] at write
        cases write
      · rw [if_neg empty] at write
        cases asked : lotsAt trade t.rule tps l.2 (remainingLotsOf w.db trade.tradeId) with
        | none =>
            rw [asked] at write
            cases write
        | some lots =>
            rw [asked] at write
            dsimp only at write
            by_cases nothing : lots ≤ 0
            · rw [if_pos nothing] at write
              cases write
            · rw [if_neg nothing] at write
              refine ⟨old, ?_, not_le.mp empty, lots, rfl, not_le.mp nothing, write⟩
              simpa using missed

theorem level_of_write {w : LadderWalk} {l : (ℕ × ℚ) × ℕ} {p : PartialWrite}
    (write : t.levelWrite trade tps w l = some p) :
    t.level trade tps w l =
      if decide (p.newRemaining ≤ 0) && (linkedTicket trade.mt5Ticket).isSome then
        .stop (booked w l p)
      else
        trailStop trade t.rule (fun _ => false) tps l.2 l.1.1 (booked w l p) := by
  obtain ⟨fresh, hit, left, lots, asked, some, close⟩ := levelWrite_eq_some write
  rw [level_eq, if_neg fresh, if_neg (by simp [hit]), if_neg (not_le.mpr left), asked]
  dsimp only
  rw [if_neg (not_le.mpr some), closeTp_of_write close]
  rfl

/-- The level that the stop is trailed to, if it is tighter. -/
def trailTarget (trade : Trade) (rule : LadderRule) (tps : List (ℕ × ℚ)) (pos : ℕ) : ℚ :=
  if pos = rule.beAtPos then trade.entryPrice else rule.slRule pos tps

def trailed (w : LadderWalk) (tradeId : String) (sl : ℚ) (moved : Bool) : LadderWalk :=
  { w with db := w.db.setTrade tradeId (Trade.setStopLossBeFlag sl moved), currentSl := sl }

theorem trailStop_eq (rule : LadderRule) (pos tpNum : ℕ) (w : LadderWalk) :
    trailStop trade rule (fun _ => false) tps pos tpNum w =
      if pos < rule.beAtPos then .next w
      else if trade.direction.tighter (trailTarget trade rule tps pos) w.currentSl then
        .next (trailed w trade.tradeId (trailTarget trade rule tps pos)
          (if pos = rule.beAtPos then true else trade.slMovedToBe))
      else .next w := by
  rw [trailStop]
  dsimp only
  rw [Bool.and_false]
  rfl

variable (trade tps) in
theorem trailStop_cases (rule : LadderRule) (pos tpNum : ℕ) (w : LadderWalk) :
    (trailStop trade rule (fun _ => false) tps pos tpNum w = .next w ∧
      (pos < rule.beAtPos ∨
        trade.direction.tighter (trailTarget trade rule tps pos) w.currentSl = false)) ∨
    (rule.beAtPos ≤ pos ∧
      trade.direction.tighter (trailTarget trade rule tps pos) w.currentSl = true ∧
      ∃ moved, trailStop trade rule (fun _ => false) tps pos tpNum w =
        .next (trailed w trade.tradeId (trailTarget trade rule tps pos) moved)) := by
  rw [trailStop_eq]
  by_cases before : pos < rule.beAtPos
  · rw [if_pos before]
    exact .inl ⟨rfl, .inl before⟩
  · rw [if_neg before]
    cases better : trade.direction.tighter (trailTarget trade rule tps pos) w.currentSl with
    | false => exact .inl ⟨rfl, .inr rfl⟩
    | true => exact .inr ⟨not_lt.mp before, rfl, _, rfl⟩

theorem level_walk_of_write {w : LadderWalk} {l : (ℕ × ℚ) × ℕ} {p : PartialWrite}
    (write : t.levelWrite trade tps w l = some p) :
    (t.level trade tps w l).walk = booked w l p ∨
      ∃ moved, (t.level trade tps w l).walk =
        trailed (booked w l p) trade.tradeId (trailTarget trade t.rule tps l.2) moved := by
  rw [level_of_write write]
  split
  · exact .inl rfl
  · cases trailStop_cases trade tps t.rule l.2 l.1.1 (booked w l p) with
    | inl kept =>
        rw [kept.1]
        exact .inl rfl
    | inr moved =>
        obtain ⟨-, -, flag, moved⟩ := moved
        rw [moved]
        exact .inr ⟨flag, rfl⟩

variable (t trade tps) in
/-- What a level leaves: the walk as it was, the booking, or the booking with
the stop trailed behind it. -/
theorem level_walk_cases (w : LadderWalk) (l : (ℕ × ℚ) × ℕ) :
    (t.level trade tps w l).walk = w ∨
      ∃ p, t.levelWrite trade tps w l = some p ∧
        ((t.level trade tps w l).walk = booked w l p ∨
          ∃ moved, (t.level trade tps w l).walk =
            trailed (booked w l p) trade.tradeId (trailTarget trade t.rule tps l.2) moved) := by
  cases write : t.levelWrite trade tps w l with
  | none => exact .inl (level_of_idle write)
  | some p => exact .inr ⟨p, rfl, level_walk_of_write write⟩

end LadderTick

end Forex
