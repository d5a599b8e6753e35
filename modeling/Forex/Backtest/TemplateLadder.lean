import Forex.Telegram.Orders

/-!
The take-profit ladder of an EA template, built twice: by `_ladder` for the
backtest walks and by `resolve_template_tps` for a live trade. A template is the
row as `_row_to_template` reads it, with the columns that the two ladders and
the walks use.
-/

namespace Forex
namespace Backtest
open Support

inductive TemplateMode where
  | single
  | grid
deriving DecidableEq, Repr

inductive TpslMode where
  | off
  | on
  | stealth
deriving DecidableEq, Repr

inductive TemplateTrail where
  | off
  | candle
  | step
  | fractal
  | tp
  | staged
deriving DecidableEq, Repr

inductive BeMode where
  | entry
  | entryBuffer
deriving DecidableEq, Repr

structure Template where
  mode : TemplateMode
  pendings : ℤ
  useDynamicAtr : Bool
  equityProtect : ℚ
  harvestEnabled : Bool
  slPips : ℚ
  riskPct : ℚ
  lotAnchor : ℚ
  /-- `tp{n}_pips` and `tp{n}_pct`. -/
  tpPips : ℕ → ℚ
  tpPct : ℕ → ℚ
  atrSlMult : ℚ
  atrTp1Mult : ℚ
  atrLadderScale : Bool
  tpFromTelegram : Bool
  tpPenFromTelegram : Bool
  tpslMode : TpslMode
  partials : Bool
  closeFullOnLast : Bool
  beTrigger : ℤ
  beMode : BeMode
  beBufferPts : ℚ
  trailMode : TemplateTrail
  trailDistance : ℚ
  trailPadding : ℚ
  trailActivation : ℚ
  trailStep : ℚ
  tp1TriggerLevel : ℤ

/-- `DEFAULTS`, the columns that `Template` has. -/
def Template.defaults : Template where
  mode := .single
  pendings := 1
  useDynamicAtr := false
  equityProtect := 0
  harvestEnabled := false
  slPips := 50
  riskPct := 0
  lotAnchor := 1 / 100
  tpPips _ := 0
  tpPct _ := 0
  atrSlMult := 3 / 2
  atrTp1Mult := 3 / 2
  atrLadderScale := false
  tpFromTelegram := false
  tpPenFromTelegram := false
  tpslMode := .on
  partials := true
  closeFullOnLast := true
  beTrigger := 1
  beMode := .entry
  beBufferPts := 1
  trailMode := .off
  trailDistance := 50
  trailPadding := 0
  trailActivation := 100
  trailStep := 10
  tp1TriggerLevel := 1

/-- `range(1, MAX_TP_LEVELS + 1)`. -/
def tpLevels : List ℕ := List.range' 1 8

/-- `PIPS_TO_PRICE_XAUUSD`. -/
def pipsToPriceXauusd : ℚ := 10 / 100

/-- `pips_to_price`: `pips * 10.0 * _POINT`. -/
def pipsToPrice (pips : ℚ) : ℚ := pips * (10 * (1 / 100))

/-- `x or fallback` of a number. -/
def orElseOf (x fallback : ℚ) : ℚ := if x = 0 then fallback else x

section TemplateLevels
variable (t : Template) (atr : ℚ)

def atrSlDistance : Option ℚ :=
  if atr ≤ 0 ∨ t.useDynamicAtr = false then none
  else some (atr * orElseOf t.atrSlMult (3 / 2))

def atrTp1Distance : Option ℚ :=
  if atr ≤ 0 ∨ t.useDynamicAtr = false then none
  else some (atr * orElseOf t.atrTp1Mult (3 / 2))

def atrScaleFactor : Option ℚ :=
  match atrTp1Distance t atr with
  | none => none
  | some target =>
      if t.atrLadderScale = false then none
      else if t.tpPips 1 ≤ 0 then none
      else some (target / (t.tpPips 1 * pipsToPriceXauusd))

/-- A dictionary of prices by level number; `sorted` walks it in their order. -/
abbrev TpDict := ℕ → Option ℚ

def TpDict.isEmpty (tps : TpDict) : Bool := tpLevels.all fun n => (tps n).isNone

def TpDict.sorted (tps : TpDict) : List (ℕ × ℚ) :=
  tpLevels.filterMap fun n => (tps n).map fun price => (n, price)

def atrScaledLadder (ref sign : ℚ) (tps : TpDict) : TpDict :=
  if tps.isEmpty || decide (atr ≤ 0) then tps
  else if t.useDynamicAtr = false then tps
  else
    match atrScaleFactor t atr with
    | none => Function.update tps 1 (some (ref + sign * (atrTp1Distance t atr).getD 0))
    | some factor => fun n => (tps n).map fun price => ref + sign * |price - ref| * factor

end TemplateLevels

section Live
variable (t : Template) (direction : Direction) (tick : Tick) (signalTps : List (Option ℚ))
  (telegramSource : Bool) (atr : Option ℚ)

/-- `_pips_ladder("tp")`. -/
def pipsLadder (ref sign : ℚ) : TpDict := fun n =>
  if n ∈ tpLevels ∧ 0 < t.tpPips n then some (ref + sign * (t.tpPips n * pipsToPriceXauusd))
  else none

/-- `[float(t) for t in signal_tps if t]`. -/
def msgTps : List ℚ := signalTps.filterMap fun p => p.bind fun x => if x = 0 then none else some x

/-- `enumerate(msg_tps[:MAX_TP_LEVELS], start=1)`. -/
def msgLadder : TpDict := fun n =>
  if n ∈ tpLevels then (msgTps signalTps)[n - 1]? else none

structure ResolvedTps where
  tps : TpDict
  pcts : Option (List ℚ)
  pendingPips : Option TpDict

def closeTable (useTgAnchor : Bool) (tps : TpDict) : List ℚ :=
  let table := tps.sorted.map fun p => t.tpPct p.1 / 100
  if useTgAnchor && !table.isEmpty then table.dropLast ++ [1] else table

def resolveTemplateTps : ResolvedTps :=
  let sign := direction.sign
  let ref := tick.fillPrice direction
  let eaBase := tick.closePrice direction
  let fromTg := !(msgTps signalTps).isEmpty && telegramSource
  let useTgAnchor := t.tpFromTelegram && fromTg
  let useTgPending := t.tpPenFromTelegram && fromTg
  let tps :=
    if useTgAnchor then msgLadder signalTps
    else atrScaledLadder t (atr.getD 0) ref sign (pipsLadder t ref sign)
  let table := closeTable t useTgAnchor tps
  { tps
    pcts := if table.any fun p => decide (0 < p) then some table else none
    pendingPips :=
      if useTgPending then
        if useTgAnchor then some fun _ => none
        else some fun n => (msgLadder signalTps n).map fun price =>
          |price - eaBase| / pipsToPriceXauusd
      else none }

/-- The prices with the fractions closed there. Without `pcts` the keys are not
sent, and the EA reads an absent key as 0. -/
def ResolvedTps.ladder (r : ResolvedTps) : List (ℚ × ℚ) :=
  (r.tps.sorted.map Prod.snd).zip (r.pcts.getD (r.tps.sorted.map fun _ => 0))

end Live

/-- `_ladder` of the backtest. -/
def ladder (t : Template) (entry sign atr : ℚ) : List (ℚ × ℚ) :=
  tpLevels.filterMap fun n =>
    let pips := t.tpPips n
    if pips ≤ 0 then none
    else
      let dist := pipsToPrice pips
      let dist :=
        match atrScaleFactor t atr with
        | some factor => dist * factor
        | none => if n = 1 then (atrTp1Distance t atr).getD dist else dist
      some (entry + sign * dist, t.tpPct n / 100)

/-- No level 1 is put at an ATR multiple in front of a ladder that has none,
and with no positive fraction at a level every fraction there is zero. -/
def Template.OneLadder (t : Template) (atr : ℚ) : Prop :=
  (t.useDynamicAtr = true → 0 < atr → t.tpPips 1 ≤ 0 → ∀ n ∈ tpLevels, t.tpPips n ≤ 0) ∧
    ((∃ n ∈ tpLevels, 0 < t.tpPips n ∧ 0 < t.tpPct n) ∨
      ∀ n ∈ tpLevels, 0 < t.tpPips n → t.tpPct n = 0)

instance (t : Template) (atr : ℚ) : Decidable (t.OneLadder atr) :=
  inferInstanceAs (Decidable (_ ∧ _))

/-- The levels a template defines. -/
def Template.levels (t : Template) : List ℕ := tpLevels.filter fun n => decide (0 < t.tpPips n)

/-- The price `_ladder` gives to a defined level. -/
def levelPrice (t : Template) (entry sign atr : ℚ) (n : ℕ) : ℚ :=
  entry + sign *
    match atrScaleFactor t atr with
    | some factor => pipsToPrice (t.tpPips n) * factor
    | none =>
        if n = 1 then (atrTp1Distance t atr).getD (pipsToPrice (t.tpPips n))
        else pipsToPrice (t.tpPips n)

section Ladders
variable {t : Template} {entry sign atr : ℚ}

theorem mem_levels {n : ℕ} : n ∈ t.levels ↔ n ∈ tpLevels ∧ 0 < t.tpPips n := by
  simp [Template.levels]

theorem filterMap_levels {β : Type} (f : ℕ → β) :
    (tpLevels.filterMap fun n => if 0 < t.tpPips n then some (f n) else none) =
      t.levels.map f := by
  have filtered := List.filterMap_filter (p := fun n => decide (0 < t.tpPips n))
    (f := fun n => some (f n)) (l := tpLevels)
  simp only [decide_eq_true_eq] at filtered
  rw [← filtered, List.filterMap_eq_map', Template.levels]

theorem ladder_eq_map :
    ladder t entry sign atr =
      t.levels.map fun n => (levelPrice t entry sign atr n, t.tpPct n / 100) := by
  rw [ladder, ← filterMap_levels]
  refine List.filterMap_congr fun n _ => ?_
  by_cases defined : 0 < t.tpPips n
  · rw [if_pos defined, if_neg (not_le.mpr defined)]
    rfl
  · rw [if_neg defined, if_pos (not_lt.mp defined)]

theorem sorted_eq_map {tps : TpDict} {price : ℕ → ℚ}
    (at_level : ∀ n ∈ tpLevels, tps n = if 0 < t.tpPips n then some (price n) else none) :
    tps.sorted = t.levels.map fun n => (n, price n) := by
  rw [TpDict.sorted, ← filterMap_levels]
  refine List.filterMap_congr fun n mem => ?_
  rw [at_level n mem]
  split_ifs <;> rfl

theorem pipsLadder_eq {ref : ℚ} {n : ℕ} (mem : n ∈ tpLevels) :
    pipsLadder t ref sign n =
      if 0 < t.tpPips n then some (ref + sign * (t.tpPips n * pipsToPriceXauusd)) else none := by
  simp [pipsLadder, mem]

theorem pipsToPrice_eq (pips : ℚ) : pipsToPrice pips = pips * pipsToPriceXauusd := by
  rw [pipsToPrice, pipsToPriceXauusd]
  ring

/-- The distance of a level from the entry is the one the pips state. -/
theorem abs_level_sub (direction : Direction) {ref dist : ℚ} (pos : 0 < dist) :
    |ref + direction.sign * dist - ref| = dist := by
  rw [add_sub_cancel_left, abs_mul, abs_of_pos pos]
  cases direction <;> simp [Direction.sign]

theorem atrTp1Distance_isSome (pos : 0 < atr) (dynamic : t.useDynamicAtr = true) :
    (atrTp1Distance t atr).isSome = true := by
  simp [atrTp1Distance, not_le.mpr pos, dynamic]

/-- Without a level 1 that only the ATR states, the live ladder has the levels
and the prices of `_ladder`. -/
theorem scaledLadder_eq (direction : Direction) (ref : ℚ)
    (shape : t.useDynamicAtr = true → 0 < atr → t.tpPips 1 ≤ 0 →
      ∀ n ∈ tpLevels, t.tpPips n ≤ 0) {n : ℕ} (mem : n ∈ tpLevels) :
    atrScaledLadder t atr ref direction.sign (pipsLadder t ref direction.sign) n =
      if 0 < t.tpPips n then some (levelPrice t ref direction.sign atr n) else none := by
  have plain : atrTp1Distance t atr = none →
      pipsLadder t ref direction.sign n =
        if 0 < t.tpPips n then some (levelPrice t ref direction.sign atr n) else none := by
    intro no_target
    rw [pipsLadder_eq mem, levelPrice, atrScaleFactor, no_target]
    simp only [Option.getD_none, ite_self, pipsToPrice_eq]
  rw [atrScaledLadder]
  by_cases idle : ((pipsLadder t ref direction.sign).isEmpty || decide (atr ≤ 0)) = true
  · rw [if_pos idle]
    rcases Bool.or_eq_true_iff.mp idle with empty | no_atr
    · have undefined : pipsLadder t ref direction.sign n = none :=
        Option.isNone_iff_eq_none.mp (List.all_eq_true.mp empty n mem)
      rw [undefined]
      rw [pipsLadder_eq mem] at undefined
      by_cases defined : 0 < t.tpPips n
      · rw [if_pos defined] at undefined
        cases undefined
      · rw [if_neg defined]
    · exact plain (if_pos (.inl (of_decide_eq_true no_atr)))
  rw [if_neg idle]
  by_cases static : t.useDynamicAtr = false
  · rw [if_pos static]
    exact plain (if_pos (.inr static))
  · rw [if_neg static]
    rw [Bool.or_eq_true, not_or] at idle
    have pos : 0 < atr := by simpa using idle.2
    have dynamic : t.useDynamicAtr = true := by simpa using static
    have first : 0 < t.tpPips 1 := by
      by_contra undefined
      refine idle.1 (List.all_eq_true.mpr fun m hm => ?_)
      have none_defined := shape dynamic pos (not_lt.mp undefined) m hm
      rw [pipsLadder_eq hm, if_neg (not_lt.mpr none_defined)]
      rfl
    cases scale : atrScaleFactor t atr with
    | none =>
        simp only [levelPrice, scale]
        by_cases one : n = 1
        · rw [one, Function.update_self, if_pos first, if_pos rfl]
          obtain ⟨target, stated⟩ := Option.isSome_iff_exists.mp
            (atrTp1Distance_isSome (t := t) pos dynamic)
          rw [stated]
          rfl
        · rw [Function.update_of_ne one, pipsLadder_eq mem, if_neg one, pipsToPrice_eq]
    | some factor =>
        simp only [levelPrice, scale]
        rw [pipsLadder_eq mem]
        split_ifs with defined
        · have dist : 0 < t.tpPips n * pipsToPriceXauusd :=
            mul_pos defined (by norm_num [pipsToPriceXauusd])
          rw [Option.map_some, abs_level_sub direction dist, pipsToPrice_eq, mul_assoc]
        · rfl

/-- A template that leaves TP1 out is given one by the live ladder. -/
theorem scaledLadder_undefined (direction : Direction) {ref : ℚ} (dynamic : t.useDynamicAtr = true)
    (pos : 0 < atr) (undefined : t.tpPips 1 ≤ 0) {m : ℕ} (mem : m ∈ tpLevels)
    (defined : 0 < t.tpPips m) :
    atrScaledLadder t atr ref direction.sign (pipsLadder t ref direction.sign) =
      Function.update (pipsLadder t ref direction.sign) 1
        (some (ref + direction.sign * (atrTp1Distance t atr).getD 0)) := by
  have scale : atrScaleFactor t atr = none := by
    rw [atrScaleFactor]
    split
    · rfl
    · split_ifs <;> rfl
  have busy : (pipsLadder t ref direction.sign).isEmpty = false := by
    refine List.all_eq_false.mpr ⟨m, mem, ?_⟩
    rw [pipsLadder_eq mem, if_pos defined]
    exact Bool.false_ne_true
  rw [atrScaledLadder, busy, Bool.false_or, decide_eq_false (not_le.mpr pos), if_neg (by decide),
    if_neg (by simp [dynamic]), scale]

/-- Where `_ladder` and the live ladder part in their levels: level 1. -/
theorem scaledLadder_extra (direction : Direction) {ref : ℚ} (dynamic : t.useDynamicAtr = true)
    (pos : 0 < atr) (undefined : t.tpPips 1 ≤ 0) {m : ℕ} (mem : m ∈ tpLevels)
    (defined : 0 < t.tpPips m) :
    (atrScaledLadder t atr ref direction.sign
      (pipsLadder t ref direction.sign)).sorted.length = t.levels.length + 1 := by
  have split : tpLevels = 1 :: List.range' 2 7 := rfl
  have rest : t.levels = (List.range' 2 7).filter fun n => decide (0 < t.tpPips n) := by
    rw [Template.levels, split, List.filter_cons, if_neg (by simpa using undefined)]
  rw [scaledLadder_undefined direction dynamic pos undefined mem defined, TpDict.sorted, split,
    List.filterMap_cons]
  simp only [Function.update_self, Option.map_some, List.length_cons, Nat.add_right_cancel_iff]
  rw [rest, List.length_filterMap_eq_countP, ← List.countP_eq_length_filter]
  refine List.countP_congr fun n hn => ?_
  have later : n ≠ 1 := by
    have := List.mem_range'_1.mp hn
    omega
  have known : n ∈ tpLevels := split ▸ List.mem_cons_of_mem 1 hn
  rw [Function.update_of_ne later, pipsLadder_eq known]
  by_cases h : 0 < t.tpPips n <;> simp [h]

section Closes
variable (t) (direction : Direction) (tick : Tick) (signalTps : List (Option ℚ))
  (telegramSource : Bool) (atr : Option ℚ)

theorem resolved_tps (own : t.tpFromTelegram = false) :
    (resolveTemplateTps t direction tick signalTps telegramSource atr).tps =
      atrScaledLadder t (atr.getD 0) (tick.fillPrice direction) direction.sign
        (pipsLadder t (tick.fillPrice direction) direction.sign) := by
  simp [resolveTemplateTps, own]

theorem resolved_pcts (own : t.tpFromTelegram = false) :
    (resolveTemplateTps t direction tick signalTps telegramSource atr).pcts =
      let table := (resolveTemplateTps t direction tick signalTps telegramSource atr).tps.sorted.map
        fun p => t.tpPct p.1 / 100
      if table.any fun p => decide (0 < p) then some table else none := by
  rw [resolved_tps t direction tick signalTps telegramSource atr own, resolveTemplateTps]
  dsimp only
  rw [own]
  rfl

theorem length_resolved_ladder (own : t.tpFromTelegram = false) :
    (resolveTemplateTps t direction tick signalTps telegramSource atr).ladder.length =
      (resolveTemplateTps t direction tick signalTps telegramSource atr).tps.sorted.length := by
  rw [ResolvedTps.ladder, resolved_pcts t direction tick signalTps telegramSource atr own]
  dsimp only
  split_ifs <;> simp

end Closes

/-- The fractions of a ladder whose levels are those of the template. -/
theorem resolved_ladder_eq {direction : Direction} {tick : Tick} {signalTps : List (Option ℚ)}
    {telegramSource : Bool} {atr : Option ℚ} (own : t.tpFromTelegram = false) {price : ℕ → ℚ}
    (levels : (resolveTemplateTps t direction tick signalTps telegramSource atr).tps.sorted =
      t.levels.map fun n => (n, price n)) :
    (resolveTemplateTps t direction tick signalTps telegramSource atr).ladder =
      t.levels.map fun n =>
        (price n, if ∃ n ∈ t.levels, 0 < t.tpPct n then t.tpPct n / 100 else 0) := by
  have positive : ((t.levels.map fun n => t.tpPct n / 100).any fun p => decide (0 < p)) = true ↔
      ∃ n ∈ t.levels, 0 < t.tpPct n := by
    simp [List.any_eq_true]
  rw [ResolvedTps.ladder, resolved_pcts t direction tick signalTps telegramSource atr own, levels]
  simp only [List.map_map, Function.comp_def]
  by_cases some_pct : ∃ n ∈ t.levels, 0 < t.tpPct n
  · rw [if_pos (positive.mpr some_pct)]
    simp only [if_pos some_pct, Option.getD_some, List.zip_map']
  · rw [if_neg fun h => some_pct (positive.mp h)]
    simp only [if_neg some_pct, Option.getD_none, List.zip_map']

end Ladders

theorem ladder_eq_live_iff (t : Template) (direction : Direction) (tick : Tick)
    (signalTps : List (Option ℚ)) (telegramSource : Bool) (atr : Option ℚ)
    (own : t.tpFromTelegram = false) :
    ladder t (tick.fillPrice direction) direction.sign (atr.getD 0) =
        (resolveTemplateTps t direction tick signalTps telegramSource atr).ladder ↔
      t.OneLadder (atr.getD 0) := by
  by_cases shape : t.useDynamicAtr = true → 0 < atr.getD 0 → t.tpPips 1 ≤ 0 →
      ∀ n ∈ tpLevels, t.tpPips n ≤ 0
  · have levels := sorted_eq_map (t := t) fun n mem =>
      scaledLadder_eq direction (tick.fillPrice direction) shape mem
    rw [← resolved_tps t direction tick signalTps telegramSource atr own] at levels
    rw [ladder_eq_map, resolved_ladder_eq own levels, List.map_inj_left]
    simp only [Prod.mk.injEq, true_and]
    constructor
    · intro same
      refine ⟨shape, ?_⟩
      by_cases some_pct : ∃ n ∈ t.levels, 0 < t.tpPct n
      · obtain ⟨n, mem, pct⟩ := some_pct
        exact .inl ⟨n, (mem_levels.mp mem).1, (mem_levels.mp mem).2, pct⟩
      · refine .inr fun n mem defined => ?_
        have zero := same n (mem_levels.mpr ⟨mem, defined⟩)
        rw [if_neg some_pct] at zero
        linarith
    · rintro ⟨-, ⟨n, mem, defined, pct⟩ | zero⟩ m hm
      · rw [if_pos ⟨n, mem_levels.mpr ⟨mem, defined⟩, pct⟩]
      · rw [zero m (mem_levels.mp hm).1 (mem_levels.mp hm).2]
        simp
  · refine iff_of_false (fun same => ?_) fun one => shape one.1
    push Not at shape
    obtain ⟨dynamic, pos, undefined, m, mem, defined⟩ := shape
    have lengths := congrArg List.length same
    rw [length_resolved_ladder t direction tick signalTps telegramSource atr own,
      resolved_tps t direction tick signalTps telegramSource atr own,
      scaledLadder_extra direction dynamic pos undefined mem defined, ladder_eq_map,
      List.length_map] at lengths
    omega

/-- A ladder whose first level is the second one, sized by a dynamic ATR. -/
def Template.fromSecond : Template :=
  { Template.defaults with
    useDynamicAtr := true
    tpPips := fun n => if n = 2 then 50 else 0
    tpPct := fun n => if n = 2 then 100 else 0 }

theorem ladder_ne_live :
    ¬ ∀ (t : Template) (direction : Direction) (tick : Tick) (signalTps : List (Option ℚ))
      (telegramSource : Bool) (atr : Option ℚ), t.tpFromTelegram = false →
        ladder t (tick.fillPrice direction) direction.sign (atr.getD 0) =
          (resolveTemplateTps t direction tick signalTps telegramSource atr).ladder := fun all =>
  absurd (all Template.fromSecond .buy ⟨4000, 4000⟩ [] false (some 3) rfl) (by decide +kernel)

theorem ladder_eq_live_scaled :
    ladder { Template.fromSecond with tpPips := fun n => if n ≤ 2 then 20 * n else 0 } 4000 1 3 =
      (resolveTemplateTps
        { Template.fromSecond with tpPips := fun n => if n ≤ 2 then 20 * n else 0 } .buy
        ⟨3999, 4000⟩ [some 4003] true (some 3)).ladder :=
  (ladder_eq_live_iff _ .buy ⟨3999, 4000⟩ [some 4003] true (some 3) rfl).mpr (by decide +kernel)

end Backtest
end Forex
