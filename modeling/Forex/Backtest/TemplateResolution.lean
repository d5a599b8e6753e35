import Forex.Backtest.TemplateLadder
import Forex.Broker.Sides
import Mathlib.Tactic.LinearCombination

/-!
What `resolve_template_tps` hands to the EA for each of its two ladders: the fractions that
go with the anchor levels, and the pips that `HandleOpenTemplateGrid` turns back into the
targets of the pending legs.
-/

namespace Forex
namespace Backtest
open Support

/-- The target of a pending leg in `HandleOpenTemplateGrid` under the unified anchor: pips
above zero are measured from the side of the book that the grid is staged from, and else
the leg has the absolute price of the wire. -/
def ResolvedTps.pendingTp (r : ResolvedTps) (direction : Direction) (tick : Tick)
    (penPips : TpDict) (n : ℕ) : Option ℚ :=
  let pips := (penPips n).getD 0
  if 0 < pips then some (tick.closePrice direction + direction.sign * pipsToPrice pips)
  else r.tps n

section Resolution
variable (t : Template) (direction : Direction) (tick : Tick) (signalTps : List (Option ℚ))
  (telegramSource : Bool) (atr : Option ℚ)

/-- `from_tg`: the message states levels, and it is one of a Telegram channel. -/
def fromTg : Bool := !(msgTps signalTps).isEmpty && telegramSource

def Template.usesTgAnchor : Bool := t.tpFromTelegram && fromTg signalTps telegramSource

def Template.usesTgPending : Bool := t.tpPenFromTelegram && fromTg signalTps telegramSource

/-- A level with pips of its own, or the first one where the ATR sizes it. -/
def Template.HasLevel (n : ℕ) : Prop :=
  0 < t.tpPips n ∨ n = 1 ∧ t.useDynamicAtr = true ∧ 0 < atr.getD 0 ∧ t.levels ≠ []

instance (n : ℕ) : Decidable (t.HasLevel atr n) := inferInstanceAs (Decidable (_ ∨ _))

/-- The numbers of the levels of the anchor ladder. -/
def Template.anchorLevels : List ℕ :=
  if t.usesTgAnchor signalTps telegramSource then
    tpLevels.filter fun n => n ≤ (msgTps signalTps).length
  else tpLevels.filter fun n => t.HasLevel atr n

/-- A fraction for each level, its own except that the last of a message closes what is
left. -/
structure FractionsFit (r : ResolvedTps) (table : List ℚ) : Prop where
  bounded : ∀ p ∈ table, 0 ≤ p ∧ p ≤ 1
  aligned : List.Forall₂ (fun level fraction => fraction = t.tpPct level.1 / 100 ∨
    t.usesTgAnchor signalTps telegramSource = true ∧ r.tps.sorted.getLast? = some level)
      r.tps.sorted table

/-- Every target of the message comes back as that of its pending leg, and pips stand for
a distance, as the EA takes zero for none. -/
structure PendingStated (r : ResolvedTps) (penPips : TpDict) : Prop where
  level : ∀ n price, msgLadder signalTps n = some price →
    r.pendingTp direction tick penPips n = some price
  measured : ∀ n pips, penPips n = some pips → 0 < pips

structure LaddersResolved (r : ResolvedTps) : Prop where
  fractions : ∀ table, r.pcts = some table → FractionsFit t signalTps telegramSource r table
  remainder : t.usesTgAnchor signalTps telegramSource = true →
    ∃ table, r.pcts = some table ∧ table.getLast? = some 1
  pending : ∀ penPips, r.pendingPips = some penPips →
    PendingStated direction tick signalTps r penPips

/-- A percentage of a level. -/
def Template.PctAt (n : ℕ) : Prop := 0 ≤ t.tpPct n ∧ t.tpPct n ≤ 100

instance (n : ℕ) : Decidable (t.PctAt n) := inferInstanceAs (Decidable (_ ∧ _))

/-- The percentages that are sent are percentages; the one of the last level of a message
is not, and without a positive one none is. -/
def Template.PctsFit : Prop :=
  if t.usesTgAnchor signalTps telegramSource then
    ∀ n ∈ (t.anchorLevels signalTps telegramSource atr).dropLast, t.PctAt n
  else
    (∃ n ∈ t.anchorLevels signalTps telegramSource atr, 0 < t.tpPct n) →
      ∀ n ∈ t.anchorLevels signalTps telegramSource atr, t.PctAt n

/-- The targets of the message that are converted lie on the side of the profit. -/
def Template.TargetsAhead : Prop :=
  t.usesTgPending signalTps telegramSource = true →
    t.usesTgAnchor signalTps telegramSource = false →
      ∀ price ∈ (msgTps signalTps).take 8, 0 < direction.sign * (price - tick.closePrice direction)

end Resolution

section Sorted
variable {tps : TpDict}

theorem sorted_keys (tps : TpDict) :
    tps.sorted.map Prod.fst = tpLevels.filter fun n => (tps n).isSome := by
  rw [TpDict.sorted]
  induction tpLevels with
  | nil => rfl
  | cons n levels ih =>
      cases at_level : tps n <;> simp [at_level, ih]

theorem sorted_keys_of_iff {has : ℕ → Prop} [DecidablePred has]
    (same : ∀ n ∈ tpLevels, (tps n).isSome = true ↔ has n) :
    tps.sorted.map Prod.fst = tpLevels.filter fun n => has n := by
  rw [sorted_keys]
  refine List.filter_congr fun n mem => ?_
  rw [Bool.eq_iff_iff, decide_eq_true_iff, same n mem]

end Sorted

section Anchor
variable {t : Template} {direction : Direction} {tick : Tick} {signalTps : List (Option ℚ)}
  {telegramSource : Bool} {atr : Option ℚ}

theorem pos_of_mem_tpLevels {n : ℕ} (mem : n ∈ tpLevels) : 1 ≤ n ∧ n ≤ 8 := by
  have bounds := List.mem_range'_1.mp mem
  omega

/-- The rescaled ladder has the levels of the pips, and a first one that the ATR sizes. -/
theorem scaledLadder_isSome {ref : ℚ} {n : ℕ} (mem : n ∈ tpLevels) :
    (atrScaledLadder t (atr.getD 0) ref direction.sign
      (pipsLadder t ref direction.sign) n).isSome = true ↔ t.HasLevel atr n := by
  have own : (pipsLadder t ref direction.sign n).isSome = true ↔ 0 < t.tpPips n := by
    rw [pipsLadder_eq mem]
    split_ifs with defined <;> simp [defined]
  by_cases extra : t.useDynamicAtr = true ∧ 0 < atr.getD 0 ∧ t.tpPips 1 ≤ 0 ∧ t.levels ≠ []
  · obtain ⟨dynamic, pos, undefined, some_level⟩ := extra
    obtain ⟨m, level⟩ := List.exists_mem_of_ne_nil _ some_level
    rw [scaledLadder_undefined direction dynamic pos undefined (mem_levels.mp level).1
      (mem_levels.mp level).2, Template.HasLevel]
    by_cases one : n = 1
    · rw [one, Function.update_self]
      exact iff_of_true rfl (.inr ⟨rfl, dynamic, pos, some_level⟩)
    · rw [Function.update_of_ne one, own, or_iff_left fun first => one first.1]
  · have shape : t.useDynamicAtr = true → 0 < atr.getD 0 → t.tpPips 1 ≤ 0 →
        ∀ n ∈ tpLevels, t.tpPips n ≤ 0 := by
      intro dynamic pos undefined m known
      by_contra defined
      refine extra ⟨dynamic, pos, undefined, List.ne_nil_of_mem (a := m) ?_⟩
      exact mem_levels.mpr ⟨known, not_le.mp defined⟩
    rw [scaledLadder_eq direction ref shape mem, Template.HasLevel]
    constructor
    · split_ifs with defined
      · exact fun _ => .inl defined
      · exact fun none => nomatch none
    · rintro (defined | ⟨rfl, dynamic, pos, some_level⟩)
      · rw [if_pos defined]
        rfl
      · have defined : 0 < t.tpPips 1 := by
          by_contra undefined
          exact extra ⟨dynamic, pos, not_lt.mp undefined, some_level⟩
        rw [if_pos defined]
        rfl

theorem msgLadder_isSome {n : ℕ} (mem : n ∈ tpLevels) :
    (msgLadder signalTps n).isSome = true ↔ n ≤ (msgTps signalTps).length := by
  have bounds := pos_of_mem_tpLevels mem
  rw [msgLadder, if_pos mem, Option.isSome_iff_exists]
  constructor
  · rintro ⟨price, at_level⟩
    have inside := (List.getElem?_eq_some_iff.mp at_level).1
    omega
  · intro stated
    exact ⟨_, List.getElem?_eq_getElem (by omega)⟩

/-- The targets of the message with the numbers they have as levels. -/
theorem mem_take_iff {price : ℚ} :
    price ∈ (msgTps signalTps).take 8 ↔ ∃ n, msgLadder signalTps n = some price := by
  rw [List.mem_iff_getElem?]
  constructor
  · rintro ⟨i, at_level⟩
    rw [List.getElem?_take] at at_level
    split_ifs at at_level with short
    have known : i + 1 ∈ tpLevels := List.mem_range'_1.mpr (by omega)
    refine ⟨i + 1, ?_⟩
    rw [msgLadder, if_pos known, Nat.add_sub_cancel, at_level]
  · rintro ⟨n, at_level⟩
    rw [msgLadder] at at_level
    split_ifs at at_level with known
    have bounds := pos_of_mem_tpLevels known
    refine ⟨n - 1, ?_⟩
    rw [List.getElem?_take, if_pos (by omega), at_level]

variable (t direction tick signalTps telegramSource atr) in
/-- The numbers of the resolved levels, from the template and the message alone. -/
theorem resolved_keys :
    (resolveTemplateTps t direction tick signalTps telegramSource atr).tps.sorted.map Prod.fst =
      t.anchorLevels signalTps telegramSource atr := by
  rw [Template.anchorLevels]
  cases anchor : t.usesTgAnchor signalTps telegramSource with
  | true =>
      have message : (resolveTemplateTps t direction tick signalTps telegramSource atr).tps =
          msgLadder signalTps := if_pos anchor
      rw [message, if_pos rfl]
      exact sorted_keys_of_iff fun n mem => msgLadder_isSome mem
  | false =>
      have own : (resolveTemplateTps t direction tick signalTps telegramSource atr).tps =
          atrScaledLadder t (atr.getD 0) (tick.fillPrice direction) direction.sign
            (pipsLadder t (tick.fillPrice direction) direction.sign) :=
        if_neg (Bool.eq_false_iff.mp anchor)
      rw [own, if_neg Bool.false_ne_true]
      exact sorted_keys_of_iff fun n mem => scaledLadder_isSome mem

theorem fraction_bounded {n : ℕ} :
    (0 ≤ t.tpPct n / 100 ∧ t.tpPct n / 100 ≤ 1) ↔ t.PctAt n := by
  rw [Template.PctAt, div_le_one (by norm_num)]
  exact and_congr_left fun _ => ⟨fun nonneg => by linarith, fun nonneg => by positivity⟩

section Message
variable (anchor : t.usesTgAnchor signalTps telegramSource = true)
include anchor

theorem message_levels_ne_nil : t.anchorLevels signalTps telegramSource atr ≠ [] := by
  have stated := (Bool.and_eq_true_iff.mp (Bool.and_eq_true_iff.mp anchor).2).1
  have some_target : msgTps signalTps ≠ [] := by
    intro empty
    rw [empty] at stated
    nomatch stated
  have long := List.length_pos_iff.mpr some_target
  refine List.ne_nil_of_mem (a := 1) ?_
  rw [Template.anchorLevels, if_pos anchor, List.mem_filter, decide_eq_true_iff]
  exact ⟨List.mem_range'_1.mpr (by omega), long⟩

/-- The fractions of a message: those of the template, and the rest at the last level. -/
theorem message_pcts :
    (resolveTemplateTps t direction tick signalTps telegramSource atr).pcts =
      some (((t.anchorLevels signalTps telegramSource atr).map
        fun n => t.tpPct n / 100).dropLast ++ [1]) := by
  have keys := resolved_keys t direction tick signalTps telegramSource atr
  have table : closeTable t true
      (resolveTemplateTps t direction tick signalTps telegramSource atr).tps =
        ((t.anchorLevels signalTps telegramSource atr).map
          fun n => t.tpPct n / 100).dropLast ++ [1] := by
    have map_keys : ∀ sorted : List (ℕ × ℚ), sorted.map (fun p => t.tpPct p.1 / 100) =
        (sorted.map Prod.fst).map fun n => t.tpPct n / 100 := by
      intro sorted
      rw [List.map_map]
      rfl
    rw [closeTable, map_keys, keys, if_pos]
    simp [message_levels_ne_nil anchor]
  have pcts : (resolveTemplateTps t direction tick signalTps telegramSource atr).pcts =
      let table := closeTable t (t.usesTgAnchor signalTps telegramSource)
        (resolveTemplateTps t direction tick signalTps telegramSource atr).tps
      if table.any fun p => decide (0 < p) then some table else none := rfl
  rw [pcts, anchor, table]
  dsimp only
  rw [if_pos]
  simp

variable (direction tick) in
theorem message_fractions_iff :
    (∀ table, (resolveTemplateTps t direction tick signalTps telegramSource atr).pcts = some table →
        FractionsFit t signalTps telegramSource
          (resolveTemplateTps t direction tick signalTps telegramSource atr) table) ↔
      ∀ n ∈ (t.anchorLevels signalTps telegramSource atr).dropLast, t.PctAt n := by
  have keys := resolved_keys t direction tick signalTps telegramSource atr
  rw [message_pcts anchor, ← List.map_dropLast]
  constructor
  · intro fit n mem
    refine fraction_bounded.mp ((fit _ rfl).bounded _ (List.mem_append_left _ ?_))
    exact List.mem_map_of_mem mem
  · rintro bounded table fractions
    cases fractions
    refine ⟨fun p mem => ?_, ?_⟩
    · rcases List.mem_append.mp mem with own | last
      · obtain ⟨n, level, rfl⟩ := List.mem_map.mp own
        exact fraction_bounded.mpr (bounded n level)
      · rw [List.mem_singleton.mp last]
        exact ⟨zero_le_one, le_rfl⟩
    · have some_level : (resolveTemplateTps t direction tick signalTps telegramSource
          atr).tps.sorted ≠ [] := by
        intro empty
        rw [empty] at keys
        exact message_levels_ne_nil anchor keys.symm
      rw [← keys, ← List.map_dropLast, List.map_map]
      generalize (resolveTemplateTps t direction tick signalTps telegramSource
        atr).tps.sorted = levels at some_level ⊢
      conv => arg 2; rw [← List.dropLast_append_getLast some_level]
      have last := List.getLast?_eq_some_getLast some_level
      refine List.rel_append ?_ (.cons (.inr ⟨anchor, last⟩) .nil)
      rw [List.forall₂_map_right_iff]
      exact List.forall₂_same.mpr fun level _ => .inl rfl

end Message

variable (direction tick) in
theorem template_fractions_iff (own : t.usesTgAnchor signalTps telegramSource = false) :
    (∀ table, (resolveTemplateTps t direction tick signalTps telegramSource atr).pcts = some table →
        FractionsFit t signalTps telegramSource
          (resolveTemplateTps t direction tick signalTps telegramSource atr) table) ↔
      ((∃ n ∈ t.anchorLevels signalTps telegramSource atr, 0 < t.tpPct n) →
        ∀ n ∈ t.anchorLevels signalTps telegramSource atr, t.PctAt n) := by
  have keys := resolved_keys t direction tick signalTps telegramSource atr
  have pcts : (resolveTemplateTps t direction tick signalTps telegramSource atr).pcts =
      let table := closeTable t (t.usesTgAnchor signalTps telegramSource)
        (resolveTemplateTps t direction tick signalTps telegramSource atr).tps
      if table.any fun p => decide (0 < p) then some table else none := rfl
  rw [pcts, own, closeTable, Bool.false_and, if_neg Bool.false_ne_true, ← keys]
  generalize hr : resolveTemplateTps t direction tick signalTps telegramSource atr = r
  have positive : (r.tps.sorted.map fun p => t.tpPct p.1 / 100).any (fun p => decide (0 < p)) =
      true ↔ ∃ n ∈ r.tps.sorted.map Prod.fst, 0 < t.tpPct n := by
    simp [List.any_eq_true]
  dsimp only
  by_cases some_pct : ∃ n ∈ r.tps.sorted.map Prod.fst, 0 < t.tpPct n
  · rw [if_pos (positive.mpr some_pct)]
    constructor
    · intro fit _ n mem
      obtain ⟨level, stated, rfl⟩ := List.mem_map.mp mem
      exact fraction_bounded.mp ((fit _ rfl).bounded _ (List.mem_map_of_mem stated))
    · rintro bounded table fractions
      cases fractions
      refine ⟨fun p mem => ?_, ?_⟩
      · obtain ⟨level, stated, rfl⟩ := List.mem_map.mp mem
        exact fraction_bounded.mpr (bounded some_pct _ (List.mem_map_of_mem stated))
      · rw [List.forall₂_map_right_iff]
        exact List.forall₂_same.mpr fun level _ => .inl rfl
  · rw [if_neg fun h => some_pct (positive.mp h)]
    exact iff_of_true (fun table none => nomatch none) fun some_level => absurd some_level some_pct

theorem message_pending (anchor : t.usesTgAnchor signalTps telegramSource = true)
    {penPips : TpDict}
    (pen : (resolveTemplateTps t direction tick signalTps telegramSource atr).pendingPips =
      some penPips) :
    PendingStated direction tick signalTps
      (resolveTemplateTps t direction tick signalTps telegramSource atr) penPips := by
  have message : (resolveTemplateTps t direction tick signalTps telegramSource atr).tps =
      msgLadder signalTps := if_pos anchor
  have absolute : (resolveTemplateTps t direction tick signalTps telegramSource atr).pendingPips =
      if t.usesTgPending signalTps telegramSource then some fun _ => none else none := by
    change (if _ then (if t.usesTgAnchor signalTps telegramSource then _ else _) else _) = _
    rw [if_pos anchor]
    rfl
  rw [absolute] at pen
  split_ifs at pen
  cases pen
  refine ⟨fun n price stated => ?_, fun n pips none => nomatch none⟩
  rw [ResolvedTps.pendingTp, message]
  exact stated

/-- Pips measured without a side are taken to the side of the profit. -/
theorem measured_iff {base price : ℚ} :
    (0 < |price - base| / pipsToPriceXauusd ∧
        base + direction.sign * pipsToPrice (|price - base| / pipsToPriceXauusd) = price) ↔
      0 < direction.sign * (price - base) := by
  have back : pipsToPrice (|price - base| / pipsToPriceXauusd) = |price - base| := by
    rw [pipsToPrice_eq]
    exact div_mul_cancel₀ _ (by norm_num [pipsToPriceXauusd])
  have square := direction.sign_mul_sign
  have size := direction.abs_sign_mul (price - base)
  rw [back, div_pos_iff_of_pos_right (by norm_num [pipsToPriceXauusd]), ← size]
  constructor
  · rintro ⟨pos, same⟩
    have side : direction.sign * (price - base) = |direction.sign * (price - base)| := by
      linear_combination (|direction.sign * (price - base)|) * square - direction.sign * same
    rwa [side]
  · intro ahead
    refine ⟨abs_pos.mpr (ne_of_gt ahead), ?_⟩
    rw [abs_of_pos ahead]
    linear_combination (price - base) * square

variable (atr) in
theorem template_pending_iff (own : t.usesTgAnchor signalTps telegramSource = false) :
    (∀ penPips, (resolveTemplateTps t direction tick signalTps telegramSource atr).pendingPips =
        some penPips →
      PendingStated direction tick signalTps
        (resolveTemplateTps t direction tick signalTps telegramSource atr) penPips) ↔
      (t.usesTgPending signalTps telegramSource = true →
        ∀ price ∈ (msgTps signalTps).take 8,
          0 < direction.sign * (price - tick.closePrice direction)) := by
  have converted : (resolveTemplateTps t direction tick signalTps telegramSource atr).pendingPips =
      if t.usesTgPending signalTps telegramSource then
        some fun n => (msgLadder signalTps n).map fun price =>
          |price - tick.closePrice direction| / pipsToPriceXauusd
      else none := by
    change (if _ then (if t.usesTgAnchor signalTps telegramSource then _ else _) else _) = _
    rw [if_neg (Bool.eq_false_iff.mp own)]
    rfl
  rw [converted]
  cases pending : t.usesTgPending signalTps telegramSource with
  | false =>
      exact iff_of_true (fun penPips none => nomatch none) fun no => absurd no Bool.false_ne_true
  | true =>
      rw [if_pos rfl]
      constructor
      · intro stated _ price mem
        obtain ⟨n, at_level⟩ := mem_take_iff.mp mem
        obtain ⟨level, measured⟩ := stated _ rfl
        have pos := measured n _ (by rw [at_level]; rfl)
        have same := level n price at_level
        rw [ResolvedTps.pendingTp, at_level, Option.map_some, Option.getD_some, if_pos pos] at same
        exact measured_iff.mp ⟨pos, Option.some.inj same⟩
      · rintro ahead penPips pen
        cases pen
        constructor
        · intro n price at_level
          obtain ⟨pos, same⟩ :=
            measured_iff.mpr (ahead rfl price (mem_take_iff.mpr ⟨n, at_level⟩))
          rw [ResolvedTps.pendingTp, at_level, Option.map_some, Option.getD_some, if_pos pos, same]
        · intro n pips at_level
          obtain ⟨price, stated, rfl⟩ := Option.map_eq_some_iff.mp at_level
          exact (measured_iff.mpr (ahead rfl price (mem_take_iff.mpr ⟨n, stated⟩))).1

end Anchor

theorem ladders_resolved_iff (t : Template) (direction : Direction) (tick : Tick)
    (signalTps : List (Option ℚ)) (telegramSource : Bool) (atr : Option ℚ) :
    LaddersResolved t direction tick signalTps telegramSource
        (resolveTemplateTps t direction tick signalTps telegramSource atr) ↔
      t.PctsFit signalTps telegramSource atr ∧
        t.TargetsAhead direction tick signalTps telegramSource := by
  rw [Template.PctsFit, Template.TargetsAhead]
  cases anchor : t.usesTgAnchor signalTps telegramSource with
  | true =>
      rw [if_pos rfl, and_iff_left fun _ no => Bool.noConfusion no,
        ← message_fractions_iff direction tick anchor]
      constructor
      · exact LaddersResolved.fractions
      · intro fractions
        exact ⟨fractions, fun _ => ⟨_, message_pcts anchor, List.getLast?_concat⟩,
          fun penPips pen => message_pending anchor pen⟩
  | false =>
      rw [if_neg Bool.false_ne_true, imp_iff_right rfl,
        ← template_fractions_iff direction tick anchor, ← template_pending_iff atr anchor]
      constructor
      · exact fun resolved => ⟨resolved.fractions, resolved.pending⟩
      · rintro ⟨fractions, pending⟩
        exact ⟨fractions, fun message => absurd (anchor.symm.trans message) Bool.false_ne_true,
          pending⟩

/-- A pending leg of a buy whose first target the market has passed. -/
theorem passed_target_mirrored :
    ¬ ∀ (t : Template) (direction : Direction) (tick : Tick) (signalTps : List (Option ℚ))
      (telegramSource : Bool) (atr : Option ℚ),
        LaddersResolved t direction tick signalTps telegramSource
          (resolveTemplateTps t direction tick signalTps telegramSource atr) := by
  intro all
  have resolved := all
    { Template.defaults with
      tpPips := fun n => if n = 1 then 50 else 0
      tpPenFromTelegram := true }
    .buy ⟨2000, 2001⟩ [some 1998, some 2010] true none
  have level := (resolved.pending _ rfl).level 1 1998 rfl
  exact absurd level (by decide +kernel)

end Backtest
end Forex
