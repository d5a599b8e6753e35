import Forex.Channels.Performance

/-!
Two spellings of one channel. The lot multiplier, the pause and the strategy are looked
up by the canonical name; the trust verdict is looked up as the source is spelled, and
the open trades of a channel that the alias table does not have are counted under its
canonical name and under the spelling asked for.
-/

namespace Forex
open Support

namespace ChannelAliases
variable (A : ChannelAliases)

theorem get_isSome_iff (name : String) :
    (A.get name).isSome = true ↔ name ∈ A.map Prod.fst := by
  induction A with
  | nil => simp
  | cons e A ih =>
      rw [get_cons, List.map_cons, List.mem_cons]
      by_cases same : e.1 = name
      · simp [same]
      · rw [if_neg same, ih]
        simp [Ne.symm same]

end ChannelAliases

namespace ChannelDesk
variable (s : ChannelDesk)

/-- The canonical names of the two are canonical, and every reader answers the same. -/
structure SpellingFree (a b : String) : Prop where
  first : s.canonical (s.canonical a) = s.canonical a
  second : s.canonical (s.canonical b) = s.canonical b
  lotMult : s.getChannelLotMult a = s.getChannelLotMult b
  strategy : s.getChannelStrategyOverride a = s.getChannelStrategyOverride b
  trust : s.getChannelTrust a = s.getChannelTrust b
  openTrades : s.getOpenTradeCountForChannel a = s.getOpenTradeCountForChannel b

/-- The row says what is said where there is no row. -/
def Unset : Option PerformanceRow → Prop
  | none => True
  | some row =>
      (row.lotMult = 0 ∨ row.lotMult = 1) ∧ row.paused = false ∧ row.autoStrategy = false ∧
        row.strategyOverride = none

/-- One wrapper at most, unless the alias table knows the rest. -/
def UnwrapsOnce (source : String) : Prop :=
  s.aliases.entries.Lists source ∨ isWrapped (bareName source).toList = false

/-- A trusted row is stored under the source as it is spelled, or under that in the
wrapper. -/
def HasTrustedRow (source : String) : Prop :=
  source ≠ "" ∧ (s.trustsRow source = true ∨ s.trustsRow (wrapped source) = true)

/-- The open trades stamped with a source that is not a canonical name. -/
def openElsewhere (source : String) : ℕ :=
  if source = s.canonical source then 0 else s.openStamped [source]

/-- When it does not matter which of two spellings is used. -/
structure Spelled (a b : String) : Prop where
  first : s.UnwrapsOnce a
  second : s.UnwrapsOnce b
  nonempty : (a = "" ↔ b = "") ∨ Unset (s.rowOf a)
  trust : s.HasTrustedRow a ↔ s.HasTrustedRow b
  openTrades : s.aliases.entries.Lists a ∨ s.openElsewhere a = s.openElsewhere b

variable {s} {a b : String}

theorem rowOf_congr (same : s.canonical a = s.canonical b) : s.rowOf a = s.rowOf b := by
  rw [rowOf, rowOf, same]

theorem unset_iff (row : Option PerformanceRow) :
    Unset row ↔ lotMultOf row = (1, false) ∧ strategyOf row = none := by
  cases row with
  | none => simp [Unset, lotMultOf, strategyOf]
  | some row =>
      have lot : (if row.lotMult = 0 then 1 else row.lotMult) = 1 ↔
          row.lotMult = 0 ∨ row.lotMult = 1 := by
        split <;> simp_all
      have strategy : (if row.autoStrategy then some "auto" else row.strategyOverride) = none ↔
          row.autoStrategy = false ∧ row.strategyOverride = none := by
        cases row.autoStrategy <;> simp
      rw [Unset, lotMultOf, strategyOf, Prod.mk.injEq, lot, strategy, and_assoc]

theorem settings_agree_iff (same : s.canonical a = s.canonical b) :
    (s.getChannelLotMult a = s.getChannelLotMult b ∧
        s.getChannelStrategyOverride a = s.getChannelStrategyOverride b) ↔
      (a = "" ↔ b = "") ∨ Unset (s.rowOf a) := by
  rw [getChannelLotMult, getChannelLotMult, getChannelStrategyOverride,
    getChannelStrategyOverride, ← rowOf_congr same]
  by_cases noA : a = ""
  · by_cases noB : b = ""
    · simp [noA, noB]
    · rw [if_pos noA, if_pos noA, if_neg noB, if_neg noB, eq_comm, @eq_comm _ none, ← unset_iff]
      simp [noA, noB]
  · by_cases noB : b = ""
    · rw [if_neg noA, if_neg noA, if_pos noB, if_pos noB, ← unset_iff]
      simp [noA, noB]
    · simp [noA, noB]

theorem getChannelTrust_iff : s.getChannelTrust a = true ↔ s.HasTrustedRow a := by
  rw [getChannelTrust, HasTrustedRow, Bool.and_eq_true, decide_eq_true_iff]
  simp

theorem trust_agrees_iff :
    s.getChannelTrust a = s.getChannelTrust b ↔ (s.HasTrustedRow a ↔ s.HasTrustedRow b) := by
  rw [← getChannelTrust_iff, ← getChannelTrust_iff, Bool.eq_iff_iff]

/-- The alias table leads some name to a canonical name exactly when it lists the source. -/
theorem variants_eq_nil_iff :
    s.variants (s.canonical a) = [] ↔ ¬ s.aliases.entries.Lists a := by
  rw [variants, List.filter_eq_nil_iff]
  constructor
  · intro none listed
    have leads := get_canonical_of_lists s.aliases.settled listed
    have key := (s.aliases.entries.get_isSome_iff _).mp (Option.isSome_iff_exists.mpr ⟨_, leads⟩)
    exact none _ key (decide_eq_true leads)
  · intro unlisted name _ leads
    have known := s.aliases.settled _ _ (of_decide_eq_true leads)
    refine unlisted ((get_canonical_isSome_iff s.aliases.settled).mp ?_)
    exact Option.isSome_iff_exists.mpr ⟨_, known⟩

theorem openStamped_pair (canon source : String) :
    s.openStamped [canon, source] =
      s.openStamped [canon] + if source = canon then 0 else s.openStamped [source] := by
  rw [openStamped, openStamped, openStamped]
  induction s.trades with
  | nil => simp
  | cons t trades ih =>
      rw [List.countP_cons, List.countP_cons, List.countP_cons, ih]
      cases open_ : t.isOpen with
      | false => simp
      | true =>
          cases stamp : t.tgSource with
          | none => simp
          | some name =>
              by_cases here : source = canon
              · simp [here]
              · by_cases first : name = canon
                · simp [here, first, Ne.symm here]
                  omega
                · by_cases second : name = source
                  · simp [here, second]
                    omega
                  · simp [here, first, second]

theorem openTrades_agree_iff (same : s.canonical a = s.canonical b) :
    s.getOpenTradeCountForChannel a = s.getOpenTradeCountForChannel b ↔
      s.aliases.entries.Lists a ∨ s.openElsewhere a = s.openElsewhere b := by
  rw [getOpenTradeCountForChannel, getOpenTradeCountForChannel, openElsewhere, openElsewhere,
    ← same]
  cases names : s.variants (s.canonical a) with
  | nil =>
      dsimp only
      rw [or_iff_right (variants_eq_nil_iff.mp names), openStamped_pair, openStamped_pair,
        Nat.add_left_cancel_iff]
  | cons name rest =>
      refine iff_of_true rfl (.inl ?_)
      by_contra unlisted
      exact nomatch names.symm.trans (variants_eq_nil_iff.mpr unlisted)

/-- Whatever the tables hold: two spellings of one channel are read alike exactly when
nothing that is stored tells them apart. -/
theorem spelling_free_iff (s : ChannelDesk) {a b : String}
    (same : s.canonical a = s.canonical b) : s.SpellingFree a b ↔ s.Spelled a b := by
  have once : ∀ source, s.canonical (s.canonical source) = s.canonical source ↔
      s.UnwrapsOnce source := fun source => canonical_idempotent_iff s.aliases.settled source
  constructor
  · intro free
    exact ⟨(once a).mp free.first, (once b).mp free.second,
      (settings_agree_iff same).mp ⟨free.lotMult, free.strategy⟩, trust_agrees_iff.mp free.trust,
      (openTrades_agree_iff same).mp free.openTrades⟩
  · intro spelled
    have settings := (settings_agree_iff same).mpr spelled.nonempty
    exact ⟨(once a).mpr spelled.first, (once b).mpr spelled.second, settings.1, settings.2,
      trust_agrees_iff.mpr spelled.trust, (openTrades_agree_iff same).mpr spelled.openTrades⟩

/-- Twenty decided trades of a profitable channel. -/
def vipScore : ScoreRow := ⟨"Gold Diggers VIP", 12, 8, 60, 1, 100⟩

def vipDesk : ChannelDesk :=
  ((ChannelDesk.mk (fun _ => none) .ofSource []).recomputeChannelPerformance [vipScore] 1000).1

/-- The verdict of a trusted channel is lost under its group id, and a nested wrapper is
taken off one layer at a time. -/
theorem spelling_matters :
    (¬ ∀ source, canonical vipDesk (canonical vipDesk source) = canonical vipDesk source) ∧
      ¬ ∀ a b, vipDesk.canonical a = vipDesk.canonical b →
        vipDesk.getChannelTrust a = vipDesk.getChannelTrust b := by
  constructor
  · intro idempotent
    have nested := (canonical_idempotent_iff vipDesk.aliases.settled
      "Telegram Auto (Telegram Auto (Gold A))").mp (idempotent _)
    exact absurd nested (by decide)
  · intro same
    have trust := same "Gold Diggers VIP" "1608388054" (by decide)
    exact absurd trust (by decide)

theorem spelling_free_bounce :
    vipDesk.SpellingFree "Bounce Generator" "Signal Generator" :=
  (spelling_free_iff vipDesk (by decide)).mpr
    ⟨.inl (by decide), .inl (by decide), .inl (by decide), by
      rw [← getChannelTrust_iff, ← getChannelTrust_iff]
      decide, .inl (by decide)⟩

end ChannelDesk
end Forex
