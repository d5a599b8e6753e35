import Forex.Reversal.LevelDetector
import Mathlib.Data.Finset.Max
import Mathlib.Order.Bounds.OrderIso

/-!
The Asia range against the sessions of the candles. `get_asia_range` takes the Asia
hours of every day in the list together.
-/

namespace Forex
open Support

namespace OhlcCandle

/-- The day of a candle, in UTC. -/
def day (c : OhlcCandle) : ℤ := ⌊c.ts / 86400⌋

end OhlcCandle

/-- The Asia session of a day. -/
def asiaSession (candles : List OhlcCandle) (d : ℤ) : List OhlcCandle :=
  candles.filter fun c => c.inAsia && decide (c.day = d)

/-- The most recent session that has candles and has ended: one is at 08:00 of its day
or later. -/
structure LatestSession (candles : List OhlcCandle) (d : ℤ) : Prop where
  occurs : asiaSession candles d ≠ []
  ended : ∃ c ∈ candles, 86400 * (d : ℚ) + 8 * 3600 ≤ c.ts
  latest : ∀ d', asiaSession candles d' ≠ [] →
    (∃ c ∈ candles, 86400 * (d' : ℚ) + 8 * 3600 ≤ c.ts) → d' ≤ d

/-- The lowest low and the highest high of some candles, in cents. -/
structure IsRange (session : List OhlcCandle) (range : ℚ × ℚ) : Prop where
  low : ∃ l, IsLeast {x | x ∈ session.map fun c => c.low} l ∧ range.1 = roundTo 2 l
  high : ∃ h, IsGreatest {x | x ∈ session.map fun c => c.high} h ∧ range.2 = roundTo 2 h

/-- The candles without the Asia hours of the days before `d`. -/
def withoutEarlier (candles : List OhlcCandle) (d : ℤ) : List OhlcCandle :=
  candles.filter fun c => !(c.inAsia && decide (c.day < d))

/-- The range is that of one session. -/
structure AsiaRangeRight (candles : List OhlcCandle) : Prop where
  latest : ∀ d, LatestSession candles d → IsRange (asiaSession candles d) (getAsiaRange candles)
  absent : (∀ d, ¬ LatestSession candles d) → getAsiaRange candles = (0, 0)
  forgets : ∀ d, LatestSession candles d →
    getAsiaRange (withoutEarlier candles d) = getAsiaRange candles

/-- In cents, the candle is within the range of the others. -/
def WithinRange (session : List OhlcCandle) (c : OhlcCandle) : Prop :=
  (∃ c' ∈ session, roundTo 2 c'.low ≤ roundTo 2 c.low) ∧
    ∃ c' ∈ session, roundTo 2 c.high ≤ roundTo 2 c'.high

/-- No Asia candle of another day is outside the range of the session. -/
structure OtherDaysWithin (candles : List OhlcCandle) : Prop where
  within : ∀ d, LatestSession candles d → ∀ c ∈ candles, c.inAsia = true → c.day ≠ d →
    WithinRange (asiaSession candles d) c
  absent : (∀ d, ¬ LatestSession candles d) → ∀ c ∈ candles, c.inAsia = true →
    roundTo 2 c.high = 0

section Extremes
variable {α β : Type} [LinearOrder α] [LinearOrder β] {f : α → β} {xs ys : List α}

theorem exists_isLeast (some_ : xs ≠ []) : ∃ l, IsLeast {x | x ∈ xs} l :=
  ⟨_, List.coe_toFinset xs ▸ Finset.isLeast_min' xs.toFinset (xs.toFinset_nonempty_iff.mpr some_)⟩

/-- Part of the values has the least one of all, as a monotone reading sees it, when
every value has one of the part below it. -/
theorem least_of_part_iff (mono : Monotone f) (part : ∀ x ∈ xs, x ∈ ys) (some_ : xs ≠ []) {l : α}
    (least : IsLeast {y | y ∈ ys} l) :
    (∃ l', IsLeast {x | x ∈ xs} l' ∧ f l = f l') ↔ ∀ y ∈ ys, ∃ x ∈ xs, f x ≤ f y := by
  constructor
  · rintro ⟨l', ⟨mem, -⟩, same⟩ y inside
    exact ⟨l', mem, same ▸ mono (least.2 inside)⟩
  · intro below
    obtain ⟨l', mem, first⟩ := exists_isLeast some_
    obtain ⟨x, inside, under⟩ := below l least.1
    exact ⟨l', ⟨mem, first⟩, le_antisymm (mono (least.2 (part l' mem)))
      ((mono (first inside)).trans under)⟩

theorem greatest_of_part_iff (mono : Monotone f) (part : ∀ x ∈ xs, x ∈ ys) (some_ : xs ≠ []) {h : α}
    (greatest : IsGreatest {y | y ∈ ys} h) :
    (∃ h', IsGreatest {x | x ∈ xs} h' ∧ f h = f h') ↔ ∀ y ∈ ys, ∃ x ∈ xs, f y ≤ f x :=
  least_of_part_iff (α := αᵒᵈ) (β := βᵒᵈ) mono.dual part some_ greatest

end Extremes

section Ranges
variable {all session : List OhlcCandle} {range range' : ℚ × ℚ}

theorem IsRange.unique (is : IsRange all range) (is' : IsRange all range') : range = range' := by
  obtain ⟨l, least, low⟩ := is.low
  obtain ⟨l', least', low'⟩ := is'.low
  obtain ⟨h, greatest, high⟩ := is.high
  obtain ⟨h', greatest', high'⟩ := is'.high
  refine Prod.ext ?_ ?_
  · rw [low, low', least.unique least']
  · rw [high, high', greatest.unique greatest']

theorem isRange_iff_of_isLeast {l h : ℚ} (least : IsLeast {x | x ∈ all.map fun c => c.low} l)
    (greatest : IsGreatest {x | x ∈ all.map fun c => c.high} h) :
    IsRange all (roundTo 2 l, roundTo 2 h) :=
  ⟨⟨l, least, rfl⟩, ⟨h, greatest, rfl⟩⟩

/-- The range of the candles is that of some of them when none is outside it. -/
theorem isRange_part_iff (is : IsRange all range) (part : ∀ c ∈ session, c ∈ all)
    (some_ : session ≠ []) : IsRange session range ↔ ∀ c ∈ all, WithinRange session c := by
  obtain ⟨l, least, low⟩ := is.low
  obtain ⟨h, greatest, high⟩ := is.high
  have mapped (g : OhlcCandle → ℚ) : ∀ x ∈ session.map g, x ∈ all.map g := by
    intro x mem
    obtain ⟨c, inside, rfl⟩ := List.mem_map.mp mem
    exact List.mem_map_of_mem (part c inside)
  have nonempty (g : OhlcCandle → ℚ) : session.map g ≠ [] := fun none =>
    some_ (List.map_eq_nil_iff.mp none)
  have mono : Monotone (roundTo 2) := fun _ _ le => roundTo_mono 2 le
  have lows := least_of_part_iff mono (mapped fun c => c.low) (nonempty _) least
  have highs := greatest_of_part_iff mono (mapped fun c => c.high) (nonempty _) greatest
  constructor
  · rintro ⟨⟨l', least', low'⟩, ⟨h', greatest', high'⟩⟩ c mem
    obtain ⟨x, inside, below⟩ := lows.mp ⟨l', least', low.symm.trans low'⟩ c.low
      (List.mem_map_of_mem mem)
    obtain ⟨y, inside', above⟩ := highs.mp ⟨h', greatest', high.symm.trans high'⟩ c.high
      (List.mem_map_of_mem mem)
    obtain ⟨c', mem', rfl⟩ := List.mem_map.mp inside
    obtain ⟨c'', mem'', rfl⟩ := List.mem_map.mp inside'
    exact ⟨⟨c', mem', below⟩, ⟨c'', mem'', above⟩⟩
  · intro within
    constructor
    · obtain ⟨l', least', same⟩ := lows.mpr (by
        intro x mem
        obtain ⟨c, inside, rfl⟩ := List.mem_map.mp mem
        obtain ⟨⟨c', mem', below⟩, -⟩ := within c inside
        exact ⟨c'.low, List.mem_map_of_mem mem', below⟩)
      exact ⟨l', least', low.trans same⟩
    · obtain ⟨h', greatest', same⟩ := highs.mpr (by
        intro x mem
        obtain ⟨c, inside, rfl⟩ := List.mem_map.mp mem
        obtain ⟨-, ⟨c', mem', above⟩⟩ := within c inside
        exact ⟨c'.high, List.mem_map_of_mem mem', above⟩)
      exact ⟨h', greatest', high.trans same⟩

end Ranges

section AsiaHours
variable {candles : List OhlcCandle}

theorem positive_all {xs : List ℚ} (pos : ∀ x ∈ xs, 0 < x) :
    xs.filter (fun x => decide (0 < x)) = xs :=
  List.filter_eq_self.mpr fun x mem => decide_eq_true (pos x mem)

/-- Of valid candles, the code's range is that of all Asia hours. -/
theorem getAsiaRange_spec (valid : ∀ c ∈ candles, c.Valid) :
    candles.filter OhlcCandle.inAsia = [] ∧ getAsiaRange candles = (0, 0) ∨
      candles.filter OhlcCandle.inAsia ≠ [] ∧
        IsRange (candles.filter OhlcCandle.inAsia) (getAsiaRange candles) := by
  obtain ⟨asia, hours⟩ : ∃ asia, asia = candles.filter OhlcCandle.inAsia := ⟨_, rfl⟩
  have here : ∀ c ∈ asia, c.Valid := fun c mem =>
    valid c (List.mem_of_mem_filter (hours ▸ mem))
  have lows : (asia.map fun c => c.low).filter (fun x => decide (0 < x)) =
      asia.map fun c => c.low := by
    refine positive_all fun x mem => ?_
    obtain ⟨c, inside, rfl⟩ := List.mem_map.mp mem
    exact (here c inside).positive
  have highs : (asia.map fun c => c.high).filter (fun x => decide (0 < x)) =
      asia.map fun c => c.high := by
    refine positive_all fun x mem => ?_
    obtain ⟨c, inside, rfl⟩ := List.mem_map.mp mem
    exact (here c inside).positive.trans_le (here c inside).ordered
  unfold getAsiaRange
  dsimp only
  rw [← hours, lows, highs]
  by_cases none : asia = []
  · subst none
    exact .inl ⟨rfl, rfl⟩
  · refine .inr ⟨none, ?_⟩
    have mapped (g : OhlcCandle → ℚ) : asia.map g ≠ [] := fun empty =>
      none (List.map_eq_nil_iff.mp empty)
    obtain ⟨l, low⟩ := Option.ne_none_iff_exists'.mp fun empty =>
      mapped (fun c => c.low) (List.min?_eq_none_iff.mp empty)
    obtain ⟨h, high⟩ := Option.ne_none_iff_exists'.mp fun empty =>
      mapped (fun c => c.high) (List.max?_eq_none_iff.mp empty)
    rw [low, high]
    obtain ⟨mem, least⟩ := List.min?_eq_some_iff.mp low
    obtain ⟨mem', greatest⟩ := List.max?_eq_some_iff.mp high
    exact isRange_iff_of_isLeast ⟨mem, fun x inside => least x inside⟩
      ⟨mem', fun x inside => greatest x inside⟩

theorem mem_asiaSession {d : ℤ} {c : OhlcCandle} :
    c ∈ asiaSession candles d ↔ c ∈ candles ∧ c.inAsia = true ∧ c.day = d := by
  rw [asiaSession, List.mem_filter, Bool.and_eq_true_iff, decide_eq_true_iff]

theorem mem_withoutEarlier {d : ℤ} {c : OhlcCandle} :
    c ∈ withoutEarlier candles d ↔ c ∈ candles ∧ ¬ (c.inAsia = true ∧ c.day < d) := by
  rw [withoutEarlier, List.mem_filter, Bool.not_eq_true', Bool.and_eq_false_iff,
    decide_eq_false_iff_not, not_and_or, Bool.not_eq_true]

theorem latestSession_of {d : ℤ} (occurs : asiaSession candles d ≠ [])
    (ended : ∃ c ∈ candles, 86400 * (d : ℚ) + 8 * 3600 ≤ c.ts)
    (last : ∀ c ∈ candles, c.ts < 86400 * ((d : ℚ) + 1) + 8 * 3600) : LatestSession candles d := by
  refine ⟨occurs, ended, ?_⟩
  rintro d' - ⟨c, mem, ended'⟩
  have before : (d' : ℚ) < d + 1 := by linarith [last c mem]
  exact Int.lt_add_one_iff.mp (by exact_mod_cast before)

theorem LatestSession.unique {d d' : ℤ} (latest : LatestSession candles d)
    (latest' : LatestSession candles d') : d = d' :=
  le_antisymm (latest'.latest d latest.occurs latest.ended)
    (latest.latest d' latest'.occurs latest'.ended)

theorem mem_asiaHours {c : OhlcCandle} :
    c ∈ candles.filter OhlcCandle.inAsia ↔ c ∈ candles ∧ c.inAsia = true :=
  List.mem_filter

theorem asiaHours_of_session {d : ℤ} :
    ∀ c ∈ asiaSession candles d, c ∈ candles.filter OhlcCandle.inAsia := fun _ mem =>
  mem_asiaHours.mpr ⟨(mem_asiaSession.mp mem).1, (mem_asiaSession.mp mem).2.1⟩

/-- Where there are Asia hours, the code's range is theirs. -/
theorem isRange_getAsiaRange (valid : ∀ c ∈ candles, c.Valid) {c : OhlcCandle}
    (mem : c ∈ candles.filter OhlcCandle.inAsia) :
    IsRange (candles.filter OhlcCandle.inAsia) (getAsiaRange candles) := by
  obtain ⟨none, -⟩ | ⟨-, is⟩ := getAsiaRange_spec valid
  · exact absurd mem (none ▸ List.not_mem_nil)
  · exact is

theorem AsiaRangeRight.othersWithin (right : AsiaRangeRight candles)
    (valid : ∀ c ∈ candles, c.Valid) : OtherDaysWithin candles where
  within d latest c mem asiaHour _ := by
    have inside := mem_asiaHours.mpr ⟨mem, asiaHour⟩
    exact (isRange_part_iff (isRange_getAsiaRange valid inside) asiaHours_of_session
      latest.occurs).mp (right.latest d latest) c inside
  absent never c mem asiaHour := by
    have inside := mem_asiaHours.mpr ⟨mem, asiaHour⟩
    obtain ⟨h, greatest, high⟩ := (isRange_getAsiaRange valid inside).high
    have above := roundTo_mono 2 (greatest.2 (List.mem_map_of_mem inside))
    rw [← high, right.absent never] at above
    have here := valid c mem
    exact le_antisymm above (roundTo_nonneg 2 (here.positive.trans_le here.ordered).le)

namespace OtherDaysWithin
variable (others : OtherDaysWithin candles) {d : ℤ}

include others in
theorem whole (latest : LatestSession candles d) :
    ∀ c ∈ candles.filter OhlcCandle.inAsia, WithinRange (asiaSession candles d) c := by
  intro c mem
  obtain ⟨listed, asiaHour⟩ := mem_asiaHours.mp mem
  by_cases own : c.day = d
  · have itself := mem_asiaSession.mpr ⟨listed, asiaHour, own⟩
    exact ⟨⟨c, itself, le_rfl⟩, ⟨c, itself, le_rfl⟩⟩
  · exact others.within d latest c listed asiaHour own

include others in
theorem isRange_latest (valid : ∀ c ∈ candles, c.Valid) (latest : LatestSession candles d) :
    IsRange (asiaSession candles d) (getAsiaRange candles) := by
  obtain ⟨c, mem⟩ := List.exists_mem_of_ne_nil _ latest.occurs
  exact (isRange_part_iff (isRange_getAsiaRange valid (asiaHours_of_session c mem))
    asiaHours_of_session latest.occurs).mpr (others.whole latest)

include others in
theorem range_absent (valid : ∀ c ∈ candles, c.Valid)
    (never : ∀ d, ¬ LatestSession candles d) : getAsiaRange candles = (0, 0) := by
  obtain ⟨-, zero⟩ | ⟨-, is⟩ := getAsiaRange_spec valid
  · exact zero
  · obtain ⟨h, ⟨top, _⟩, high⟩ := is.high
    obtain ⟨l, ⟨bottom, _⟩, low⟩ := is.low
    obtain ⟨c, mem, rfl⟩ := List.mem_map.mp top
    obtain ⟨c', mem', rfl⟩ := List.mem_map.mp bottom
    obtain ⟨listed, asiaHour⟩ := mem_asiaHours.mp mem
    obtain ⟨listed', asiaHour'⟩ := mem_asiaHours.mp mem'
    have tiny := others.absent never c listed asiaHour
    have tiny' := others.absent never c' listed' asiaHour'
    have here := valid c' listed'
    refine Prod.ext (low.trans (le_antisymm ?_ (roundTo_nonneg 2 here.positive.le)))
      (high.trans tiny)
    exact tiny' ▸ roundTo_mono 2 here.ordered

include others in
/-- The Asia hours that are kept lie between the session and all of them. -/
theorem range_withoutEarlier (valid : ∀ c ∈ candles, c.Valid)
    (latest : LatestSession candles d) :
    getAsiaRange (withoutEarlier candles d) = getAsiaRange candles := by
  have kept : ∀ c ∈ (withoutEarlier candles d).filter OhlcCandle.inAsia,
      c ∈ candles.filter OhlcCandle.inAsia := by
    intro c mem
    obtain ⟨listed, asiaHour⟩ := mem_asiaHours.mp mem
    exact mem_asiaHours.mpr ⟨(mem_withoutEarlier.mp listed).1, asiaHour⟩
  have session : ∀ c ∈ asiaSession candles d,
      c ∈ (withoutEarlier candles d).filter OhlcCandle.inAsia := by
    intro c mem
    obtain ⟨listed, asiaHour, own⟩ := mem_asiaSession.mp mem
    have late : ¬ (c.inAsia = true ∧ c.day < d) := fun earlier =>
      absurd earlier.2 (own ▸ lt_irrefl _)
    exact mem_asiaHours.mpr ⟨mem_withoutEarlier.mpr ⟨listed, late⟩, asiaHour⟩
  have valid' : ∀ c ∈ withoutEarlier candles d, c.Valid := fun c mem =>
    valid c (mem_withoutEarlier.mp mem).1
  obtain ⟨first, occurs⟩ := List.exists_mem_of_ne_nil _ latest.occurs
  have inside := session first occurs
  refine (isRange_getAsiaRange valid' inside).unique
    ((isRange_part_iff (isRange_getAsiaRange valid (kept first inside)) kept
      (List.ne_nil_of_mem inside)).mpr fun c mem => ?_)
  obtain ⟨⟨low, mem', below⟩, ⟨high, mem'', above⟩⟩ := others.whole latest c mem
  exact ⟨⟨low, session low mem', below⟩, ⟨high, session high mem'', above⟩⟩

end OtherDaysWithin

end AsiaHours

/-- The range is that of the most recent session that has ended exactly when no other
day's Asia hours lie outside it. -/
theorem asia_range_right_iff {candles : List OhlcCandle} (valid : ∀ c ∈ candles, c.Valid) :
    AsiaRangeRight candles ↔ OtherDaysWithin candles :=
  ⟨fun right => right.othersWithin valid, fun others =>
    ⟨fun _ latest => others.isRange_latest valid latest, others.range_absent valid,
      fun _ latest => others.range_withoutEarlier valid latest⟩⟩

section Runs

/-- The candle of an hour of a day, between two prices. -/
def h1 (day hour : ℕ) (low high : ℚ) : OhlcCandle :=
  ⟨⟨high, low, low⟩, 86400 * day + 3600 * hour, high⟩

/-- The second day trades a hundred points above the first. -/
def twoDays : List OhlcCandle :=
  [h1 0 5 1900 1910, h1 0 9 1950 1960, h1 1 5 2000 2010, h1 1 9 2005 2015]

/-- The second session is still on, a hundred points above the first. -/
def secondNight : List OhlcCandle := [h1 0 5 1900 1910, h1 0 9 1950 1960, h1 1 3 2000 2010]

/-- The second night stays within the range of the first. -/
def calmNight : List OhlcCandle := [h1 0 5 1990 2012, h1 0 9 2000 2010, h1 1 2 2000 2003]

theorem asia_range_right_calm : AsiaRangeRight calmNight :=
  (asia_range_right_iff (by
    intro c mem
    obtain rfl | rfl | rfl :
        c = h1 0 5 1990 2012 ∨ c = h1 0 9 2000 2010 ∨ c = h1 1 2 2000 2003 := by
      simpa [calmNight] using mem
    all_goals exact ⟨by decide, by decide⟩)).mpr (by
    have latest : LatestSession calmNight 0 :=
      latestSession_of (by decide +kernel) (by decide +kernel) (by decide +kernel)
    constructor
    · intro d latest' c mem asiaHour other
      obtain rfl := latest.unique latest'
      obtain rfl | rfl | rfl : c = h1 0 5 1990 2012 ∨ c = h1 0 9 2000 2010 ∨
          c = h1 1 2 2000 2003 := by simpa [calmNight] using mem
      · exact absurd other (by decide +kernel)
      · exact absurd other (by decide +kernel)
      · exact ⟨⟨h1 0 5 1990 2012, by decide +kernel, by decide +kernel⟩,
          ⟨h1 0 5 1990 2012, by decide +kernel, by decide +kernel⟩⟩
    · intro never
      exact absurd latest (never 0))

/-- The low of the first night is returned for the second, and the high of a night that
is still on for the first. -/
theorem asia_range_of_two_sessions :
    getAsiaRange twoDays = (1900, 2010) ∧ ¬ AsiaRangeRight twoDays ∧
      getAsiaRange secondNight = (1900, 2010) ∧ ¬ AsiaRangeRight secondNight := by
  have two : getAsiaRange twoDays = (1900, 2010) := by decide +kernel
  have still : getAsiaRange secondNight = (1900, 2010) := by decide +kernel
  refine ⟨two, fun right => ?_, still, fun right => ?_⟩
  · have latest : LatestSession twoDays 1 :=
      latestSession_of (by decide +kernel) (by decide +kernel) (by decide +kernel)
    obtain ⟨l, ⟨mem, -⟩, low⟩ := (right.latest 1 latest).low
    have session : (asiaSession twoDays 1).map (fun c => c.low) = [2000] := by decide +kernel
    obtain rfl := List.mem_singleton.mp (session ▸ mem)
    rw [two] at low
    exact absurd low (by decide +kernel)
  · have latest : LatestSession secondNight 0 :=
      latestSession_of (by decide +kernel) (by decide +kernel) (by decide +kernel)
    obtain ⟨h, ⟨mem, -⟩, high⟩ := (right.latest 0 latest).high
    have session : (asiaSession secondNight 0).map (fun c => c.high) = [1910] := by decide +kernel
    obtain rfl := List.mem_singleton.mp (session ▸ mem)
    rw [still] at high
    exact absurd high (by decide +kernel)

end Runs
end Forex
