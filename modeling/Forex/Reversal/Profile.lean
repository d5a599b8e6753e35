import Forex.Channels.Aliases
import Forex.Reversal.Books
import Forex.Support.Run

/-!
The profile of a Reversal Engine signal, from the candidate level it is built from to
its management. The profile itself is not stored. `build_signal` stamps the current
name of the channel, which a rename may change, and the management compares the stamp
with a literal; the strategy the level stands for is overwritten in between.
-/

namespace Forex
open Support

/-- A candidate level, as `build_signal` reads it. -/
structure CandidateLevel where
  price : ℚ
  score : Option ℚ
  profile : Option String
  entryZoneLow : Option ℚ
  entryZoneHigh : Option ℚ
deriving DecidableEq, Repr

structure BarrierConfig where
  enabled : Bool
  stopMult : Option ℚ
  tp1Mult : Option ℚ
deriving DecidableEq, Repr

structure BuildContext where
  atr : Option ℚ
  atrBarriers : Option BarrierConfig
deriving DecidableEq, Repr

def tpOffsets : List ℚ := [3, 4, 5, 6, 8, 10, 15, 30]

def zoneHalf : ℚ := 2
def gd2Tp1R : ℚ := 1
def gd2Tp2R : ℚ := 2
def gd2RunnerR : ℚ := 6

def entryZoneFromLevel (levelPrice atr : ℚ) : Direction → ℚ × ℚ
  | .buy => (roundTo 2 (levelPrice - 1), roundTo 2 (levelPrice + if 15 < atr then 3 else zoneHalf))
  | .sell => (roundTo 2 (levelPrice - if 15 < atr then 3 else zoneHalf), roundTo 2 (levelPrice + 1))

/-- `atr_barriers`: the stop distance and the offsets of the ladder. -/
def atrBarriers (atr : Option ℚ) (cfg : Option BarrierConfig) : Option (ℚ × List ℚ) :=
  match cfg with
  | none => none
  | some cfg =>
      let a := atr.getD 0
      let stopMult := cfg.stopMult.getD 0
      let tp1Mult := cfg.tp1Mult.getD 0
      if !cfg.enabled || decide (a ≤ 0 ∨ stopMult ≤ 0 ∨ tp1Mult ≤ 0) then none
      else some (a * stopMult, tpOffsets.map fun o => o * (a * tp1Mult / 3))

/-- `calculate_tp_cascade`. -/
def calculateTpCascade (direction : Direction) (entryMid : ℚ) (offsets : Option (List ℚ)) :
    List ℚ :=
  (offsets.getD tpOffsets).map fun o => roundTo 2 (entryMid + direction.sign * o)

/-- `calculate_gd2_tp_structure`. -/
def calculateGd2TpStructure (direction : Direction) (entryMid slDist : ℚ) : List ℚ :=
  [gd2Tp1R, gd2Tp2R, gd2RunnerR].map fun r => roundTo 2 (entryMid + direction.sign * r * slDist)

def slDistanceForLevel (levelScore : ℚ) : ℚ :=
  if 85 / 100 ≤ levelScore then 7 else if 65 / 100 ≤ levelScore then 5 else 4

/-- `_TG_GROUP_ID_MAP`. -/
def tgGroupIdMap : ChannelAliases :=
  [("1608388054", "Gold Diggers VIP"), ("2616846888", "GOLD DIGGERS INSTITUTIONAL")]

/-- `_normalise_tg_source`. -/
def normaliseTgSource (aliases : ChannelAliases) (src : String) : String :=
  if src = "" then src else canonical aliases ((tgGroupIdMap.get (stripped src)).getD src)

def refGroupId : String := "1608388054"

def gd2GroupId : String := "2616846888"

/-- `_current_channel_name`. -/
def currentChannelName (aliases : ChannelAliases) (isGd2 : Bool) : String :=
  normaliseTgSource aliases (if isGd2 then gd2GroupId else refGroupId)

namespace CandidateLevel
variable (level : CandidateLevel)

def isGd2 : Bool := decide (level.profile = some "gd2")

def entryZone (atr : ℚ) (direction : Direction) : ℚ × ℚ :=
  if level.isGd2 then
    (level.entryZoneLow.getD level.price, level.entryZoneHigh.getD level.price)
  else entryZoneFromLevel level.price atr direction

/-- `build_signal`, with the reference and the time that it makes itself, and with the
strategy that `_run_cycle` puts in its place. -/
def buildSignal (aliases : ChannelAliases) (direction : Direction) (context : BuildContext)
    (signalRef : String) (now : ℚ) (activeStrategy : String) : NewSignal :=
  let atr := (unlessFalsy context.atr).getD 8
  let levelScore := level.score.getD (1 / 2)
  let zone := level.entryZone atr direction
  let entryMid := roundTo 2 ((zone.1 + zone.2) / 2)
  let fitted := if level.isGd2 then none else atrBarriers context.atr context.atrBarriers
  let slDist :=
    if level.isGd2 then max |zone.2 - zone.1| (slDistanceForLevel levelScore)
    else (fitted.map Prod.fst).getD (slDistanceForLevel levelScore)
  let tps :=
    if level.isGd2 then calculateGd2TpStructure direction entryMid slDist
    else calculateTpCascade direction entryMid (fitted.map Prod.snd)
  { signalRef := signalRef
    createdAt := now
    direction := direction
    entryLow := zone.1
    entryHigh := zone.2
    stopLoss := roundTo 2 (entryMid - direction.sign * slDist)
    tp1 := tps.headD 0
    tp2 := tps[1]?
    tp3 := tps[2]?
    tp4 := tps[3]?
    tp7 := tps[6]?
    tp8 := tps[7]?
    sourceChannel := currentChannelName aliases level.isGd2
    strategy := activeStrategy }

end CandidateLevel

/-- What a signal was built from, and the alias table it was built under. -/
structure BuiltFrom where
  level : CandidateLevel
  aliases : ChannelAliases

/-- The process with its alias table, over the books. -/
structure ProfileDesk where
  aliases : ChannelAliases
  books : ReBooks
  /-- Of every signal built in the run, by its id, what it was built from. -/
  built : ℕ → Option BuiltFrom

inductive ProfileStep where
  | build (level : CandidateLevel) (direction : Direction) (context : BuildContext)
      (signalRef : String) (now : ℚ) (activeStrategy : String)
  /-- `sync_channel_rename`; an exception that escapes it leaves the aliases alone. -/
  | rename (oldName newName : String) (raises : Bool)
  /-- Anything else that happens to the signals. -/
  | books (now : ℚ) (op : BooksOp)
  /-- The process starts again, with the alias table of the source. -/
  | restart (now : ℚ)

/-- What `sync_channel_rename` makes of the alias table. -/
def aliasesAfterRename (aliases : ChannelAliases) (oldName newName : String) : ChannelAliases :=
  match renameNames aliases oldName newName with
  | none => aliases
  | some names => names.moveAliases aliases

namespace ProfileDesk
variable (s : ProfileDesk)

/-- Nothing has been built. -/
def start : ProfileDesk := ⟨canonicalChannels, ReBooks.fresh, fun _ => none⟩

/-- A reference that is there already is ignored, and no id is given. -/
def build (level : CandidateLevel) (data : NewSignal) : ProfileDesk :=
  let books := s.books.createSignal data
  { s with
    books := books
    built :=
      if books.nextId = s.books.nextId then s.built
      else Function.update s.built s.books.nextId (some ⟨level, s.aliases⟩) }

def step (s : ProfileDesk) : ProfileStep → ProfileDesk
  | .build level direction context signalRef now activeStrategy =>
      s.build level
        (level.buildSignal s.aliases direction context signalRef now activeStrategy)
  | .rename oldName newName raises =>
      if raises then s
      else { s with aliases := aliasesAfterRename s.aliases oldName newName }
  | .books now op => { s with books := s.books.step (now, op) }
  | .restart now =>
      { s with
        aliases := canonicalChannels
        books := s.books.step (now, .restart) }

end ProfileDesk

/-- The GD2 mapping is applied to the signals of GD2 levels and to no others. -/
def ReSignal.ManagedAsBuilt (sig : ReSignal) (source : BuiltFrom) : Prop :=
  sig.management = .gd2 ↔ source.level.isGd2 = true

/-- The channel of the profile goes by the literal name exactly for a GD2 level. -/
def BuiltFrom.StampsProfile (source : BuiltFrom) : Prop :=
  if source.level.isGd2 then
    source.aliases.get "GOLD DIGGERS INSTITUTIONAL" = some gd2SourceChannel
  else source.aliases.get "Gold Diggers VIP" ≠ some gd2SourceChannel

instance (source : BuiltFrom) : Decidable source.StampsProfile :=
  inferInstanceAs (Decidable (ite _ _ _))

/-- The table has the names of the two groups. -/
structure ChannelAliases.KnowsGroups (A : ChannelAliases) : Prop where
  gd2 : (A.get "GOLD DIGGERS INSTITUTIONAL").isSome = true
  ref : (A.get "Gold Diggers VIP").isSome = true

theorem currentChannelName_eq (A : ChannelAliases) (isGd2 : Bool) :
    currentChannelName A isGd2 =
      canonical A (if isGd2 then "GOLD DIGGERS INSTITUTIONAL" else "Gold Diggers VIP") := by
  have gd2 : (tgGroupIdMap.get (stripped gd2GroupId)).getD gd2GroupId =
      "GOLD DIGGERS INSTITUTIONAL" := by decide +kernel
  have ref : (tgGroupIdMap.get (stripped refGroupId)).getD refGroupId = "Gold Diggers VIP" := by
    decide +kernel
  cases isGd2 with
  | true =>
      rw [currentChannelName, if_pos rfl, normaliseTgSource, if_neg (by decide), gd2, if_pos rfl]
  | false =>
      rw [currentChannelName, if_neg Bool.false_ne_true, normaliseTgSource, if_neg (by decide), ref,
        if_neg Bool.false_ne_true]

theorem currentChannelName_eq_iff {A : ChannelAliases} (knows : A.KnowsGroups) (isGd2 : Bool)
    (name : String) :
    currentChannelName A isGd2 = name ↔
      A.get (if isGd2 then "GOLD DIGGERS INSTITUTIONAL" else "Gold Diggers VIP") = some name := by
  rw [currentChannelName_eq]
  have listed : (A.get (if isGd2 then "GOLD DIGGERS INSTITUTIONAL"
      else "Gold Diggers VIP")).isSome = true := by
    cases isGd2 with
    | true => exact knows.gd2
    | false => exact knows.ref
  obtain ⟨canon, leads⟩ := Option.isSome_iff_exists.mp listed
  rw [canonical_of_get leads, leads, Option.some.injEq]

/-- A signal that carries the name of its profile's channel is managed as it was built
exactly when that name tells the profiles apart. -/
theorem managedAsBuilt_iff {sig : ReSignal} {source : BuiltFrom}
    (knows : source.aliases.KnowsGroups)
    (stamp : sig.sourceChannel = currentChannelName source.aliases source.level.isGd2) :
    sig.ManagedAsBuilt source ↔ source.StampsProfile := by
  have mapped : sig.management = .gd2 ↔ sig.sourceChannel = gd2SourceChannel := by
    rw [ReSignal.management]
    split
    · next same => simp [same]
    · next other => split <;> simp [other]
  rw [ReSignal.ManagedAsBuilt, mapped, stamp, currentChannelName_eq_iff knows,
    BuiltFrom.StampsProfile]
  cases source.level.isGd2 <;> simp

namespace ReBooks

/-- Each row was there under its id and with its channel, and no id has been given. -/
structure Stamped (s t : ReBooks) : Prop where
  rows : ∀ r ∈ t.signals.rows, ∃ old ∈ s.signals.rows, old.id = r.id ∧
    old.sourceChannel = r.sourceChannel
  nextId : t.nextId = s.nextId

variable {s : ReBooks}

/-- The balance, the log and the clock do not matter. -/
theorem stamped_of_signals {t : ReBooks} (signals : t.signals = s.signals)
    (nextId : t.nextId = s.nextId) : s.Stamped t :=
  ⟨fun r mem => ⟨r, signals ▸ mem, rfl, rfl⟩, nextId⟩

theorem stamped_refl (s : ReBooks) : s.Stamped s := stamped_of_signals rfl rfl

theorem Stamped.trans {t u : ReBooks} (first : s.Stamped t) (next : t.Stamped u) : s.Stamped u where
  rows r mem := by
    obtain ⟨r', mem', id', channel'⟩ := next.rows r mem
    obtain ⟨old, mem, id, channel⟩ := first.rows r' mem'
    exact ⟨old, mem, id.trans id', channel.trans channel'⟩
  nextId := next.nextId.trans first.nextId

theorem stamped_updateSignal (s : ReBooks) (id : ℕ) {f : Assign ReSignal.id}
    (channel : ∀ r, (f r).sourceChannel = r.sourceChannel) : s.Stamped (s.updateSignal id f) where
  rows r mem := by
    obtain ⟨old, there, rfl⟩ := Table.mem_update.mp mem
    refine ⟨old, there, ?_⟩
    split
    · exact ⟨(f.keeps old).symm, (channel old).symm⟩
    · exact ⟨rfl, rfl⟩
  nextId := rfl

theorem stamped_onRow (s : ReBooks) (id : ℕ) (p : ReSignal → Bool) {f : ReSignal → ReBooks}
    (each : ∀ row, s.Stamped (f row)) : s.Stamped (s.onRow id p f) := by
  rw [onRow]
  split
  · exact s.stamped_refl
  · split
    · exact each _
    · exact s.stamped_refl

theorem stamped_closeSignal (s : ReBooks) (id : ℕ) (c : SignalClosing) :
    s.Stamped (s.closeSignal id c) := by
  have paid : s.Stamped (s.updateBalance c.balanceDelta ("signal_close_" ++ c.outcome) (some id)) :=
    stamped_of_signals rfl rfl
  exact paid.trans (stamped_updateSignal _ id fun _ => rfl)

theorem stamped_call (s : ReBooks) (id : ℕ) (c : ManageCall) : s.Stamped (call id s c) := by
  cases c with
  | moveSlToBe _ | setStopLoss _ => exact s.stamped_updateSignal id fun _ => rfl
  | closeSignal c => exact s.stamped_closeSignal id c
  | bookPartialClose legNet fracClosed tpIdx =>
      rw [call, bookPartialClose]
      split
      · exact s.stamped_refl
      · have paid : s.Stamped (s.updateBalance legNet ("re_partial_tp" ++ toString tpIdx)
            (some id)) := stamped_of_signals rfl rfl
        exact paid.trans (stamped_updateSignal _ id fun _ => rfl)

theorem stamped_calls (s : ReBooks) (id : ℕ) (calls : List ManageCall) :
    s.Stamped (calls.foldl (call id) s) := by
  induction calls generalizing s with
  | nil => exact s.stamped_refl
  | cons c calls ih => exact (s.stamped_call id c).trans (ih _)

theorem stamped_reconcile (s : ReBooks) : s.Stamped s.reconcileBalanceWithTrades := by
  rw [reconcileBalanceWithTrades]
  split <;> exact stamped_of_signals rfl rfl

/-- No operation but a creation gives a row its channel. -/
theorem stamped_act (s : ReBooks) {op : BooksOp} (other : ∀ data, op ≠ .create data) :
    s.Stamped (s.act op) := by
  cases op with
  | create data => exact absurd rfl (other data)
  | expire id => exact s.stamped_onRow id _ fun _ => s.stamped_updateSignal id fun _ => rfl
  | trigger id price => exact s.stamped_onRow id _ fun _ => s.stamped_updateSignal id fun _ => rfl
  | record id mt5Ticket vantageSigId status => exact s.stamped_updateSignal id fun _ => rfl
  | manage id tick cost made => exact s.stamped_onRow id _ fun _ => s.stamped_calls id _
  | reconcile id d ds => exact s.stamped_onRow id _ fun _ => s.stamped_closeSignal id _
  | restart => exact s.stamped_reconcile

theorem stamped_step (s : ReBooks) (now : ℚ) {op : BooksOp} (other : ∀ data, op ≠ .create data) :
    s.Stamped (s.step (now, op)) := by
  have waited : s.Stamped (s.at_ now) := stamped_of_signals rfl rfl
  exact waited.trans ((s.at_ now).stamped_act other)

/-- A creation is ignored, or it adds the row under the next id. -/
theorem createSignal_cases (s : ReBooks) (data : NewSignal) :
    s.createSignal data = s ∨
      (s.createSignal data).nextId = s.nextId + 1 ∧
        ∀ r ∈ (s.createSignal data).signals.rows, r ∈ s.signals.rows ∨ r = data.row s.nextId := by
  rw [createSignal]
  split
  · exact .inl rfl
  · refine .inr ⟨rfl, fun r mem => ?_⟩
    rw [Table.rows_insertOrIgnore] at mem
    split at mem
    · exact .inl mem
    · exact (List.mem_append.mp mem).imp_right List.mem_singleton.mp

end ReBooks

namespace ProfileDesk
variable {s : ProfileDesk}

/-- Ids are given in order, and a signal keeps the name it was built with. -/
structure Faithful (s : ProfileDesk) : Prop where
  knows : s.aliases.KnowsGroups
  ids : ∀ r ∈ s.books.signals.rows, r.id < s.books.nextId
  given : ∀ id source, s.built id = some source → id < s.books.nextId
  knew : ∀ id source, s.built id = some source → source.aliases.KnowsGroups
  stamps : ∀ r ∈ s.books.signals.rows, ∀ source, s.built r.id = some source →
    r.sourceChannel = currentChannelName source.aliases source.level.isGd2

theorem start_faithful : start.Faithful where
  knows := ⟨by decide +kernel, by decide +kernel⟩
  ids _ mem := absurd mem List.not_mem_nil
  given _ _ none := nomatch none
  knew _ _ none := nomatch none
  stamps _ mem := absurd mem List.not_mem_nil

theorem Faithful.stamped (faithful : s.Faithful) {books : ReBooks} (kept : s.books.Stamped books) :
    Faithful { s with books := books } where
  knows := faithful.knows
  ids r mem := by
    obtain ⟨old, mem, id, -⟩ := kept.rows r mem
    rw [kept.nextId, ← id]
    exact faithful.ids old mem
  given id source from_ := kept.nextId ▸ faithful.given id source from_
  knew := faithful.knew
  stamps r mem source from_ := by
    obtain ⟨old, mem, id, channel⟩ := kept.rows r mem
    rw [← channel]
    exact faithful.stamps old mem source (id ▸ from_)

theorem Faithful.withAliases (faithful : s.Faithful) {aliases : ChannelAliases}
    (knows : aliases.KnowsGroups) : Faithful { s with aliases := aliases } where
  knows := knows
  ids := faithful.ids
  given := faithful.given
  knew := faithful.knew
  stamps := faithful.stamps

/-- A row that is added under an id for which nothing, or this, is on record. -/
theorem Faithful.create (faithful : s.Faithful) {data : NewSignal} {built : ℕ → Option BuiltFrom}
    (grows : (s.books.createSignal data).nextId = s.books.nextId + 1)
    (rows : ∀ r ∈ (s.books.createSignal data).signals.rows,
      r ∈ s.books.signals.rows ∨ r = data.row s.books.nextId)
    (old : ∀ id, id ≠ s.books.nextId → built id = s.built id)
    (new : ∀ source, built s.books.nextId = some source → source.aliases = s.aliases ∧
      data.sourceChannel = currentChannelName s.aliases source.level.isGd2) :
    Faithful { s with books := s.books.createSignal data, built := built } where
  knows := faithful.knows
  ids r mem := by
    rw [grows]
    rcases rows r mem with there | rfl
    · exact Nat.lt_succ_of_lt (faithful.ids r there)
    · exact Nat.lt_succ_self _
  given id source from_ := by
    rw [grows]
    by_cases same : id = s.books.nextId
    · exact same ▸ Nat.lt_succ_self _
    · exact Nat.lt_succ_of_lt (faithful.given id source (old id same ▸ from_))
  knew id source from_ := by
    by_cases same : id = s.books.nextId
    · rw [(new source (same ▸ from_)).1]
      exact faithful.knows
    · exact faithful.knew id source (old id same ▸ from_)
  stamps r mem source from_ := by
    rcases rows r mem with there | rfl
    · have older := faithful.ids r there
      exact faithful.stamps r there source (old r.id older.ne ▸ from_)
    · obtain ⟨aliases, channel⟩ := new source from_
      rw [aliases]
      exact channel

theorem Faithful.build (faithful : s.Faithful) (level : CandidateLevel) (data : NewSignal)
    (channel : data.sourceChannel = currentChannelName s.aliases level.isGd2) :
    (s.build level data).Faithful := by
  rw [ProfileDesk.build]
  rcases s.books.createSignal_cases data with ignored | ⟨grows, rows⟩
  · rw [if_pos (by rw [ignored]), ignored]
    exact faithful
  · rw [if_neg (by rw [grows]; exact Nat.succ_ne_self _)]
    refine faithful.create grows rows (fun id other => Function.update_of_ne other _ _) ?_
    intro source from_
    rw [Function.update_self] at from_
    rw [← Option.some.inj from_]
    exact ⟨rfl, channel⟩

theorem knowsGroups_rename {A : ChannelAliases} (knows : A.KnowsGroups) (oldName newName : String) :
    (aliasesAfterRename A oldName newName).KnowsGroups := by
  rw [aliasesAfterRename]
  split
  · exact knows
  · exact ⟨A.get_moveAliases_isSome _ knows.gd2, A.get_moveAliases_isSome _ knows.ref⟩

theorem step_faithful (a : ProfileStep) (faithful : s.Faithful) : (s.step a).Faithful := by
  cases a with
  | build level direction context signalRef now activeStrategy =>
      exact faithful.build level _ rfl
  | rename oldName newName raises =>
      rw [step]
      split
      · exact faithful
      · exact faithful.withAliases (knowsGroups_rename faithful.knows oldName newName)
  | restart now =>
      have books : s.books.Stamped (s.books.step (now, .restart)) :=
        s.books.stamped_step now fun _ => BooksOp.noConfusion
      exact (faithful.stamped books).withAliases start_faithful.knows
  | books now op =>
      rw [step]
      cases op with
      | create data =>
          rw [ReBooks.step]
          rcases (s.books.at_ now).createSignal_cases data with ignored | ⟨grows, rows⟩
          · rw [ReBooks.act, ignored]
            exact faithful.stamped ⟨fun r mem => ⟨r, mem, rfl, rfl⟩, rfl⟩
          · have waited : Faithful { s with books := s.books.at_ now } :=
              faithful.stamped ⟨fun r mem => ⟨r, mem, rfl, rfl⟩, rfl⟩
            refine waited.create grows rows (fun _ _ => rfl) fun source from_ => ?_
            exact absurd (faithful.given _ source from_) (Nat.lt_irrefl _)
      | expire | trigger | record | manage | reconcile | restart =>
          exact faithful.stamped (s.books.stamped_step now fun _ => BooksOp.noConfusion)

/-- Of every signal that is built in a run, in every state the run comes to: it is managed
as it was built exactly when the alias table, as it was then, tells the profiles apart. -/
theorem managed_as_built_iff (run : List ProfileStep) :
    ∀ t ∈ states step start run, ∀ sig ∈ t.books.signals.rows, ∀ source,
      t.built sig.id = some source → (sig.ManagedAsBuilt source ↔ source.StampsProfile) := by
  intro t mem sig row source from_
  have always : Meets step (fun _ _ => True) start run :=
    meets_of_forall (fun _ _ => True.intro) start run
  have keep : ∀ s a, Faithful s → True → (step s a).Faithful := fun _ a inv _ =>
    step_faithful a inv
  have faithful : t.Faithful := states_invariant keep start_faithful always t mem
  exact managedAsBuilt_iff (faithful.knew _ source from_) (faithful.stamps sig row source from_)

/-- A confluence zone around 2000. -/
def unicornLevel : CandidateLevel := ⟨2000, some (9 / 10), some "gd2", some 1999, some 2001⟩

/-- The signal of that level, built under these names. -/
def unicornSignal (A : ChannelAliases) : ReSignal :=
  (unicornLevel.buildSignal A .buy ⟨some 8, none⟩ "RE-1A2B3C" 100 "scale_out").row 1

def buildUnicorn : ProfileStep :=
  .build unicornLevel .buy ⟨some 8, none⟩ "RE-1A2B3C" 100 "scale_out"

/-- Under the names of the source, no GD2 signal carries the literal name. -/
theorem gd2_signal_on_ref_ladder :
    ¬ ∀ run, ∀ t ∈ states step start run, ∀ sig ∈ t.books.signals.rows, ∀ source,
      t.built sig.id = some source → sig.ManagedAsBuilt source := by
  intro managed
  have mine := managed [buildUnicorn] _ (foldl_mem_states step start _)
    (unicornSignal canonicalChannels) List.mem_cons_self ⟨unicornLevel, canonicalChannels⟩ rfl
  rw [managedAsBuilt_iff start_faithful.knows rfl] at mine
  exact absurd mine (by decide +kernel)

/-- The channel has gone back to its old title in the process that builds the signal. -/
def oldTitle : ChannelAliases :=
  aliasesAfterRename canonicalChannels "GOLD DIGGERS INSTITUTIONAL" gd2SourceChannel

theorem managed_as_built_old_title :
    (unicornSignal oldTitle).ManagedAsBuilt ⟨unicornLevel, oldTitle⟩ :=
  (managed_as_built_iff
    [.rename "GOLD DIGGERS INSTITUTIONAL" gd2SourceChannel false, buildUnicorn,
      .books 160 (.trigger 1 2001), .restart 200] _
    (List.mem_cons_of_mem _ (List.mem_cons_of_mem _ List.mem_cons_self))
    (unicornSignal oldTitle) List.mem_cons_self ⟨unicornLevel, oldTitle⟩ rfl).mpr
      (by decide +kernel)

end ProfileDesk
end Forex
