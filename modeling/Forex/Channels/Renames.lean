import Forex.Channels.Performance
import Forex.Support.Run

/-!
What a rename loses. Only the names of the alias table are moved, so an unlisted channel
keeps its old name; and where the new name has a row, that row's pause stays in force,
and so does its strategy unless the old row has one.
-/

namespace Forex
open Support

/-- What the user has set for a channel. -/
@[ext]
structure ChannelSettings where
  strategyOverride : Option String
  autoStrategy : Bool
  /-- Paused by hand. -/
  manualPause : Bool
deriving DecidableEq, Repr

def PerformanceRow.settings (r : PerformanceRow) : ChannelSettings :=
  ⟨r.strategyOverride, r.autoStrategy, r.paused && r.manualOverride⟩

/-- Without a row, nothing is set. -/
def settingsOf (row : Option PerformanceRow) : ChannelSettings :=
  (row.getD .empty).settings

/-- What is set under the new name when the row of the old channel comes to it: its own
row, with the strategy of the row under the stored title, where there are such rows. -/
def standing (own title : Option PerformanceRow) : Option ChannelSettings :=
  match own, title with
  | own, none => own.map PerformanceRow.settings
  | none, some title => some title.settings
  | some own, some title =>
      some
        (if title.strategyOverride.isSome then
          { own.settings with
            strategyOverride := title.strategyOverride
            autoStrategy := title.autoStrategy }
        else own.settings)

/-- The settings of the old channel's row come through what stands under the new name. -/
def PassesThrough (row : Option PerformanceRow) : Option ChannelSettings → Prop
  | none => True
  | some standing =>
      standing.manualPause = (settingsOf row).manualPause ∧
        ((settingsOf row).strategyOverride = none →
          standing.strategyOverride = none ∧
            standing.autoStrategy = (settingsOf row).autoStrategy)

namespace RenameNames

/-- The row under the stored title, where the title is not the name of the bucket. -/
def titleRow (names : RenameNames) (performance : Performance) : Option PerformanceRow :=
  if names.canon = names.old then none else performance names.old

end RenameNames

namespace ChannelDesk
variable (s : ChannelDesk)

/-- A call of `sync_channel_rename` that has two names to work with. -/
def Renames (oldName newName : String) : Prop :=
  stripped oldName ≠ "" ∧ stripped newName ≠ "" ∧ stripped oldName ≠ stripped newName

/-- Every source of the old channel is one of the new channel, and what was set for the
old channel is set for the new one. -/
structure KeepsChannel (s t : ChannelDesk) (oldName newName : String) : Prop where
  sources : ∀ source, s.canonical source = s.canonical (stripped oldName) →
    t.canonical source = stripped newName
  settings : settingsOf (t.performance (stripped newName)) =
    settingsOf (s.performance (s.canonical (stripped oldName)))

/-- The rename is of two names, and loses nothing. -/
def LosesNothing (s : ChannelDesk) (a : String × String) : Prop :=
  Renames a.1 a.2 → s.KeepsChannel (s.syncChannelRename a.1 a.2) a.1 a.2

/-- The old channel is in the alias table, and its settings come through what stands
under the new name. -/
def Carried (s : ChannelDesk) (names : RenameNames) : Prop :=
  s.aliases.entries.Lists names.old ∧
    PassesThrough (s.performance names.canon)
      (standing (s.performance names.new) (names.titleRow s.performance))

/-- The rename does not take place, or everything is carried. -/
def RenameCarries (s : ChannelDesk) (a : String × String) : Prop :=
  ∀ names, renameNames s.aliases.entries a.1 a.2 = some names → s.Carried names

end ChannelDesk

/-- The row under the new name once a row of the old one has been folded into it. -/
def absorbed (there : Option PerformanceRow) : Option PerformanceRow → Option PerformanceRow
  | none => there
  | some row =>
      some (match there with
        | none => row
        | some there =>
            if row.strategyOverride.isSome then
              { there with
                strategyOverride := row.strategyOverride
                autoStrategy := row.autoStrategy }
            else there)

section Fold
variable {p : Performance} {old new name : String}

theorem foldRenamedRow_new (ne : old ≠ new) :
    ChannelDesk.foldRenamedRow p old new new = absorbed (p new) (p old) := by
  rw [ChannelDesk.foldRenamedRow]
  cases p old with
  | none => rfl
  | some row =>
      dsimp only
      rw [Function.update_of_ne ne.symm, Function.update_self]
      cases p new <;> rfl

theorem foldRenamedRow_other (notOld : name ≠ old) (notNew : name ≠ new) :
    ChannelDesk.foldRenamedRow p old new name = p name := by
  rw [ChannelDesk.foldRenamedRow]
  cases p old with
  | none => rfl
  | some row =>
      dsimp only
      rw [Function.update_of_ne notOld, Function.update_of_ne notNew]

theorem standing_eq (own title : Option PerformanceRow) :
    standing own title = (absorbed own title).map PerformanceRow.settings := by
  cases title with
  | none => cases own <;> rfl
  | some title =>
      cases own with
      | none => rfl
      | some own =>
          rw [standing, absorbed, Option.map_some]
          dsimp only
          split <;> rfl

/-- The fold leaves the settings of the old row in force exactly when they pass through. -/
theorem settingsOf_absorbed_iff (there row : Option PerformanceRow) :
    settingsOf (absorbed there row) = settingsOf row ↔
      PassesThrough row (there.map PerformanceRow.settings) := by
  cases there with
  | none => cases row <;> simp [absorbed, PassesThrough]
  | some there =>
      cases row with
      | none =>
          rw [absorbed, ChannelSettings.ext_iff]
          constructor
          · rintro ⟨strategy, auto, pause⟩
            exact ⟨pause, fun _ => ⟨strategy, auto⟩⟩
          · rintro ⟨pause, rest⟩
            exact ⟨(rest rfl).1, (rest rfl).2, pause⟩
      | some row =>
          rw [absorbed, ChannelSettings.ext_iff]
          cases set : row.strategyOverride with
          | none =>
              rw [if_neg (by simp)]
              constructor
              · rintro ⟨strategy, auto, pause⟩
                exact ⟨pause, fun _ => ⟨strategy.trans set, auto⟩⟩
              · rintro ⟨pause, rest⟩
                exact ⟨(rest set).1.trans set.symm, (rest set).2, pause⟩
          | some strategy =>
              rw [if_pos Option.isSome_some]
              constructor
              · rintro ⟨-, -, pause⟩
                exact ⟨pause, fun unset => nomatch set.symm.trans unset⟩
              · rintro ⟨pause, -⟩
                exact ⟨set.symm, rfl, pause⟩

end Fold

namespace ChannelDesk
variable {s : ChannelDesk} {names : RenameNames} {oldName newName : String}

/-- The names of a rename that takes place. -/
theorem renameNames_some (done : renameNames s.aliases.entries oldName newName = some names) :
    Renames oldName newName ∧ names.old = stripped oldName ∧
      names.canon = s.canonical (stripped oldName) ∧ names.new = stripped newName ∧
      names.canon ≠ names.new := by
  simp only [renameNames] at done
  split at done
  · cases done
  · next two =>
      split at done
      · cases done
      · next other =>
          rw [not_or, not_or] at two
          obtain rfl := Option.some.inj done
          exact ⟨two, rfl, rfl, rfl, other⟩

/-- A call with two names that is no rename finds the new name in use already. -/
theorem canonical_of_renameNames_none (renames : Renames oldName newName)
    (none : renameNames s.aliases.entries oldName newName = none) :
    s.canonical (stripped oldName) = stripped newName := by
  simp only [renameNames] at none
  rw [if_neg (by simp only [not_or]; exact renames)] at none
  split at none
  · next same => exact same
  · cases none

theorem syncChannelRename_of_some
    (done : renameNames s.aliases.entries oldName newName = some names) :
    (s.syncChannelRename oldName newName).aliases.entries =
        names.moveAliases s.aliases.entries ∧
      (s.syncChannelRename oldName newName).performance =
        if names.canon = names.old then foldRenamedRow s.performance names.old names.new
        else foldRenamedRow (foldRenamedRow s.performance names.old names.new) names.canon
          names.new := by
  simp only [syncChannelRename]
  split
  · next none => exact nomatch none.symm.trans done
  · next found =>
      obtain rfl := Option.some.inj (found.symm.trans done)
      exact ⟨rfl, rfl⟩

/-- A listed source that leads to the old name leads to the new one. -/
theorem canonical_moveAliases_of_lists {A : ChannelAliases} {source : String}
    (listed : A.Lists source) (leads : Forex.canonical A source = names.canon) :
    Forex.canonical (names.moveAliases A) source = names.new := by
  have moved : ∀ name, A.get name = some names.canon →
      (names.moveAliases A).get name = some names.new := by
    intro name was
    rw [A.get_moveAliases, was]
    simp
  cases whole : A.get source with
  | some canon =>
      rw [canonical_of_get whole] at leads
      exact canonical_of_get (moved source (leads ▸ whole))
  | none =>
      obtain ⟨canon, bare⟩ := Option.isSome_iff_exists.mp (listed.resolve_left (by simp [whole]))
      rw [canonical_of_get_none whole, bare, Option.getD_some] at leads
      have next := moved (bareName source) (leads ▸ bare)
      by_cases same : source = names.new
      · refine canonical_of_get ?_
        rw [A.get_moveAliases, if_pos same]
      · have unlisted : (names.moveAliases A).get source = none := by
          rw [A.get_moveAliases, if_neg same, whole]
          rfl
        rw [canonical_of_get_none unlisted, next]
        rfl

/-- An unlisted source goes on leading to its own name. -/
theorem canonical_moveAliases_of_not_lists {A : ChannelAliases} {source : String}
    (unlisted : ¬ A.Lists source) (notNew : source ≠ names.new)
    (bareNotNew : bareName source ≠ names.new) :
    Forex.canonical (names.moveAliases A) source = bareName source := by
  refine canonical_of_not_lists ?_
  rw [ChannelAliases.Lists, not_or, Option.not_isSome_iff_eq_none,
    Option.not_isSome_iff_eq_none] at unlisted ⊢
  rw [A.get_moveAliases, A.get_moveAliases, if_neg notNew, if_neg bareNotNew, unlisted.1,
    unlisted.2]
  exact ⟨rfl, rfl⟩

/-- The sources follow exactly when the old name is in the alias table. -/
theorem sources_follow_iff (done : renameNames s.aliases.entries oldName newName = some names) :
    (∀ source, s.canonical source = s.canonical (stripped oldName) →
        (s.syncChannelRename oldName newName).canonical source = stripped newName) ↔
      s.aliases.entries.Lists names.old := by
  obtain ⟨renames, old, canon, new, other⟩ := renameNames_some done
  have moved := (syncChannelRename_of_some done).1
  simp only [canonical, moved]
  constructor
  · intro follow
    by_contra unlisted
    have stays := follow (stripped oldName) rfl
    have bare := canonical_of_not_lists unlisted
    rw [old] at unlisted bare
    have notNew : bareName (stripped oldName) ≠ names.new := by
      rw [← bare]
      exact fun same => other (canon.trans same)
    rw [canonical_moveAliases_of_not_lists unlisted (new ▸ renames.2.2) notNew, ← new] at stays
    exact notNew stays
  · intro listed source leads
    rw [old] at listed
    have known : s.aliases.entries.Lists source := by
      rw [← get_canonical_isSome_iff s.aliases.settled, leads,
        get_canonical_isSome_iff s.aliases.settled]
      exact listed
    rw [← new]
    exact canonical_moveAliases_of_lists known (leads.trans canon.symm)

/-- The settings stay in force exactly when they pass through what is under the new name. -/
theorem settings_follow_iff (done : renameNames s.aliases.entries oldName newName = some names) :
    settingsOf ((s.syncChannelRename oldName newName).performance (stripped newName)) =
        settingsOf (s.performance (s.canonical (stripped oldName))) ↔
      PassesThrough (s.performance names.canon)
        (standing (s.performance names.new) (names.titleRow s.performance)) := by
  obtain ⟨renames, old, canon, new, other⟩ := renameNames_some done
  have title : names.old ≠ names.new := by
    rw [old, new]
    exact renames.2.2
  rw [(syncChannelRename_of_some done).2, ← canon, ← new, standing_eq, RenameNames.titleRow]
  by_cases same : names.canon = names.old
  · rw [if_pos same, if_pos same, foldRenamedRow_new title, ← same]
    exact settingsOf_absorbed_iff _ _
  · rw [if_neg same, if_neg same, foldRenamedRow_new other, foldRenamedRow_new title,
      foldRenamedRow_other same other]
    exact settingsOf_absorbed_iff _ _

theorem losesNothing_iff (a : String × String) : s.LosesNothing a ↔ s.RenameCarries a := by
  obtain ⟨oldName, newName⟩ := a
  rw [LosesNothing, RenameCarries]
  dsimp only
  cases done : renameNames s.aliases.entries oldName newName with
  | none =>
      refine iff_of_true (fun renames => ?_) fun _ none => nomatch none
      have same := canonical_of_renameNames_none renames done
      have idle : s.syncChannelRename oldName newName = s := by
        rw [syncChannelRename, done]
      rw [idle]
      exact ⟨fun source leads => leads.trans same, by rw [same]⟩
  | some names =>
      have renames := (renameNames_some done).1
      constructor
      · intro keeps found same
        rw [← Option.some.inj same]
        have kept := keeps renames
        exact ⟨(sources_follow_iff done).mp kept.sources,
          (settings_follow_iff done).mp kept.settings⟩
      · intro carried _
        have whole := carried names rfl
        exact ⟨(sources_follow_iff done).mpr whole.1, (settings_follow_iff done).mpr whole.2⟩

/-- Along any sequence of renames, over any content of the table: each loses nothing
exactly when the channel is listed and its settings pass through. -/
theorem renames_lose_nothing_iff (s : ChannelDesk) (renames : List (String × String)) :
    Meets (fun s a => s.syncChannelRename a.1 a.2) LosesNothing s renames ↔
      Meets (fun s a => s.syncChannelRename a.1 a.2) RenameCarries s renames :=
  meets_congr (fun _ a => losesNothing_iff a) s renames

/-- A listed channel, paused by hand, and a row under the name that it is given. -/
def pausedVip : ChannelDesk where
  performance name :=
    if name = "Gold Diggers VIP" then some { PerformanceRow.empty with
      paused := true, manualOverride := true }
    else if name = "Gold VIP" then some .empty
    else none
  aliases := .ofSource
  trades := []

/-- A channel that the alias table does not have, and a pause under a name in use. -/
theorem rename_loses :
    (¬ LosesNothing ⟨fun _ => none, .ofSource, []⟩ ("Gold A", "Gold B")) ∧
      ¬ ∀ s renames, Meets (fun s a => s.syncChannelRename a.1 a.2) LosesNothing s renames := by
  constructor
  · rw [losesNothing_iff]
    intro carries
    have unlisted := (carries ⟨"Gold A", "Gold A", "Gold B"⟩ (by decide)).1
    exact absurd unlisted (by decide)
  · intro all
    have first := (all pausedVip [("Gold Diggers VIP", "Gold VIP")]).1
    rw [losesNothing_iff] at first
    have pause := (first ⟨"Gold Diggers VIP", "Gold Diggers VIP", "Gold VIP"⟩
      (by decide)).2.1
    exact absurd pause (by decide)

end ChannelDesk
end Forex
