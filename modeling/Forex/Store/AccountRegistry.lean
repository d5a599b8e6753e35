import Mathlib.Data.List.AList
import Mathlib.Data.List.Sort
import Mathlib.Data.String.Basic
import Forex.Broker.Comments
import Forex.Support.Run

/-!
Which database file an MT5 account is handed: the registry on disk, the seeding
of a new file from another account's, and the watermark that is dropped with it.
Between two resolutions the app may leave anything in a file.
-/

namespace Forex
open Support

/-- An MT5 account: the environment and the login in it. -/
abbrev Account := String × String

/-- `SHARED_TABLES`. -/
def sharedTables : List String :=
  ["mt5_credentials", "vantage_risk_settings", "ea_trade_templates", "custom_strategies",
    "strategy_param_templates", "telegram_config", "email_config", "channel_parser_config",
    "channel_learned_rules", "logic_keyword_lexicons", "channel_strategy_rec", "dpm_calibration",
    "app_config", "vantage_fee_settings"]

/-- The tables that a seeded file keeps. -/
def travels (table : String) : Bool :=
  decide (table ∈ sharedTables) || "sqlite_".toList.isPrefixOf table.toList ||
    decide (table = "schema_version")

/-- A database file. A row is told by the account that it belongs to; the rows of
`app_config` are kept apart, by their keys. -/
structure AccountDb where
  tables : List (String × List Account)
  appConfig : Option (AList fun _ : String => String)

namespace AccountDb
variable (db : AccountDb)

/-- What the opening of a file that is not there leaves. -/
def empty : AccountDb := ⟨[], none⟩

def deleteFrom (table : String) : AccountDb :=
  { db with tables := db.tables.map fun t => if t.1 = table then (t.1, []) else t }

/-- The tables that seeding empties. -/
def cleared : List String := (db.tables.map Prod.fst).filter fun t => !travels t

def emptied : AccountDb := db.cleared.foldl deleteFrom db

/-- The account's own tables hold its rows only. -/
def HoldsOnly (who : Account) : Prop :=
  ∀ t ∈ db.tables, travels t.1 = false → ∀ row ∈ t.2, row = who

instance (who : Account) : Decidable (db.HoldsOnly who) :=
  inferInstanceAs
    (Decidable (∀ t ∈ db.tables, travels t.1 = false → ∀ row ∈ t.2, row = who))

end AccountDb

/-- Where seeding may fail. -/
inductive SeedStep where
  | copy
  | connect
  | tableNames
  | delete (k : ℕ)
  | commit
  | vacuum
  | close
deriving DecidableEq, Repr

/-- The failure comes between the copy and the commit, so that the deletions are
undone and the copy is not. -/
def SeedStep.keepsCopy (db : AccountDb) : SeedStep → Bool
  | .connect | .tableNames | .commit => true
  | .delete k => decide (k < db.cleared.length)
  | .copy | .vacuum | .close => false

/-- `_seed_shared_tables`: what the target holds afterwards, if it is there. -/
def seedSharedTables (source : AccountDb) : Option SeedStep → Option AccountDb
  | none => some source.emptied
  | some .copy => none
  | some fault => if fault.keepsCopy source then some source else some source.emptied

inductive ReanchorFault where
  | openFile
  | statement
deriving DecidableEq, Repr

/-- `reanchor_account_scoped_config` on a file. -/
def reanchorAccountScopedConfig (file : Option AccountDb) (login : String) :
    Option ReanchorFault → Option AccountDb
  | some .openFile => file
  | some .statement => some (file.getD .empty)
  | none =>
      let db := file.getD .empty
      match db.appConfig with
      | none => some db
      | some config =>
          if config.lookup "peak_balance_account" = some login then some db
          else
            some { db with
              appConfig :=
                some ((config.erase "peak_balance").insert "peak_balance_account" login) }

/-- A value in the registry: a text, or some other JSON value. -/
inductive RegistryValue where
  | text (name : String)
  | other
deriving DecidableEq, Repr

abbrev AccountFiles := AList fun _ : String => RegistryValue

/-- The file that a login is registered with. -/
def AccountFiles.known (files : AccountFiles) (login : String) : Option String :=
  match files.lookup login with
  | some (.text name) => if name = "" then none else some name
  | _ => none

/-- `json.dumps` sorts the keys. -/
def AccountFiles.sorted (files : AccountFiles) : AccountFiles where
  entries := files.entries.insertionSort fun a b => a.1 ≤ b.1
  nodupKeys :=
    (List.perm_nodupKeys (List.perm_insertionSort _ files.entries)).mpr files.nodupKeys

/-- The registry by environment; one that is missing, or no JSON object, reads as
empty. -/
abbrev AccountRegistry := String → AccountFiles

def defaultDbPath (env : String) : String := "forex_trader_" ++ env ++ ".db"

def accountDbPath (env login : String) : String :=
  "forex_trader_" ++ env ++ "_" ++ login ++ ".db"

/-- A file that was handed to an account. -/
structure HandedFile where
  env : String
  login : String
  file : String
deriving DecidableEq, Repr

structure DataDir where
  registry : AccountRegistry
  files : String → Option AccountDb
  handed : List HandedFile

/-- A call of `resolve_db_path`, and what goes wrong in it. -/
structure ResolveCall where
  env : String
  login : Option String
  readable : Bool
  seedFault : Option SeedStep
  saves : Bool
  reanchorFault : Option ReanchorFault

def ResolveCall.account (c : ResolveCall) : String :=
  match c.login with
  | some login => String.ofList (strip login.toList)
  | none => ""

namespace DataDir
variable (d : DataDir)

def setFile (name : String) (db : Option AccountDb) : DataDir :=
  { d with files := fun f => if f = name then db else d.files f }

/-- `_load`. -/
def load (c : ResolveCall) : AccountRegistry := if c.readable then d.registry else fun _ => ∅

/-- `_save` of a registry in which the account has this file. -/
def save (c : ResolveCall) (registry : AccountRegistry) (name : String) : DataDir :=
  if c.saves then
    { d with
      registry := fun e =>
        AccountFiles.sorted
          (if e = c.env then (registry e).insert c.account (.text name) else registry e) }
  else d

/-- The target of a new account, with the seeding; `none` when the first registered
value names no file. -/
def seeded (c : ResolveCall) (files : AccountFiles) (target : String) : Option DataDir :=
  if (d.files target).isSome then some d
  else
    match files.entries.head? with
    | none | some ⟨_, .other⟩ => none
    | some ⟨_, .text source⟩ =>
        match d.files source with
        | none => some d
        | some db => some (d.setFile target (seedSharedTables db c.seedFault))

def resolveFile (c : ResolveCall) : DataDir × String :=
  if c.account = "" then (d, defaultDbPath c.env)
  else
    let registry := d.load c
    let byEnv := registry c.env
    match byEnv.known c.account with
    | some name => (d, name)
    | none =>
        if byEnv.entries = [] then
          (d.save c registry (defaultDbPath c.env), defaultDbPath c.env)
        else
          let target := accountDbPath c.env c.account
          match d.seeded c byEnv target with
          | none => (d, defaultDbPath c.env)
          | some d => (d.save c registry target, target)

def resolveDbPath (c : ResolveCall) : DataDir × String :=
  let r := d.resolveFile c
  if c.account = "" then r
  else
    ({ r.1.setFile r.2
          (reanchorAccountScopedConfig (r.1.files r.2) c.account c.reanchorFault) with
        handed := ⟨c.env, c.account, r.2⟩ :: r.1.handed },
      r.2)

end DataDir

inductive AccountStep where
  | resolve (c : ResolveCall)
  | used (file : String) (db : AccountDb)

namespace DataDir
variable (d : DataDir)

def step : AccountStep → DataDir
  | .resolve c => (d.resolveDbPath c).1
  | .used file db => d.setFile file (some db)

/-- An account that has no file yet. -/
def New (env login : String) : Prop :=
  (d.registry env).known login = none ∧ ∀ h ∈ d.handed, h.env = env → h.login ≠ login

/-- The account is handed the file that it had before, and no other account's of
its environment; a new account's file holds no other account's rows. -/
def KeepsApart : AccountStep → Prop
  | .used _ _ => True
  | .resolve c =>
      c.account ≠ "" →
        (∀ h ∈ d.handed, h.env = c.env →
          (h.login = c.account ↔ h.file = (d.resolveDbPath c).2)) ∧
        (d.New c.env c.account →
          ∀ db ∈ (d.resolveDbPath c).1.files (d.resolveDbPath c).2,
            db.HoldsOnly (c.env, c.account))

/-- The target of a new account has no rows of another account. -/
def TargetClean (c : ResolveCall) (target : String) : Prop :=
  match d.files target with
  | some db => db.HoldsOnly (c.env, c.account)
  | none =>
      match (d.registry c.env).entries.head? with
      | none | some ⟨_, .other⟩ => False
      | some ⟨_, .text source⟩ =>
          ∀ db ∈ d.files source, ∀ fault ∈ c.seedFault,
            fault.keepsCopy db = true → db.HoldsOnly (c.env, c.account)

/-- The call reads the registry as it stands and writes what it adds; nobody else
of the environment has been handed the file, and a new account's has no rows of
another. -/
def Sound : AccountStep → Prop
  | .used _ _ => True
  | .resolve c =>
      c.account ≠ "" →
        (c.readable = true ∨ ∀ env, d.registry env = ∅) ∧
        match (d.registry c.env).known c.account with
        | some name => ∀ h ∈ d.handed, h.env = c.env → h.file = name → h.login = c.account
        | none =>
            c.saves = true ∧
            if (d.registry c.env).entries = [] then
              ∀ db ∈ d.files (defaultDbPath c.env), db.HoldsOnly (c.env, c.account)
            else
              (∀ h ∈ d.handed, h.env = c.env → h.file ≠ accountDbPath c.env c.account) ∧
                d.TargetClean c (accountDbPath c.env c.account)

/-- Every account that was handed a file is registered with it. -/
def Registered : Prop :=
  ∀ h ∈ d.handed, (d.registry h.env).known h.login = some h.file

end DataDir

section Seeding
variable {who : Account}

/-- Every table that was emptied, or is still to be, holds nothing else. -/
theorem foldl_deleteFrom_holds (names : List String) (db : AccountDb)
    (rest : ∀ t ∈ db.tables, travels t.1 = false → t.1 ∉ names → ∀ row ∈ t.2, row = who) :
    (names.foldl AccountDb.deleteFrom db).HoldsOnly who := by
  induction names generalizing db with
  | nil => exact fun t mem own row has => rest t mem own List.not_mem_nil row has
  | cons name names ih =>
      refine ih _ ?_
      intro t mem own out row has
      obtain ⟨t', mem', rfl⟩ := List.mem_map.mp mem
      split at has
      · cases has
      · next other =>
          rw [if_neg other] at own out
          exact rest t' mem' own (by simp [other, out]) row has

theorem emptied_holds (db : AccountDb) (who : Account) : db.emptied.HoldsOnly who := by
  refine foldl_deleteFrom_holds _ db ?_
  intro t mem own out
  refine absurd (List.mem_filter.mpr ⟨List.mem_map.mpr ⟨t, mem, rfl⟩, ?_⟩) out
  rw [own]
  rfl

theorem seedSharedTables_some (source : AccountDb) (fault : SeedStep) :
    seedSharedTables source (some fault) =
      if fault = .copy then none
      else if fault.keepsCopy source then some source else some source.emptied := by
  cases fault <;> rfl

theorem seedSharedTables_holds {source : AccountDb} {fault : Option SeedStep}
    (clean : ∀ f ∈ fault, f.keepsCopy source = true → source.HoldsOnly who) :
    ∀ db ∈ seedSharedTables source fault, db.HoldsOnly who := by
  intro db mem
  cases fault with
  | none =>
      cases mem
      exact emptied_holds source who
  | some f =>
      rw [seedSharedTables_some] at mem
      split at mem
      · cases mem
      · split at mem
        · next left =>
            cases mem
            exact clean f rfl left
        · cases mem
          exact emptied_holds source who

/-- The watermark is no row of the account's own tables. -/
theorem reanchor_holds {file : Option AccountDb} {login : String} {fault : Option ReanchorFault}
    (clean : ∀ db ∈ file, db.HoldsOnly who) :
    ∀ db ∈ reanchorAccountScopedConfig file login fault, db.HoldsOnly who := by
  have opened : (file.getD .empty).HoldsOnly who := by
    cases file with
    | none =>
        intro t mem
        cases mem
    | some db => exact clean db rfl
  intro db mem
  rw [reanchorAccountScopedConfig.eq_def] at mem
  split at mem
  · exact clean db mem
  · cases mem
    exact opened
  · dsimp only at mem
    split at mem
    · cases mem
      exact opened
    · split at mem
      · cases mem
        exact opened
      · cases mem
        exact opened

end Seeding

namespace AccountFiles
variable {files : AccountFiles} {login other name : String}

theorem known_sorted (files : AccountFiles) (login : String) :
    files.sorted.known login = files.known login := by
  have same : files.sorted.entries.Perm files.entries := List.perm_insertionSort _ _
  rw [known, known, AList.perm_lookup same]

theorem known_insert (files : AccountFiles) (login : String) (some : name ≠ "") :
    known (files.insert login (.text name)) login = .some name := by
  rw [known, AList.lookup_insert]
  exact if_neg some

theorem known_insert_ne (files : AccountFiles) (apart : other ≠ login) (value : RegistryValue) :
    known (files.insert login value) other = files.known other := by
  rw [known, known, AList.lookup_insert_ne apart]

theorem known_of_empty (none : files.entries = []) (login : String) :
    files.known login = .none := by
  have empty : files = ∅ := AList.ext none
  rw [empty]
  rfl

end AccountFiles

theorem defaultDbPath_ne_empty (env : String) : defaultDbPath env ≠ "" := by
  intro same
  exact absurd (String.append_eq_empty_iff.mp same).2 (by decide)

theorem accountDbPath_ne_empty (env login : String) : accountDbPath env login ≠ "" := by
  intro same
  exact absurd (String.append_eq_empty_iff.mp same).2 (by decide)

namespace DataDir
variable {d : DataDir} {c : ResolveCall} {name : String}

theorem save_known (registry : AccountRegistry) (saves : c.saves = true) (some : name ≠ "")
    (e l : String) :
    ((d.save c registry name).registry e).known l =
      if e = c.env ∧ l = c.account then .some name else (registry e).known l := by
  rw [save, if_pos saves]
  dsimp only
  rw [AccountFiles.known_sorted]
  by_cases env : e = c.env
  · subst env
    rw [if_pos rfl]
    by_cases login : l = c.account
    · rw [if_pos ⟨rfl, login⟩, login]
      exact AccountFiles.known_insert _ _ some
    · rw [if_neg fun both => login both.2]
      exact AccountFiles.known_insert_ne _ login _
  · rw [if_neg env, if_neg fun both => env both.1]

theorem save_files (registry : AccountRegistry) : (d.save c registry name).files = d.files := by
  rw [save]
  split <;> rfl

theorem save_handed (registry : AccountRegistry) : (d.save c registry name).handed = d.handed := by
  rw [save]
  split <;> rfl

theorem load_eq (read : c.readable = true ∨ ∀ env, d.registry env = ∅) :
    d.load c = d.registry := by
  rw [load]
  split
  · rfl
  · next unread =>
      funext env
      exact (read.resolve_left unread env).symm

/-- Seeding changes the target only, and leaves it with no rows of another account. -/
theorem seeded_clean {target : String} (clean : d.TargetClean c target) :
    ∃ d', d.seeded c (d.registry c.env) target = some d' ∧ d'.handed = d.handed ∧
      d'.registry = d.registry ∧ ∀ db ∈ d'.files target, db.HoldsOnly (c.env, c.account) := by
  rw [seeded]
  rw [TargetClean] at clean
  cases there : d.files target with
  | some db =>
      rw [there] at clean
      refine ⟨d, by simp, rfl, rfl, ?_⟩
      rw [there]
      intro db' mem
      cases mem
      exact clean
  | none =>
      rw [there] at clean
      rw [if_neg (by simp)]
      dsimp only at clean ⊢
      split at clean
      · cases clean
      · cases clean
      · next source head =>
          cases from' : d.files source with
          | none =>
              refine ⟨d, rfl, rfl, rfl, ?_⟩
              rw [there]
              intro db mem
              cases mem
          | some db =>
              refine ⟨_, rfl, rfl, rfl, ?_⟩
              rw [setFile]
              dsimp only
              rw [if_pos rfl]
              exact seedSharedTables_holds (clean db from')

/-- What the resolution of an account's file gives. -/
structure Resolved (d : DataDir) (c : ResolveCall) (r : DataDir × String) : Prop where
  own : (r.1.registry c.env).known c.account = some r.2
  others : ∀ e l, ¬ (e = c.env ∧ l = c.account) →
    (r.1.registry e).known l = (d.registry e).known l
  before : ∀ f, (d.registry c.env).known c.account = some f → f = r.2
  alone : ∀ h ∈ d.handed, h.env = c.env → h.file = r.2 → h.login = c.account
  clean : (d.registry c.env).known c.account = none →
    ∀ db ∈ r.1.files r.2, db.HoldsOnly (c.env, c.account)
  handed : r.1.handed = d.handed

theorem resolveFile_sound (named : c.account ≠ "") (registered : d.Registered)
    (sound : d.Sound (.resolve c)) : Resolved d c (d.resolveFile c) := by
  obtain ⟨read, sound⟩ := sound named
  rw [resolveFile, if_neg named, load_eq read]
  dsimp only
  cases known : (d.registry c.env).known c.account with
  | some name =>
      rw [known] at sound
      exact ⟨known, fun _ _ _ => rfl, fun f same => Option.some.inj (same.symm.trans known), sound,
        fun none => absurd (known.symm.trans none) (Option.some_ne_none name), rfl⟩
  | none =>
      rw [known] at sound
      obtain ⟨saves, sound⟩ := sound
      by_cases first : (d.registry c.env).entries = []
      · rw [if_pos first] at sound ⊢
        refine ⟨?_, ?_, ?_, ?_, ?_, save_handed _⟩
        · rw [save_known _ saves (defaultDbPath_ne_empty c.env), if_pos ⟨rfl, rfl⟩]
        · intro e l other
          rw [save_known _ saves (defaultDbPath_ne_empty c.env), if_neg other]
        · intro f some
          exact absurd (some.symm.trans known) (Option.some_ne_none f)
        · intro h mem env
          have some := registered h mem
          rw [env, AccountFiles.known_of_empty first] at some
          cases some
        · intro _
          rw [save_files]
          exact sound
      · rw [if_neg first] at sound ⊢
        obtain ⟨d', seeds, handed, registry, clean⟩ := seeded_clean sound.2
        rw [seeds]
        dsimp only
        refine ⟨?_, ?_, ?_, ?_, ?_, (save_handed _).trans handed⟩
        · rw [save_known _ saves (accountDbPath_ne_empty c.env c.account), if_pos ⟨rfl, rfl⟩]
        · intro e l other
          rw [save_known _ saves (accountDbPath_ne_empty c.env c.account), if_neg other]
        · intro f some
          exact absurd (some.symm.trans known) (Option.some_ne_none f)
        · intro h mem env same
          exact absurd same (sound.1 h mem env)
        · intro _
          rw [save_files]
          exact clean

theorem resolveDbPath_of_named (named : c.account ≠ "") :
    d.resolveDbPath c =
      ({ (d.resolveFile c).1.setFile (d.resolveFile c).2
            (reanchorAccountScopedConfig ((d.resolveFile c).1.files (d.resolveFile c).2)
              c.account c.reanchorFault) with
          handed := ⟨c.env, c.account, (d.resolveFile c).2⟩ :: (d.resolveFile c).1.handed },
        (d.resolveFile c).2) := by
  rw [resolveDbPath]
  exact if_neg named

theorem resolveDbPath_of_unnamed (unnamed : c.account = "") : (d.resolveDbPath c).1 = d := by
  rw [resolveDbPath, if_pos unnamed, resolveFile, if_pos unnamed]

theorem keepsApart_of_sound (registered : d.Registered) (a : AccountStep) (sound : d.Sound a) :
    d.KeepsApart a := by
  cases a with
  | used file db => exact True.intro
  | resolve c =>
      intro named
      have r := resolveFile_sound named registered sound
      rw [resolveDbPath_of_named named]
      constructor
      · intro h mem env
        constructor
        · intro login
          refine r.before h.file ?_
          rw [← env, ← login]
          exact registered h mem
        · exact r.alone h mem env
      · intro new
        dsimp only [setFile]
        rw [if_pos rfl]
        exact reanchor_holds (r.clean new.1)

theorem registered_step (registered : d.Registered) (a : AccountStep) (sound : d.Sound a) :
    (d.step a).Registered := by
  cases a with
  | used file db => exact registered
  | resolve c =>
      by_cases unnamed : c.account = ""
      · rw [step, resolveDbPath_of_unnamed unnamed]
        exact registered
      · have r := resolveFile_sound unnamed registered sound
        rw [step, resolveDbPath_of_named unnamed]
        intro h mem
        cases List.mem_cons.mp mem with
        | inl now =>
            subst now
            exact r.own
        | inr earlier =>
            rw [r.handed] at earlier
            have known := registered h earlier
            dsimp only [setFile]
            by_cases same : h.env = c.env ∧ h.login = c.account
            · rw [same.1, same.2] at known ⊢
              rw [r.own, r.before _ known]
            · rw [r.others _ _ same]
              exact known

/-- A data directory before the first resolution of a run. -/
def unresolved (registry : AccountRegistry) (files : String → Option AccountDb) : DataDir :=
  ⟨registry, files, []⟩

/-- A demo install with one trade of the account 25470480. -/
def oneTrade : String → Option AccountDb := fun f =>
  if f = "forex_trader_demo.db" then
    some ⟨[("mt5_credentials", [("demo", "25470480")]),
      ("vantage_simulated_trades", [("demo", "25470480")])], none⟩
  else none

/-- The account's own resolution, and that of a second one. -/
def twoLogins (fault : Option SeedStep) : List AccountStep :=
  [.resolve ⟨"demo", some "25470480", true, none, true, none⟩,
    .resolve ⟨"demo", some "26004592", true, fault, true, none⟩]

end DataDir

end Forex
