import StackDeploy.Config
import StackDeploy.Files.Tree
import StackDeploy.Proofs.Files.Path
import StackDeploy.Proofs.Yaml.Field

/-!
# What comes before what

The configuration file is the nearest one, and one that cannot be used is an error. What it says
holds where the environment says nothing else, field by field, and a default where neither does.

* `Config.Finds` — the file that is used.
* `Config.Settles` — the configuration that the environment and a document come to.
* `Config.Loads` — what comes of the file that is used.
* `Config.load_by_precedence` — the program finds this file and loads this configuration.
-/

namespace StackDeploy

/-! ### Times -/

/-- One of the **times** that a configuration settles. -/
inductive PollingField where
  | eventInterval
  | statusInterval
  | changeSetInterval
  | changeSetTimeout
  | deployTimeout
deriving DecidableEq

namespace PollingField

/-- The name of the time in a configuration file. -/
def name : PollingField → String
  | eventInterval => "event_interval_seconds"
  | statusInterval => "status_interval_seconds"
  | changeSetInterval => "change_set_interval_seconds"
  | changeSetTimeout => "change_set_timeout_seconds"
  | deployTimeout => "deploy_timeout_seconds"

/-- The seconds that hold if the file gives none. -/
def default : PollingField → Nat
  | eventInterval => 3
  | statusInterval => 5
  | changeSetInterval => 2
  | changeSetTimeout => 600
  | deployTimeout => 3600

/-- The time in a configuration, in seconds. -/
def seconds : PollingField → Polling → Nat
  | eventInterval, p => p.eventInterval
  | statusInterval, p => p.statusInterval
  | changeSetInterval, p => p.changeSetInterval
  | changeSetTimeout, p => p.changeSetTimeout
  | deployTimeout, p => p.deployTimeout

/-- The time in the timing of operations, in milliseconds. -/
def milliseconds : PollingField → DeploySettings → Nat
  | eventInterval, s => s.eventInterval
  | statusInterval, s => s.statusInterval
  | changeSetInterval, s => s.review.interval
  | changeSetTimeout, s => s.review.timeout
  | deployTimeout, s => s.timeout

variable {d : Yaml.Document} {p : Polling}

theorem seconds_default (field : PollingField) : field.seconds .default = field.default := by
  cases field <;> rfl

theorem milliseconds_deploySettings {seconds : Nat} (field : PollingField)
    (h : field.seconds p = seconds) : field.milliseconds p.deploySettings = 1000 * seconds := by
  subst h
  cases field <;> exact Nat.mul_comm _ _

/-- A document **gives** a time these seconds, or none. -/
inductive GivenIn (field : PollingField) (d : Yaml.Document) : Option Nat → Prop
  /-- It has no part about polling. -/
  | noPart (h : d.valuesAt? d.root "polling" = some []) : GivenIn field d none
  | part {node : Yaml.Node} {said : Option Nat}
      (h : d.valuesAt? d.root "polling" = some [node])
      (hsaid : d.Gives d.asNumber? node field.name said) : GivenIn field d said

/-- A time is read as what its mapping **gives**, or as the default. -/
theorem gives_of_polling? {node : Yaml.Node} (field : PollingField)
    (h : ConfigFile.polling? d node = some p) :
    ∃ said, d.Gives d.asNumber? node field.name said ∧
      field.seconds p = said.getD field.default := by
  rw [ConfigFile.polling?] at h
  obtain ⟨fields, hfields, h⟩ := Option.bind_eq_some_iff.mp h
  obtain ⟨event, hevent, h⟩ := Option.bind_eq_some_iff.mp h
  obtain ⟨status, hstatus, h⟩ := Option.bind_eq_some_iff.mp h
  obtain ⟨changeSet, hchangeSet, h⟩ := Option.bind_eq_some_iff.mp h
  obtain ⟨timeout, htimeout, h⟩ := Option.bind_eq_some_iff.mp h
  obtain ⟨deploy, hdeploy, h⟩ := Option.bind_eq_some_iff.mp h
  obtain rfl := Option.some.inj h
  have hread : ∀ {name : String} {default seconds : Nat}, name ∈ ConfigFile.pollingNames →
      (Yaml.fieldOr fields name none (d.asOption? d.asNumber?)).map (·.getD default)
        = some seconds →
      ∃ said, d.Gives d.asNumber? node name said ∧ seconds = said.getD default := by
    intro name default seconds hname hseconds
    obtain ⟨said, hsaid, rfl⟩ := Option.map_eq_some_iff.mp hseconds
    exact ⟨said, Yaml.Document.gives_of_fieldOr hfields hname hsaid, rfl⟩
  cases field with
  | eventInterval => exact hread (by decide) hevent
  | statusInterval => exact hread (by decide) hstatus
  | changeSetInterval => exact hread (by decide) hchangeSet
  | changeSetTimeout => exact hread (by decide) htimeout
  | deployTimeout => exact hread (by decide) hdeploy

theorem givenIn_of_fieldOr {names : List String} {fields : Table String Yaml.Node}
    (field : PollingField) (h : d.fields? names d.root = some fields) (hname : "polling" ∈ names)
    (hpolling : Yaml.fieldOr fields "polling" .default (ConfigFile.polling? d) = some p) :
    ∃ said, field.GivenIn d said ∧ field.seconds p = said.getD field.default := by
  have hvalues := Yaml.Document.valuesAt?_of_fields? h hname
  rw [Yaml.fieldOr] at hpolling
  cases hget : fields.get? "polling" with
  | none =>
    rw [hget] at hpolling hvalues
    obtain rfl := Option.some.inj hpolling
    exact ⟨none, .noPart hvalues, field.seconds_default⟩
  | some node =>
    rw [hget] at hpolling hvalues
    obtain ⟨said, hsaid, hseconds⟩ := field.gives_of_polling? hpolling
    exact ⟨said, .part hvalues hsaid, hseconds⟩

end PollingField

namespace Config

/-! ### Finding the file -/

/-- The path at which the configuration file is **found**. -/
inductive Finds (files : Files Id) (directory home : String) : Option String → Prop
  /-- In the nearest directory in which there is one. -/
  | project {nearer farther : List String} {nearest : String}
      (haround : Path.Ancestry directory (nearer ++ nearest :: farther))
      (hnearer : ∀ dir ∈ nearer, files.contains (projectFile dir) = false)
      (hfound : files.contains (projectFile nearest) = true) :
      Finds files directory home (some (projectFile nearest))
  | home {around : List String} (haround : Path.Ancestry directory around)
      (hall : ∀ dir ∈ around, files.contains (projectFile dir) = false)
      (hfound : files.contains (Path.join home "config.yaml") = true) :
      Finds files directory home (some (Path.join home "config.yaml"))
  | nowhere {around : List String} (haround : Path.Ancestry directory around)
      (hall : ∀ dir ∈ around, files.contains (projectFile dir) = false)
      (hhome : files.contains (Path.join home "config.yaml") = false) :
      Finds files directory home none

variable {files : Files Id} {env : Environment} {home : String}

theorem firstExisting_eq_find? (files : Files Id) (paths : List String) :
    (firstExisting files paths).run = paths.find? files.contains := by
  induction paths with
  | nil => rfl
  | cons path rest ih =>
    have hstep : (firstExisting files (path :: rest)).run =
        bif files.contains path then some path else (firstExisting files rest).run := by
      rw [firstExisting]
      cases files.contains path <;> rfl
    rw [hstep, ih, List.find?_cons]
    cases files.contains path <;> rfl

/-- Enough steps lead through **all directories around** a path. -/
theorem ancestry_around {fuel : Nat} {path : String} (h : path.length < fuel) :
    Path.Ancestry path (around fuel path) := by
  induction fuel generalizing path with
  | zero => cases h
  | succ fuel ih =>
    rw [around]
    cases hparent : Path.parent? path with
    | none => exact .root hparent
    | some parent =>
      exact .up hparent (ih ((Path.length_parent? hparent).trans_le (Nat.le_of_lt_succ h)))

theorem finds_find (files : Files Id) (env : Environment) (home : String) :
    Finds files env.workingDirectory home (find files env home).run := by
  have haround : Path.Ancestry env.workingDirectory (searched env) :=
    ancestry_around (Nat.lt_succ_self _)
  rw [find, firstExisting_eq_find?, candidates, List.find?_append, List.find?_map]
  cases hproject : (searched env).find? (files.contains ∘ projectFile) with
  | some nearest =>
    obtain ⟨hfound, nearer, farther, heq, hnearer⟩ := List.find?_eq_some_iff_append.mp hproject
    rw [heq] at haround
    exact .project haround (fun dir hdir => by simpa using hnearer dir hdir) hfound
  | none =>
    have hall : ∀ dir ∈ searched env, files.contains (projectFile dir) = false := fun dir hdir => by
      simpa using List.find?_eq_none.mp hproject dir hdir
    cases hhome : files.contains (Path.join home "config.yaml") with
    | true =>
      rw [List.find?_cons_of_pos hhome]
      exact .home haround hall hhome
    | false =>
      rw [List.find?_cons_of_neg (by simp [hhome])]
      exact .nowhere haround hall hhome

/-! ### Settling the values -/

/-- A text of blank characters only. -/
def Blank (text : String) : Prop := ∀ c ∈ text.toList, Text.isBlank c = true

/-- The first of two values that is there and not blank. -/
inductive Prefers (first second : Option String) : Option String → Prop
  | first {text : String} (h : first = some text) (hne : ¬ Blank text) :
      Prefers first second (some text)
  | second {text : String} (hfirst : ∀ other, first = some other → Blank other)
      (h : second = some text) (hne : ¬ Blank text) : Prefers first second (some text)
  | neither (hfirst : ∀ other, first = some other → Blank other)
      (hsecond : ∀ other, second = some other → Blank other) : Prefers first second none

/-- What a document **says**, if there is one, where `gives` tells what a document gives. -/
inductive Says {α : Type} (gives : Yaml.Document → Option α → Prop) :
    Option Yaml.Document → Option α → Prop
  | noFile : Says gives none none
  | file {d : Yaml.Document} {said : Option α} (h : gives d said) : Says gives (some d) said

/-- The environment and a document, if there is one, **come to** a configuration. -/
structure Settles (env : Environment) (home : String) (path : Option String)
    (document : Option Yaml.Document) (c : Config) : Prop where
  home : c.home = home
  file : c.file = path
  endpoint : ∃ said, Says (fun d => d.Gives d.asText? d.root "endpoint") document said ∧
    Prefers (env.lookup "STACKCTL_ENDPOINT") said c.endpoint
  token : ∃ said, Says (fun d => d.Gives d.asText? d.root "token") document said ∧
    Prefers (env.lookup "STACKCTL_TOKEN") said c.token
  polling : ∀ field : PollingField, ∃ said, Says field.GivenIn document said ∧
    field.seconds c.polling = said.getD field.default ∧
    field.milliseconds c.polling.deploySettings = 1000 * said.getD field.default

theorem given_eq_some_iff {value : Option String} {text : String} :
    given value = some text ↔ value = some text ∧ ¬ Blank text := by
  rw [given, Option.filter_eq_some_iff, Text.isBlankText]
  simp [Blank]

theorem given_eq_none_iff {value : Option String} :
    given value = none ↔ ∀ text, value = some text → Blank text := by
  rw [given, Option.filter_eq_none_iff]
  simp [Blank, Text.isBlankText]

theorem prefers_or (first second : Option String) :
    Prefers first second ((given first).or (given second)) := by
  cases hfirst : given first with
  | some text =>
    obtain ⟨h, hne⟩ := given_eq_some_iff.mp hfirst
    exact .first h hne
  | none =>
    have hblank := given_eq_none_iff.mp hfirst
    cases hsecond : given second with
    | some text =>
      obtain ⟨h, hne⟩ := given_eq_some_iff.mp hsecond
      exact .second hblank h hne
    | none => exact .neither hblank (given_eq_none_iff.mp hsecond)

theorem settles_resolve_empty (env : Environment) (home : String) :
    Settles env home none none (resolve env home none .empty) where
  home := rfl
  file := rfl
  endpoint := ⟨none, .noFile, prefers_or _ _⟩
  token := ⟨none, .noFile, prefers_or _ _⟩
  polling field :=
    ⟨none, .noFile, field.seconds_default, field.milliseconds_deploySettings field.seconds_default⟩

variable {d : Yaml.Document} {file : ConfigFile} {path : String}

theorem settles_resolve (h : ConfigFile.ofDocument? d = some file) :
    Settles env home (some path) (some d) (resolve env home (some path) file) := by
  rw [ConfigFile.ofDocument?] at h
  obtain ⟨fields, hfields, h⟩ := Option.bind_eq_some_iff.mp h
  obtain ⟨_, -, h⟩ := Option.bind_eq_some_iff.mp h
  obtain ⟨endpoint, hendpoint, h⟩ := Option.bind_eq_some_iff.mp h
  obtain ⟨token, htoken, h⟩ := Option.bind_eq_some_iff.mp h
  obtain ⟨polling, hpolling, h⟩ := Option.bind_eq_some_iff.mp h
  obtain rfl := Option.some.inj h
  have htext : ∀ {name : String} {said : Option String}, name ∈ ConfigFile.fieldNames →
      Yaml.fieldOr fields name none (d.asOption? d.asText?) = some said →
      Says (fun d => d.Gives d.asText? d.root name) (some d) said := fun hname hsaid =>
    .file (Yaml.Document.gives_of_fieldOr hfields hname hsaid)
  refine ⟨rfl, rfl, ⟨endpoint, htext (by decide) hendpoint, prefers_or _ _⟩,
    ⟨token, htext (by decide) htoken, prefers_or _ _⟩, fun field => ?_⟩
  obtain ⟨said, hsaid, hseconds⟩ := field.givenIn_of_fieldOr hfields (by decide) hpolling
  exact ⟨said, .file hsaid, hseconds, field.milliseconds_deploySettings hseconds⟩

/-! ### Loading -/

/-- What **comes of** the file that is used. One that cannot be used is an error. -/
inductive Loads (files : Files Id) (env : Environment) (home : String) :
    Option String → Except Error Config → Prop
  | defaults {c : Config} (h : Settles env home none none c) : Loads files env home none (.ok c)
  | unreadable {path : String} {cause : FileError} (hread : files.read path = .error cause) :
      Loads files env home (some path) (.error (.unreadable path cause))
  | malformed {path text : String} (hread : files.read path = .ok text)
      (hfile : ConfigFile.ofYaml? text = none) :
      Loads files env home (some path) (.error (.malformed path))
  | file {path text : String} {d : Yaml.Document} {c : Config}
      (hread : files.read path = .ok text) (hfile : (ConfigFile.ofYaml? text).isSome)
      (hdocument : Yaml.Document.ofText? text = some d)
      (h : Settles env home (some path) (some d) c) : Loads files env home (some path) (.ok c)

theorem loads_load (hhome : home? env = some home) :
    Loads files env home (find files env home).run (load files env).run := by
  rw [load, hhome]
  dsimp only
  rw [Id.run_bind]
  cases (find files env home).run with
  | none => exact .defaults (settles_resolve_empty env home)
  | some path =>
    dsimp only
    rw [Id.run_bind]
    cases hread : (files.read path).run with
    | error cause => exact .unreadable hread
    | ok text =>
      dsimp only
      cases hfile : ConfigFile.ofYaml? text with
      | none => exact .malformed hread hfile
      | some file =>
        obtain ⟨d, hdocument, hrecord⟩ := Option.bind_eq_some_iff.mp hfile
        exact .file hread (Option.isSome_of_mem hfile) hdocument (settles_resolve hrecord)

/-- The program **finds** the nearest configuration file and **loads** what the environment, the
file and the defaults come to, in this order. Around a working directory lie the places on the way
from the root. -/
theorem load_by_precedence (files : Files Id) (hhome : home? env = some home) :
    Finds files env.workingDirectory home (find files env home).run ∧
      Loads files env home (find files env home).run (load files env).run ∧
      ∀ place : Place, (∀ name ∈ place, Path.IsFileName name) →
        env.workingDirectory = Path.ofPlace place → ∀ around,
          Path.Ancestry env.workingDirectory around ↔
            around = place.inits.reverse.map Path.ofPlace := by
  refine ⟨finds_find files env home, loads_load hhome, fun place hplace hworking around => ?_⟩
  rw [hworking]
  exact Path.ancestry_ofPlace_iff hplace

/-- Somebody at work in a project, with blank variables; the account tells the home directory. -/
def workstation : Environment where
  lookup
    | "HOME" => some ""
    | "STACKCTL_ENDPOINT" => some " "
    | "STACKCTL_TOKEN" => some "mine"
    | _ => none
  workingDirectory := "/srv/app/web"
  accountHome := some "/home/dev"

/-- The project, which has a configuration file, in a directory that has one as well. -/
def workstationFiles : Files Id :=
  let project := "endpoint: https://stacks.example\ntoken: ours\npolling:\n" ++
    "  deploy_timeout_seconds: 120\n  event_interval_seconds: ~\n"
  FileTree.toFiles
    { files := [(["srv", "app", ".stackctl", "config.yaml"], Utf8.encode project),
        (["srv", ".stackctl", "config.yaml"], Utf8.encode "endpoint: [")]
      directories := [["srv", "app", "web"]] }
    ["srv", "app", "web"]

theorem workstation_loads_project_file :
    home? workstation = some "/home/dev/.stackctl" ∧
      Finds workstationFiles "/srv/app/web" "/home/dev/.stackctl"
        (some "/srv/app/.stackctl/config.yaml") ∧
      Loads workstationFiles workstation "/home/dev/.stackctl"
        (some "/srv/app/.stackctl/config.yaml")
        (.ok
          { home := "/home/dev/.stackctl"
            endpoint := some "https://stacks.example"
            token := some "mine"
            file := some "/srv/app/.stackctl/config.yaml"
            polling := ⟨3, 5, 2, 600, 120⟩ }) ∧
      ∀ around, Path.Ancestry "/srv/app/web" around ↔
        around = ["/srv/app/web", "/srv/app", "/srv", "/"] := by
  have hhome : home? workstation = some "/home/dev/.stackctl" := by decide +kernel
  have hfind : (find workstationFiles workstation "/home/dev/.stackctl").run =
      some "/srv/app/.stackctl/config.yaml" := by decide +kernel
  have hload : (load workstationFiles workstation).run = .ok
      { home := "/home/dev/.stackctl"
        endpoint := some "https://stacks.example"
        token := some "mine"
        file := some "/srv/app/.stackctl/config.yaml"
        polling := ⟨3, 5, 2, 600, 120⟩ } := by decide +kernel
  obtain ⟨hfinds, hloads, hplaces⟩ := load_by_precedence workstationFiles hhome
  rw [hfind] at hfinds hloads
  rw [hload] at hloads
  refine ⟨hhome, hfinds, hloads, fun around => ?_⟩
  have hnames : ∀ name ∈ ["srv", "app", "web"], Path.IsFileName name := by
    simp only [List.forall_mem_cons]
    exact ⟨⟨rfl, by decide⟩, ⟨rfl, by decide⟩, ⟨rfl, by decide⟩, nofun⟩
  exact hplaces ["srv", "app", "web"] hnames (by decide +kernel) around

end Config

end StackDeploy
