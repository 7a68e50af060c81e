import Mathlib.Data.List.Basic
import Strata.Settings

/-!
# Precedence of settings

Each key has the value of the highest layer that sets it, whatever the layers say about other keys. The
layers are the overrides, the environment, and the files in their order. A file that is named has to be
good, or nothing is loaded; a file that is only looked for is passed over if it is not. Which files are
named is known by their number alone, because they come first.
-/

namespace Strata.Settings

open Text

/-! ## Settings by key -/

/-- The keys of settings. -/
inductive Key where
  | dataDir
  | logDir
  | logLevel
  | logRetention
  | rateWindowSeconds
  | rateMax
  | mainBudget
  | probeBudget
  deriving DecidableEq, Repr

/-- What a key is set to. -/
inductive Entry where
  | text (s : String)
  | number (n : Nat)
  deriving DecidableEq, Repr

/-- What a layer sets a key to. -/
def get? (s : Settings) : Key → Option Entry
  | .dataDir => s.dataDir.map .text
  | .logDir => s.logDir.map .text
  | .logLevel => s.logLevel.map .text
  | .logRetention => s.logRetention.map .number
  | .rateWindowSeconds => s.rateWindowSeconds.map .number
  | .rateMax => s.rateMax.map .number
  | .mainBudget => s.mainBudget.map .number
  | .probeBudget => s.probeBudget.map .number

namespace Key

/-- The variable of the environment that sets a key. -/
def variableName : Key → String
  | dataDir => "TORICCY_DATA_DIR"
  | logDir => "TORICCY_LOG_DIR"
  | logLevel => "TORICCY_LOG_LEVEL"
  | logRetention => "TORICCY_LOG_RETENTION"
  | rateWindowSeconds => "TORICCY_RATE_WINDOW_SECS"
  | rateMax => "TORICCY_RATE_MAX"
  | mainBudget => "TORICCY_MAIN_BUDGET_MS"
  | probeBudget => "TORICCY_PROBE_BUDGET_MS"

/-- The bound of the numbers that a key can be set to; the other keys are set to texts. -/
def bound? : Key → Option Nat
  | dataDir | logDir | logLevel => none
  | rateMax => some narrow
  | logRetention | rateWindowSeconds | mainBudget | probeBudget => some wide

/-- What the text of its variable sets a key to: the text, or the number that it is without the blanks
around it, if it is one. -/
def ofVariable (k : Key) (text : String) : Option Entry :=
  match k.bound? with
  | none => some (.text text)
  | some bound => (Numeral.natBelow? bound (trim text)).map .number

end Key

variable {s t : Settings} {k : Key}

/-- Settings are known by their keys. -/
theorem ext_get? (h : ∀ k, s.get? k = t.get? k) : s = t := by
  have htext : ∀ {a b : Option String}, a.map Entry.text = b.map Entry.text → a = b :=
    fun h => Option.map_injective (fun _ _ => Entry.text.inj) h
  have hnumber : ∀ {a b : Option Nat}, a.map Entry.number = b.map Entry.number → a = b :=
    fun h => Option.map_injective (fun _ _ => Entry.number.inj) h
  cases s
  cases t
  rw [Settings.mk.injEq]
  exact ⟨htext (h .dataDir), htext (h .logDir), htext (h .logLevel), hnumber (h .logRetention),
    hnumber (h .rateWindowSeconds), hnumber (h .rateMax), hnumber (h .mainBudget),
    hnumber (h .probeBudget)⟩

/-! ## Layers -/

@[simp] theorem get?_empty (k : Key) : ({} : Settings).get? k = none := by
  cases k <;> rfl

@[simp] theorem get?_layeredOn (s t : Settings) (k : Key) :
    (s.layeredOn t).get? k = (s.get? k).or (t.get? k) := by
  cases k <;> simp [get?, layeredOn, Option.map_or]

theorem get?_ofEnvironment (env : String → Option String) (k : Key) :
    (ofEnvironment env).get? k = (env k.variableName).bind k.ofVariable := by
  have htext : ∀ o : Option String, o.map Entry.text = o.bind fun text => some (.text text) :=
    fun o => Option.map_eq_bind
  have hnumber : ∀ (name : String) (bound : Nat), (numberVariable env bound name).map Entry.number =
      (env name).bind fun text => (Numeral.natBelow? bound (trim text)).map .number :=
    fun name bound => Option.map_bind
  cases k with
  | dataDir | logDir | logLevel => exact htext _
  | rateMax | logRetention | rateWindowSeconds | mainBudget | probeBudget => exact hnumber _ _

theorem layeredOn_assoc (s t u : Settings) :
    (s.layeredOn t).layeredOn u = s.layeredOn (t.layeredOn u) :=
  ext_get? fun k => by simp [Option.or_assoc]

theorem empty_layeredOn (s : Settings) : ({} : Settings).layeredOn s = s :=
  ext_get? fun k => by simp

theorem layeredOn_empty (s : Settings) : s.layeredOn {} = s :=
  ext_get? fun k => by simp

/-! ## Files -/

section Files

variable {parse : String → Option Settings} {files : String → Option String}
  {required : Nat} {c : Candidate} {cs : List Candidate}

/-- A file is good, or there is something wrong with it. -/
theorem ofCandidate_cases (parse : String → Option Settings) (c : Candidate) :
    (∃ s, c.text.bind parse = some s ∧ ofCandidate parse c = .ok s) ∨
      (c.text.bind parse = none ∧ ∃ reason, ofCandidate parse c = .error (.io reason)) := by
  cases htext : c.text with
  | none => exact .inr ⟨rfl, _, by rw [ofCandidate, htext]⟩
  | some text =>
    cases hparse : parse text with
    | none => exact .inr ⟨hparse, _, by simp only [ofCandidate, htext, hparse]; rfl⟩
    | some s => exact .inl ⟨s, hparse, by simp only [ofCandidate, htext, hparse]⟩

/-- **Bad files stop the loading** if they are among those required. -/
theorem ofFiles_of_bad (hc : c ∈ cs.take required) (hbad : c.text.bind parse = none) :
    ∃ reason, ofFiles parse required cs = .error (.io reason) := by
  induction cs generalizing required with
  | nil => simp at hc
  | cons first rest ih =>
    -- at least one file is required, and so the first one is
    obtain ⟨n, rfl⟩ : ∃ n, required = n + 1 :=
      Nat.exists_eq_succ_of_ne_zero fun h => by simp [h] at hc
    rw [List.take_succ_cons, List.mem_cons] at hc
    rw [ofFiles]
    rcases ofCandidate_cases parse first with ⟨s, hgood, hok⟩ | ⟨-, reason, herror⟩
    · have hrest : c ∈ rest.take n :=
        hc.resolve_left fun h => by rw [h, hgood] at hbad; cases hbad
      obtain ⟨reason, hreason⟩ := ih hrest
      exact ⟨reason, by rw [hok, Nat.add_sub_cancel, hreason]; rfl⟩
    · exact ⟨reason, by rw [herror]; rfl⟩

/-- **The first file that sets a key wins**, if those required are good. -/
theorem ofFiles_of_good (hgood : ∀ c ∈ cs.take required, c.text.bind parse ≠ none) :
    ∃ s, ofFiles parse required cs = .ok s ∧
      ∀ k, s.get? k = cs.findSome? fun c => (c.text.bind parse).bind (get? · k) := by
  induction cs generalizing required with
  | nil => exact ⟨{}, rfl, get?_empty⟩
  | cons first rest ih =>
    have hrest : ∀ c ∈ rest.take (required - 1), c.text.bind parse ≠ none := by
      intro c hc
      cases required with
      | zero => simp at hc
      | succ n => exact hgood c (List.mem_cons_of_mem first hc)
    obtain ⟨t, ht, hget⟩ := ih hrest
    rcases ofCandidate_cases parse first with ⟨s, hfirst, hok⟩ | ⟨hbad, reason, herror⟩
    · refine ⟨s.layeredOn t, ?_, fun k => ?_⟩
      · rw [ofFiles, hok, ht]
        rfl
      · rw [get?_layeredOn, hget, List.findSome?_cons, hfirst, Option.bind_some]
        cases s.get? k <;> rfl
    · -- a file that is bad was not required, and none behind it is
      obtain rfl : required = 0 := by
        cases required with
        | zero => rfl
        | succ n => exact absurd hbad (hgood first List.mem_cons_self)
      refine ⟨t, ?_, fun k => ?_⟩
      · rw [ofFiles, herror]
        exact ht
      · rw [hget, List.findSome?_cons, hbad, Option.bind_none]

/-! ## Loading -/

/-- A file that is named, by the command line or by the environment, is missing or malformed. -/
def Places.Fail (p : Places) (env files : String → Option String)
    (parse : String → Option Settings) : Prop :=
  ∃ path, (p.commandLine = some path ∨ env fileVariable = some path) ∧
    (files path = none ∨ ∃ text, files path = some text ∧ parse text = none)

/-- What the file at a place sets a key to, if there is a place, a file and a well-formed text in it. -/
def entryAt (files : String → Option String) (parse : String → Option Settings) (k : Key)
    (place : Option String) : Option Entry :=
  place.bind fun path => (files path).bind fun text => (parse text).bind (get? · k)

/-- The files looked for, those that are named in front. -/
def Places.candidates (p : Places) (env files : String → Option String) : List Candidate :=
  (p.named env ++ p.probed).map fun path => ⟨path, files path⟩

theorem Places.load_eq (p : Places) (env : String → Option String) :
    p.load env files parse =
      (ofFiles parse (p.named env).length (p.candidates env files)).map
        (ofEnvironment env).layeredOn := by
  rw [Places.load, Settings.load, Places.candidates, List.map_append, List.length_map]

theorem Places.fail_iff (p : Places) (env : String → Option String) :
    p.Fail env files parse ↔
      ∃ c ∈ (p.candidates env files).take (p.named env).length, c.text.bind parse = none := by
  have hnamed : ∀ path, path ∈ p.named env ↔
      p.commandLine = some path ∨ env fileVariable = some path := by
    simp [Places.named]
  have hbad : ∀ o : Option String,
      o.bind parse = none ↔ o = none ∨ ∃ text, o = some text ∧ parse text = none := by
    intro o
    cases o <;> simp
  rw [Places.candidates, ← List.map_take, List.take_left]
  simp only [Places.Fail, List.mem_map, ← hnamed, ← hbad]
  constructor
  · rintro ⟨path, hpath, h⟩
    exact ⟨_, ⟨path, hpath, rfl⟩, h⟩
  · rintro ⟨_, ⟨path, hpath, rfl⟩, h⟩
    exact ⟨path, hpath, h⟩

/-- The files in their order are those at the four places. -/
theorem Places.findSome?_candidates (p : Places) (env : String → Option String) (k : Key) :
    ((p.candidates env files).findSome? fun c => (c.text.bind parse).bind (get? · k)) =
      [p.commandLine, env fileVariable, p.user, p.current].findSome?
        (entryAt files parse k) := by
  have hplace : ∀ place : Option String,
      (place.toList.findSome? fun path => ((files path).bind parse).bind (get? · k)) =
        entryAt files parse k place := by
    rintro (_ | path)
    · rfl
    · rw [Option.toList_some, List.findSome?_singleton, entryAt, Option.bind_some, Option.bind_assoc]
  have hcons : ∀ (place : Option String) (rest : List (Option String)),
      (place :: rest).findSome? (entryAt files parse k) =
        (entryAt files parse k place).or (rest.findSome? (entryAt files parse k)) := by
    intro place rest
    rw [List.findSome?_cons]
    cases entryAt files parse k place <;> rfl
  rw [Places.candidates, List.findSome?_map]
  simp only [Function.comp_def, Places.named, Places.probed, List.findSome?_append, hplace, hcons,
    List.findSome?_nil, Option.or_none, Option.or_assoc]

/-- A named file that is missing or malformed makes the loading fail. -/
theorem Places.load_of_fail {p : Places} {env : String → Option String}
    (h : p.Fail env files parse) : ∃ reason, p.load env files parse = .error (.io reason) := by
  obtain ⟨c, hc, hbad⟩ := (p.fail_iff env).mp h
  obtain ⟨reason, hreason⟩ := ofFiles_of_bad hc hbad
  exact ⟨reason, by rw [p.load_eq env, hreason]; rfl⟩

/-- Otherwise each key has the value of the environment, or else of the first place that sets it. -/
theorem Places.load_of_not_fail {p : Places} {env : String → Option String}
    (h : ¬ p.Fail env files parse) : ∃ s, p.load env files parse = .ok s ∧
      ∀ k, s.get? k = ((env k.variableName).bind k.ofVariable).or
        ([p.commandLine, env fileVariable, p.user, p.current].findSome? (entryAt files parse k)) := by
  rw [p.fail_iff env, not_exists] at h
  obtain ⟨s, hs, hget⟩ := ofFiles_of_good fun c hc hbad => h c ⟨hc, hbad⟩
  refine ⟨(ofEnvironment env).layeredOn s, by rw [p.load_eq env, hs]; rfl, fun k => ?_⟩
  rw [get?_layeredOn, get?_ofEnvironment, hget, p.findSome?_candidates env]

end Files

/-- **The highest layer that sets a key wins, for every key.** However the texts of files are parsed, loading
fails exactly if a file that the command line or the environment names is missing or malformed. Else
each key has the value of the environment, or that of the first place whose file sets it, or none.
Overrides stand above all this. Putting layers on each other is associative, and the empty layer makes
no difference. -/
theorem precedence (parse : String → Option Settings) :
    (∀ (p : Places) (env files : String → Option String),
      ((∃ reason, p.load env files parse = .error (.io reason)) ↔ p.Fail env files parse) ∧
      (¬ p.Fail env files parse → ∃ s, p.load env files parse = .ok s ∧
        ∀ k, s.get? k = ((env k.variableName).bind k.ofVariable).or
          ([p.commandLine, env fileVariable, p.user, p.current].findSome?
            (entryAt files parse k)))) ∧
    (∀ (s overrides : Settings) (k : Key),
      (s.withOverrides overrides).get? k = (overrides.get? k).or (s.get? k)) ∧
    (∀ s t u : Settings, (s.layeredOn t).layeredOn u = s.layeredOn (t.layeredOn u)) ∧
    ∀ s : Settings, ({} : Settings).layeredOn s = s ∧ s.layeredOn {} = s := by
  refine ⟨fun p env files => ⟨⟨fun herror => ?_, Places.load_of_fail⟩, Places.load_of_not_fail⟩,
    fun s overrides k => get?_layeredOn overrides s k, layeredOn_assoc,
    fun s => ⟨empty_layeredOn s, layeredOn_empty s⟩⟩
  by_contra h
  obtain ⟨reason, herror⟩ := herror
  obtain ⟨s, hok, -⟩ := Places.load_of_not_fail h
  rw [herror] at hok
  cases hok

/-- An environment that names a file, and sets one number with blanks around it and another one to what
is no number. -/
def busyEnvironment (name : String) : Option String :=
  [(fileVariable, "named.toml"), ("TORICCY_RATE_MAX", " 9 "),
    ("TORICCY_MAIN_BUDGET_MS", "soon")].lookup name

/-- A named file, a malformed file of the user and a file in the current directory. -/
def shelvedFiles (path : String) : Option String :=
  [("named.toml", "rate_limit_max = 5\nlog_level = \"warn\"\n"), ("user.toml", "log_level ="),
    ("toriccy.toml", "log_level = \"info\"\nmain_budget_ms = 100\n")].lookup path

/-- The malformed file is passed over where it is only looked for, and makes the loading fail where the
command line names it. -/
theorem precedence_busyEnvironment :
    let p : Places := ⟨none, some "user.toml", some "toriccy.toml"⟩
    let named : Places := ⟨some "user.toml", none, some "toriccy.toml"⟩
    ¬ p.Fail busyEnvironment shelvedFiles ofFile? ∧
    (∃ s, p.load busyEnvironment shelvedFiles = .ok s ∧ s.get? .rateMax = some (.number 9) ∧
      s.get? .logLevel = some (.text "warn") ∧ s.get? .mainBudget = some (.number 100) ∧
      s.get? .dataDir = none) ∧
    ∃ reason, named.load busyEnvironment shelvedFiles = .error (.io reason) := by
  intro p named
  have hvariable : busyEnvironment fileVariable = some "named.toml" := by decide +kernel
  have hgood : (shelvedFiles "named.toml").bind ofFile? ≠ none := by decide +kernel
  have hpasses : ¬ p.Fail busyEnvironment shelvedFiles ofFile? := by
    rintro ⟨path, hpath | hpath, hbad⟩
    · cases hpath
    · obtain rfl := Option.some.inj (hvariable.symm.trans hpath)
      refine hgood ?_
      rcases hbad with hmissing | ⟨text, htext, hmalformed⟩
      · rw [hmissing, Option.bind_none]
      · rw [htext, Option.bind_some, hmalformed]
  have hfails : named.Fail busyEnvironment shelvedFiles ofFile? :=
    ⟨"user.toml", .inl rfl, .inr ⟨"log_level =", by decide +kernel, by decide +kernel⟩⟩
  obtain ⟨s, hs, hget⟩ := ((precedence ofFile?).1 p busyEnvironment shelvedFiles).2 hpasses
  exact ⟨hpasses,
    ⟨s, hs, (hget .rateMax).trans (by decide +kernel), (hget .logLevel).trans (by decide +kernel),
      (hget .mainBudget).trans (by decide +kernel), (hget .dataDir).trans (by decide +kernel)⟩,
    ((precedence ofFile?).1 named busyEnvironment shelvedFiles).1.mpr hfails⟩

end Strata.Settings
