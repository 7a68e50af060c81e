import Strata.Proofs.Legibility
import Strata.Proofs.Loading

/-!
# The store only grows

Each call to the store adds records behind those that a level has. What a call adds is read off from
the call alone: a call that inserts records adds them to its level, and a call that loads a directory
adds whole files, level after level, up to the first file that cannot be read. So after any calls a
level holds the records given to it, in the order of the calls, each as it was given but for a fresh
identifier at its end if it came without one.
-/

namespace Strata

/-! ## Records in the store -/

/-- A record and the form in which it is stored: as it is if it has an identifier, else with an object
identifier as its last field. -/
inductive Stored (d : Document) : Document → Prop where
  | kept (h : (d.get? idField).isSome) : Stored d d
  | identified (h : d.get? idField = none) (id : ObjectId) : Stored d (d ++ [(idField, .objectId id)])

theorem stored_identify (nextId : Nat) (d : Document) : Stored d (identify nextId d).1 := by
  unfold identify
  cases hid : d.get? idField with
  | some v => exact .kept (by rw [hid]; rfl)
  | none =>
    have hnew : idField ∉ d.keys := by simp [Document.mem_keys_iff, hid]
    show Stored d (d.insert idField _)
    rw [Document.insert_of_not_mem hnew]
    exact .identified hid _

theorem forall₂_stored_identifyAll (nextId : Nat) (docs : List Document) :
    List.Forall₂ Stored docs (identifyAll nextId docs).1 := by
  induction docs generalizing nextId with
  | nil => exact .nil
  | cons d rest ih => exact .cons (stored_identify nextId d) (ih (identify nextId d).2)

namespace Store

/-- From one store to the next, a level grows by some records. -/
def Grows (s s' : Store) (l : Level) (docs : List Document) : Prop :=
  ∃ stored, List.Forall₂ Stored docs stored ∧ s'.snapshot l = s.snapshot l ++ stored

namespace Grows

variable {s s' s'' : Store} {l : Level} {docs more : List Document}

theorem refl (s : Store) (l : Level) : s.Grows s l [] := ⟨[], .nil, (List.append_nil _).symm⟩

theorem trans (h : s.Grows s' l docs) (h' : s'.Grows s'' l more) :
    s.Grows s'' l (docs ++ more) := by
  obtain ⟨stored, hstored, hs'⟩ := h
  obtain ⟨others, hothers, hs''⟩ := h'
  refine ⟨stored ++ others, List.rel_append hstored hothers, ?_⟩
  rw [hs'', hs', List.append_assoc]

theorem snapshot_eq (h : s.Grows s' l []) : s'.snapshot l = s.snapshot l := by
  obtain ⟨stored, hstored, hs'⟩ := h
  rw [hs', List.forall₂_nil_left_iff.mp hstored, List.append_nil]

theorem size_eq (h : s.Grows s' l docs) : s'.size l = s.size l + docs.length := by
  obtain ⟨stored, hstored, hs'⟩ := h
  rw [size, hs', List.length_append, ← hstored.length_eq]
  rfl

end Grows

theorem grows_insert (s : Store) (level : Level) (docs : List Document) (l : Level) :
    s.Grows (s.insert level docs) l (if l = level then docs else []) := by
  rw [Grows, snapshot_insert]
  split
  next h => exact ⟨_, forall₂_stored_identifyAll s.nextId docs, h ▸ rfl⟩
  next => exact ⟨[], .nil, (List.append_nil _).symm⟩

theorem insert_nil (s : Store) (level : Level) : s.insert level [] = s := by
  unfold insert
  simp only [identifyAll, List.append_nil]
  cases level <;> rfl

end Store

/-! ## Loading a directory -/

theorem Level.nodup_all : Level.all.Nodup := by decide

theorem Level.mem_all (l : Level) : l ∈ Level.all := by cases l <;> decide

namespace Folder

/-- The records in the file of a level; a level without a file has none. -/
def read (f : Folder) (l : Level) : Except FileFault (List Document) :=
  match f.file? l with
  | none => .ok []
  | some file => file.records

/-- The records in the file of a level, if it can be read. -/
def records (f : Folder) (l : Level) : List Document := (f.read l).toOption.getD []

/-- The levels in front of the first one whose file cannot be read. -/
def goodLevels (f : Folder) : List Level := Level.all.takeWhile fun l => (f.read l).isOk

/-- The levels among some that have a file, each with the number of its records. -/
def report (f : Folder) (levels : List Level) : LoadReport :=
  (levels.filter fun l => (f.file? l).isSome).map fun l => (l, (f.records l).length)

variable {f : Folder} {l : Level} {docs : List Document}

theorem report_cons (f : Folder) (l : Level) (rest : List Level) :
    f.report (l :: rest) = f.report [l] ++ f.report rest := by
  rw [report, report, report, ← List.map_append, ← List.filter_append, List.singleton_append]

theorem records_of_read (h : f.read l = .ok docs) : f.records l = docs := by
  rw [records, h]
  rfl

theorem read_eq_of_isOk (h : (f.read l).isOk) : f.read l = .ok (f.records l) := by
  cases hread : f.read l with
  | error e => simp [hread, Except.isOk, Except.toBool] at h
  | ok docs => rw [records_of_read hread]

end Folder

namespace Store

variable {f : Folder} {first : Level} {docs : List Document}

/-- Inserts the records that are given for each of some levels. -/
def insertAll (s : Store) (given : Level → List Document) (levels : List Level) : Store :=
  levels.foldl (fun s l => s.insert l (given l)) s

/-- Loading stops at a file that cannot be read. -/
theorem loadLevels_cons_of_error (s : Store) {e : FileFault} (h : f.read first = .error e) (rest : List Level) :
    s.loadLevels f (first :: rest) = (.error (f.fault first e), s) := by
  unfold Folder.read at h
  rw [loadLevels]
  cases hfile : f.file? first with
  | none => simp [hfile] at h
  | some file =>
    rw [hfile] at h
    simp only [h]

/-- Loading goes on behind a file that can be read. A level without a file counts as one with an empty
file, except that it is not reported. -/
theorem loadLevels_cons_of_ok (s : Store) (h : f.read first = .ok docs) (rest : List Level) :
    s.loadLevels f (first :: rest)
      = (((s.insert first docs).loadLevels f rest).1.map (f.report [first] ++ ·),
        ((s.insert first docs).loadLevels f rest).2) := by
  have hreport : f.report [first]
      = if (f.file? first).isSome then [(first, docs.length)] else [] := by
    rw [Folder.report, List.filter_singleton]
    cases f.file? first <;> simp [Folder.records_of_read h]
  unfold Folder.read at h
  rw [loadLevels, hreport]
  cases hfile : f.file? first with
  | none =>
    rw [hfile] at h
    obtain rfl : [] = docs := Except.ok.inj h
    rw [insert_nil]
    show s.loadLevels f rest = ((s.loadLevels f rest).1.map id, (s.loadLevels f rest).2)
    rw [Except.map_id]
    rfl
  | some file =>
    rw [hfile] at h
    simp only [h]
    rfl

/-- Loading goes on to the first file that cannot be read; it inserts the files before that one, or
all of them. -/
theorem loadLevels_cases (s : Store) (f : Folder) (levels : List Level) :
    (∃ before level after e, levels = before ++ level :: after ∧
      (∀ l ∈ before, (f.read l).isOk) ∧ f.read level = .error e ∧
      s.loadLevels f levels = (.error (f.fault level e), s.insertAll f.records before)) ∨
    ((∀ l ∈ levels, (f.read l).isOk) ∧
      s.loadLevels f levels = (.ok (f.report levels), s.insertAll f.records levels)) := by
  induction levels generalizing s with
  | nil => exact .inr ⟨fun _ h => absurd h List.not_mem_nil, rfl⟩
  | cons first rest ih =>
    cases hread : f.read first with
    | error e =>
      exact .inl ⟨[], first, rest, e, rfl, fun _ h => absurd h List.not_mem_nil, hread,
        loadLevels_cons_of_error s hread rest⟩
    | ok docs =>
      have hok : (f.read first).isOk := by rw [hread]; rfl
      have hinsert (levels : List Level) : s.insertAll f.records (first :: levels)
          = (s.insert first docs).insertAll f.records levels := by
        rw [insertAll, List.foldl_cons, Folder.records_of_read hread, insertAll]
      rcases ih (s.insert first docs) with
        ⟨before, level, after, e, hlevels, hbefore, hbad, hload⟩ | ⟨hrest, hload⟩
      · refine .inl ⟨first :: before, level, after, e, by rw [hlevels]; rfl, ?_, hbad, ?_⟩
        · exact List.forall_mem_cons.mpr ⟨hok, hbefore⟩
        · rw [loadLevels_cons_of_ok s hread, hload, hinsert]
          rfl
      · refine .inr ⟨List.forall_mem_cons.mpr ⟨hok, hrest⟩, ?_⟩
        rw [loadLevels_cons_of_ok s hread, hload, hinsert, f.report_cons first rest]
        rfl

/-- Each of different levels grows by the records that are given for it, and no other level grows. -/
theorem grows_insertAll (s : Store) (given : Level → List Document) {levels : List Level}
    (h : levels.Nodup) (l : Level) :
    s.Grows (s.insertAll given levels) l (if l ∈ levels then given l else []) := by
  induction levels generalizing s with
  | nil => exact Grows.refl s l
  | cons first rest ih =>
    obtain ⟨hfirst, hrest⟩ := List.nodup_cons.mp h
    have hgrows := (grows_insert s first (given first) l).trans (ih (s.insert first _) hrest)
    have hgiven : (if l ∈ first :: rest then given l else [])
        = (if l = first then given first else []) ++ if l ∈ rest then given l else [] := by
      by_cases hl : l = first
      · subst hl
        simp [hfirst]
      · simp [hl]
    rw [hgiven]
    exact hgrows

/-- Loading a directory lets each level before the first bad file grow by its file, and no other level. -/
theorem grows_load (s : Store) (f : Folder) (l : Level) :
    s.Grows (s.load f).2 l (if l ∈ f.goodLevels then f.records l else []) := by
  unfold load Folder.goodLevels
  rcases loadLevels_cases s f Level.all with
    ⟨before, level, after, e, hall, hbefore, hbad, hload⟩ | ⟨hgood, hload⟩
  · have htake : Level.all.takeWhile (fun l => (f.read l).isOk) = before := by
      rw [hall, List.takeWhile_append_of_pos hbefore, List.takeWhile_cons, hbad]
      exact List.append_nil before
    have hnodup : (before ++ level :: after).Nodup := hall ▸ Level.nodup_all
    rw [hload, htake]
    exact grows_insertAll s f.records (List.nodup_append.mp hnodup).1 l
  · rw [hload, List.takeWhile_eq_self_iff.mpr hgood]
    exact grows_insertAll s f.records Level.nodup_all l

/-! ## Runs -/

/-- A call that adds records to the store. A path may lead to no directory. -/
inductive Call where
  | insert (level : Level) (docs : List Document)
  | load (path : String) (folder? : Option Folder)

/-- The store after a call. -/
def perform (s : Store) : Call → Store
  | .insert level docs => s.insert level docs
  | .load path folder? => (s.loadAt path folder?).2

/-- The store after calls. -/
def run (s : Store) (calls : List Call) : Store := calls.foldl perform s

/-- The records that a call gives to a level. -/
def Call.given (l : Level) : Call → List Document
  | .insert level docs => if l = level then docs else []
  | .load _ none => []
  | .load _ (some f) => if l ∈ f.goodLevels then f.records l else []

theorem grows_perform (s : Store) (c : Call) (l : Level) : s.Grows (s.perform c) l (c.given l) := by
  cases c with
  | insert level docs => exact grows_insert s level docs l
  | load path folder? =>
    cases folder? with
    | none => exact Grows.refl s l
    | some f => exact grows_load s f l

/-- What calls give to a level comes in their order. -/
theorem grows_run (s : Store) (calls : List Call) (l : Level) :
    s.Grows (s.run calls) l (calls.flatMap (Call.given l)) := by
  induction calls generalizing s with
  | nil => exact Grows.refl s l
  | cons c rest ih =>
    rw [List.flatMap_cons]
    exact (grows_perform s c l).trans (ih (s.perform c))

/-! ## Outcomes of loading -/

variable {s s' : Store} {e : Fault}

/-- Loading a directory has stopped at a level: the levels before have grown by their whole files, and
that level and those after it are as they were. -/
def StoppedAt (s s' : Store) (f : Folder) (level : Level) : Prop :=
  ∃ before after, Level.all = before ++ level :: after ∧
    (∀ l ∈ before, ∃ docs, f.read l = .ok docs ∧ s.Grows s' l docs) ∧
    ∀ l ∈ level :: after, s'.snapshot l = s.snapshot l

/-- Loading a directory has come to its end: each level has grown by its whole file, and the report
lists the levels that have a file, each with the number of its new records. -/
def Completed (s s' : Store) (f : Folder) (r : LoadReport) : Prop :=
  (∀ l, ∃ docs, f.read l = .ok docs ∧ s.Grows s' l docs) ∧
    r.map Prod.fst = Level.all.filter (fun l => (f.file? l).isSome) ∧
    ∀ p ∈ r, s'.size p.1 = s.size p.1 + p.2

theorem stoppedAt_of_load (h : s.load f = (.error e, s')) :
    ∃ level reason, f.read level = .error reason ∧ e = f.fault level reason ∧
      s.StoppedAt s' f level := by
  rw [load] at h
  rcases loadLevels_cases s f Level.all with
    ⟨before, level, after, reason, hall, hbefore, hbad, hload⟩ | ⟨-, hload⟩
  · rw [hload] at h
    obtain ⟨he, rfl⟩ := Prod.mk.inj h
    have hnodup : (before ++ level :: after).Nodup := hall ▸ Level.nodup_all
    obtain ⟨hbeforeNodup, -, hdisjoint⟩ := List.nodup_append.mp hnodup
    have hgrows := grows_insertAll s f.records hbeforeNodup
    refine ⟨level, reason, hbad, (Except.error.inj he).symm, before, after, hall, ?_, ?_⟩
    · intro l hl
      have hl' := hgrows l
      rw [if_pos hl] at hl'
      exact ⟨f.records l, Folder.read_eq_of_isOk (hbefore l hl), hl'⟩
    · intro l hl
      have hl' := hgrows l
      rw [if_neg fun hmem => hdisjoint l hmem l hl rfl] at hl'
      exact hl'.snapshot_eq
  · rw [hload] at h
    cases (Prod.mk.inj h).1

theorem completed_of_load {r : LoadReport} (h : s.load f = (.ok r, s')) : s.Completed s' f r := by
  rw [load] at h
  rcases loadLevels_cases s f Level.all with ⟨_, _, _, _, -, -, -, hload⟩ | ⟨hgood, hload⟩
  · rw [hload] at h
    cases (Prod.mk.inj h).1
  · rw [hload] at h
    obtain ⟨hr, rfl⟩ := Prod.mk.inj h
    obtain rfl : f.report Level.all = r := Except.ok.inj hr
    have hgrows (l : Level) : s.Grows (s.insertAll f.records Level.all) l (f.records l) := by
      have hl := grows_insertAll s f.records Level.nodup_all l
      rwa [if_pos (Level.mem_all l)] at hl
    refine ⟨?_, ?_, ?_⟩
    · intro l
      exact ⟨f.records l, Folder.read_eq_of_isOk (hgood l (Level.mem_all l)), hgrows l⟩
    · rw [Folder.report, List.map_map]
      exact List.map_id _
    · intro p hp
      obtain ⟨l, -, rfl⟩ := List.mem_map.mp hp
      exact (hgrows l).size_eq

/-- **The store only grows, level by level.** After any calls from an empty store, successful or not,
a level holds the records that the calls gave to it, in the order of the calls and as stored. A load
fails without a directory, and then changes nothing, or at a bad file, where it stops. A load that
succeeds has read and added every file. -/
theorem grows_level_by_level :
    (∀ (firstId : Nat) (calls : List Call) (l : Level),
      List.Forall₂ Stored (calls.flatMap (Call.given l)) (((empty firstId).run calls).snapshot l)) ∧
    ∀ (s s' : Store) (path : String) (folder? : Option Folder),
      (∀ e, s.loadAt path folder? = (.error e, s') →
        (folder? = none ∧ e = notDirectory path ∧ s' = s) ∨
          ∃ f level reason, folder? = some f ∧ f.read level = .error reason ∧
            e = f.fault level reason ∧ s.StoppedAt s' f level) ∧
      ∀ r, s.loadAt path folder? = (.ok r, s') →
        ∃ f, folder? = some f ∧ s.Completed s' f r := by
  constructor
  · intro firstId calls l
    obtain ⟨stored, hstored, hsnapshot⟩ := grows_run (empty firstId) calls l
    have hempty : (empty firstId).snapshot l = [] := by cases l <;> rfl
    rw [hsnapshot, hempty, List.nil_append]
    exact hstored
  · intro s s' path folder?
    cases folder? with
    | none =>
      refine ⟨fun e h => .inl ?_, fun r h => nomatch (Prod.mk.inj h).1⟩
      obtain ⟨he, hs⟩ := Prod.mk.inj h
      exact ⟨rfl, (Except.error.inj he).symm, hs.symm⟩
    | some f =>
      refine ⟨fun e h => .inr ?_, fun r h => ⟨f, rfl, completed_of_load h⟩⟩
      obtain ⟨level, reason, hstopped⟩ := stoppedAt_of_load h
      exact ⟨f, level, reason, rfl, hstopped⟩

/-- A directory with a record of the first level and one of the third. The file of the second level
is given. -/
def middleFolder (geometries : String) : Folder where
  path := "data"
  file?
    | .poly => some (.opened (Text.Utf8.encode "\x7b\"POLYID\":1\x7d\n") none)
    | .geom => some (.opened (Text.Utf8.encode geometries) none)
    | .triang => some (.opened (Text.Utf8.encode "\x7b\"TRIANGN\":1\x7d") none)
    | _ => none

/-- A load of `middleFolder`. -/
def loadMiddle (geometries : String) : Except Fault LoadReport × Store :=
  (empty 1).loadAt "data" (some (middleFolder geometries))

/-- A file whose last line is bad adds nothing, and the levels behind it are not reached. With the
last line mended, all three files are added and reported. -/
theorem grows_loadMiddle :
    (∃ e s', loadMiddle "\x7b\x7d\n[]" = (.error e, s') ∧
      s'.size .poly = 1 ∧ s'.snapshot .geom = [] ∧ s'.size .triang = 0) ∧
    ∃ r s', loadMiddle "\x7b\x7d\n\x7b\x7d" = (.ok r, s') ∧
      r.map Prod.fst = [.poly, .geom, .triang] ∧ ∀ p ∈ r, s'.size p.1 = p.2 := by
  constructor
  · have hfails : (loadMiddle "\x7b\x7d\n[]").1.isOk = false := by decide +kernel
    have hpoly : (loadMiddle "\x7b\x7d\n[]").2.size .poly = 1 := by decide +kernel
    have htriang : (loadMiddle "\x7b\x7d\n[]").2.size .triang = 0 := by decide +kernel
    have hgood : ∀ l ∈ [Level.poly, .triang, .invol, .swisscheese],
        ((middleFolder "\x7b\x7d\n[]").read l).isOk := by decide +kernel
    rcases hload : loadMiddle "\x7b\x7d\n[]" with ⟨outcome, s'⟩
    rw [hload] at hfails hpoly htriang
    cases outcome with
    | ok r => cases hfails
    | error e =>
      refine ⟨e, s', rfl, hpoly, ?_, htriang⟩
      rcases (grows_level_by_level.2 (empty 1) s' "data" _).1 e hload with
        ⟨h, -⟩ | ⟨f, level, reason, hf, hbad, -, before, after, -, -, hafter⟩
      · cases h
      · obtain rfl := Option.some.inj hf
        have hlevel : level = .geom := by
          by_contra hne
          have hread : ((middleFolder "\x7b\x7d\n[]").read level).isOk :=
            hgood level (by cases level <;> simp_all)
          rw [hbad] at hread
          cases hread
        subst hlevel
        exact hafter .geom List.mem_cons_self
  · have hloads : (loadMiddle "\x7b\x7d\n\x7b\x7d").1.isOk = true := by decide +kernel
    rcases hload : loadMiddle "\x7b\x7d\n\x7b\x7d" with ⟨outcome, s'⟩
    rw [hload] at hloads
    cases outcome with
    | error e => cases hloads
    | ok r =>
      obtain ⟨f, hf, -, hlevels, hsizes⟩ :=
        (grows_level_by_level.2 (empty 1) s' "data" _).2 r hload
      obtain rfl := Option.some.inj hf
      refine ⟨r, s', rfl, hlevels, ?_⟩
      intro p hp
      have hempty : (empty 1).size p.1 = 0 := by cases p.1 <;> rfl
      rw [hsizes p hp, hempty, Nat.zero_add]

end Store

end Strata
