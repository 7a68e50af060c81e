import Mathlib.Data.List.Forall2
import Mathlib.Data.List.Nodup
import Strata.Proofs.Validation

/-!
# What validation reports

`Wrong r p i` says that place `p` of request `r` breaks a rule, and that `i` is the issue to be
reported for it. Validation goes through the places of a request in order; a wrong place adds its
issue and any other place adds nothing. So the issues of a request are those of its wrong places, one
for each of them, whatever is wrong elsewhere.
-/

namespace Strata

open Text

/-! ## Rules -/

/-- The part of a condition that a refusal is about. -/
def Fault.part : Fault → String
  | .fieldNotFilterable _ _ => "field"
  | .operatorNotAllowed _ _ _ => "op"
  | _ => "value"

/-- The wording of a refused condition. -/
def Fault.wording : Fault → String
  | .validation [i] => i.message
  | e => e.message

/-- What is wrong with a field to sort by. -/
inductive BadSort (allowed : List String) (field : String) : String → Prop
  | blank : isBlankText field = true → BadSort allowed field "must not be empty"
  | forbidden : isBlankText field = false → field ∉ allowed →
      BadSort allowed field ("not sortable: " ++ field)

/-- What is wrong with the column at a position of a list. -/
inductive BadColumn (l : Level) (columns : List String) (n : Nat) : String → Prop
  | repeated {c : String} : columns[n]? = some c → c ∈ columns.take n →
      BadColumn l columns n ("duplicate column " ++ c)
  | unknown {c : String} : columns[n]? = some c → c ∉ columns.take n → c ∉ l.columns →
      BadColumn l columns n ("unknown column " ++ l.name ++ "." ++ c)

/-- Which part of a condition is wrong, and in which way. -/
inductive BadCondition (l : Level) (c : Condition) : String → String → Prop
  | blank : isBlankText c.field = true → BadCondition l c "field" "must not be empty"
  | refused {e : Fault} : isBlankText c.field = false → c.check l = .error e →
      BadCondition l c e.part e.wording

/-- A place of a request that has to be in order. -/
inductive Place where
  | collection
  | baseCollection
  | pageSize (key : String)
  | rootSort
  | column (l : Level) (n : Nat)
  | condition (l : Level) (n : Nat)
  | joinSort (j : Join)
  | cursor
  deriving DecidableEq

/-- The join that a place is about. -/
def Place.join? : Place → Option Join
  | column l _ | condition l _ => l.join?
  | joinSort j => some j
  | _ => none

theorem Join.join?_level (j : Join) : j.level.join? = some j := by
  cases j <;> rfl

/-- The path of the columns of a level. -/
def columnsPath (l : Level) : String :=
  match l.join? with
  | none => "base.columns"
  | some j => "joinColumns." ++ j.name

/-- The path of the conditions on a level. -/
def conditionsPath (l : Level) : String :=
  match l.join? with
  | none => "base.conditions"
  | some j => "joinConditions." ++ j.name

namespace Request

/-- The columns that a request gives for a level. -/
def columnsFor (r : Request) (l : Level) : List String :=
  match l.join? with
  | none => r.base.columns
  | some j => r.joinColumns.get j

/-- The conditions that a request gives for a level. -/
def conditionsFor (r : Request) (l : Level) : List Condition :=
  match l.join? with
  | none => r.base.conditions
  | some j => r.joinConditions.get j

/-- The place breaks a rule, and this is its issue. -/
inductive Wrong (r : Request) : Place → Issue → Prop
  | collection : r.baseCollection ≠ .poly → Wrong r .collection ⟨"baseCollection", "must be POLY"⟩
  | baseCollection : r.base.collection ≠ .poly →
      Wrong r .baseCollection ⟨"base.collection", "must be POLY"⟩
  | pageSize {key : String} {size : Int64} : (key, size) ∈ r.paging.entries →
      size.toInt < 1 ∨ 200 < size.toInt →
      Wrong r (.pageSize key) ⟨"paging." ++ key ++ ".pageSize", "must be between 1 and 200"⟩
  | rootSort {message : String} : BadSort Level.poly.sortable r.sort.field message →
      Wrong r .rootSort ⟨"sort.field", message⟩
  | column {l : Level} {n : Nat} {message : String} : BadColumn l (r.columnsFor l) n message →
      Wrong r (.column l n) ⟨columnsPath l, message⟩
  | condition {l : Level} {n : Nat} {c : Condition} {part message : String} :
      (r.conditionsFor l)[n]? = some c → BadCondition l c part message →
      Wrong r (.condition l n) ⟨conditionsPath l ++ "[" ++ toString n ++ "]" ++ "." ++ part, message⟩
  | joinSort {j : Join} {s : SortKey} {message : String} : r.joinSort.get j = some s →
      BadSort j.sortFields s.field message →
      Wrong r (.joinSort j) ⟨"joinSort." ++ j.name ++ ".field", message⟩
  | cursor {text : String} {e : Cursor.Refusal} : r.cursor = some text → isBlankText text = false →
      Cursor.continuation r.sort.direction (trim text) = .error e →
      Wrong r .cursor ⟨"cursor", "Invalid cursor: " ++ e.message⟩

/-! ## Places -/

/-- The places of the columns and the conditions of a level. -/
def listPlaces (r : Request) (l : Level) : List Place :=
  (List.range (r.columnsFor l).length).map (.column l) ++
    (List.range (r.conditionsFor l).length).map (.condition l)

/-- The places of the root level. -/
def rootPlaces (r : Request) : List Place :=
  [.collection, .baseCollection] ++ r.paging.entries.map (fun e => .pageSize e.1) ++ [.rootSort] ++
    r.listPlaces .poly

/-- The places of a join. -/
def joinPlaces (r : Request) (j : Join) : List Place := r.listPlaces j.level ++ [.joinSort j]

/-- The places of a request, in the order in which they are checked. -/
def places (r : Request) : List Place :=
  r.rootPlaces ++ Join.all.flatMap r.joinPlaces ++ [.cursor]

variable {r : Request} {l : Level} {j : Join} {p : Place} {i : Issue}

theorem mem_listPlaces : p ∈ r.listPlaces l ↔
    (∃ n < (r.columnsFor l).length, .column l n = p) ∨
      ∃ n < (r.conditionsFor l).length, .condition l n = p := by
  simp [listPlaces]

theorem join?_of_mem_joinPlaces (h : p ∈ r.joinPlaces j) : p.join? = some j := by
  rw [joinPlaces, List.mem_append, mem_listPlaces, List.mem_singleton] at h
  rcases h with (⟨n, -, rfl⟩ | ⟨n, -, rfl⟩) | rfl
  · exact j.join?_level
  · exact j.join?_level
  · rfl

theorem join?_of_mem_rootPlaces (h : p ∈ r.rootPlaces) : p.join? = none := by
  rw [rootPlaces, List.mem_append, mem_listPlaces] at h
  rcases h with hfront | ⟨n, -, rfl⟩ | ⟨n, -, rfl⟩
  · revert p
    simp [Paging.entries, Place.join?]
  · rfl
  · rfl

theorem nodup_listPlaces (r : Request) (l : Level) : (r.listPlaces l).Nodup := by
  rw [listPlaces, List.nodup_append]
  exact ⟨List.nodup_range.map fun m n h => (Place.column.inj h).2,
    List.nodup_range.map fun m n h => (Place.condition.inj h).2, by simp⟩

theorem nodup_rootPlaces (r : Request) : r.rootPlaces.Nodup := by
  rw [rootPlaces, List.nodup_append]
  refine ⟨by simp [Paging.entries], r.nodup_listPlaces _, fun p hp q hq h => ?_⟩
  subst h
  rcases mem_listPlaces.mp hq with ⟨n, -, rfl⟩ | ⟨n, -, rfl⟩ <;> simp [Paging.entries] at hp

theorem nodup_joinPlaces (r : Request) (j : Join) : (r.joinPlaces j).Nodup := by
  rw [joinPlaces, List.nodup_append]
  refine ⟨r.nodup_listPlaces _, List.nodup_singleton _, fun p hp q hq h => ?_⟩
  subst h
  rcases mem_listPlaces.mp hp with ⟨n, -, rfl⟩ | ⟨n, -, rfl⟩ <;> simp at hq

/-- No place is checked twice. -/
theorem nodup_places (r : Request) : r.places.Nodup := by
  have hjoins : (Join.all.flatMap r.joinPlaces).Nodup := by
    have hall : Join.all.Nodup := by decide
    rw [List.nodup_flatMap]
    refine ⟨fun j _ => r.nodup_joinPlaces j, hall.imp fun hne p hp hq => hne ?_⟩
    exact Option.some.inj ((join?_of_mem_joinPlaces hp).symm.trans (join?_of_mem_joinPlaces hq))
  have hfront : (r.rootPlaces ++ Join.all.flatMap r.joinPlaces).Nodup := by
    refine List.nodup_append.mpr ⟨r.nodup_rootPlaces, hjoins, fun p hp q hq h => ?_⟩
    obtain ⟨j, -, hj⟩ := List.mem_flatMap.mp hq
    rw [← h] at hj
    cases (join?_of_mem_rootPlaces hp).symm.trans (join?_of_mem_joinPlaces hj)
  refine List.nodup_append.mpr ⟨hfront, List.nodup_singleton _, fun p hp q hq h => ?_⟩
  rw [List.mem_singleton] at hq
  subst h hq
  rw [List.mem_append, List.mem_flatMap] at hp
  rcases hp with hroot | ⟨j, -, hj⟩
  · simp [rootPlaces, mem_listPlaces, Paging.entries] at hroot
  · cases join?_of_mem_joinPlaces hj

theorem mem_places_of_mem_listPlaces (h : p ∈ r.listPlaces l) : p ∈ r.places := by
  have hjoin : ∀ j : Join, p ∈ r.listPlaces j.level → p ∈ r.places := fun j hj =>
    List.mem_append_left _ (List.mem_append_right _
      (List.mem_flatMap.mpr ⟨j, j.mem_all, List.mem_append_left _ hj⟩))
  cases l with
  | poly => exact List.mem_append_left _ (List.mem_append_left _ (List.mem_append_right _ h))
  | geom => exact hjoin .geom h
  | triang => exact hjoin .triang h
  | invol => exact hjoin .invol h
  | swisscheese => exact hjoin .swisscheese h

/-- A wrong place is among those that are checked. -/
theorem mem_places_of_wrong (h : r.Wrong p i) : p ∈ r.places := by
  cases h with
  | collection | baseCollection | rootSort => simp [places, rootPlaces]
  | pageSize hkey =>
    have hpage : .pageSize _ ∈ r.paging.entries.map fun e => Place.pageSize e.1 :=
      List.mem_map_of_mem hkey
    simp [places, rootPlaces, hpage]
  | column hbad =>
    refine mem_places_of_mem_listPlaces (mem_listPlaces.mpr (.inl ⟨_, ?_, rfl⟩))
    cases hbad with
    | repeated hget | unknown hget => exact (List.getElem?_eq_some_iff.mp hget).1
  | condition hget =>
    exact mem_places_of_mem_listPlaces
      (mem_listPlaces.mpr (.inr ⟨_, (List.getElem?_eq_some_iff.mp hget).1, rfl⟩))
  | joinSort => simp [places, joinPlaces, Join.mem_all]
  | cursor => simp [places]

/-! ## Reports -/

/-- What is reported when places are checked one after the other. -/
inductive Reports (r : Request) : List Place → List Issue → Prop
  | nil : Reports r [] []
  | wrong {p : Place} {i : Issue} {ps : List Place} {is : List Issue} :
      r.Wrong p i → Reports r ps is → Reports r (p :: ps) (i :: is)
  | right {p : Place} {ps : List Place} {is : List Issue} :
      (∀ i, ¬ r.Wrong p i) → Reports r ps is → Reports r (p :: ps) is

namespace Reports

variable {ps ps' : List Place} {is is' : List Issue}

theorem append (h : Reports r ps is) (h' : Reports r ps' is') : Reports r (ps ++ ps') (is ++ is') := by
  induction h with
  | nil => exact h'
  | wrong hp _ ih => exact .wrong hp ih
  | right hp _ ih => exact .right hp ih

theorem cons (h : Reports r [p] is) (h' : Reports r ps is') : Reports r (p :: ps) (is ++ is') :=
  h.append h'

theorem flatMap {α : Type} {as : List α} {f : α → List Place} {g : α → List Issue}
    (h : ∀ a ∈ as, Reports r (f a) (g a)) : Reports r (as.flatMap f) (as.flatMap g) := by
  induction as with
  | nil => exact .nil
  | cons a rest ih =>
    rw [List.forall_mem_cons] at h
    exact h.1.append (ih h.2)

/-- The issues are those of the wrong places, one for each. -/
theorem exists_forall₂ (h : Reports r ps is) :
    ∃ ws, ws.Sublist ps ∧ (∀ p, p ∈ ws ↔ p ∈ ps ∧ ∃ i, r.Wrong p i) ∧ List.Forall₂ r.Wrong ws is := by
  induction h with
  | nil => exact ⟨[], .slnil, by simp, .nil⟩
  | @wrong p i ps is hp _ ih =>
    obtain ⟨ws, hsub, hmem, hall⟩ := ih
    refine ⟨p :: ws, hsub.cons_cons p, fun q => ?_, .cons hp hall⟩
    rw [List.mem_cons, List.mem_cons, hmem, or_and_right]
    exact or_congr_left ⟨fun hq => ⟨hq, i, hq ▸ hp⟩, And.left⟩
  | @right p ps is hp _ ih =>
    obtain ⟨ws, hsub, hmem, hall⟩ := ih
    refine ⟨ws, hsub.cons p, fun q => ?_, hall⟩
    rw [hmem, List.mem_cons, or_and_right]
    have hnot : ¬ (q = p ∧ ∃ i, r.Wrong q i) := by
      rintro ⟨rfl, i, hi⟩
      exact hp i hi
    rw [or_iff_right hnot]

end Reports

/-! ## Checking the places -/

/-- A collection that is not the root is reported. -/
theorem reports_root {path : String} {collection : Level}
    (h : ∀ i, r.Wrong p i ↔ collection ≠ .poly ∧ i = ⟨path, "must be POLY"⟩) :
    Reports r [p] (rootIssues path collection) := by
  rw [rootIssues]
  split
  next hroot => exact .right (fun i hi => ((h i).mp hi).1 hroot) .nil
  next hroot => exact .wrong ((h _).mpr ⟨hroot, rfl⟩) .nil

theorem reports_collection (r : Request) :
    Reports r [.collection] (rootIssues "baseCollection" r.baseCollection) := by
  refine reports_root fun i => ⟨fun hi => ?_, fun ⟨h, hi⟩ => hi ▸ .collection h⟩
  cases hi with
  | collection h => exact ⟨h, rfl⟩

theorem reports_baseCollection (r : Request) :
    Reports r [.baseCollection] (rootIssues "base.collection" r.base.collection) := by
  refine reports_root fun i => ⟨fun hi => ?_, fun ⟨h, hi⟩ => hi ▸ .baseCollection h⟩
  cases hi with
  | baseCollection h => exact ⟨h, rfl⟩

/-- A key has one page size. -/
theorem eq_of_mem_entries {p : Paging} {key : String} {m n : Int64} (hm : (key, m) ∈ p.entries)
    (hn : (key, n) ∈ p.entries) : m = n := by
  have hkeys : (p.entries.map Prod.fst).Nodup := by
    show ["poly", "geom", "triang", "invol", "swiss"].Nodup
    decide
  exact (Prod.mk.inj (List.inj_on_of_nodup_map hkeys hm hn rfl)).2

theorem reports_paging (r : Request) :
    Reports r (r.paging.entries.map fun e => .pageSize e.1)
      (r.paging.entries.flatMap fun e => pagingIssues e.1 e.2) := by
  rw [List.map_eq_flatMap]
  refine Reports.flatMap fun (key, size) hkey => ?_
  rw [pagingIssues]
  split
  next h =>
    refine .right (fun i hi => ?_) .nil
    cases hi with
    | pageSize hkey' hsize =>
      rw [eq_of_mem_entries hkey' hkey] at hsize
      exact hsize.elim (Int.not_lt.mpr h.1) (Int.not_lt.mpr h.2)
  next h =>
    have hsize : size.toInt < 1 ∨ 200 < size.toInt := by
      simpa [minPageSize, maxPageSize, or_iff_not_imp_left] using h
    exact .wrong (.pageSize hkey hsize) .nil

/-- A sort is reported by its field. -/
theorem reports_sort {path field : String} {allowed : List String}
    (h : ∀ i, r.Wrong p i ↔ ∃ m, BadSort allowed field m ∧ i = ⟨path, m⟩) :
    Reports r [p] (sortIssues path allowed field) := by
  rw [sortIssues]
  split
  next hblank => exact .wrong ((h _).mpr ⟨_, .blank hblank, rfl⟩) .nil
  next hblank =>
    rw [Bool.not_eq_true] at hblank
    split
    next hallowed =>
      refine .right (fun i hi => ?_) .nil
      obtain ⟨m, hbad | ⟨-, hforbidden⟩, -⟩ := (h i).mp hi
      · simp_all
      · exact hforbidden (List.contains_iff_mem.mp hallowed)
    next hallowed =>
      exact .wrong ((h _).mpr ⟨_, .forbidden hblank (by simpa using hallowed), rfl⟩) .nil

/-- Columns are reported one after the other; those seen are the ones in front. -/
theorem reports_columns (r : Request) (l : Level) :
    Reports r ((List.range (r.columnsFor l).length).map (.column l))
      (columnIssues (columnsPath l) l [] (r.columnsFor l)) := by
  suffices h : ∀ rest before seen, before ++ rest = r.columnsFor l → (∀ c, c ∈ seen ↔ c ∈ before) →
      Reports r ((List.range' before.length rest.length).map (.column l))
        (columnIssues (columnsPath l) l seen rest) by
    rw [List.range_eq_range']
    exact h _ [] [] rfl fun _ => Iff.rfl
  intro rest
  induction rest with
  | nil => exact fun _ _ _ _ => .nil
  | cons c rest ih =>
    intro before seen hcolumns hseen
    have hget : (r.columnsFor l)[before.length]? = some c := by rw [← hcolumns]; simp
    have htake : (r.columnsFor l).take before.length = before := by rw [← hcolumns]; simp
    have hrest := ih (before ++ [c]) (c :: seen) (by simpa using hcolumns) fun d => by
      rw [List.mem_cons, hseen, List.mem_append, List.mem_singleton, or_comm]
    rw [List.length_append, List.length_singleton] at hrest
    rw [columnIssues, List.length_cons, List.range'_succ, List.map_cons]
    refine Reports.cons ?_ hrest
    split
    next h =>
      exact .wrong (.column (.repeated hget (by simpa [htake, hseen] using h))) .nil
    next h =>
      have hnew : c ∉ (r.columnsFor l).take before.length := by simpa [htake, hseen] using h
      split
      next hcolumn =>
        refine .right (fun i hi => ?_) .nil
        rw [Level.isColumn_iff] at hcolumn
        cases hi with
        | column hbad =>
          cases hbad with
          | repeated hget' hrepeated =>
            rw [hget, Option.some.injEq] at hget'
            exact hnew (hget' ▸ hrepeated)
          | unknown hget' _ hunknown =>
            rw [hget, Option.some.injEq] at hget'
            exact hunknown (hget' ▸ hcolumn)
      next hcolumn =>
        exact .wrong (.column (.unknown hget hnew (by rwa [← Level.isColumn_iff]))) .nil

/-- A refused condition is reported by the part that is refused. -/
theorem refusalIssues_eq {path : String} {c : Condition} {e : Fault} (h : c.check l = .error e) :
    refusalIssues path e = [⟨path ++ "." ++ e.part, e.wording⟩] := by
  rcases Condition.check_eq_error h with rfl | rfl | ⟨reason, rfl⟩ | ⟨i, rfl⟩ <;>
    simp [refusalIssues, Fault.part, Fault.wording, String.append_assoc]

theorem reports_condition {c : Condition} {n : Nat} (h : (r.conditionsFor l)[n]? = some c) :
    Reports r [.condition l n]
      (conditionIssues (conditionsPath l ++ "[" ++ toString n ++ "]") l c) := by
  rw [conditionIssues]
  split
  next hblank =>
    have hwrong := Wrong.condition (r := r) h (.blank hblank)
    exact .wrong (by simpa [String.append_assoc] using hwrong) .nil
  next hblank =>
    rw [Bool.not_eq_true] at hblank
    split
    next hok =>
      refine .right (fun i hi => ?_) .nil
      cases hi with
      | condition hget hbad =>
        rw [h] at hget
        cases hget
        cases hbad with
        | blank hblank' =>
          rw [hblank] at hblank'
          cases hblank'
        | refused _ herror =>
          rw [hok] at herror
          cases herror
    next e herror =>
      rw [refusalIssues_eq herror]
      exact .wrong (.condition h (.refused hblank herror)) .nil

theorem reports_conditions (r : Request) (l : Level) :
    Reports r ((List.range (r.conditionsFor l).length).map (.condition l))
      (conditionListIssues (conditionsPath l) l 0 (r.conditionsFor l)) := by
  suffices h : ∀ rest before, before ++ rest = r.conditionsFor l →
      Reports r ((List.range' before.length rest.length).map (.condition l))
        (conditionListIssues (conditionsPath l) l before.length rest) by
    rw [List.range_eq_range']
    exact h _ [] rfl
  intro rest
  induction rest with
  | nil => exact fun _ _ => .nil
  | cons c rest ih =>
    intro before hconditions
    have hget : (r.conditionsFor l)[before.length]? = some c := by rw [← hconditions]; simp
    have hrest := ih (before ++ [c]) (by simpa using hconditions)
    rw [List.length_append, List.length_singleton] at hrest
    rw [conditionListIssues, List.length_cons, List.range'_succ, List.map_cons]
    exact Reports.cons (reports_condition hget) hrest

theorem reports_cursor (r : Request) : Reports r [.cursor] r.cursorIssues := by
  have hright : r.token? = none → ∀ i, ¬ r.Wrong .cursor i := by
    intro hnone i hi
    cases hi with
    | cursor hcursor hblank => simp [token?, hcursor, hblank] at hnone
  rw [cursorIssues]
  cases htoken : r.token? with
  | none => exact .right (hright htoken) .nil
  | some token =>
    obtain ⟨text, hcursor, hblank, rfl⟩ :
        ∃ text, r.cursor = some text ∧ isBlankText text = false ∧ trim text = token := by
      rw [token?] at htoken
      split at htoken
      next text hcursor =>
        split at htoken
        · cases htoken
        next hblank => exact ⟨text, hcursor, by simpa using hblank, Option.some.inj htoken⟩
      · cases htoken
    dsimp only
    split
    next p hok =>
      refine .right (fun i hi => ?_) .nil
      cases hi with
      | cursor hcursor' _ herror =>
        rw [hcursor] at hcursor'
        cases hcursor'
        rw [hok] at herror
        cases herror
    next e herror => exact .wrong (.cursor hcursor hblank herror) .nil

theorem reports_lists (r : Request) (l : Level) :
    Reports r (r.listPlaces l)
      (columnIssues (columnsPath l) l [] (r.columnsFor l) ++
        conditionListIssues (conditionsPath l) l 0 (r.conditionsFor l)) :=
  (r.reports_columns l).append (r.reports_conditions l)

theorem reports_joinIssues (r : Request) (j : Join) : Reports r (r.joinPlaces j) (r.joinIssues j) := by
  have hlists := r.reports_lists j.level
  rw [columnsPath, conditionsPath, columnsFor, conditionsFor, j.join?_level] at hlists
  refine hlists.append ?_
  cases hsort : r.joinSort.get j with
  | none =>
    refine .right (fun i hi => ?_) .nil
    cases hi with
    | joinSort hsome =>
      rw [hsort] at hsome
      cases hsome
  | some s =>
    refine reports_sort fun i => ⟨fun hi => ?_, fun ⟨m, hbad, hi⟩ => hi ▸ .joinSort hsort hbad⟩
    cases hi with
    | joinSort hsome hbad =>
      rw [hsort] at hsome
      cases hsome
      exact ⟨_, hbad, rfl⟩

theorem reports_rootSort (r : Request) :
    Reports r [.rootSort] (sortIssues "sort.field" Level.poly.sortable r.sort.field) := by
  refine reports_sort fun i => ⟨fun hi => ?_, fun ⟨m, hbad, hi⟩ => hi ▸ .rootSort hbad⟩
  cases hi with
  | rootSort hbad => exact ⟨_, hbad, rfl⟩

/-- The issues of a request are what its places report. -/
theorem reports_issues (r : Request) : Reports r r.places r.issues := by
  have hroot : Reports r r.rootPlaces _ :=
    (((r.reports_collection.append r.reports_baseCollection).append r.reports_paging).append
      r.reports_rootSort).append (r.reports_lists .poly)
  have hjoins : Reports r (Join.all.flatMap r.joinPlaces) (Join.all.flatMap r.joinIssues) :=
    Reports.flatMap fun j _ => r.reports_joinIssues j
  have hall := (hroot.append hjoins).append r.reports_cursor
  rw [places, issues]
  simp only [List.append_assoc] at hall ⊢
  exact hall

/-- **Validation reports every violation exactly once.** There is a list of the wrong places of a
request, none of them twice, and a list of issues with one for each of these places. Validation fails
exactly if some place is wrong, and then with these issues. -/
theorem issues_of_wrong_places (r : Request) :
    ∃ places issues, places.Nodup ∧ (∀ p, p ∈ places ↔ ∃ i, r.Wrong p i) ∧
      List.Forall₂ r.Wrong places issues ∧
      ∀ e, r.validate = .error e ↔ (∃ p i, r.Wrong p i) ∧ e = .validation issues := by
  obtain ⟨ws, hsub, hmem, hall⟩ := r.reports_issues.exists_forall₂
  have hwrong : ∀ p, p ∈ ws ↔ ∃ i, r.Wrong p i := fun p => by
    rw [hmem, and_iff_right_of_imp fun ⟨i, hi⟩ => mem_places_of_wrong hi]
  refine ⟨ws, r.issues, hsub.nodup r.nodup_places, hwrong, hall, fun e => ?_⟩
  have hsome : (∃ p i, r.Wrong p i) ↔ r.issues ≠ [] := by
    rw [← List.length_pos_iff, ← hall.length_eq, List.length_pos_iff_exists_mem]
    exact exists_congr fun p => (hwrong p).symm
  rw [hsome, validate]
  split
  next hnil => simp [hnil]
  next issues hne =>
    rw [Except.error.injEq, and_iff_right hne]
    exact eq_comm

/-- Two wrong positions of one list of columns, a page size and a join sort are reported together. -/
example :
    let r : Request :=
      { base := { columns := ["H11", "H11", "Volume"] }
        paging := { geom := 201 }
        joinSort := ⟨some ⟨" ", .asc⟩, none, none, none⟩ }
    r.issues.map Issue.path =
      ["paging.geom.pageSize", "base.columns", "base.columns", "joinSort.GEOM.field"] := by
  decide +kernel

end Request

end Strata
