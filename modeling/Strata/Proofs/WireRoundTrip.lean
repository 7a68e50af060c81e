import Mathlib.Data.List.Forall2
import Mathlib.Data.List.Nodup
import Strata.Proofs.JsonRoundTrip
import Strata.Proofs.Normalization

/-!
# Requests read back

A request is read back from its text. Each part of it is written by one function and read by
another, and the two fit when the reader takes what was written for the part. The members of an
object may be written in any order, for they are looked up by their keys; so the writer is taken up
to that order, and a record is read back when each of its fields is.
-/

namespace Strata

open Text

namespace Json

variable {v w j : Json} {vs : List Json} {ms ks : List (String × Json)}

/-! ## The order of members -/

theorem insertMember_perm {α : Type} {key : String} (value : α) {members : List (String × α)}
    (h : key ∉ members.map Prod.fst) :
    (insertMember key value members).Perm ((key, value) :: members) := by
  induction members with
  | nil => exact .refl _
  | cons m rest ih =>
    obtain ⟨k, v⟩ := m
    rw [List.map_cons, List.mem_cons, not_or] at h
    rw [insertMember, if_neg h.1]
    split
    next => exact .refl _
    next => exact ((ih h.2).cons _).trans (.swap ..)

/-- Members with different keys are all kept when they are sorted. -/
theorem sortMembers_perm {α : Type} {members : List (String × α)}
    (h : (members.map Prod.fst).Nodup) : (sortMembers members).Perm members := by
  suffices hfold : ∀ sorted : List (String × α), ((members ++ sorted).map Prod.fst).Nodup →
      (members.foldl (fun sorted m => insertMember m.1 m.2 sorted) sorted).Perm
        (members ++ sorted) by
    simpa [sortMembers] using hfold [] (by simpa using h)
  clear h
  induction members with
  | nil => exact fun sorted _ => .refl _
  | cons m rest ih =>
    intro sorted hnodup
    rw [List.cons_append, List.map_cons, List.nodup_cons, List.map_append, List.mem_append,
      not_or] at hnodup
    have hinsert := insertMember_perm m.2 hnodup.1.2
    have hmiddle : (rest ++ insertMember m.1 m.2 sorted).Perm (m :: (rest ++ sorted)) :=
      (hinsert.append_left rest).trans List.perm_middle
    refine (ih _ ?_).trans hmiddle
    rw [(hmiddle.map Prod.fst).nodup_iff, List.map_cons, List.nodup_cons, List.map_append,
      List.mem_append, not_or]
    exact hnodup

/-- The same value with the members of its objects in any order. -/
inductive Reorders : Json → Json → Prop
  | refl (v : Json) : Reorders v v
  | arr {vs ws : List Json} (hlength : vs.length = ws.length)
      (h : ∀ (i : Nat) v w, vs[i]? = some v → ws[i]? = some w → Reorders v w) :
      Reorders (arr vs) (arr ws)
  | obj {ms ks : List (String × Json)} (hkeys : (ms.map Prod.fst).Perm (ks.map Prod.fst))
      (h : ∀ key v w, (key, v) ∈ ms → (key, w) ∈ ks → Reorders v w) :
      Reorders (obj ms) (obj ks)

theorem Reorders.whole (h : Reorders v w) (hv : Whole v) : Whole w := by
  induction h with
  | refl => exact hv
  | @arr vs ws hlength _ ih =>
    cases hv with | arr hvs =>
    refine .arr fun w hw => ?_
    obtain ⟨i, hi, rfl⟩ := List.getElem_of_mem hw
    have hv : vs[i]? = some vs[i] := List.getElem?_eq_getElem (by omega)
    exact ih i _ _ hv (List.getElem?_eq_getElem hi) (hvs _ (List.getElem_mem _))
  | @obj ms ks hkeys _ ih =>
    cases hv with | obj hms =>
    refine .obj fun m hm => ?_
    obtain ⟨⟨_, v⟩, hv, rfl⟩ :=
      List.mem_map.mp (hkeys.mem_iff.mpr (List.mem_map_of_mem (f := Prod.fst) hm))
    exact ih m.1 v m.2 hv hm (hms _ hv)

/-- A list is written item by item. -/
theorem Reorders.exists_items (h : Reorders (.arr vs) j) :
    ∃ ws, j = .arr ws ∧ List.Forall₂ Reorders vs ws := by
  cases h with
  | refl => exact ⟨vs, rfl, List.forall₂_same.mpr fun v _ => .refl v⟩
  | @arr _ ws hlength h =>
    refine ⟨ws, rfl, List.forall₂_iff_get.mpr ⟨hlength, fun i hv hw => ?_⟩⟩
    exact h i _ _ (List.getElem?_eq_getElem hv) (List.getElem?_eq_getElem hw)

/-- An object with different keys is written member by member, in some order. -/
theorem Reorders.exists_members (h : Reorders (.obj ms) j) (hnodup : (ms.map Prod.fst).Nodup) :
    ∃ ks, j = .obj ks ∧ (ms.map Prod.fst).Perm (ks.map Prod.fst) ∧
      ∀ key v w, (key, v) ∈ ms → (key, w) ∈ ks → Reorders v w := by
  cases h with
  | refl =>
    refine ⟨ms, rfl, .refl _, fun key v w hv hw => ?_⟩
    obtain ⟨-, rfl⟩ := Prod.mk.inj (List.inj_on_of_nodup_map hnodup hv hw rfl)
    exact .refl v
  | obj hkeys h => exact ⟨_, rfl, hkeys, h⟩

/-- The members of an object as they were given, instead of sorted. -/
theorem Reorders.object (hnodup : (ms.map Prod.fst).Nodup)
    (h : List.Forall₂ (fun m k => m.1 = k.1 ∧ Reorders m.2 k.2) ms ks) :
    Reorders (Json.object ms) (.obj ks) := by
  have hperm := sortMembers_perm hnodup
  have hkeys : ms.map Prod.fst = ks.map Prod.fst := by
    rw [← List.forall₂_eq_eq_eq, List.forall₂_map_left_iff, List.forall₂_map_right_iff]
    exact h.imp fun _ _ hmk => hmk.1
  refine .obj ((hperm.map Prod.fst).trans (.of_eq hkeys)) fun key v w hv hw => ?_
  obtain ⟨i, hi, hget⟩ := List.getElem_of_mem hw
  have hlt : i < ms.length := h.length_eq ▸ hi
  obtain ⟨hkey, hvalue⟩ : ms[i].1 = ks[i].1 ∧ Reorders ms[i].2 ks[i].2 := h.get hlt hi
  have hm : (key, v) = ms[i] := List.inj_on_of_nodup_map hnodup (hperm.mem_iff.mp hv)
    (List.getElem_mem hlt) (by rw [hkey, hget])
  rw [hget, ← hm] at hvalue
  exact hvalue

theorem Whole.object (hnodup : (ms.map Prod.fst).Nodup) (h : ∀ m ∈ ms, Whole m.2) :
    Whole (Json.object ms) :=
  .obj fun m hm => h m ((sortMembers_perm hnodup).mem_iff.mp hm)

theorem Reorders.map {α : Type} {f g : α → Json} (h : ∀ a, Reorders (f a) (g a)) (items : List α) :
    Reorders (.arr (items.map f)) (.arr (items.map g)) := by
  refine .arr (by simp) fun i v w hv hw => ?_
  rw [List.getElem?_map, Option.map_eq_some_iff] at hv hw
  obtain ⟨a, ha, rfl⟩ := hv
  obtain ⟨b, hb, rfl⟩ := hw
  obtain rfl := Option.some.inj (ha.symm.trans hb)
  exact h a

/-! ## Readers of written values -/

namespace Tree

variable {α β : Type} {read : Tree → Except ReadError α} {write : α → Json} {a : α}
  {given : List (String × Tree)}

/-- A reader takes what is written for a value, the members of objects in any order. -/
def Takes (read : Tree → Except ReadError α) (v : Json) (a : α) : Prop :=
  ∀ j, Reorders v j → read j.tree = .ok a

theorem takes_text (s : String) : Takes text (.str s) s := by
  rintro _ ⟨⟩
  rfl

theorem takes_choice {ofName? : String → Option α} {name : String} (h : ofName? name = some a) :
    Takes (choice ofName?) (.str name) a := by
  rintro _ ⟨⟩
  simp [Json.tree, choice, h]

/-- A whole number of 64 bits is read back. -/
theorem takes_int64 (n : Int64) : Takes (fun t => t.int64.map Int64.ofInt) (.int n.toInt) n := by
  rintro _ ⟨⟩
  have hlow := n.le_toInt
  have hhigh := n.toInt_lt
  have hvalue : (if decide (n.toInt < 0) = true then -(n.toInt.natAbs : Int) else n.toInt.natAbs)
      = n.toInt := by
    simp only [decide_eq_true_eq]
    omega
  have hzero : (decide (n.toInt < 0) && n.toInt.natAbs == 0) = false := by
    simp
    omega
  simp only [Json.tree, int64, Numeral.ofDigits_toDigits, hvalue, hzero]
  rw [if_neg (by simp; omega)]
  exact congrArg Except.ok n.ofInt_toInt

/-- The items of a list are read back. -/
theorem takes_list (items : List α) (h : ∀ a ∈ items, Takes read (write a) a) :
    Takes (list read) (.arr (items.map write)) items := by
  intro j hj
  obtain ⟨ws, rfl, hws⟩ := hj.exists_items
  clear hj
  show each read (itemTrees ws) = .ok items
  induction items generalizing ws with
  | nil =>
    obtain rfl := List.forall₂_nil_left_iff.mp hws
    rfl
  | cons a items ih =>
    rw [List.forall_mem_cons] at h
    obtain ⟨w, ws, hw, htail, rfl⟩ := List.forall₂_cons_left_iff.mp hws
    rw [itemTrees, each, h.1 w hw, ih h.2 ws htail]

theorem takes_none : Takes (optional read) .null none := by
  rintro _ ⟨⟩
  rfl

/-- A value that is not read from `null` is not mistaken for an absent one. -/
theorem takes_some {e : ReadError} (hnull : read .null = .error e) (h : Takes read v a) :
    Takes (optional read) v (some a) := by
  intro j hj
  have hread := h j hj
  have hne : j.tree ≠ .null := by
    intro heq
    rw [heq, hnull] at hread
    cases hread
  rw [optional]
  · rw [hread]
    rfl
  · exact hne

/-! ## Records -/

/-- The members of a value as the fields of a record. -/
def givenBy (ms : List (String × Json)) : List (String × Tree) := ms.map fun m => (m.1, m.2.tree)

theorem keys_givenBy (ms : List (String × Json)) :
    (givenBy ms).map Prod.fst = ms.map Prod.fst := by
  simp [givenBy, Function.comp_def]

/-- Known members with different keys are all found. -/
theorem knownMembers_memberTrees {keys : List String} (hkeys : ∀ m ∈ ms, m.1 ∈ keys)
    (hnodup : ((ms.map Prod.fst) ++ given.map Prod.fst).Nodup) :
    knownMembers keys (memberTrees ms) given = .ok ((givenBy ms).reverse ++ given) := by
  induction ms generalizing given with
  | nil => rfl
  | cons m ms ih =>
    obtain ⟨key, v⟩ := m
    rw [List.forall_mem_cons] at hkeys
    rw [List.map_cons, List.cons_append, List.nodup_cons, List.mem_append, not_or] at hnodup
    have hnew : (given.lookup key).isSome = false := by
      rw [Option.isSome_eq_false_iff, Option.isNone_iff_eq_none, List.lookup_eq_none_iff]
      exact fun m hm => bne_iff_ne.mpr fun heq =>
        hnodup.1.2 (heq ▸ List.mem_map_of_mem (f := Prod.fst) hm)
    have hnodup' : (ms.map Prod.fst ++ ((key, v.tree) :: given).map Prod.fst).Nodup := by
      rw [List.map_cons, List.nodup_middle, List.nodup_cons, List.mem_append, not_or]
      exact hnodup
    have hrest := ih hkeys.2 hnodup'
    simp [memberTrees, knownMembers, hkeys.1, hnew, hrest, givenBy]

/-- What the keys of a record hold. -/
def Holds (ms : List (String × Json)) (given : List (String × Tree)) : Prop :=
  ∀ m ∈ ms, ∃ w, Reorders m.2 w ∧ given.lookup m.1 = some w.tree

/-- A record is read back when it is from the fields that its keys hold. -/
theorem takes_record {body : List (String × Tree) → Except ReadError α}
    (hnodup : (ms.map Prod.fst).Nodup) (h : ∀ given, Holds ms given → body given = .ok a) :
    Takes (fun t => t.fields (ms.map Prod.fst) >>= body) (Json.object ms) a := by
  intro j hj
  have hperm := sortMembers_perm hnodup
  obtain ⟨ks, rfl, hkeys, hvalues⟩ :=
    Reorders.exists_members hj ((hperm.map Prod.fst).nodup_iff.mpr hnodup)
  have hkeys : (ms.map Prod.fst).Perm (ks.map Prod.fst) := (hperm.map Prod.fst).symm.trans hkeys
  have hks : (ks.map Prod.fst).Nodup := hkeys.nodup_iff.mp hnodup
  have hfields : (Json.obj ks).tree.fields (ms.map Prod.fst) = .ok (givenBy ks).reverse := by
    show knownMembers _ (memberTrees ks) [] = _
    rw [knownMembers_memberTrees (fun m hm => ?_) (by simpa using hks), List.append_nil]
    exact hkeys.mem_iff.mpr (List.mem_map_of_mem hm)
  show ((Json.obj ks).tree.fields (ms.map Prod.fst) >>= body) = .ok a
  rw [hfields]
  refine h _ fun m hm => ?_
  obtain ⟨⟨key, w⟩, hw, rfl⟩ := List.mem_map.mp (hkeys.mem_iff.mp (List.mem_map_of_mem hm))
  refine ⟨w, hvalues _ m.2 w (hperm.mem_iff.mpr hm) hw, (lookup_eq_some_iff_mem ?_).mpr ?_⟩
  · rw [List.map_reverse, List.nodup_reverse, keys_givenBy]
    exact hks
  · exact List.mem_reverse.mpr (List.mem_map_of_mem hw)

theorem Holds.required_eq (h : Holds ms given) (key : String) (hkey : (key, v) ∈ ms)
    (hread : Takes read v a) : required key read given = .ok a := by
  obtain ⟨w, hw, hlookup⟩ := h _ hkey
  rw [required, hlookup]
  exact hread w hw

theorem Holds.withDefault_eq (h : Holds ms given) (key : String) (hkey : (key, v) ∈ ms)
    (hread : Takes read v a) (default : α) : withDefault key default read given = .ok a := by
  obtain ⟨w, hw, hlookup⟩ := h _ hkey
  rw [withDefault, hlookup]
  exact hread w hw

end Tree

end Json

open Json.Tree

theorem Level.takes_name (l : Level) : Takes Request.readLevel (.str l.name) l :=
  takes_choice (by cases l <;> rfl)

theorem Join.takes_name (j : Join) : Takes (choice Join.ofName?) (.str j.name) j :=
  takes_choice (by cases j <;> rfl)

theorem Direction.takes_name (d : Direction) : Takes Request.readDirection (.str d.name) d :=
  takes_choice (by cases d <;> rfl)

theorem Operator.takes_name (op : Operator) : Takes (choice Operator.ofName?) (.str op.name) op :=
  takes_choice (by cases op <;> rfl)

namespace Request

theorem takes_condition (c : Condition) : Takes readCondition (writeCondition c) c := by
  refine takes_record (by simp) fun given h => ?_
  have hfield := h.required_eq "field" (by simp) (takes_text c.field)
  have hop := h.required_eq "op" (by simp) c.op.takes_name
  have hvalue := h.withDefault_eq "value" (by simp) (takes_text c.value) ""
  rw [hfield, hop, hvalue]
  rfl

theorem takes_sort (s : SortKey) : Takes readSort (writeSort s) s := by
  refine takes_record (by simp) fun given h => ?_
  have hfield := h.required_eq "field" (by simp) (takes_text s.field)
  have hdirection := h.withDefault_eq "direction" (by simp) s.direction.takes_name .asc
  rw [hfield, hdirection]
  rfl

theorem takes_rootSort (s : SortKey) : Takes readRootSort (writeSort s) s := by
  refine takes_record (by simp) fun given h => ?_
  have hfield := h.withDefault_eq "field" (by simp) (takes_text s.field) rootKey
  have hdirection := h.withDefault_eq "direction" (by simp) s.direction.takes_name .asc
  rw [hfield, hdirection]
  rfl

theorem takes_texts (texts : List String) : Takes readTexts (writeTexts texts) texts :=
  takes_list texts fun s _ => takes_text s

theorem takes_conditions (cs : List Condition) : Takes readConditions (writeConditions cs) cs :=
  takes_list cs fun c _ => takes_condition c

theorem takes_optionalSort (s : Option SortKey) :
    Takes (optional readSort) (writeOptional writeSort s) s := by
  cases s with
  | none => exact takes_none
  | some s => exact takes_some rfl (takes_sort s)

theorem takes_optionalText (s : Option String) :
    Takes (optional text) (writeOptional .str s) s := by
  cases s with
  | none => exact takes_none
  | some s => exact takes_some rfl (takes_text s)

theorem takes_perJoin {α : Type} (default : α) {read : Json.Tree → Except Json.ReadError α}
    {write : α → Json} (h : ∀ a, Takes read (write a) a) (p : PerJoin α) :
    Takes (readPerJoin default read) (writePerJoin write p) p := by
  refine takes_record (by simp [Join.all]; decide) fun given hgiven => ?_
  have hfield (j : Join) : withDefault j.name default read given = .ok (p.get j) :=
    hgiven.withDefault_eq j.name (List.mem_map_of_mem j.mem_all) (h (p.get j)) default
  rw [hfield, hfield, hfield, hfield]
  rfl

theorem takes_pageSize (n : Int64) :
    Takes readPageSize (Json.object [("pageSize", .int n.toInt)]) n := by
  refine takes_record (by simp) fun given h => ?_
  exact h.withDefault_eq "pageSize" (by simp) (takes_int64 n) defaultPageSize

theorem takes_paging (p : Paging) : Takes readPaging (writePaging p) p := by
  refine takes_record (by simp [Paging.entries]) fun given h => ?_
  have hfield (key : String) (n : Int64) (hkey : (key, n) ∈ p.entries) :
      withDefault key defaultPageSize readPageSize given = .ok n :=
    h.withDefault_eq key (List.mem_map_of_mem hkey) (takes_pageSize n) defaultPageSize
  simp only [hfield "poly" p.poly (by simp [Paging.entries]),
    hfield "geom" p.geom (by simp [Paging.entries]),
    hfield "triang" p.triang (by simp [Paging.entries]),
    hfield "invol" p.invol (by simp [Paging.entries]),
    hfield "swiss" p.swiss (by simp [Paging.entries])]
  rfl

theorem takes_base (b : BaseQuery) :
    Takes readBase (Json.object
      [("collection", .str b.collection.name), ("columns", writeTexts b.columns),
        ("conditions", writeConditions b.conditions)]) b := by
  refine takes_record (by simp) fun given h => ?_
  have hcollection :=
    h.withDefault_eq "collection" (by simp) b.collection.takes_name .poly
  have hcolumns := h.withDefault_eq "columns" (by simp) (takes_texts b.columns) []
  have hconditions :=
    h.withDefault_eq "conditions" (by simp) (takes_conditions b.conditions) []
  rw [hcollection, hcolumns, hconditions]
  rfl

/-- A request is read back from its tree. -/
theorem takes_request (r : Request) : Takes ofTree r.toJson r := by
  refine takes_record (by simp) fun given h => ?_
  have hbaseCollection := h.withDefault_eq "baseCollection" (by simp)
    r.baseCollection.takes_name
  have hbase := h.withDefault_eq "base" (by simp) (takes_base r.base)
  have hresultLevel := h.withDefault_eq "resultLevel" (by simp) r.resultLevel.takes_name
  have hjoins := h.withDefault_eq "joins" (by simp)
    (takes_list r.joins fun j _ => j.takes_name)
  have hjoinColumns := h.withDefault_eq "joinColumns" (by simp)
    (takes_perJoin [] takes_texts r.joinColumns)
  have hjoinConditions := h.withDefault_eq "joinConditions" (by simp)
    (takes_perJoin [] takes_conditions r.joinConditions)
  have hjoinSort := h.withDefault_eq "joinSort" (by simp)
    (takes_perJoin none takes_optionalSort r.joinSort)
  have hpaging := h.withDefault_eq "paging" (by simp) (takes_paging r.paging)
  have hsort := h.withDefault_eq "sort" (by simp) (takes_rootSort r.sort)
  have hcursor := h.withDefault_eq "cursor" (by simp) (takes_optionalText r.cursor)
  simp only [hbaseCollection, hbase, hresultLevel, hjoins, hjoinColumns, hjoinConditions,
    hjoinSort, hpaging, hsort, hcursor]
  rfl

/-! ## Members as they are declared -/

/-- A condition with its fields as they are declared. -/
def declaredCondition (c : Condition) : Json :=
  .obj [("field", .str c.field), ("op", .str c.op.name), ("value", .str c.value)]

/-- A sort with its fields as they are declared. -/
def declaredSort (s : SortKey) : Json :=
  .obj [("field", .str s.field), ("direction", .str s.direction.name)]

/-- Conditions with their fields as they are declared. -/
def declaredConditions (cs : List Condition) : Json := .arr (cs.map declaredCondition)

/-- One value for each join, the joins in order. -/
def declaredPerJoin {α : Type} (write : α → Json) (p : PerJoin α) : Json :=
  .obj (Join.all.map fun j => (j.name, write (p.get j)))

/-- The page sizes, the root first. -/
def declaredPaging (p : Paging) : Json :=
  .obj (p.entries.map fun (key, n) => (key, .obj [("pageSize", .int n.toInt)]))

/-- The JSON value of a request with all members in the order in which the fields are declared. -/
def declared (r : Request) : Json :=
  .obj
    [("baseCollection", .str r.baseCollection.name),
     ("base", .obj
       [("collection", .str r.base.collection.name),
        ("columns", writeTexts r.base.columns),
        ("conditions", declaredConditions r.base.conditions)]),
     ("resultLevel", .str r.resultLevel.name),
     ("joins", .arr (r.joins.map fun j => .str j.name)),
     ("joinColumns", declaredPerJoin writeTexts r.joinColumns),
     ("joinConditions", declaredPerJoin declaredConditions r.joinConditions),
     ("joinSort", declaredPerJoin (writeOptional declaredSort) r.joinSort),
     ("paging", declaredPaging r.paging),
     ("sort", declaredSort r.sort),
     ("cursor", writeOptional .str r.cursor)]

theorem reorders_declaredCondition (c : Condition) :
    Json.Reorders (writeCondition c) (declaredCondition c) :=
  .object (by simp) (by simp [Json.Reorders.refl])

theorem reorders_declaredSort (s : SortKey) : Json.Reorders (writeSort s) (declaredSort s) :=
  .object (by simp) (by simp [Json.Reorders.refl])

theorem reorders_declaredPerJoin {α : Type} {write write' : α → Json}
    (h : ∀ a, Json.Reorders (write a) (write' a)) (p : PerJoin α) :
    Json.Reorders (writePerJoin write p) (declaredPerJoin write' p) :=
  .object (by simp [Join.all]; decide) (by simp [Join.all, h])

theorem reorders_declaredConditions (cs : List Condition) :
    Json.Reorders (writeConditions cs) (declaredConditions cs) :=
  .map reorders_declaredCondition cs

theorem reorders_declaredPaging (p : Paging) :
    Json.Reorders (writePaging p) (declaredPaging p) := by
  refine .object (by simp [Paging.entries]) ?_
  rw [List.forall₂_map_left_iff, List.forall₂_map_right_iff, List.forall₂_same]
  exact fun entry _ => ⟨rfl, .refl _⟩

/-- The order in which the fields are declared is one of the orders of the members. -/
theorem reorders_declared (r : Request) : Json.Reorders r.toJson r.declared := by
  have hjoinSort (s : Option SortKey) :
      Json.Reorders (writeOptional writeSort s) (writeOptional declaredSort s) := by
    cases s with
    | none => exact .refl _
    | some s => exact reorders_declaredSort s
  have hbase : Json.Reorders
      (Json.object
        [("collection", .str r.base.collection.name), ("columns", writeTexts r.base.columns),
          ("conditions", writeConditions r.base.conditions)])
      (.obj
        [("collection", .str r.base.collection.name), ("columns", writeTexts r.base.columns),
          ("conditions", declaredConditions r.base.conditions)]) :=
    .object (by simp) (by simp [Json.Reorders.refl, reorders_declaredConditions])
  exact .object (by simp) (by
    simp [Json.Reorders.refl, hbase, hjoinSort, reorders_declaredPerJoin,
      reorders_declaredConditions, reorders_declaredPaging, reorders_declaredSort])

/-! ## Texts -/

theorem whole_writeCondition (c : Condition) : Json.Whole (writeCondition c) :=
  .object (by simp) (by simp [Json.Whole.str])

theorem whole_writeConditions (cs : List Condition) : Json.Whole (writeConditions cs) :=
  .arr (by simp [whole_writeCondition])

theorem whole_writeSort (s : SortKey) : Json.Whole (writeSort s) :=
  .object (by simp) (by simp [Json.Whole.str])

theorem whole_writeTexts (texts : List String) : Json.Whole (writeTexts texts) :=
  .arr (by simp [Json.Whole.str])

theorem whole_writeOptional {α : Type} {write : α → Json} (h : ∀ a, Json.Whole (write a))
    (a : Option α) : Json.Whole (writeOptional write a) := by
  cases a with
  | none => exact .null
  | some a => exact h a

theorem whole_writePerJoin {α : Type} {write : α → Json} (h : ∀ a, Json.Whole (write a))
    (p : PerJoin α) : Json.Whole (writePerJoin write p) :=
  .object (by simp [Join.all]; decide) (by simp [h])

theorem whole_writePaging (p : Paging) : Json.Whole (writePaging p) := by
  refine .object (by simp [Paging.entries]) fun m hm => ?_
  obtain ⟨⟨key, n⟩, -, rfl⟩ := List.mem_map.mp hm
  exact .object (by simp) (by simp [Json.Whole.int])

/-- All numbers of a written request are whole. -/
theorem whole_toJson (r : Request) : Json.Whole r.toJson := by
  have hbase : Json.Whole (Json.object
      [("collection", .str r.base.collection.name), ("columns", writeTexts r.base.columns),
        ("conditions", writeConditions r.base.conditions)]) :=
    .object (by simp) (by simp [Json.Whole.str, whole_writeTexts, whole_writeConditions])
  have hjoins : Json.Whole (.arr (r.joins.map fun j => .str j.name)) :=
    .arr (by simp [Json.Whole.str])
  exact .object (by simp) (by
    simp [Json.Whole.str, hbase, hjoins, whole_writePerJoin, whole_writeTexts,
      whole_writeConditions, whole_writeOptional, whole_writeSort, whole_writePaging])

theorem read_compact_of_reorders {r : Request} {j : Json} (h : Json.Reorders r.toJson j) :
    read (Json.compact j) = .ok r := by
  rw [read, Json.read?_compact (h.whole r.whole_toJson)]
  exact r.takes_request j h

/-- **Requests are read back.** A request is read back from its text, and parsing a text again that
states what parsing gave gives the same. The members of objects may be in any order in the text:
sorted by their keys, as in `toJson`, or as the fields are declared. -/
theorem read_back :
    (∀ (r : Request) (j : Json), Json.Reorders r.toJson j → read (Json.compact j) = .ok r) ∧
    ∀ (body : String) (v : Request), parse body = .ok v →
      ∀ j : Json, Json.Reorders v.toJson j → parse (Json.compact j) = .ok v := by
  refine ⟨fun r j => read_compact_of_reorders, fun body v hparse j hj => ?_⟩
  obtain ⟨r, hr⟩ : ∃ r : Request, r.validate = .ok v := by
    rw [parse] at hparse
    split at hparse
    next => cases hparse
    next r _ => exact ⟨r, hparse⟩
  rw [parse, read_compact_of_reorders hj]
  exact validate_of_validate hr

/-- A body with an escaped quote, a control character and a letter beyond ASCII in a condition, a
sort of a join that it does not request, and a blank cursor. -/
def escapedBody : String :=
  "\x7b\"base\":\x7b\"conditions\":[\x7b\"field\":\"FUNDGP\",\"op\":\"eq\"," ++
    "\"value\":\" \\\"\\u0007\\u00e9\"\x7d]\x7d,\"joinSort\":" ++
    "\x7b\"INVOL\":\x7b\"field\":\"H11\",\"direction\":\"desc\"\x7d\x7d,\"cursor\":\" \"\x7d"

theorem readBack_escapedBody :
    ∃ v : Request, parse escapedBody = .ok v ∧ v.base.conditions = [⟨"FUNDGP", .eq, " \"\u0007é"⟩] ∧
      v.cursor = none ∧ read (Json.compact v.declared) = .ok v ∧
      parse (Json.compact v.declared) = .ok v ∧ parse (Json.compact v.toJson) = .ok v := by
  let v : Request :=
    { base := { conditions := [⟨"FUNDGP", .eq, " \"\u0007é"⟩] }
      joinSort := ⟨none, none, some ⟨"H11", .desc⟩, none⟩ }
  have hparse : parse escapedBody = .ok v := by
    decide +kernel
  have hdeclared := v.reorders_declared
  exact ⟨v, hparse, rfl, rfl, read_back.1 v _ hdeclared, read_back.2 _ v hparse _ hdeclared,
    read_back.2 _ v hparse _ (.refl _)⟩

end Request

end Strata
