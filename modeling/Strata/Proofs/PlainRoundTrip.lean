import Mathlib
import Strata.Json.Tree
import Strata.Value.Plain

/-!
# Plain JSON through documents

Plain JSON is kept by documents: an object whose parts hold no key of an extended kind is stored as a
document, and the plain form of this document is the object again. Whole numbers change their kind on
the way, by their size, and change it back; words of binary64 are kept bit by bit; and the members of
objects keep their order, because they are in the only order that objects have.
-/

namespace Strata

open Decimal Text

namespace Json

variable {v : Json} {items : List Json} {members : List (String × Json)}

/-! ## The order of members -/

section Members

variable {α : Type} {key : String} {value : α} {m : String × α} {ms : List (String × α)}

/-- The keys of members are in ascending order, each of them once. -/
def KeysAscend (ms : List (String × α)) : Prop := ms.Pairwise fun m k => m.1 < k.1

instance (ms : List (String × α)) : Decidable (KeysAscend ms) :=
  inferInstanceAs (Decidable (ms.Pairwise fun m k => m.1 < k.1))

theorem of_mem_insertMember (h : m ∈ insertMember key value ms) : m = (key, value) ∨ m ∈ ms := by
  induction ms with
  | nil => exact .inl (List.mem_singleton.mp h)
  | cons n rest ih =>
    rw [insertMember] at h
    split at h
    · exact List.mem_cons.mp h
    · split at h
      · exact (List.mem_cons.mp h).imp_right (List.mem_cons_of_mem n)
      · rcases List.mem_cons.mp h with rfl | h
        · exact .inr List.mem_cons_self
        · exact (ih h).imp_right (List.mem_cons_of_mem n)

theorem KeysAscend.insertMember (h : KeysAscend ms) : KeysAscend (insertMember key value ms) := by
  induction ms with
  | nil => exact List.pairwise_singleton _ _
  | cons n rest ih =>
    obtain ⟨hhead, hrest⟩ := List.pairwise_cons.mp h
    rw [Json.insertMember]
    split
    next hlt =>
      refine List.pairwise_cons.mpr ⟨fun m hm => ?_, h⟩
      rcases List.mem_cons.mp hm with rfl | hm
      · exact hlt
      · exact lt_trans hlt (hhead m hm)
    next hlt =>
      split
      next heq => exact List.pairwise_cons.mpr ⟨fun m hm => heq ▸ hhead m hm, hrest⟩
      next hne =>
        have hgt : n.1 < key := lt_of_le_of_ne (not_lt.mp hlt) (Ne.symm hne)
        refine List.pairwise_cons.mpr ⟨fun m hm => ?_, ih hrest⟩
        rcases of_mem_insertMember hm with rfl | hm
        · exact hgt
        · exact hhead m hm

/-- A member whose key is behind all others becomes the last one. -/
theorem insertMember_of_forall_lt (value : α) (h : ∀ m ∈ ms, m.1 < key) :
    insertMember key value ms = ms ++ [(key, value)] := by
  induction ms with
  | nil => rfl
  | cons n rest ih =>
    rw [List.forall_mem_cons] at h
    rw [insertMember, if_neg (lt_asymm h.1), if_neg (ne_of_gt h.1), ih h.2, List.cons_append]

/-- Sorting gives members whose keys ascend, and takes them from those given. -/
theorem sortMembers_spec (ms : List (String × α)) :
    KeysAscend (sortMembers ms) ∧ ∀ m ∈ sortMembers ms, m ∈ ms := by
  suffices hfold : ∀ sorted : List (String × α), KeysAscend sorted →
      KeysAscend (ms.foldl (fun sorted m => insertMember m.1 m.2 sorted) sorted) ∧
      ∀ m ∈ ms.foldl (fun sorted m => insertMember m.1 m.2 sorted) sorted, m ∈ ms ∨ m ∈ sorted by
    obtain ⟨hascend, hmem⟩ := hfold [] List.Pairwise.nil
    exact ⟨hascend, fun m hm => (hmem m hm).resolve_right List.not_mem_nil⟩
  induction ms with
  | nil => exact fun sorted h => ⟨h, fun m hm => .inr hm⟩
  | cons n rest ih =>
    intro sorted h
    obtain ⟨hascend, hmem⟩ := ih (insertMember n.1 n.2 sorted) h.insertMember
    refine ⟨hascend, fun m hm => ?_⟩
    rcases hmem m hm with hrest | hsorted
    · exact .inl (List.mem_cons_of_mem n hrest)
    · rcases of_mem_insertMember hsorted with rfl | hsorted
      · exact .inl List.mem_cons_self
      · exact .inr hsorted

/-- Sorting leaves members alone whose keys ascend. -/
theorem sortMembers_of_keysAscend (h : KeysAscend ms) : sortMembers ms = ms := by
  suffices hfold : ∀ sorted : List (String × α), KeysAscend (sorted ++ ms) →
      ms.foldl (fun sorted m => insertMember m.1 m.2 sorted) sorted = sorted ++ ms by
    simpa [sortMembers] using hfold [] h
  clear h
  induction ms with
  | nil => exact fun sorted _ => (List.append_nil sorted).symm
  | cons n rest ih =>
    intro sorted h
    -- the next key is behind all that are sorted, so its member goes to the end
    have hlast : ∀ m ∈ sorted, m.1 < n.1 := fun m hm =>
      (List.pairwise_append.mp h).2.2 m hm n List.mem_cons_self
    have happend : sorted ++ n :: rest = (sorted ++ [n]) ++ rest := by simp
    rw [List.foldl_cons, insertMember_of_forall_lt n.2 hlast, happend]
    exact ih (sorted ++ [n]) (happend ▸ h)

end Members

/-! ## Values as texts state them -/

/-- A value in the form that every value read from a text has: whole numbers fit 64 bits, other numbers
are finite, and the keys of objects ascend. -/
inductive Formed : Json → Prop
  | null : Formed null
  | bool (b : Bool) : Formed (bool b)
  | int {n : Int} (h : isWord n = true) : Formed (int n)
  | real {d : Double} (h : d.isFinite = true) : Formed (real d)
  | str (s : String) : Formed (str s)
  | arr {items : List Json} (h : ∀ v ∈ items, Formed v) : Formed (arr items)
  | obj {members : List (String × Json)} (hkeys : KeysAscend members)
      (h : ∀ m ∈ members, Formed m.2) : Formed (obj members)

theorem Formed.object (h : ∀ m ∈ members, Formed m.2) : Formed (object members) :=
  .obj (sortMembers_spec members).1 fun m hm => h m ((sortMembers_spec members).2 m hm)

theorem formed_numberValue {l : Literal} {whole : Bool} (h : numberValue l whole = .ok v) :
    Formed v := by
  -- the whole number and its sign play no part but in the test for a word
  have hcases : ∀ (n : Int) (signed : Bool),
      (if whole && isWord n && !signed then .ok (.int n)
        else if l.toDouble.isFinite then .ok (.real l.toDouble)
        else (.error .numberRange : Except ReadError Json)) = .ok v → Formed v := by
    intro n signed h
    split at h
    next hword =>
      cases h
      simp only [Bool.and_eq_true] at hword
      exact .int hword.1.2
    next =>
      split at h
      next hfinite => cases h; exact .real hfinite
      next => cases h
  exact hcases _ _ h

mutual

theorem Tree.formed_value (t : Tree) {depth : Nat} {v : Json} (h : t.value depth = .ok v) :
    Formed v := by
  cases t with
  | null => cases h; exact .null
  | bool b => cases h; exact .bool b
  | number l whole => exact formed_numberValue h
  | string s =>
    cases s with
    | none => cases h
    | some s => cases h; exact .str s
  | array items =>
    rw [Tree.value] at h
    split at h
    next => cases h
    next =>
      cases hitems : Tree.itemValues (depth - 1) items with
      | error e => rw [hitems] at h; cases h
      | ok vs =>
        rw [hitems] at h
        cases h
        exact .arr (Tree.formed_itemValues items hitems)
  | object members =>
    rw [Tree.value] at h
    split at h
    next => cases h
    next =>
      cases hmembers : Tree.memberValues (depth - 1) members with
      | error e => rw [hmembers] at h; cases h
      | ok vs =>
        rw [hmembers] at h
        cases h
        exact .object (Tree.formed_memberValues members hmembers)

theorem Tree.formed_itemValues (ts : List Tree) {depth : Nat} {vs : List Json}
    (h : Tree.itemValues depth ts = .ok vs) : ∀ v ∈ vs, Formed v := by
  match ts with
  | [] => cases h; simp
  | t :: rest =>
    rw [Tree.itemValues] at h
    cases hfirst : t.value depth with
    | error e => rw [hfirst] at h; cases h
    | ok v =>
      cases hrest : Tree.itemValues depth rest with
      | error e => rw [hfirst, hrest] at h; cases h
      | ok vs =>
        rw [hfirst, hrest] at h
        cases h
        exact List.forall_mem_cons.mpr ⟨t.formed_value hfirst, Tree.formed_itemValues rest hrest⟩

theorem Tree.formed_memberValues (ts : List (Option String × Tree)) {depth : Nat}
    {ms : List (String × Json)} (h : Tree.memberValues depth ts = .ok ms) :
    ∀ m ∈ ms, Formed m.2 := by
  match ts with
  | [] => cases h; simp
  | (none, t) :: rest => rw [Tree.memberValues] at h; cases h
  | (some k, t) :: rest =>
    rw [Tree.memberValues] at h
    cases hfirst : t.value depth with
    | error e => simp only [hfirst] at h; cases h
    | ok v =>
      cases hrest : Tree.memberValues depth rest with
      | error e => simp only [hfirst, hrest] at h; cases h
      | ok ms =>
        simp only [hfirst, hrest] at h
        cases h
        exact List.forall_mem_cons.mpr
          ⟨t.formed_value hfirst, Tree.formed_memberValues rest hrest⟩

end

theorem formed_of_read {text : String} (h : read text = .ok v) : Formed v := by
  rw [read] at h
  split at h
  next t _ => exact t.formed_value h
  next => cases h

/-- A value that documents can hold as it is: whole numbers fit 64 bits with a sign, and no object, at
any depth, holds the key of an extended kind. -/
inductive Plain : Json → Prop
  | null : Plain null
  | bool (b : Bool) : Plain (bool b)
  | int {n : Int} (hlow : -2 ^ 63 ≤ n) (hhigh : n < 2 ^ 63) : Plain (int n)
  | real (d : Double) : Plain (real d)
  | str (s : String) : Plain (str s)
  | arr {items : List Json} (h : ∀ v ∈ items, Plain v) : Plain (arr items)
  | obj {members : List (String × Json)} (hkeys : ∀ m ∈ members, m.1 ∉ Value.extendedKeys)
      (h : ∀ m ∈ members, Plain m.2) : Plain (obj members)

end Json

/-! ## There and back -/

namespace Value

variable {v : Json} {items : List Json} {members : List (String × Json)}

/-- The plain form of a whole number does not show which kind holds it. -/
theorem toPlain_ofNumber {n : Int} (hlow : -2 ^ 63 ≤ n) (hhigh : n < 2 ^ 63) :
    (ofNumber n).toPlain = .int n := by
  rw [ofNumber, if_pos ⟨hlow, hhigh⟩, ofInt]
  split
  next h => rw [toPlain, Int32.toInt_ofInt_of_le h.1 h.2]
  next => rw [toPlain, Int64.toInt_ofInt_of_le hlow hhigh]

theorem extendedKey?_eq_none (h : ∀ m ∈ members, m.1 ∉ extendedKeys) :
    extendedKey? members = none := by
  rw [extendedKey?, List.find?_eq_none]
  intro key hkey hany
  obtain ⟨m, hm, heq⟩ := List.any_eq_true.mp hany
  exact h m hm (eq_of_beq heq ▸ hkey)

/-- A value is read, and the plain form of what it is read as is the value. -/
def Survives (v : Json) : Prop := ∃ w, ofJson v = .ok w ∧ w.toPlain = v

theorem exists_ofItems (h : ∀ v ∈ items, Survives v) :
    ∃ ws, ofItems items = .ok ws ∧ itemsToPlain ws = items := by
  induction items with
  | nil => exact ⟨[], rfl, rfl⟩
  | cons v rest ih =>
    obtain ⟨⟨w, hread, hplain⟩, hrest⟩ := List.forall_mem_cons.mp h
    obtain ⟨ws, hreads, hplains⟩ := ih hrest
    refine ⟨w :: ws, ?_, ?_⟩
    · rw [ofItems, hread, hreads]
      rfl
    · rw [itemsToPlain, hplain, hplains]

theorem exists_ofMembers (h : ∀ m ∈ members, Survives m.2) :
    ∃ fields, ofMembers members = .ok fields ∧ fieldsToPlain fields = members := by
  induction members with
  | nil => exact ⟨[], rfl, rfl⟩
  | cons m rest ih =>
    obtain ⟨key, v⟩ := m
    obtain ⟨⟨w, hread, hplain⟩, hrest⟩ := List.forall_mem_cons.mp h
    obtain ⟨fields, hreads, hplains⟩ := ih hrest
    refine ⟨(key, w) :: fields, ?_, ?_⟩
    · rw [ofMembers, hread, hreads]
      rfl
    · rw [fieldsToPlain, hplain, hplains]

/-- The document of an object whose parts survive has the object as its plain form. -/
theorem exists_ofMembers_object (hkeys : Json.KeysAscend members)
    (h : ∀ m ∈ members, Survives m.2) :
    ∃ d : Document, ofMembers members = .ok d ∧ d.toPlain = .obj members := by
  obtain ⟨d, hread, hplain⟩ := exists_ofMembers h
  refine ⟨d, hread, ?_⟩
  rw [Document.toPlain, hplain, Json.object, Json.sortMembers_of_keysAscend hkeys]

/-- Plain values survive, by induction on their depth. -/
theorem survives (hplain : v.Plain) (hformed : v.Formed) : Survives v := by
  induction hplain with
  | null => exact ⟨.null, rfl, rfl⟩
  | bool b => exact ⟨.bool b, rfl, rfl⟩
  | int hlow hhigh => exact ⟨_, rfl, toPlain_ofNumber hlow hhigh⟩
  | real d =>
    cases hformed with | real hfinite =>
    exact ⟨.double d, rfl, if_pos hfinite⟩
  | str s => exact ⟨.string s, rfl, rfl⟩
  | arr _ ih =>
    cases hformed with | arr hitems =>
    obtain ⟨ws, hread, hplain⟩ := exists_ofItems fun v hv => ih v hv (hitems v hv)
    refine ⟨.array ws, ?_, ?_⟩
    · rw [ofJson, hread]
      rfl
    · rw [toPlain, hplain]
  | obj hextended _ ih =>
    cases hformed with | obj hascend hmembers =>
    obtain ⟨d, hread, hplain⟩ := exists_ofMembers_object hascend fun m hm => ih m hm (hmembers m hm)
    refine ⟨.document d, ?_, ?_⟩
    · rw [ofJson, extendedKey?_eq_none hextended, hread]
      rfl
    · rw [toPlain]
      exact hplain

end Value

/-- **Plain JSON survives.** An object with plain values at its keys, which may be any keys, is stored as
a document, and the plain form of the document is the object. Every value that is read from a text has
the form that this asks for. -/
theorem plain_objects_survive :
    (∀ members : List (String × Json), (Json.obj members).Formed → (∀ m ∈ members, m.2.Plain) →
      ∃ d : Document, Document.ofJson? (.obj members) = some (.ok d) ∧ d.toPlain = .obj members) ∧
    ∀ (text : String) (v : Json), Json.read text = .ok v → v.Formed := by
  refine ⟨fun members hformed hplain => ?_, fun text v h => Json.formed_of_read h⟩
  cases hformed with | obj hascend hmembers =>
  have hsurvive : ∀ m ∈ members, Value.Survives m.2 := fun m hm =>
    Value.survives (hplain m hm) (hmembers m hm)
  obtain ⟨d, hread, hback⟩ := Value.exists_ofMembers_object hascend hsurvive
  exact ⟨d, by rw [Document.ofJson?, hread], hback⟩

/-- A text with numbers where their kinds begin and end, the negative zero, empty parts, and the key of an
identifier in the outermost object. -/
def borderText : String :=
  "\x7b\"a\":[-2147483649,9223372036854775807,[\x7b\x7d],\x7b\"b\":\"$oid\",\"\":-0.0\x7d]," ++
    "\"$oid\":-2147483648\x7d"

/-- The members of its object. -/
def borderMembers : List (String × Json) :=
  [("$oid", .int (-2147483648)),
   ("a", .arr [.int (-2147483649), .int 9223372036854775807, .arr [.obj []],
     .obj [("", .real (Double.zero true)), ("b", .str "$oid")]])]

theorem plain_borderText :
    Json.read borderText = .ok (.obj borderMembers) ∧ (Json.obj borderMembers).Formed ∧
      (∀ m ∈ borderMembers, m.2.Plain) ∧
      ∃ d : Document, Document.ofJson? (.obj borderMembers) = some (.ok d) ∧
        d.toPlain = .obj borderMembers := by
  have hread : Json.read borderText = .ok (.obj borderMembers) := by cbv
  have hformed := plain_objects_survive.2 borderText _ hread
  have hplain : ∀ m ∈ borderMembers, m.2.Plain := by
    have hempty : (Json.obj []).Plain := .obj (by simp) (by simp)
    have hinner : (Json.obj [("", .real (Double.zero true)), ("b", .str "$oid")]).Plain :=
      .obj (by decide) (by simp [Json.Plain.real, Json.Plain.str])
    simp [borderMembers, Json.Plain.int, Json.Plain.arr, hempty, hinner]
  exact ⟨hread, hformed, hplain, plain_objects_survive.1 borderMembers hformed hplain⟩

end Strata
