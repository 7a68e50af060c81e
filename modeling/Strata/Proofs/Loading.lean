import Strata.Proofs.Paging
import Strata.Store.Loading

/-!
# Loaded records have identifiers

Reading refuses a record whose identifier is no object identifier, and the store gives an identifier to
a record that comes without one. Loading only ever adds such records, so in a store that was filled by
loading, every record of every level has an identifier that a cursor can carry.
-/

namespace Strata

/-! ## Reading -/

/-- The identifier of a record, if it has one, is an object identifier. -/
def Identifiable (d : Document) : Prop := ∀ v, d.get? idField = some v → ∃ id, v = .objectId id

theorem checkIdentifier_eq_ok_iff {n : Nat} {d d' : Document} :
    checkIdentifier n d = .ok d' ↔ Identifiable d ∧ d' = d := by
  rw [checkIdentifier, Identifiable]
  cases d.get? idField with
  | none => simp [eq_comm]
  | some v => cases v <;> simp [eq_comm]

theorem identifiable_of_readRecord {n : Nat} {text : String} {d : Document}
    (h : readRecord n text = .ok d) : Identifiable d := by
  rw [readRecord] at h
  cases hjson : Json.read text with
  | error e => simp [hjson] at h
  | ok v =>
    cases hdocument : Document.ofJson? v with
    | none => simp [hjson, hdocument] at h
    | some outcome =>
      cases outcome with
      | error e => simp [hjson, hdocument] at h
      | ok given =>
        simp only [hjson, hdocument, checkIdentifier_eq_ok_iff] at h
        exact h.2 ▸ h.1

theorem identifiable_of_readLine {n : Nat} {line : List UInt8} {d? : Option Document}
    (h : readLine n line = .ok d?) : ∀ d ∈ d?, Identifiable d := by
  rintro d rfl
  rw [readLine] at h
  cases htext : Text.Utf8.decode? line with
  | none => simp [htext] at h
  | some text =>
    simp only [htext] at h
    split at h
    next => simp at h
    next =>
      cases hrecord : readRecord n (Text.trim text) with
      | error e => simp [hrecord, Except.map] at h
      | ok given =>
        obtain rfl : given = d := by simpa [hrecord, Except.map] using h
        exact identifiable_of_readRecord hrecord

theorem identifiable_of_readLines {n : Nat} {ls : List (List UInt8)} {docs : List Document}
    (h : readLines n ls = .ok docs) : ∀ d ∈ docs, Identifiable d := by
  induction ls generalizing n docs with
  | nil =>
    obtain rfl : [] = docs := Except.ok.inj h
    simp
  | cons line rest ih =>
    rw [readLines] at h
    cases hline : readLine n line with
    | error e => simp [hline] at h
    | ok d? =>
      cases hrest : readLines (n + 1) rest with
      | error e => simp [hline, hrest] at h
      | ok others =>
        obtain rfl : d?.toList ++ others = docs := by simpa [hline, hrest] using h
        intro d hd
        rcases List.mem_append.mp hd with hd | hd
        · exact identifiable_of_readLine hline d (Option.mem_toList.mp hd)
        · exact ih hrest d hd

theorem identifiable_of_readRecords {bytes : List UInt8} {docs : List Document}
    (h : readRecords bytes = .ok docs) : ∀ d ∈ docs, Identifiable d :=
  identifiable_of_readLines h

/-- The records of a file that is read are identifiable. -/
theorem identifiable_of_records {file : LevelFile} {docs : List Document}
    (h : file.records = .ok docs) : ∀ d ∈ docs, Identifiable d := by
  cases file with
  | closed reason => cases h
  | opened bytes failure =>
    cases failure with
    | none =>
      rw [LevelFile.records] at h
      cases hread : readRecords bytes with
      | error e => simp [hread, Except.mapError] at h
      | ok given =>
        obtain rfl : given = docs := by simpa [hread, Except.mapError] using h
        exact identifiable_of_readRecords hread
    | some reason =>
      -- a file whose reading fails gives no records
      rw [LevelFile.records] at h
      split at h <;> cases h

/-! ## Giving identifiers -/

theorem isSome_rootId?_identify {d : Document} (h : Identifiable d) (nextId : Nat) :
    (rootId? (identify nextId d).1).isSome := by
  rw [identify]
  cases hid : d.get? idField with
  | none =>
    have hfresh := rootId?_eq_some_iff.mpr (Document.get?_insert_self d idField
      (.objectId (.ofNat nextId)))
    simp [hfresh]
  | some v =>
    obtain ⟨id, rfl⟩ := h v hid
    simp [rootId?_eq_some_iff.mpr hid]

theorem isSome_rootId?_identifyAll {docs : List Document} (h : ∀ d ∈ docs, Identifiable d)
    (nextId : Nat) : ∀ d ∈ (identifyAll nextId docs).1, (rootId? d).isSome := by
  induction docs generalizing nextId with
  | nil => simp [identifyAll]
  | cons d rest ih =>
    rw [List.forall_mem_cons] at h
    have hrest := ih h.2 (identify nextId d).2
    exact List.forall_mem_cons.mpr ⟨isSome_rootId?_identify h.1 nextId, hrest⟩

namespace Store

/-! ## Filling the store -/

/-- Adding records leaves the other levels. -/
theorem snapshot_insert (s : Store) (level : Level) (docs : List Document) (l : Level) :
    (s.insert level docs).snapshot l
      = if l = level then s.snapshot level ++ (identifyAll s.nextId docs).1 else s.snapshot l :=
  PerLevel.get_set _ _ _ _

/-- All records have identifiers that a cursor can carry. -/
def WellIdentified (s : Store) : Prop := ∀ l, ∀ d ∈ s.snapshot l, (rootId? d).isSome

theorem wellIdentified_empty (firstId : Nat) : (empty firstId).WellIdentified := by
  intro l d hd
  cases l <;> exact absurd hd List.not_mem_nil

/-- Adding identifiable records keeps all records identified. -/
theorem WellIdentified.insert {s : Store} (hs : s.WellIdentified) {docs : List Document}
    (hdocs : ∀ d ∈ docs, Identifiable d) (level : Level) : (s.insert level docs).WellIdentified := by
  intro l d hd
  rw [snapshot_insert] at hd
  split at hd
  · rcases List.mem_append.mp hd with hd | hd
    · exact hs level d hd
    · exact isSome_rootId?_identifyAll hdocs s.nextId d hd
  · exact hs l d hd

/-- Loading files keeps all records identified, also where it stops at a bad file. -/
theorem WellIdentified.loadLevels {s : Store} (hs : s.WellIdentified) (folder : Folder)
    (levels : List Level) : (s.loadLevels folder levels).2.WellIdentified := by
  induction levels generalizing s with
  | nil => exact hs
  | cons level rest ih =>
    rw [Store.loadLevels]
    cases folder.file? level with
    | none => exact ih hs
    | some file =>
      dsimp only
      cases hread : file.records with
      | error e => exact hs
      | ok docs => exact ih (hs.insert (identifiable_of_records hread) level)

/-- A store that was empty at first and then filled by loading directories only. A load that fails may
have added the files before the bad one. -/
inductive Loaded : Store → Prop where
  | empty (firstId : Nat) : Loaded (.empty firstId)
  | load {s : Store} (h : Loaded s) (folder : Folder) : Loaded (s.load folder).2

/-- All records of a store that was filled by loading have identifiers. -/
theorem Loaded.wellIdentified {s : Store} (h : s.Loaded) : s.WellIdentified := by
  induction h with
  | empty firstId => exact wellIdentified_empty firstId
  | load _ folder ih => exact ih.loadLevels folder Level.all

end Store

end Strata
