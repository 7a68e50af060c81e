import Strata.Proofs.JsonRoundTrip
import Strata.Proofs.Loading

/-!
# Files are read line by line

What a line states does not depend on where it stands; only the fault of a bad line names its number.
So a file that begins with whole lines is read like these lines, and then like the rest: its records
are those of both parts, the first bad line decides, and a fault of the rest names its line as many
lines further down as there are lines before it.
-/

namespace Strata

open Text

/-! ## Lines -/

/-- Bytes that are whole lines: none, or bytes with a line feed at their end. -/
def WholeLines (a : List UInt8) : Prop := a = [] ∨ a.getLast? = some lineFeed

variable {a b : List UInt8}

/-- A line feed ends what is before it, whatever follows. -/
theorem linesFrom_append (current a b : List UInt8) :
    linesFrom current (a ++ lineFeed :: b) = linesFrom current (a ++ [lineFeed]) ++ lines b := by
  induction a generalizing current with
  | nil =>
    show linesFrom current (lineFeed :: b) = linesFrom current [lineFeed] ++ lines b
    rw [linesFrom, linesFrom, if_pos rfl, if_pos rfl]
    rfl
  | cons x rest ih =>
    rw [List.cons_append, List.cons_append, linesFrom, linesFrom]
    by_cases hx : x = lineFeed
    · rw [if_pos hx, if_pos hx, ih, List.cons_append]
    · rw [if_neg hx, if_neg hx, ih]

theorem lines_append (ha : WholeLines a) (b : List UInt8) : lines (a ++ b) = lines a ++ lines b := by
  rcases ha with rfl | ha
  · rfl
  · obtain ⟨front, rfl⟩ := List.getLast?_eq_some_iff.mp ha
    rw [List.append_assoc, List.singleton_append]
    exact linesFrom_append [] front b

theorem length_linesFrom (current a : List UInt8) :
    (linesFrom current (a ++ [lineFeed])).length = a.count lineFeed + 1 := by
  induction a generalizing current with
  | nil => rfl
  | cons x rest ih =>
    rw [List.cons_append, linesFrom]
    by_cases hx : x = lineFeed
    · rw [if_pos hx, List.length_cons, ih, hx, List.count_cons_self]
    · rw [if_neg hx, ih, List.count_cons_of_ne hx]

/-- There are as many whole lines as line feeds. -/
theorem length_lines (ha : WholeLines a) : (lines a).length = a.count lineFeed := by
  rcases ha with rfl | ha
  · rfl
  · obtain ⟨front, rfl⟩ := List.getLast?_eq_some_iff.mp ha
    rw [lines, length_linesFrom, List.count_append, List.count_singleton_self]

/-! ## Faults of lines -/

theorem toList_toString_nat (n : Nat) : (toString n).toList = Nat.toDigits 10 n := by
  rw [Nat.toString_eq_repr, Nat.toList_repr]

/-- The number and the reason are read off from the fault of a line. -/
theorem lineFault_inj {m n : Nat} {r s : String} :
    lineFault m r = lineFault n s ↔ m = n ∧ r = s := by
  constructor
  · intro h
    have htext : ("line " ++ toString m ++ ": " ++ r).toList
        = ("line " ++ toString n ++ ": " ++ s).toList := congrArg String.toList (Fault.io.inj h)
    simp only [String.toList_append, toList_toString_nat, List.append_assoc,
      List.append_cancel_left_eq] at htext
    have hcolon (t : String) : ": ".toList ++ t.toList = ':' :: ' ' :: t.toList := rfl
    rw [hcolon, hcolon] at htext
    -- the digits end at the first colon
    have hsplit := congrArg (splitOnce? ':') htext
    have hdigit : ∀ k, ∀ c ∈ Nat.toDigits 10 k, c ≠ ':' := by
      intro k c hc
      exact Json.isDigit_ne (Numeral.isDigit_of_mem_toDigits hc) (by decide)
    rw [Cursor.splitOnce?_append (hdigit m), Cursor.splitOnce?_append (hdigit n),
      Option.some.injEq, Prod.mk.injEq, List.cons.injEq] at hsplit
    obtain ⟨hdigits, -, hreason⟩ := hsplit
    refine ⟨?_, String.toList_inj.mp hreason⟩
    rw [← Numeral.ofDigits_toDigits m, hdigits, Numeral.ofDigits_toDigits n]
  · rintro ⟨rfl, rfl⟩
    rfl

/-- A file that is no text is not said to have a bad line. -/
theorem notText_ne_lineFault (n : Nat) (reason : String) : notText ≠ lineFault n reason := by
  intro h
  have htext : "stream did not contain valid UTF-8".toList
      = ("line " ++ toString n ++ ": " ++ reason).toList := congrArg String.toList (Fault.io.inj h)
  simp only [String.toList_append, List.append_assoc] at htext
  injection htext with hhead
  exact absurd hhead (by decide)

namespace Fault

/-- What becomes of the fault of a file when lines are put before it: the number of the line that it
names, if it names one, is raised by their number. -/
inductive LaterBy (k : Nat) : Fault → Fault → Prop
  | line (n : Nat) (reason : String) : LaterBy k (lineFault n reason) (lineFault (n + k) reason)
  | noLine {e : Fault} (h : ∀ n reason, e ≠ lineFault n reason) : LaterBy k e e

theorem LaterBy.unique {k : Nat} {e f g : Fault} (hf : LaterBy k e f) (hg : LaterBy k e g) :
    f = g := by
  cases hf with
  | line n reason =>
    generalize hline : lineFault n reason = e at hg
    cases hg with
    | line m other =>
      obtain ⟨rfl, rfl⟩ := lineFault_inj.mp hline
      rfl
    | noLine h => exact absurd hline.symm (h n reason)
  | noLine h =>
    cases hg with
    | line n reason => exact absurd rfl (h n reason)
    | noLine _ => rfl

end Fault

/-! ## Reading a line -/

/-- What a text states does not depend on the number of its line, which only its fault names. -/
theorem readRecord_cases (text : String) :
    (∃ d, ∀ n, readRecord n text = .ok d) ∨
      ∃ reason, ∀ n, readRecord n text = .error (lineFault n reason) := by
  cases hjson : Json.read text with
  | error e => exact .inr ⟨e.message, fun n => by rw [readRecord, hjson]⟩
  | ok v =>
    cases hdocument : Document.ofJson? v with
    | none =>
      refine .inr ⟨(Fault.io "expected JSON object").message, fun n => ?_⟩
      rw [readRecord, hjson]
      simp only [hdocument]
    | some outcome =>
      cases outcome with
      | error e =>
        refine .inr ⟨(Fault.io e.message).message, fun n => ?_⟩
        rw [readRecord, hjson]
        simp only [hdocument]
      | ok d =>
        have hread : ∀ n, readRecord n text = checkIdentifier n d := by
          intro n
          rw [readRecord, hjson]
          simp only [hdocument]
        simp only [hread, checkIdentifier]
        split
        · exact .inl ⟨d, fun _ => rfl⟩
        · exact .inl ⟨d, fun _ => rfl⟩
        · exact .inr ⟨_, fun _ => rfl⟩

/-- A line is read alike wherever it stands; its fault is that it is no text, or names its number. -/
theorem readLine_cases (line : List UInt8) :
    (∃ d?, ∀ n, readLine n line = .ok d?) ∨ (∀ n, readLine n line = .error notText) ∨
      ∃ reason, ∀ n, readLine n line = .error (lineFault n reason) := by
  simp only [readLine]
  cases Utf8.decode? line with
  | none => exact .inr (.inl fun _ => rfl)
  | some text =>
    dsimp only
    split
    · exact .inl ⟨none, fun _ => rfl⟩
    · rcases readRecord_cases (trim text) with ⟨d, hd⟩ | ⟨reason, hreason⟩
      · exact .inl ⟨some d, fun n => by rw [hd]; rfl⟩
      · exact .inr (.inr ⟨reason, fun n => by rw [hreason]; rfl⟩)

/-! ## Reading lines -/

variable {n : Nat} {ls : List (List UInt8)} {docs : List Document} {e : Fault}

/-- Records are read alike wherever their lines stand. -/
theorem readLines_of_ok (h : readLines n ls = .ok docs) (m : Nat) : readLines m ls = .ok docs := by
  induction ls generalizing n m docs with
  | nil => exact h
  | cons line rest ih =>
    rw [readLines] at h ⊢
    rcases readLine_cases line with ⟨d?, hline⟩ | hline | ⟨reason, hline⟩
    · rw [hline] at h ⊢
      cases hrest : readLines (n + 1) rest with
      | error e => simp [hrest] at h
      | ok others =>
        rw [hrest] at h
        simp only [ih hrest (m + 1)]
        exact h
    · simp [hline] at h
    · simp [hline] at h

/-- Of lines that stand further down the first bad one is the same, and so is its fault but for the
number of the line. -/
theorem exists_readLines_later (h : readLines n ls = .error e) (k : Nat) :
    ∃ f, readLines (n + k) ls = .error f ∧ e.LaterBy k f := by
  induction ls generalizing n with
  | nil => cases h
  | cons line rest ih =>
    rw [readLines] at h
    rw [readLines]
    rcases readLine_cases line with ⟨d?, hline⟩ | hline | ⟨reason, hline⟩
    · rw [hline] at h ⊢
      cases hrest : readLines (n + 1) rest with
      | error e' =>
        rw [hrest] at h
        obtain rfl : e' = e := Except.error.inj h
        obtain ⟨f, hf, hlater⟩ := ih hrest
        rw [Nat.add_right_comm] at hf
        exact ⟨f, by simp only [hf], hlater⟩
      | ok others => simp [hrest] at h
    · rw [hline] at h ⊢
      obtain rfl : notText = e := Except.error.inj h
      exact ⟨notText, rfl, .noLine notText_ne_lineFault⟩
    · rw [hline] at h ⊢
      obtain rfl : lineFault n reason = e := Except.error.inj h
      exact ⟨lineFault (n + k) reason, rfl, .line n reason⟩

/-- A bad line is reported whatever follows. -/
theorem readLines_append_of_error (h : readLines n ls = .error e) (ms : List (List UInt8)) :
    readLines n (ls ++ ms) = .error e := by
  induction ls generalizing n with
  | nil => cases h
  | cons line rest ih =>
    rw [List.cons_append, readLines]
    rw [readLines] at h
    cases hline : readLine n line with
    | error e' =>
      rw [hline] at h
      exact h
    | ok d? =>
      rw [hline] at h
      cases hrest : readLines (n + 1) rest with
      | error e' =>
        rw [hrest] at h
        obtain rfl : e' = e := Except.error.inj h
        simp only [ih hrest]
      | ok others => simp [hrest] at h

/-- Behind good lines the others are read with their numbers, and their records follow. -/
theorem readLines_append_of_ok (h : readLines n ls = .ok docs) (ms : List (List UInt8)) :
    readLines n (ls ++ ms) = (readLines (n + ls.length) ms).map (docs ++ ·) := by
  induction ls generalizing n docs with
  | nil =>
    obtain rfl : [] = docs := Except.ok.inj h
    cases hrest : readLines n ms <;> simp [hrest, Except.map]
  | cons line rest ih =>
    rw [List.cons_append, readLines]
    rw [readLines] at h
    cases hline : readLine n line with
    | error e => simp [hline] at h
    | ok d? =>
      cases hrest : readLines (n + 1) rest with
      | error e => simp [hline, hrest] at h
      | ok others =>
        obtain rfl : d?.toList ++ others = docs := by simpa [hline, hrest] using h
        have hlength : n + (line :: rest).length = n + 1 + rest.length := by
          rw [List.length_cons]
          omega
        simp only [ih hrest, hlength]
        cases readLines (n + 1 + rest.length) ms <;> simp [Except.map]

/-! ## Reading files -/

/-- **Files are read line by line.** A file that begins with whole lines fails as these lines do, if
they fail. If they are read, then the records of the rest follow theirs, or the fault of the rest is
reported, with the number of the line that it names, if any, raised by the number of lines before. All
records that are read have an object identifier or none. -/
theorem records_of_whole_lines :
    (∀ a b : List UInt8, WholeLines a →
      (∀ e, readRecords a = .error e → readRecords (a ++ b) = .error e) ∧
      ∀ docs, readRecords a = .ok docs →
        (∀ others, readRecords b = .ok others → readRecords (a ++ b) = .ok (docs ++ others)) ∧
        ∀ e, readRecords b = .error e → ∃ f, readRecords (a ++ b) = .error f ∧
          ∀ g, e.LaterBy (a.count lineFeed) g ↔ g = f) ∧
    ∀ (bytes : List UInt8) (docs : List Document), readRecords bytes = .ok docs →
      ∀ d ∈ docs, Identifiable d := by
  refine ⟨?_, fun bytes docs h => identifiable_of_readRecords h⟩
  intro a b ha
  have hnumber : 1 + (lines a).length = 1 + a.count lineFeed := by rw [length_lines ha]
  simp only [readRecords, lines_append ha]
  refine ⟨fun e he => readLines_append_of_error he _, ?_⟩
  intro docs hdocs
  rw [readLines_append_of_ok hdocs, hnumber]
  constructor
  · intro others hothers
    rw [readLines_of_ok hothers]
    rfl
  · intro e he
    obtain ⟨f, hf, hlater⟩ := exists_readLines_later he (a.count lineFeed)
    refine ⟨f, by rw [hf]; rfl, ?_⟩
    intro g
    constructor
    · intro hg
      exact hg.unique hlater
    · rintro rfl
      exact hlater

/-- A record and a blank line. -/
def spacedLines : List UInt8 := Utf8.encode "\x7b\"H11\":1\x7d\n \n"

/-- A record, and a line that is no record. -/
def brokenLines : List UInt8 := Utf8.encode "\x7b\"H11\":2\x7d\nH11"

/-- The bad line has number two in its file, number four behind two lines, and still number two if
lines follow. -/
theorem records_brokenLines :
    WholeLines spacedLines ∧ spacedLines.count lineFeed = 2 ∧
    (∃ docs, readRecords spacedLines = .ok docs ∧ docs.length = 1) ∧
    readRecords brokenLines = .error (lineFault 2 "malformed text") ∧
    readRecords (spacedLines ++ brokenLines) = .error (lineFault 4 "malformed text") ∧
    readRecords ((brokenLines ++ [lineFeed]) ++ spacedLines)
      = .error (lineFault 2 "malformed text") := by
  have hwhole : WholeLines spacedLines := .inr (by decide +kernel)
  have hcount : spacedLines.count lineFeed = 2 := by decide +kernel
  have hlength : (readRecords spacedLines).toOption.map List.length = some 1 := by decide +kernel
  have hfault {bytes : List UInt8} (h : (readRecords bytes).map List.length
      = .error (lineFault 2 "malformed text")) :
      readRecords bytes = .error (lineFault 2 "malformed text") := by
    cases hread : readRecords bytes with
    | error e =>
      rw [hread] at h
      exact congrArg Except.error (Except.error.inj h)
    | ok docs =>
      rw [hread] at h
      cases h
  have hbroken : readRecords brokenLines = _ := hfault (by decide +kernel)
  have hended : readRecords (brokenLines ++ [lineFeed]) = _ := hfault (by decide +kernel)
  obtain ⟨docs, hdocs⟩ : ∃ docs, readRecords spacedLines = .ok docs := by
    cases hread : readRecords spacedLines with
    | error e => simp [hread, Except.toOption] at hlength
    | ok docs => exact ⟨docs, rfl⟩
  obtain ⟨f, hf, hlater⟩ := ((records_of_whole_lines.1 _ brokenLines hwhole).2 docs hdocs).2 _ hbroken
  have hline : lineFault 4 "malformed text" = f := by
    rw [← hlater, hcount]
    exact .line 2 _
  refine ⟨hwhole, hcount, ⟨docs, hdocs, ?_⟩, hbroken, hline ▸ hf, ?_⟩
  · simpa [hdocs, Except.toOption] using hlength
  · exact (records_of_whole_lines.1 _ spacedLines (.inr (by decide +kernel))).1 _ hended

end Strata
