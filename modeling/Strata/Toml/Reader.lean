import Strata.Text.Hex
import Strata.Toml.Scalar

/-!
# TOML texts

A text is read as a table. Keys are never given twice; a table that a header opened is not opened
again, dotted keys do not reach into it, and nothing reaches into a table written between braces.
Tables that a header or a dotted key passes through come into being on the way. Between braces line
ends and a last comma are allowed, and times need no seconds. Arrays and tables between braces nest
at most eighty deep, and no key has more parts than eighty.
-/

namespace Strata.Toml

open Text

/-- How a table came into being. -/
inductive Kind where
  /-- by its own header -/
  | opened
  /-- on the way of a header -/
  | implied
  /-- on the way of a dotted key -/
  | dotted
  /-- written between braces -/
  | inline
  deriving DecidableEq, Repr

/-- A value of a table. -/
inductive Node where
  | string (s : String)
  | scalar (s : Scalar)
  | array (items : List Node)
  | table (kind : Kind) (entries : List (String × Node))
  /-- tables under one repeated header, the last first -/
  | tables (items : List (List (String × Node)))
  deriving Inhabited

/-- The entries of a table. -/
abbrev Entries := List (String × Node)

namespace Entries

/-- The entries with the value of a key replaced. -/
def replace (entries : Entries) (key : String) (node : Node) : Entries :=
  entries.map fun e => if e.1 = key then (key, node) else e

/-- Changes the table behind a path. Tables that are missing on the way come into being; `dotted`
says whether the path belongs to a dotted key, which does not pass through opened tables. -/
def within (dotted : Bool) (change : Kind → Entries → Option Entries) :
    List String → Kind → Entries → Option Entries
  | [], kind, entries => change kind entries
  | key :: rest, _, entries =>
    match entries.lookup key with
    | none =>
      let kind : Kind := if dotted then .dotted else .implied
      (within dotted change rest kind []).map fun inner => entries ++ [(key, .table kind inner)]
    | some (.table kind inner) =>
      if kind = .inline ∨ (dotted ∧ kind = .opened) then none
      else (within dotted change rest kind inner).map fun inner =>
        replace entries key (.table kind inner)
    | some (.tables (last :: before)) =>
      (within dotted change rest .opened last).map fun last =>
        replace entries key (.tables (last :: before))
    | some _ => none

/-- Adds a value under a new key. -/
def add (key : String) (node : Node) (entries : Entries) : Option Entries :=
  if (entries.lookup key).isSome then none else some (entries ++ [(key, node)])

/-- Adds a value under a key, which may be dotted, to a table. -/
def addAt (path : List String) (node : Node) (entries : Entries) : Option Entries :=
  match path.reverse with
  | [] => none
  | [key] => add key node entries
  | key :: way =>
    within true (fun kind inner => if kind = .dotted then add key node inner else none)
      way.reverse .opened entries

/-- Opens the table of a header. -/
def openTable (path : List String) (entries : Entries) : Option Entries :=
  match path.reverse with
  | [] => none
  | key :: way =>
    within false (fun _ inner =>
      match inner.lookup key with
      | none => some (inner ++ [(key, .table .opened [])])
      | some (.table .implied own) => some (replace inner key (.table .opened own))
      | some _ => none) way.reverse .opened entries

/-- Opens one more table of a repeated header. -/
def openItem (path : List String) (entries : Entries) : Option Entries :=
  match path.reverse with
  | [] => none
  | key :: way =>
    within false (fun _ inner =>
      match inner.lookup key with
      | none => some (inner ++ [(key, .tables [[]])])
      | some (.tables items) => some (replace inner key (.tables ([] :: items)))
      | some _ => none) way.reverse .opened entries

end Entries

/-! ## Blanks and strings -/

/-- Whether a character is a blank within a line. -/
def isSpace (c : Char) : Bool := c == ' ' || c == '\t'

/-- Whether a character may stand in comments and between quotes. -/
def isPlain (c : Char) : Bool := c == '\t' || (0x20 ≤ c.toNat && c.toNat != 0x7f)

/-- Drops the blanks in front. -/
def skipSpaces (cs : List Char) : List Char := cs.dropWhile isSpace

/-- The rest behind a comment at the front, if there is one. -/
def skipComment : List Char → List Char
  | '#' :: rest => rest.dropWhile isPlain
  | cs => cs

/-- The rest behind a line end. -/
def lineEnd? : List Char → Option (List Char)
  | '\n' :: rest | '\r' :: '\n' :: rest => some rest
  | _ => none

/-- Skips blanks, comments and line ends; the first argument bounds their number. -/
def skipLines : Nat → List Char → List Char
  | 0, cs => cs
  | n + 1, cs =>
    let cs := skipComment (skipSpaces cs)
    match lineEnd? cs with
    | some rest => skipLines n rest
    | none => cs

/-- Skips all blanks, comments and line ends in front. -/
def skipAllLines (cs : List Char) : List Char := skipLines cs.length cs

/-- The character with a number written in `n` hexadecimal digits. -/
def coded? (n : Nat) (cs : List Char) : Option (Char × List Char) := do
  let ds ← (cs.take n).mapM Hex.digitValue?
  let code := ds.foldl (fun a d => 16 * a + d) 0
  guard (ds.length = n ∧ code.isValidChar)
  return (Char.ofNat code, cs.drop n)

/-- The character that an escape denotes, after its backslash. -/
def escape? : List Char → Option (Char × List Char)
  | 'b' :: rest => some ('\x08', rest)
  | 't' :: rest => some ('\t', rest)
  | 'n' :: rest => some ('\n', rest)
  | 'f' :: rest => some ('\x0c', rest)
  | 'r' :: rest => some ('\r', rest)
  | 'e' :: rest => some ('\x1b', rest)
  | '"' :: rest => some ('"', rest)
  | '\\' :: rest => some ('\\', rest)
  | 'x' :: rest => coded? 2 rest
  | 'u' :: rest => coded? 4 rest
  | 'U' :: rest => coded? 8 rest
  | _ => none

/-- The rest of a string on one line; `acc` holds its characters so far, last first. -/
def shortString? (quote : Char) : Nat → List Char → List Char → Option (String × List Char)
  | 0, _, _ | _, _, [] => none
  | n + 1, acc, c :: rest =>
    if c = quote then some (String.ofList acc.reverse, rest)
    else if c = '\\' ∧ quote = '"' then
      match escape? rest with
      | some (e, rest) => shortString? quote n (e :: acc) rest
      | none => none
    else if isPlain c then shortString? quote n (c :: acc) rest
    else none

/-- The rest behind a backslash at the end of a line: all blanks and line ends are skipped. -/
def joinLines? (cs : List Char) : Option (List Char) :=
  match lineEnd? (skipSpaces cs) with
  | some rest => some (rest.dropWhile fun c => isSpace c || c == '\n' || c == '\r')
  | none => none

/-- The rest of a string over several lines. Up to two quotes may stand in front of the closing
ones. -/
def longString? (quote : Char) : Nat → List Char → List Char → Option (String × List Char)
  | 0, _, _ | _, _, [] => none
  | n + 1, acc, c :: rest =>
    if c = quote then
      let run := 1 + (rest.takeWhile (· == quote)).length
      if run < 3 then longString? quote n (c :: acc) rest
      else if 5 < run then none
      else some (String.ofList (List.replicate (run - 3) quote ++ acc).reverse, rest.drop (run - 1))
    else if c = '\\' ∧ quote = '"' then
      match escape? rest with
      | some (e, rest) => longString? quote n (e :: acc) rest
      | none =>
        match joinLines? rest with
        | some rest => longString? quote n acc rest
        | none => none
    else match lineEnd? (c :: rest) with
      | some rest => longString? quote n ('\n' :: acc) rest
      | none => if isPlain c then longString? quote n (c :: acc) rest else none

/-- A string at the front; `long` says whether it may go over several lines. -/
def string? (long : Bool) (cs : List Char) : Option (String × List Char) :=
  match cs with
  | a :: b :: c :: rest =>
    if (a = '"' ∨ a = '\'') ∧ b = a ∧ c = a then
      if long then longString? a (rest.length + 1) [] ((lineEnd? rest).getD rest) else none
    else if a = '"' ∨ a = '\'' then shortString? a cs.length [] (b :: c :: rest)
    else none
  | a :: rest => if a = '"' ∨ a = '\'' then shortString? a cs.length [] rest else none
  | [] => none

/-! ## Keys and values -/

/-- Whether a character may stand in a key without quotes. -/
def isBare (c : Char) : Bool := c.isAlphanum || c == '_' || c == '-'

/-- A key without dots. -/
def simpleKey? (cs : List Char) : Option (String × List Char) :=
  match cs.takeWhile isBare with
  | [] => string? false cs
  | key => some (String.ofList key, cs.dropWhile isBare)

/-- A key with dots and blanks around them; the first argument bounds the number of parts. -/
def key? : Nat → List Char → Option (List String × List Char)
  | 0, _ => none
  | n + 1, cs =>
    match simpleKey? (skipSpaces cs) with
    | none => none
    | some (part, rest) =>
      match skipSpaces rest with
      | '.' :: rest => (key? n rest).map fun (parts, rest) => (part :: parts, rest)
      | rest => some ([part], rest)

/-- How deep values nest, and how many parts a key has at most. -/
def maxDepth : Nat := 80

/-- A key at the front. -/
def path? (cs : List Char) : Option (List String × List Char) :=
  (key? (cs.length + 1) cs).filter fun r => r.1.length ≤ maxDepth

/-- Whether a character may stand in a value without quotes. -/
def isScalarChar (c : Char) : Bool := isBare c || c == '+' || c == '.' || c == ':'

/-- The characters of a value without quotes. A blank may stand between a date and a time. -/
def scalarChars (cs : List Char) : List Char × List Char :=
  let word := cs.takeWhile isScalarChar
  let rest := cs.dropWhile isScalarChar
  match rest with
  | ' ' :: d :: more =>
    if date? word = some [] ∧ d.isDigit then
      (word ++ ' ' :: (d :: more).takeWhile isScalarChar, (d :: more).dropWhile isScalarChar)
    else (word, rest)
  | _ => (word, rest)

mutual

/-- A value at the front. The first argument bounds the work, the second one how deep it nests. -/
def value? : Nat → Nat → List Char → Option (Node × List Char)
  | 0, _, _ => none
  | n + 1, depth, cs =>
    match depth, cs with
    | _, '"' :: _ | _, '\'' :: _ => (string? true cs).map fun r => (.string r.1, r.2)
    | 0, '[' :: _ | 0, '{' :: _ => none
    | d + 1, '[' :: rest => items? n d [] (skipAllLines rest)
    | d + 1, '{' :: rest => members? n d [] (skipAllLines rest)
    | _, cs =>
      let (word, rest) := scalarChars cs
      (Scalar.ofChars? word).map fun s => (.scalar s, rest)

/-- The items of an array from one of them on, or its end. -/
def items? : Nat → Nat → List Node → List Char → Option (Node × List Char)
  | 0, _, _, _ => none
  | n + 1, depth, acc, cs =>
    match cs with
    | ']' :: rest => some (.array acc.reverse, rest)
    | cs =>
      match value? n depth cs with
      | none => none
      | some (v, rest) =>
        match skipAllLines rest with
        | ',' :: rest => items? n depth (v :: acc) (skipAllLines rest)
        | ']' :: rest => some (.array (v :: acc).reverse, rest)
        | _ => none

/-- The members of a table between braces from one of them on, or its end. -/
def members? : Nat → Nat → Entries → List Char → Option (Node × List Char)
  | 0, _, _, _ => none
  | n + 1, depth, entries, cs =>
    match cs with
    | '}' :: rest => some (.table .inline entries, rest)
    | cs =>
      match path? cs with
      | some (path, '=' :: rest) =>
        match value? n depth (skipSpaces rest) with
        | none => none
        | some (v, rest) =>
          match entries.addAt path v with
          | none => none
          | some entries =>
            match skipAllLines rest with
            | ',' :: rest => members? n depth entries (skipAllLines rest)
            | '}' :: rest => some (.table .inline entries, rest)
            | _ => none
      | _ => none

end

/-! ## Documents -/

/-- The rest of a line, which may hold blanks and a comment only. -/
def endOfLine? (cs : List Char) : Option (List Char) :=
  match skipComment (skipSpaces cs) with
  | [] => some []
  | cs => lineEnd? cs

/-- The path of a header, after its opening brackets. -/
def header? (closing : List Char) (cs : List Char) : Option (List String × List Char) :=
  match path? cs with
  | none => none
  | some (path, rest) =>
    if closing.isPrefixOf rest then
      (endOfLine? (rest.drop closing.length)).map fun rest => (path, rest)
    else none

/-- Reads line by line; `current` is the path of the table that lines belong to. -/
def document? : Nat → List String → Entries → List Char → Option Entries
  | 0, _, _, _ => none
  | n + 1, current, entries, cs =>
    match skipAllLines cs with
    | [] => some entries
    | '[' :: '[' :: rest => do
      let (path, rest) ← header? [']', ']'] rest
      let entries ← entries.openItem path
      document? n path entries rest
    | '[' :: rest => do
      let (path, rest) ← header? [']'] rest
      let entries ← entries.openTable path
      document? n path entries rest
    | cs =>
      match path? cs with
      | some (path, '=' :: rest) => do
        let (v, rest) ← value? (2 * rest.length + 2) maxDepth (skipSpaces rest)
        let entries ← Entries.within false (fun _ own => Entries.addAt path v own) current
          .opened entries
        let rest ← endOfLine? rest
        document? n current entries rest
      | _ => none

/-- Reads a text. A byte order mark in front does not count. -/
def read? (text : String) : Option Entries :=
  let cs := match text.toList with
    | '\ufeff' :: cs => cs
    | cs => cs
  document? (cs.length + 1) [] [] cs

end Strata.Toml
