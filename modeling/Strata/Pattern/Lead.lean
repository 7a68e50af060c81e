import Strata.Pattern.Footprint

/-!
# Leads

A pattern whose matches are a few fixed texts is searched for as these texts. No automaton is made
for it, so its footprint does not count. The texts are collected as *leads*: the bytes that a match
begins with, and whether they are the whole match. A collection is kept small: long leads are cut,
and a collection that would still be too large is given up, which is `none` throughout.

Collected leads are also improved for the search, by cutting them where few short leads find matches
faster than many long ones. What has been cut is no whole match any more, and then the pattern needs
its automaton after all.
-/

namespace Strata.Pattern

/-- The bytes that some matches begin with, and whether they are all of the match. -/
structure Lead where
  bytes : List Nat
  whole : Bool
  deriving DecidableEq, Repr

namespace Lead

/-- The lead of the empty match. -/
def start : Lead := ⟨[], true⟩

/-- A lead without the bytes behind the first `n`. -/
def cut (n : Nat) (l : Lead) : Lead :=
  if l.bytes.length ≤ n then l else ⟨l.bytes.take n, false⟩

/-- The same lead of longer matches. -/
def opened (l : Lead) : Lead := { l with whole := false }

/-- The lead of a match after a whole match. -/
def append (a b : Lead) : Lead := ⟨a.bytes ++ b.bytes, b.whole⟩

end Lead

/-- Leads in the order of preference; `none` if there is no list of them. -/
abbrev Leads := Option (List Lead)

namespace Leads

/-- The greatest number of characters that a set may have to be taken apart. -/
def maxMembers : Nat := 10

/-- How many rounds of a repetition are followed. -/
def maxRounds : Nat := 10

/-- How long leads grow. -/
def maxBytes : Nat := 100

/-- How many leads are kept. -/
def maxLeads : Nat := 250

/-- Neighbouring leads with the same bytes become one, which is a whole match if both are. -/
def merge : List Lead → List Lead
  | [] => []
  | l :: rest =>
    match merge rest with
    | [] => [l]
    | m :: ms => if l.bytes = m.bytes then ⟨l.bytes, l.whole && m.whole⟩ :: ms else l :: m :: ms

/-- Whether no lead is a whole match, so that what follows in the pattern adds nothing. -/
def isOpen : Leads → Bool
  | none => true
  | some ls => ls.all fun l => !l.whole

/-- All leads as leads of longer matches. -/
def opened (ls : Leads) : Leads := ls.map (·.map Lead.opened)

/-- The leads of a sequence whose second part has no list of leads. -/
def followedByAny (as : List Lead) : Leads :=
  if as.any (·.bytes.isEmpty) then none else some (as.map Lead.opened)

/-- The leads of a sequence of two parts. -/
def followedBy : Leads → Leads → Leads
  | none, _ => none
  | some as, none => followedByAny as
  | some as, some bs =>
    if maxLeads < as.length * bs.length then followedByAny as
    else
      some <| (merge (as.flatMap fun a => if a.whole then bs.map a.append else [a])).map
        (Lead.cut maxBytes)

/-- The leads of a choice of two parts. Where there are too many, four bytes of each have to do. -/
def orElse : Leads → Leads → Leads
  | some as, some bs =>
    if as.length + bs.length ≤ maxLeads then some (merge (as ++ bs))
    else
      let as := merge (as.map (Lead.cut 4))
      let bs := merge (bs.map (Lead.cut 4))
      if as.length + bs.length ≤ maxLeads then some (merge (as ++ bs)) else none
  | _, _ => none

/-- The leads of up to `n` rounds, one after the other. -/
def rounds (sub : Leads) : Nat → Leads → Leads
  | 0, ls => ls
  | n + 1, ls => if ls.isOpen then ls else rounds sub n (ls.followedBy sub)

/-- The leads of a repetition. -/
def repeated (sub : Leads) (least : Nat) (most : Option Nat) (greedy : Bool) : Leads :=
  let missing : Leads := some [Lead.start]
  if least = 0 then
    let sub := if most = some 1 then sub else sub.opened
    if greedy then sub.orElse missing else missing.orElse sub
  else
    let ls := rounds sub (min least maxRounds) missing
    if most = some least ∧ least ≤ maxRounds then ls else ls.opened

/-- The leads of a set: its characters, if they are few. -/
def ofSet (s : Unicode.CharSet) : Leads :=
  if maxMembers < s.ranges.foldl (fun n r => n + (r.hi + 1 - r.lo)) 0 then none
  else
    some <| s.ranges.flatMap fun r => (List.range (r.hi + 1 - r.lo)).map fun i =>
      ⟨encoding (r.lo + i), true⟩

end Leads

mutual

/-- The leads of an expression. -/
def Expr.leads : Expr → Leads
  | .empty => some [Lead.start]
  | .look _ => some [Lead.start]
  | .literal cs => some [Lead.cut Leads.maxBytes ⟨literalBytes cs, true⟩]
  | .set _ s => Leads.ofSet s
  | .repetition sub least most greedy => (Expr.leads sub).repeated least most greedy
  | .capture _ sub => Expr.leads sub
  | .concat items => Expr.sequenceLeads items (some [Lead.start])
  | .alternation branches => Expr.choiceLeads branches (some [])

/-- The leads of a sequence after parts that have leads already. -/
def Expr.sequenceLeads : List Expr → Leads → Leads
  | [], ls => ls
  | e :: rest, ls =>
    if ls.isOpen then ls else Expr.sequenceLeads rest (ls.followedBy (Expr.leads e))

/-- The leads of branches beside the leads of those before. -/
def Expr.choiceLeads : List Expr → Leads → Leads
  | [], ls => ls
  | e :: rest, ls =>
    if ls.isNone then none else Expr.choiceLeads rest (ls.orElse (Expr.leads e))

end

/-! ## Leads for a search -/

namespace Leads

/-- Bytes that are in any text many times. -/
def isFrequent (b : Nat) : Bool :=
  0xc0 ≤ b || [' ', 'e', 't'].any fun c => c.toNat == b

/-- Bytes of ASCII that many texts have. Those of other characters are frequent or no beginning. -/
def usual : List Char := "\n\r (),-./0129:_abcdefghilmnoprstuvxy|".toList

/-- Bytes that a search for them alone pays for. -/
def isRare (b : Nat) : Bool :=
  !isFrequent b && !usual.any fun c => c.toNat == b

/-- Leads without those that begin with an earlier one, which would be found first. -/
def uncovered (ls : List Lead) : List Lead :=
  (ls.foldl (fun kept l => if kept.any (·.bytes.isPrefixOf l.bytes) then kept else l :: kept)
    []).reverse

/-- The longest common beginning of two rows of bytes. -/
def commonBytes : List Nat → List Nat → List Nat
  | a :: as, b :: bs => if a = b then a :: commonBytes as bs else []
  | _, _ => []

/-- The longest common beginning of leads. -/
def common : List Lead → List Nat
  | [] => []
  | l :: rest => rest.foldl (fun bytes m => commonBytes bytes m.bytes) l.bytes

/-- How many bytes to keep if there are more leads than the second number, step by step. -/
def steps : List (Nat × Nat) := [(5, 10), (4, 10), (3, 64), (2, 64), (1, 10)]

/-- Leads cut step by step while there are too many. -/
def shortened : List (Nat × Nat) → List Lead → List Lead
  | [], ls => ls
  | (keep, limit) :: rest, ls =>
    if ls.length ≤ limit then ls else shortened rest (uncovered (ls.map (Lead.cut keep)))

/-- Whether a lead is found everywhere. -/
def isPoor (l : Lead) : Bool :=
  match l.bytes with
  | [] => true
  | [b] => isFrequent b
  | _ => false

/-- Whether shortened leads make a worse search than the whole matches they come from: they are
found everywhere, or too short, or still too many. -/
def isWorse (ls : List Lead) : Bool :=
  ls.isEmpty || ls.any (fun l => isPoor l || l.bytes.length ≤ 2) || 64 < ls.length

/-- Whether all leads are whole matches. -/
def allWhole (ls : List Lead) : Bool := ls.all Lead.whole

/-- Leads cut to their common beginning, if that is long or the leads are many. -/
def narrowed (ls : List Lead) : List Lead :=
  let n := (common ls).length
  if 4 < n ∨ (1 < n ∧ ¬ (allWhole ls ∧ ls.length ≤ 16)) then merge (ls.map (Lead.cut n)) else ls

/-- The leads to search for, if they are whole matches: what is left of the leads after they have
been improved, unless that has cut them. -/
def searched? (ls : List Lead) : Option (List Lead) :=
  let kept := uncovered ls
  let shared := common kept
  if ls.isEmpty ∨ ls.any (·.bytes.isEmpty) then none
  else if 1 < ls.length ∧ shared.length ≤ 3 ∧ shared.head?.any isRare then
    let cut := merge (kept.map (Lead.cut 1))
    if allWhole cut then some cut else none
  else
    let narrow := narrowed kept
    let short := shortened steps narrow
    if !allWhole narrow then none
    else if isWorse short then some narrow
    else if allWhole short then some short else none

end Leads

mutual

/-- Whether nothing is asserted and nothing is remembered. -/
def Expr.isPlain : Expr → Bool
  | .look _ => false
  | .capture _ _ => false
  | .repetition sub _ _ _ => Expr.isPlain sub
  | .concat items => Expr.allPlain items
  | .alternation branches => Expr.allPlain branches
  | _ => true

/-- Whether all expressions of a list are plain. -/
def Expr.allPlain : List Expr → Bool
  | [] => true
  | e :: rest => Expr.isPlain e && Expr.allPlain rest

end

/-- From how many branches on a choice of literals is searched for as such. -/
def manyLiterals : Nat := 3000

/-- Whether an expression is searched for as a list of texts. -/
def Expr.isTexts (e : Expr) : Bool :=
  e.isPlain &&
    ((e.leads.bind fun ls => Leads.searched? (Leads.merge ls)).isSome ||
      match e with
      | .alternation branches => manyLiterals ≤ branches.length && (literals? branches).isSome
      | _ => false)

end Strata.Pattern
