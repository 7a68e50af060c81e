import Mathlib.Data.List.Basic
import Strata.Limiter

/-!
# Runs of a limiter

A run is a list of calls at ascending times; its checks have answers. What a limiter will do with a
client shows in the bucket that a check of this client would use, now or later. Forgetting clients
does not change this bucket, because a bucket that is forgotten has ended, and a check would begin a
new one anyway; and a check does not change the buckets of other clients. So the answers to some
clients in a run are those of the run of their own checks alone.
-/

namespace Strata.Limiter

/-! ## Calls and answers -/

/-- A call of a limiter. -/
inductive Call where
  /-- a check, after forgetting what can be forgotten if there is a crowd -/
  | check (client : String) (now : Nat)
  /-- a check alone -/
  | checkAt (client : String) (now : Nat)
  | prune (now : Nat)
  deriving DecidableEq, Repr

namespace Call

/-- The time of a call. -/
def now : Call → Nat
  | check _ now | checkAt _ now | prune now => now

/-- The client and the time of a check. -/
def asked? : Call → Option (String × Nat)
  | check client now | checkAt client now => some (client, now)
  | prune _ => none

theorem now_of_asked? {c : Call} {client : String} {t : Nat} (h : c.asked? = some (client, t)) :
    c.now = t := by
  cases c <;> cases h <;> rfl

/-- Whether a call is a check. -/
def isCheck (c : Call) : Bool := c.asked?.isSome

/-- Whether a call is no check of a client outside of some clients. -/
def isWithin (among : String → Bool) (c : Call) : Bool := c.asked?.all fun a => among a.1

/-- A check of one of some clients, as a check alone. -/
def alone? (among : String → Bool) : Call → Option Call
  | check client now | checkAt client now => if among client then some (checkAt client now) else none
  | prune _ => none

end Call

/-- No call of a run is made before the calls in front of it. -/
def Ascending (calls : List Call) : Prop := calls.Pairwise fun c d => c.now ≤ d.now

instance (calls : List Call) : Decidable (Ascending calls) :=
  inferInstanceAs (Decidable (calls.Pairwise fun c d => c.now ≤ d.now))

/-- What a client was answered at a time. -/
structure Answer where
  client : String
  now : Nat
  outcome : Except Fault Unit

/-- What a call is answered, if it is a check, and the limiter behind it. -/
def step (l : Limiter) : Call → Option Answer × Limiter
  | .check client now => (some ⟨client, now, (l.check client now).1⟩, (l.check client now).2)
  | .checkAt client now => (some ⟨client, now, (l.checkAt client now).1⟩, (l.checkAt client now).2)
  | .prune now => (none, l.prune now)

/-- The limiter behind a run. -/
def after (l : Limiter) (calls : List Call) : Limiter := calls.foldl (fun l c => (l.step c).2) l

/-- The answers of a run. -/
def answers (l : Limiter) : List Call → List Answer
  | [] => []
  | c :: rest => (l.step c).1.toList ++ (l.step c).2.answers rest

variable {l l' : Limiter} {client other : String} {now since : Nat} {calls : List Call}

theorem answers_append (l : Limiter) (first rest : List Call) :
    l.answers (first ++ rest) = l.answers first ++ (l.after first).answers rest := by
  induction first generalizing l with
  | nil => rfl
  | cons c first ih => rw [List.cons_append, answers, answers, ih, List.append_assoc]; rfl

/-- Every check is answered, in the order of the run. -/
theorem map_answers (l : Limiter) (calls : List Call) :
    (l.answers calls).map (fun a => (a.client, a.now)) = calls.filterMap Call.asked? := by
  induction calls generalizing l with
  | nil => rfl
  | cons c rest ih =>
    rw [answers, List.map_append, ih, List.filterMap_cons]
    cases c <;> rfl

/-- Every answer belongs to a check of the run. -/
theorem exists_asked_of_mem_answers {a : Answer} (h : a ∈ l.answers calls) :
    ∃ c ∈ calls, c.asked? = some (a.client, a.now) := by
  rw [← List.mem_filterMap, ← map_answers l]
  exact List.mem_map_of_mem h

/-- A run within some clients has answers to these clients only. -/
theorem forall_among_of_isWithin {among : String → Bool}
    (h : ∀ c ∈ calls, c.isWithin among = true) : ∀ a ∈ l.answers calls, among a.client = true := by
  intro a ha
  obtain ⟨c, hc, hcasked⟩ := exists_asked_of_mem_answers ha
  have hwithin := h c hc
  rwa [Call.isWithin, hcasked, Option.all_some] at hwithin

/-! ## The bucket of a client -/

/-- The bucket of a client behind a check. -/
def charged (l : Limiter) (client : String) (now : Nat) : Bucket :=
  let b := l.bucketAt client now
  if l.most ≤ b.count then b else { b with count := b.count + 1 }

theorem fst_checkAt (l : Limiter) (client : String) (now : Nat) :
    (l.checkAt client now).1 =
      if l.most ≤ (l.bucketAt client now).count then
        .error (.rateLimited (waitSeconds now (l.bucketAt client now).resetAt))
      else .ok () := by
  rw [checkAt]
  split <;> rfl

theorem snd_checkAt (l : Limiter) (client : String) (now : Nat) :
    (l.checkAt client now).2
      = { l with buckets := l.buckets.insert client (l.charged client now) } := by
  rw [checkAt, charged]
  split <;> rfl

@[simp] theorem window_checkAt (l : Limiter) (client : String) (now : Nat) :
    (l.checkAt client now).2.window = l.window := by
  rw [snd_checkAt]

@[simp] theorem most_checkAt (l : Limiter) (client : String) (now : Nat) :
    (l.checkAt client now).2.most = l.most := by
  rw [snd_checkAt]

@[simp] theorem window_prune (l : Limiter) (now : Nat) : (l.prune now).window = l.window := rfl

@[simp] theorem most_prune (l : Limiter) (now : Nat) : (l.prune now).most = l.most := rfl

/-- A check of another client leaves a bucket alone. -/
theorem bucketAt_checkAt_of_ne (h : other ≠ client) (since now : Nat) :
    (l.checkAt other since).2.bucketAt client now = l.bucketAt client now := by
  rw [snd_checkAt, bucketAt, bucketAt, Std.HashMap.getElem?_insert, if_neg (by simpa using h)]

/-- The bucket behind a check is used until it ends. -/
theorem bucketAt_checkAt_self (l : Limiter) (client : String) (since now : Nat) :
    (l.checkAt client since).2.bucketAt client now =
      if (l.charged client since).resetAt ≤ now then ⟨0, now + l.window⟩
      else l.charged client since := by
  rw [snd_checkAt, bucketAt, Std.HashMap.getElem?_insert_self]

/-- Forgetting does not change the bucket of a check that comes later: a bucket that is forgotten has
ended. -/
theorem bucketAt_prune (l : Limiter) (client : String) (h : since ≤ now) :
    (l.prune since).bucketAt client now = l.bucketAt client now := by
  rw [prune, bucketAt, bucketAt, Std.HashMap.getElem?_filter']
  cases l.buckets[client]? with
  | none => rfl
  | some b =>
    -- an open bucket is kept, and an ended one would be replaced by the later check as well
    by_cases hopen : since < b.resetAt
    · have hkept : (some b).filter (fun b => decide (since < b.resetAt)) = some b :=
        Option.filter_some_pos (decide_eq_true hopen)
      simp only [hkept]
    · have hgone : (some b).filter (fun b => decide (since < b.resetAt)) = none :=
        Option.filter_some_neg (by simpa using hopen)
      simp only [hgone, if_pos (show b.resetAt ≤ now by omega)]

/-! ## Limiters that treat clients alike -/

/-- Two limiters use the same buckets for some clients from a time on. -/
structure Alike (among : String → Bool) (since : Nat) (l l' : Limiter) : Prop where
  window : l.window = l'.window
  most : l.most = l'.most
  bucketAt : ∀ client, among client = true → ∀ now, since ≤ now →
    l.bucketAt client now = l'.bucketAt client now

namespace Alike

variable {among : String → Bool}

theorem refl (among : String → Bool) (since : Nat) (l : Limiter) : Alike among since l l :=
  ⟨rfl, rfl, fun _ _ _ _ => rfl⟩

theorem mono (h : Alike among since l l') (hle : since ≤ now) : Alike among now l l' :=
  ⟨h.window, h.most, fun client hclient t ht => h.bucketAt client hclient t (Nat.le_trans hle ht)⟩

/-- Forgetting in one of them makes no difference. -/
theorem prune (h : Alike among since l l') (hle : since ≤ now) :
    Alike among now (l.prune now) l' := by
  refine ⟨h.window, h.most, fun client hclient t ht => ?_⟩
  rw [bucketAt_prune l client ht]
  exact h.bucketAt client hclient t (Nat.le_trans hle ht)

/-- A check of a client that does not matter makes no difference. -/
theorem checkAt_of_not_among (h : Alike among since l l') (hle : since ≤ now)
    (hclient : among client = false) : Alike among now (l.checkAt client now).2 l' := by
  refine ⟨by rw [window_checkAt, h.window], by rw [most_checkAt, h.most], fun c hc t ht => ?_⟩
  have hne : client ≠ c := by
    rintro rfl
    rw [hclient] at hc
    exact Bool.false_ne_true hc
  rw [bucketAt_checkAt_of_ne hne]
  exact h.bucketAt c hc t (Nat.le_trans hle ht)

theorem charged_eq (h : Alike among since l l') (hle : since ≤ now)
    (hclient : among client = true) : l.charged client now = l'.charged client now := by
  rw [charged, charged, h.bucketAt client hclient now hle, h.most]

/-- A check is answered the same by both, and leaves them alike. -/
theorem checkAt (h : Alike among since l l') (hle : since ≤ now) (hclient : among client = true) :
    (l.checkAt client now).1 = (l'.checkAt client now).1 ∧
      Alike among now (l.checkAt client now).2 (l'.checkAt client now).2 := by
  constructor
  · rw [fst_checkAt, fst_checkAt, h.bucketAt client hclient now hle, h.most]
  · refine ⟨by simp [h.window], by simp [h.most], fun c hc t ht => ?_⟩
    by_cases hne : client = c
    · subst hne
      rw [bucketAt_checkAt_self, bucketAt_checkAt_self, h.charged_eq hle hclient, h.window]
    · rw [bucketAt_checkAt_of_ne hne, bucketAt_checkAt_of_ne hne]
      exact h.bucketAt c hc t (Nat.le_trans hle ht)

end Alike

/-! ## Runs of limiters that are alike -/

namespace Alike

variable {among : String → Bool}

/-- A check alone, and the same check if its client matters. -/
theorem checkAlone (h : Alike among now l l') (client : String) :
    [(⟨client, now, (l.checkAt client now).1⟩ : Answer)].filter (fun a => among a.client)
        = l'.answers ((Call.checkAt client now).alone? among).toList ∧
      Alike among now (l.checkAt client now).2
        (l'.after ((Call.checkAt client now).alone? among).toList) := by
  cases hclient : among client with
  | false =>
    rw [List.filter_cons_of_neg (by simp [hclient]), Call.alone?, hclient]
    exact ⟨rfl, h.checkAt_of_not_among (Nat.le_refl now) hclient⟩
  | true =>
    obtain ⟨hsame, halike⟩ := h.checkAt (Nat.le_refl now) hclient
    rw [List.filter_cons_of_pos (by simp [hclient]), Call.alone?, hclient, hsame]
    exact ⟨rfl, halike⟩

/-- **One call.** Clients that matter get the same answers from the other limiter by their checks
alone, which leave the two alike. -/
theorem step (h : Alike among since l l') {c : Call} (hle : since ≤ c.now) :
    (l.step c).1.toList.filter (fun a => among a.client) = l'.answers (c.alone? among).toList ∧
      Alike among c.now (l.step c).2 (l'.after (c.alone? among).toList) := by
  cases c with
  | prune now => exact ⟨rfl, h.prune hle⟩
  | checkAt client now => exact (h.mono hle).checkAlone client
  | check client now =>
    -- forgetting first makes no difference to a check at the same time
    have hcrowd : Alike among now (if crowd < l.tracked then l.prune now else l) l' := by
      split
      · exact h.prune hle
      · exact h.mono hle
    exact hcrowd.checkAlone client

/-- **A run.** Clients that matter get the same answers from the other limiter by their checks
alone. -/
theorem answers_eq (h : Alike among since l l') (hcalls : Ascending calls)
    (hsince : ∀ c ∈ calls, since ≤ c.now) :
    (l.answers calls).filter (fun a => among a.client)
      = l'.answers (calls.filterMap (Call.alone? among)) := by
  induction calls generalizing since l l' with
  | nil => rfl
  | cons c rest ih =>
    obtain ⟨hbehind, hrest⟩ := List.pairwise_cons.mp hcalls
    obtain ⟨hanswer, halike⟩ := h.step (hsince c List.mem_cons_self)
    have hsplit : (c :: rest).filterMap (Call.alone? among)
        = (c.alone? among).toList ++ rest.filterMap (Call.alone? among) := by
      rw [List.filterMap_cons]
      cases c.alone? among <;> rfl
    rw [answers, List.filter_append, hanswer, ih halike hrest hbehind, hsplit, answers_append]

end Alike

/-- The answers to some clients are those of their own checks alone. -/
theorem filter_answers (among : String → Bool) (l : Limiter) (h : Ascending calls) :
    (l.answers calls).filter (fun a => among a.client)
      = l.answers (calls.filterMap (Call.alone? among)) :=
  (Alike.refl among 0 l).answers_eq h fun _ _ => Nat.zero_le _

/-- The answers of a run are those of its checks alone. -/
theorem answers_alone (l : Limiter) (h : Ascending calls) :
    l.answers calls = l.answers (calls.filterMap (Call.alone? fun _ => true)) := by
  rw [← filter_answers (fun _ => true) l h]
  exact (List.filter_eq_self.mpr fun _ _ => rfl).symm

theorem filterMap_alone?_filter {among : String → Bool} {p : Call → Bool}
    (h : ∀ c, p c = false → c.alone? among = none) (calls : List Call) :
    (calls.filter p).filterMap (Call.alone? among) = calls.filterMap (Call.alone? among) := by
  rw [List.filterMap_filter]
  refine List.filterMap_congr fun c _ => ?_
  cases hc : p c with
  | true => rfl
  | false => exact (h c hc).symm

/-- **Clients do not affect each other, and forgetting is not seen.** In a run of any limiter the answers
to a client are those that it gets if the checks of all other clients are left out. Two runs with the
same checks have the same answers, wherever the one or the other forgets clients. And every check
that may forget first can be replaced by a check alone. -/
theorem answers_unaffected (l : Limiter) (h : Ascending calls) :
    (∀ client, (l.answers calls).filter (fun a => a.client == client)
      = l.answers (calls.filter (Call.isWithin (· == client)))) ∧
    (∀ calls', Ascending calls' → calls'.filter Call.isCheck = calls.filter Call.isCheck →
      l.answers calls' = l.answers calls) ∧
    l.answers calls = l.answers (calls.filterMap (Call.alone? fun _ => true)) := by
  refine ⟨fun client => ?_, fun calls' h' hchecks => ?_, answers_alone l h⟩
  · have hwithin : ∀ c : Call, c.isWithin (· == client) = false →
        c.alone? (· == client) = none := by
      intro c hc
      cases c with
      | prune now => rfl
      | check other now | checkAt other now => exact if_neg (Bool.eq_false_iff.mp hc)
    have hself : (l.answers (calls.filter (Call.isWithin (· == client)))).filter
        (fun a => a.client == client) = l.answers (calls.filter (Call.isWithin (· == client))) :=
      List.filter_eq_self.mpr <| forall_among_of_isWithin fun c hc => (List.mem_filter.mp hc).2
    -- both runs have the same checks of the client alone
    rw [← hself, filter_answers (· == client) l h, filter_answers (· == client) l (h.filter _),
      filterMap_alone?_filter hwithin]
  · have hcheck : ∀ c : Call, c.isCheck = false → c.alone? (fun _ => true) = none := by
      intro c hc
      cases c with
      | prune now => rfl
      | check _ _ | checkAt _ _ => cases hc
    rw [answers_alone l h, answers_alone l h', ← filterMap_alone?_filter hcheck calls, ← hchecks,
      filterMap_alone?_filter hcheck]

/-- Two clients of a limiter of one request in a second, with a check and a forgetting where the windows
end. -/
def twoClients : List Call :=
  [.checkAt "a" 0, .checkAt "b" 0, .check "a" 1, .prune second, .check "b" second,
    .checkAt "a" second]

/-- The client `a` gets the answers that it would get alone, and both clients those that they would get
if nothing was forgotten. -/
theorem answers_twoClients :
    Ascending twoClients ∧
    ((new 0 1).answers twoClients).filter (fun a => a.client == "a")
      = (new 0 1).answers [.checkAt "a" 0, .check "a" 1, .prune second, .checkAt "a" second] ∧
    (new 0 1).answers (twoClients.filter Call.isCheck) = (new 0 1).answers twoClients ∧
    (new 0 1).answers twoClients = (new 0 1).answers
      [.checkAt "a" 0, .checkAt "b" 0, .checkAt "a" 1, .checkAt "b" second, .checkAt "a" second] := by
  have h : Ascending twoClients := by decide
  obtain ⟨hclient, hchecks, halone⟩ := answers_unaffected (new 0 1) h
  exact ⟨h, hclient "a", hchecks (twoClients.filter Call.isCheck) (by decide) (by decide), halone⟩

end Strata.Limiter
