import Mathlib.Algebra.Order.Floor.Div
import Strata.Proofs.LimiterWindows

/-!
# How long to wait

A refused client is told how many seconds to wait. Its bucket is full and stays as it is until its
window ends: forgetting keeps it, other clients do not touch it, and refusing the client again writes
it back unchanged. So the client is *shut* out until then, and accepted by the first check behind it.
The wait is the time until the end of the window in whole seconds, rounded up: a second less is too
early, and the wait itself is enough.
-/

namespace Strata.Limiter

variable {l l' : Limiter} {client : String} {now since ends : Nat} {calls : List Call}

/-! ## The wait -/

/-- The wait ends with the window or less than a second behind it. -/
theorem waitSeconds_bounds (h : now < ends) :
    1 ≤ waitSeconds now ends ∧ now + (waitSeconds now ends - 1) * second < ends ∧
      ends ≤ now + waitSeconds now ends * second := by
  rw [waitSeconds, second]
  omega

/-- No wait is longer than a window in whole seconds. -/
theorem waitSeconds_le {window : Nat} (hlt : now < ends) (hle : ends ≤ now + window) :
    waitSeconds now ends ≤ window ⌈/⌉ second := by
  rw [waitSeconds, Nat.ceilDiv_eq_add_pred_div, second]
  omega

/-! ## What a call counts in -/

/-- The limiter that a call counts in: a check forgets first what can be forgotten if there is a
crowd. -/
def prepared (l : Limiter) : Call → Limiter
  | .check _ now => if crowd < l.tracked then l.prune now else l
  | .checkAt _ _ | .prune _ => l

/-- Two limiters in the same state: they have the same settings and track the same clients with the
same buckets. -/
structure SameState (l l' : Limiter) : Prop where
  window : l.window = l'.window
  most : l.most = l'.most
  buckets : l.buckets.Equiv l'.buckets

theorem step_of_asked {c : Call} (h : c.asked? = some (client, now)) :
    l.step c = (some ⟨client, now, ((l.prepared c).checkAt client now).1⟩,
      ((l.prepared c).checkAt client now).2) := by
  cases c with
  | check other t | checkAt other t => cases h; rfl
  | prune t => cases h

/-- Preparing makes no difference to a check. -/
theorem alike_prepared (among : String → Bool) (l : Limiter) (c : Call) :
    Alike among c.now (l.prepared c) l := by
  cases c with
  | checkAt other t | prune t => exact .refl _ _ _
  | check other t =>
    rw [prepared]
    split
    · exact (Alike.refl among t l).prune (Nat.le_refl t)
    · exact .refl _ _ _

/-! ## Clients that are shut out -/

/-- A client is refused until a time, and begins a new window then. -/
structure Shut (client : String) (ends since : Nat) (l : Limiter) : Prop where
  most_pos : 0 < l.most
  bucketAt : ∃ count, l.most ≤ count ∧ ∀ now, since ≤ now → l.bucketAt client now =
    if ends ≤ now then ⟨0, now + l.window⟩ else ⟨count, ends⟩

/-- A full bucket is the one that is tracked, and its window is open. -/
theorem getElem?_of_full (hmost : 0 < l.most) (hfull : l.most ≤ (l.bucketAt client now).count) :
    l.buckets[client]? = some (l.bucketAt client now) ∧ now < (l.bucketAt client now).resetAt := by
  have hpos : 0 < (l.bucketAt client now).count := Nat.lt_of_lt_of_le hmost hfull
  rw [Limiter.bucketAt] at hpos ⊢
  split at hpos
  next b hb =>
    split at hpos
    · exact absurd hpos (Nat.lt_irrefl 0)
    next hopen =>
      rw [if_neg hopen]
      exact ⟨hb, Nat.not_le.mp hopen⟩
  · exact absurd hpos (Nat.lt_irrefl 0)

/-- Refusing a client changes nothing, and the client is shut out until its window ends. -/
theorem shut_of_full (hmost : 0 < l.most) (hfull : l.most ≤ (l.bucketAt client now).count) :
    SameState (l.checkAt client now).2 l ∧
      Shut client (l.bucketAt client now).resetAt now (l.checkAt client now).2 := by
  obtain ⟨htracked, hopen⟩ := getElem?_of_full hmost hfull
  have hcharged : l.charged client now = l.bucketAt client now := if_pos hfull
  refine ⟨⟨by simp, by simp, .of_forall_getElem?_eq fun other => ?_⟩, by simpa using hmost, ?_⟩
  · rw [snd_checkAt, hcharged, Std.HashMap.getElem?_insert]
    by_cases hother : client = other
    · rw [if_pos (by simpa using hother), ← htracked, hother]
    · rw [if_neg (by simpa using hother)]
  · refine ⟨(l.bucketAt client now).count, by simpa using hfull, fun t _ => ?_⟩
    rw [bucketAt_checkAt_self, hcharged, window_checkAt]

namespace Shut

theorem of_alike (h : Shut client ends since l) (hle : since ≤ now)
    (halike : Alike (· == client) now l' l) : Shut client ends now l' := by
  obtain ⟨hmost, count, hcount, hbucket⟩ := h
  refine ⟨by rwa [halike.most], count, by rwa [halike.most], fun t ht => ?_⟩
  rw [halike.bucketAt client (beq_self_eq_true client) t ht, halike.window]
  exact hbucket t (Nat.le_trans hle ht)

/-- A check of the client is refused while its window is open, and leaves it shut out; behind the end of
the window it is accepted. -/
theorem checkAt (h : Shut client ends now l) :
    (now < ends ∧ (∃ wait, (l.checkAt client now).1 = .error (.rateLimited wait)) ∧
      Shut client ends now (l.checkAt client now).2) ∨
    (ends ≤ now ∧ (l.checkAt client now).1 = .ok ()) := by
  obtain ⟨hmost, count, hcount, hbucket⟩ := h
  have hnow := hbucket now (Nat.le_refl now)
  by_cases hends : ends ≤ now
  · rw [if_pos hends] at hnow
    refine .inr ⟨hends, ?_⟩
    rw [fst_checkAt, hnow, if_neg (Nat.not_le.mpr hmost)]
  · rw [if_neg hends] at hnow
    have hfull : l.most ≤ (l.bucketAt client now).count := by rwa [hnow]
    have hshut := (shut_of_full hmost hfull).2
    rw [hnow] at hshut
    exact .inl ⟨Nat.not_le.mp hends, ⟨_, by rw [fst_checkAt, if_pos hfull]⟩, hshut⟩

/-- **One call.** A client that is shut out is answered by the end of its window, and stays shut out
unless it is accepted. -/
theorem step (h : Shut client ends since l) {c : Call} (hle : since ≤ c.now) :
    (∀ a ∈ (l.step c).1, a.client = client →
      (a.now < ends ∧ ∃ wait, a.outcome = .error (.rateLimited wait)) ∨
        (ends ≤ a.now ∧ a.outcome = .ok ())) ∧
    ((∀ a ∈ (l.step c).1, a.client = client → a.outcome ≠ .ok ()) →
      Shut client ends c.now (l.step c).2) := by
  cases hasked : c.asked? with
  | none =>
    cases c with
    | check other t | checkAt other t => cases hasked
    | prune t =>
      refine ⟨by simp [Limiter.step], fun _ => ?_⟩
      exact h.of_alike hle ((Alike.refl _ t l).prune (Nat.le_refl t))
  | some asked =>
    obtain ⟨other, t⟩ := asked
    obtain rfl := Call.now_of_asked? hasked
    have hprepared : Shut client ends c.now (l.prepared c) := h.of_alike hle (alike_prepared _ l c)
    rw [step_of_asked hasked]
    simp only [Option.mem_some_iff, forall_eq']
    by_cases hother : other = client
    · subst hother
      rcases hprepared.checkAt with ⟨hopen, hrefused, hshut⟩ | ⟨hended, hok⟩
      · exact ⟨fun _ => .inl ⟨hopen, hrefused⟩, fun _ => hshut⟩
      · exact ⟨fun _ => .inr ⟨hended, hok⟩, fun hne => absurd hok (hne rfl)⟩
    · have hbeq : (other == client) = false := by simpa using hother
      refine ⟨fun h => absurd h hother, fun _ => hprepared.of_alike (Nat.le_refl c.now) ?_⟩
      exact (Alike.refl _ c.now (l.prepared c)).checkAt_of_not_among (Nat.le_refl c.now) hbeq

end Shut

/-! ## Runs -/

theorem now_of_mem_step {c : Call} {a : Answer} (h : a ∈ (l.step c).1) : a.now = c.now := by
  cases c with
  | prune t => cases h
  | check other t | checkAt other t => cases h; rfl

theorem exists_now_of_mem_answers {a : Answer} (h : a ∈ l.answers calls) :
    ∃ c ∈ calls, c.now = a.now := by
  obtain ⟨c, hc, hasked⟩ := exists_asked_of_mem_answers h
  exact ⟨c, hc, Call.now_of_asked? hasked⟩

namespace Shut

/-- **A run.** A client that is shut out is refused until its window ends, whatever else is called. -/
theorem refused_of_lt (h : Shut client ends since l) (hcalls : Ascending calls)
    (hsince : ∀ c ∈ calls, since ≤ c.now) :
    ∀ b ∈ l.answers calls, b.client = client → b.now < ends →
      ∃ wait, b.outcome = .error (.rateLimited wait) := by
  induction calls generalizing since l with
  | nil => simp [answers]
  | cons c rest ih =>
    obtain ⟨hbehind, hrest⟩ := List.pairwise_cons.mp hcalls
    obtain ⟨hanswer, hshut⟩ := h.step (hsince c List.mem_cons_self)
    intro b hb hclient hlt
    rw [answers, List.mem_append, Option.mem_toList] at hb
    rcases hb with hfirst | hlater
    · rcases hanswer b hfirst hclient with ⟨-, hrefused⟩ | ⟨hended, -⟩
      · exact hrefused
      · exact absurd hlt (Nat.not_lt.mpr hended)
    · refine ih (hshut fun a ha haclient hok => ?_) hrest hbehind b hlater hclient hlt
      -- had this call been accepted, then the window would have ended before the later answer
      obtain ⟨c', hc', hnow⟩ := exists_now_of_mem_answers hlater
      have hle : c.now ≤ b.now := hnow ▸ hbehind c' hc'
      rcases hanswer a ha haclient with ⟨-, wait, hrefused⟩ | ⟨hended, -⟩
      · rw [hok] at hrefused
        cases hrefused
      · rw [now_of_mem_step ha] at hended
        omega

/-- **A run.** A client that is shut out is accepted by its first check behind the end of its window. -/
theorem accepted_of_le (h : Shut client ends since l) (hcalls : Ascending calls)
    (hsince : ∀ c ∈ calls, since ≤ c.now) :
    ∀ between b behind, l.answers calls = between ++ b :: behind → b.client = client →
      ends ≤ b.now → (∀ d ∈ between, d.client = client → d.outcome ≠ .ok ()) → b.outcome = .ok () := by
  induction calls generalizing since l with
  | nil => simp [answers]
  | cons c rest ih =>
    obtain ⟨hbehind, hrest⟩ := List.pairwise_cons.mp hcalls
    obtain ⟨hanswer, hshut⟩ := h.step (hsince c List.mem_cons_self)
    intro between b behind hsplit hclient hle hbetween
    rw [answers] at hsplit
    cases hfirst : (l.step c).1 with
    | none =>
      rw [hfirst] at hsplit hshut
      exact ih (hshut (by simp)) hrest hbehind between b behind hsplit hclient hle hbetween
    | some first =>
      rw [hfirst] at hsplit hshut hanswer
      cases between with
      | nil =>
        obtain ⟨rfl, -⟩ := List.cons.inj hsplit
        rcases hanswer first rfl hclient with ⟨hopen, -⟩ | ⟨-, hok⟩
        · exact absurd hopen (Nat.not_lt.mpr hle)
        · exact hok
      | cons other between =>
        obtain ⟨rfl, hrestsplit⟩ : first = other ∧
            (l.step c).2.answers rest = between ++ b :: behind := List.cons.inj hsplit
        rw [List.forall_mem_cons] at hbetween
        refine ih (hshut fun a ha => ?_) hrest hbehind between b behind hrestsplit hclient hle
          hbetween.2
        rw [← Option.some.inj ha]
        exact hbetween.1

end Shut

/-- The books can be kept through a run. -/
theorem Books.exists_after {window most : Nat} {ws : List Window}
    (h : Books window most client since ws l) (hwindow : 0 < window) (hmost : 0 < most)
    (hcalls : Ascending calls) (hsince : ∀ c ∈ calls, since ≤ c.now) (hnow : ∀ c ∈ calls, c.now ≤ now)
    (hle : since ≤ now) : ∃ ws', Books window most client now ws' (l.after calls) := by
  induction calls generalizing since ws l with
  | nil => exact ⟨ws, h.of_alike hle (.refl _ _ l)⟩
  | cons c rest ih =>
    obtain ⟨hbehind, hrest⟩ := List.pairwise_cons.mp hcalls
    obtain ⟨ws', hbooks, -, -⟩ := h.step hwindow hmost (hsince c List.mem_cons_self)
    exact ih hbooks hrest hbehind (fun c' hc' => hnow c' (List.mem_cons_of_mem c hc'))
      (hnow c List.mem_cons_self)

/-- The bucket of a check ends within a window from now. -/
theorem Books.resetAt_le {window most : Nat} {ws : List Window}
    (h : Books window most client now ws l) : (l.bucketAt client now).resetAt ≤ now + l.window := by
  rw [h.window_eq, h.bucketAt now (Nat.le_refl now)]
  rcases ws.eq_nil_or_concat with rfl | ⟨older, w, rfl⟩
  · exact Nat.le_refl _
  · have hstart : w.start ≤ now := h.past w.start (by simp [Window.times])
    rw [List.concat_eq_append, List.getLast?_concat, openBucket]
    split
    · exact Nat.le_refl _
    · exact Nat.add_le_add_right hstart window

theorem window_new_pos (window most : Nat) : 0 < (new window most).window :=
  Nat.lt_of_lt_of_le (by decide : 0 < second) (Nat.le_max_right window second)

theorem most_new_pos (window most : Nat) : 0 < (new window most).most :=
  Nat.le_max_right most 1

/-- A check that is refused has found a full bucket. -/
theorem full_of_refused {wait : Nat} (h : (l.checkAt client now).1 = .error (.rateLimited wait)) :
    l.most ≤ (l.bucketAt client now).count ∧
      wait = waitSeconds now (l.bucketAt client now).resetAt := by
  rw [fst_checkAt] at h
  split at h
  next hfull => exact ⟨hfull, (Fault.rateLimited.inj (Except.error.inj h)).symm⟩
  · cases h

/-- In a run, the bucket that a check finds ends within a window. -/
theorem bucketAt_prepared_after (window most : Nat) (client : String) {before : List Call} {c : Call}
    (hbefore : Ascending before) (hbehind : ∀ d ∈ before, d.now ≤ c.now) :
    let l := (new window most).after before
    0 < (l.prepared c).most ∧
      ((l.prepared c).bucketAt client c.now).resetAt ≤ c.now + l.window := by
  intro l
  obtain ⟨ws, hbooks⟩ := (books_new window most client).exists_after (window_new_pos window most)
    (most_new_pos window most) hbefore (fun _ _ => Nat.zero_le _) hbehind (Nat.zero_le _)
  have hprepared := hbooks.of_alike (Nat.le_refl c.now) (alike_prepared _ l c)
  have hwindow : (l.prepared c).window = l.window :=
    hprepared.window_eq.trans hbooks.window_eq.symm
  exact ⟨hprepared.most_eq ▸ most_new_pos window most, hwindow ▸ hprepared.resetAt_le⟩

/-- **Refusals name an honest and tight wait.** If a check of a client is refused in a run, with the
word to wait so many seconds, then this is at least one second and at most a window in whole seconds.
The refusal leaves the limiter as it was when the check was counted. Whatever is called later, the
client is refused by every check that comes a second or more too early, and accepted by one that comes
after the wait if it was not accepted before. -/
theorem wait_of_refused (window most : Nat) {before later : List Call} {c : Call} {a : Answer}
    {wait : Nat} (h : Ascending (before ++ c :: later))
    (ha : (((new window most).after before).step c).1 = some a)
    (hrefused : a.outcome = .error (.rateLimited wait)) :
    let l := (new window most).after before
    let l' := (l.step c).2
    (1 ≤ wait ∧ wait ≤ l.window ⌈/⌉ second) ∧
    SameState l' (l.prepared c) ∧
    (∀ b ∈ l'.answers later, b.client = a.client → b.now ≤ a.now + (wait - 1) * second →
      ∃ wait', b.outcome = .error (.rateLimited wait')) ∧
    ∀ between b behind, l'.answers later = between ++ b :: behind → b.client = a.client →
      a.now + wait * second ≤ b.now →
      (∀ d ∈ between, d.client = a.client → d.outcome ≠ .ok ()) → b.outcome = .ok () := by
  intro l l'
  obtain ⟨hbefore, hfrom, hcross⟩ := List.pairwise_append.mp h
  obtain ⟨hlater, hascending⟩ := List.pairwise_cons.mp hfrom
  cases hasked : c.asked? with
  | none =>
    cases c with
    | check _ _ | checkAt _ _ => cases hasked
    | prune _ => cases ha
  | some asked =>
    obtain ⟨client, now⟩ := asked
    have hnow : c.now = now := by cases c <;> cases hasked <;> rfl
    have hstep := step_of_asked (l := l) hasked
    rw [show ((new window most).after before).step c = _ from hstep] at ha
    obtain rfl := Option.some.inj ha
    obtain ⟨hfull, rfl⟩ := full_of_refused hrefused
    -- the bucket that the check finds ends within a window, and the refusal shuts the client out
    have hbehind : ∀ d ∈ before, d.now ≤ c.now := fun d hd => hcross d hd c List.mem_cons_self
    obtain ⟨hmost, hend⟩ := bucketAt_prepared_after window most client hbefore hbehind
    rw [hnow] at hend
    obtain ⟨hsame, hshut⟩ := shut_of_full hmost hfull
    have hopen := (getElem?_of_full hmost hfull).2
    obtain ⟨hone, hearly, hlate⟩ := waitSeconds_bounds hopen
    have hl' : l' = ((l.prepared c).checkAt client now).2 := congrArg Prod.snd hstep
    rw [hl']
    have hsince : ∀ d ∈ later, now ≤ d.now := fun d hd => hnow ▸ hlater d hd
    refine ⟨⟨hone, waitSeconds_le hopen hend⟩, hsame, fun b hb hclient hle => ?_,
      fun between b behind hsplit hclient hle hbetween => ?_⟩
    · exact hshut.refused_of_lt hascending hsince b hb hclient (Nat.lt_of_le_of_lt hle hearly)
    · exact hshut.accepted_of_le hascending hsince between b behind hsplit hclient
        (Nat.le_trans hlate hle) hbetween

/-- The calls in front of a refusal by a limiter of one request in a second and a half. -/
def beforeRefusal : List Call := [.checkAt "a" 0, .checkAt "b" 0]

/-- The calls behind it: one of the same client a second later, with others until one after two
seconds. -/
def behindRefusal : List Call :=
  [.check "a" 1100000000, .prune 1500000000, .check "b" 1600000000, .check "a" 2100000000]

/-- The refused client is told to wait two seconds. A second later it is refused again, and after two
seconds it is accepted. -/
theorem wait_beforeRefusal :
    let l := (new (second + second / 2) 1).after beforeRefusal
    let l' := (l.checkAt "a" 100000000).2
    Ascending (beforeRefusal ++ .checkAt "a" 100000000 :: behindRefusal) ∧
    (l.checkAt "a" 100000000).1 = .error (.rateLimited 2) ∧ 2 ≤ l.window ⌈/⌉ second ∧ SameState l' l ∧
    ∃ wait answer, l'.answers behindRefusal =
      [⟨"a", 1100000000, .error (.rateLimited wait)⟩, ⟨"b", 1600000000, answer⟩,
        ⟨"a", 2100000000, .ok ()⟩] := by
  intro l l'
  have h : Ascending (beforeRefusal ++ .checkAt "a" 100000000 :: behindRefusal) := by decide
  have hrefused : (l.checkAt "a" 100000000).1 = .error (.rateLimited 2) := by
    have hmost : (new (second + second / 2) 1).most = 1 := rfl
    have hwindow : (new (second + second / 2) 1).window = 1500000000 := by decide
    have hwait : waitSeconds 100000000 1500000000 = 2 := by decide
    simp [l, after, beforeRefusal, step, fst_checkAt, bucketAt_checkAt_self, bucketAt_checkAt_of_ne,
      charged, bucketAt_new, hmost, hwindow, hwait]
  obtain ⟨⟨-, hwait⟩, hsame, hearly, hlate⟩ :=
    wait_of_refused (second + second / 2) 1 h rfl hrefused
  obtain ⟨first, other, last, hanswers⟩ : ∃ first other last, l'.answers behindRefusal =
      [⟨"a", 1100000000, first⟩, ⟨"b", 1600000000, other⟩, ⟨"a", 2100000000, last⟩] :=
    ⟨_, _, _, rfl⟩
  have hmem : ⟨"a", 1100000000, first⟩ ∈ l'.answers behindRefusal := by
    rw [hanswers]
    exact List.mem_cons_self
  have htoo : 1100000000 ≤ 100000000 + (2 - 1) * second := by decide
  have henough : 100000000 + 2 * second ≤ 2100000000 := by decide
  obtain ⟨wait, rfl⟩ : ∃ wait, first = .error (.rateLimited wait) := hearly _ hmem rfl htoo
  have hok : last = .ok () := hlate [_, _] _ [] hanswers rfl henough (by simp)
  exact ⟨h, hrefused, hwait, hsame, wait, other, by rw [hanswers, hok]⟩

end Strata.Limiter
