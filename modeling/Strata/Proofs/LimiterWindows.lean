import Strata.Proofs.LimiterRuns

/-!
# The windows of a client

The accepted checks of a client fall into *windows*. A window begins with an accepted check and has
the length that the limiter gives it; the checks accepted in it are counted, and the first check
behind its end begins the next one. So windows do not overlap, and no span of time as long as a window
meets more than two of them. A check is refused only if its window is full, and then all that fills it
is younger than a window.
-/

namespace Strata.Limiter

/-! ## Windows -/

/-- A window of a client: the time of the accepted check that it begins with, and the times of the later
ones in it. -/
structure Window where
  start : Nat
  later : List Nat

namespace Window

/-- The times of the accepted checks of a window. -/
def times (w : Window) : List Nat := w.start :: w.later

/-- The window with one more check. -/
def add (w : Window) (now : Nat) : Window := ⟨w.start, w.later ++ [now]⟩

@[simp] theorem start_add (w : Window) (now : Nat) : (w.add now).start = w.start := rfl

@[simp] theorem times_add (w : Window) (now : Nat) : (w.add now).times = w.times ++ [now] := rfl

end Window

/-- Windows of a length, one behind the other, of at most so many checks each. -/
structure Consecutive (window most : Nat) (ws : List Window) : Prop where
  size : ∀ w ∈ ws, w.times.length ≤ most
  within : ∀ w ∈ ws, ∀ t ∈ w.times, w.start ≤ t ∧ t < w.start + window
  apart : ws.Pairwise fun v w => v.start + window ≤ w.start

namespace Consecutive

variable {window most : Nat} {w : Window} {ws : List Window}

theorem tail (h : Consecutive window most (w :: ws)) : Consecutive window most ws :=
  ⟨(List.forall_mem_cons.mp h.size).2, (List.forall_mem_cons.mp h.within).2,
    (List.pairwise_cons.mp h.apart).2⟩

/-- A span of time has nothing of windows that begin behind it. -/
theorem countP_eq_zero (h : Consecutive window most ws) {first : Nat}
    (hstart : ∀ w ∈ ws, first + window ≤ w.start) :
    (ws.flatMap Window.times).countP (fun t => first ≤ t ∧ t < first + window) = 0 := by
  rw [List.countP_eq_zero]
  intro t ht
  obtain ⟨w, hw, htw⟩ := List.mem_flatMap.mp ht
  have hbegin := hstart w hw
  have hwithin := h.within w hw t htw
  simp only [decide_eq_true_eq]
  omega

/-- A span of time as long as a window meets one window at most of those that begin in it or later. -/
theorem countP_le_most (h : Consecutive window most ws) {first : Nat}
    (hstart : ∀ w ∈ ws, first ≤ w.start) :
    (ws.flatMap Window.times).countP (fun t => first ≤ t ∧ t < first + window) ≤ most := by
  cases ws with
  | nil => exact Nat.zero_le _
  | cons w rest =>
    have hrest : ∀ v ∈ rest, first + window ≤ v.start := by
      intro v hv
      have hfirst := hstart w List.mem_cons_self
      have hapart := (List.pairwise_cons.mp h.apart).1 v hv
      omega
    rw [List.flatMap_cons, List.countP_append, h.tail.countP_eq_zero hrest, Nat.add_zero]
    exact Nat.le_trans List.countP_le_length (h.size w List.mem_cons_self)

/-- A span of time as long as a window meets two windows at most. -/
theorem countP_le (h : Consecutive window most ws) (first : Nat) :
    (ws.flatMap Window.times).countP (fun t => first ≤ t ∧ t < first + window) ≤ 2 * most := by
  induction ws with
  | nil => exact Nat.zero_le _
  | cons w rest ih =>
    rw [List.flatMap_cons, List.countP_append]
    -- a window that has ended before the span adds nothing to it; else all others begin in the span
    by_cases hended : w.start + window ≤ first
    · have hzero : w.times.countP (fun t => first ≤ t ∧ t < first + window) = 0 := by
        rw [List.countP_eq_zero]
        intro t ht
        have hwithin := h.within w List.mem_cons_self t ht
        simp only [decide_eq_true_eq]
        omega
      rw [hzero, Nat.zero_add]
      exact ih h.tail
    · have hrest : ∀ v ∈ rest, first ≤ v.start := by
        intro v hv
        have hapart := (List.pairwise_cons.mp h.apart).1 v hv
        omega
      have hone : w.times.countP (fun t => first ≤ t ∧ t < first + window) ≤ most :=
        Nat.le_trans List.countP_le_length (h.size w List.mem_cons_self)
      have hothers := h.tail.countP_le_most hrest
      omega

/-- All windows have ended if the last one has. -/
theorem ended_of_last (h : Consecutive window most ws) {now : Nat}
    (hlast : ∀ w ∈ ws.getLast?, w.start + window ≤ now) : ∀ v ∈ ws, v.start + window ≤ now := by
  rcases ws.eq_nil_or_concat with rfl | ⟨older, w, rfl⟩
  · intro v hv
    exact absurd hv List.not_mem_nil
  · rw [List.concat_eq_append] at h hlast ⊢
    have hw : w.start + window ≤ now := hlast w (by simp)
    have hapart := (List.pairwise_append.mp h.apart).2.2
    rw [List.forall_mem_append, List.forall_mem_singleton]
    refine ⟨fun v hv => ?_, hw⟩
    have hvw : v.start + window ≤ w.start := hapart v hv w List.mem_cons_self
    omega

/-- A window may begin when the last one has ended. -/
theorem begin (h : Consecutive window most ws) {now : Nat} (hwindow : 0 < window) (hmost : 0 < most)
    (hlast : ∀ w ∈ ws.getLast?, w.start + window ≤ now) :
    Consecutive window most (ws ++ [⟨now, []⟩]) := by
  refine ⟨?_, ?_, ?_⟩
  · rw [List.forall_mem_append, List.forall_mem_singleton]
    exact ⟨h.size, hmost⟩
  · rw [List.forall_mem_append, List.forall_mem_singleton]
    refine ⟨h.within, fun t ht => ?_⟩
    rw [List.mem_singleton.mp ht]
    exact ⟨Nat.le_refl now, Nat.lt_add_of_pos_right hwindow⟩
  · rw [List.pairwise_append]
    refine ⟨h.apart, List.pairwise_singleton _ _, fun v hv w hw => ?_⟩
    rw [List.mem_singleton.mp hw]
    exact h.ended_of_last hlast v hv

/-- A check may be added to the last window while there is room and time. -/
theorem add (h : Consecutive window most (ws ++ [w])) {now : Nat} (hroom : w.times.length < most)
    (hstart : w.start ≤ now) (hopen : now < w.start + window) :
    Consecutive window most (ws ++ [w.add now]) := by
  obtain ⟨hsize, hwithin, hapart⟩ := h
  rw [List.forall_mem_append, List.forall_mem_singleton] at hsize hwithin
  rw [List.pairwise_append] at hapart
  refine ⟨?_, ?_, ?_⟩
  · rw [List.forall_mem_append, List.forall_mem_singleton, Window.times_add, List.length_append,
      List.length_singleton]
    exact ⟨hsize.1, hroom⟩
  · rw [List.forall_mem_append, List.forall_mem_singleton, Window.times_add, List.forall_mem_append,
      List.forall_mem_singleton]
    exact ⟨hwithin.1, hwithin.2, hstart, hopen⟩
  · rw [List.pairwise_append]
    refine ⟨hapart.1, List.pairwise_singleton _ _, fun v hv u hu => ?_⟩
    rw [List.mem_singleton.mp hu]
    exact hapart.2.2 v hv w List.mem_cons_self

end Consecutive

/-- The times at which a client was accepted. -/
def acceptedTimes (client : String) (answers : List Answer) : List Nat :=
  answers.filterMap fun a =>
    match a.outcome with
    | .ok () => if a.client = client then some a.now else none
    | .error _ => none

theorem acceptedTimes_append (client : String) (first rest : List Answer) :
    acceptedTimes client (first ++ rest) = acceptedTimes client first ++ acceptedTimes client rest :=
  List.filterMap_append

/-! ## The books of a client -/

/-- The bucket that a check at a time uses, if the windows so far end with a given one. -/
def openBucket (window : Nat) (last : Option Window) (now : Nat) : Bucket :=
  match last with
  | some w =>
    if w.start + window ≤ now then ⟨0, now + window⟩ else ⟨w.times.length, w.start + window⟩
  | none => ⟨0, now + window⟩

/-- The windows of a client up to a time, and a limiter whose bucket for this client counts the last one
of them. -/
structure Books (window most : Nat) (client : String) (since : Nat) (ws : List Window)
    (l : Limiter) : Prop where
  window_eq : l.window = window
  most_eq : l.most = most
  consecutive : Consecutive window most ws
  past : ∀ t ∈ ws.flatMap Window.times, t ≤ since
  bucketAt : ∀ now, since ≤ now → l.bucketAt client now = openBucket window ws.getLast? now

namespace Books

variable {window most : Nat} {client : String} {since now : Nat} {ws : List Window} {l l' : Limiter}

/-- The books are right for every limiter that treats the client alike. -/
theorem of_alike (h : Books window most client since ws l) (hle : since ≤ now)
    (halike : Alike (· == client) now l' l) : Books window most client now ws l' := by
  refine ⟨halike.window.trans h.window_eq, halike.most.trans h.most_eq, h.consecutive,
    fun t ht => Nat.le_trans (h.past t ht) hle, fun t ht => ?_⟩
  rw [halike.bucketAt client (beq_self_eq_true client) t ht]
  exact h.bucketAt t (Nat.le_trans hle ht)

/-- A check that finds no open window is accepted and begins one. -/
theorem checkAt_of_ended (h : Books window most client now ws l) (hwindow : 0 < window)
    (hmost : 0 < most) (hlast : ∀ w ∈ ws.getLast?, w.start + window ≤ now) :
    (l.checkAt client now).1 = .ok () ∧
      Books window most client now (ws ++ [⟨now, []⟩]) (l.checkAt client now).2 := by
  have hbucket : l.bucketAt client now = ⟨0, now + window⟩ := by
    rw [h.bucketAt now (Nat.le_refl now)]
    cases hw : ws.getLast? with
    | none => rfl
    | some w => exact if_pos (hlast w hw)
  have hroom : ¬ l.most ≤ (l.bucketAt client now).count := by
    rw [hbucket, h.most_eq]
    exact Nat.not_le.mpr hmost
  have hcharged : l.charged client now = ⟨1, now + window⟩ := by
    rw [charged, if_neg hroom, hbucket]
  refine ⟨by rw [fst_checkAt, if_neg hroom], by simp [h.window_eq], by simp [h.most_eq],
    h.consecutive.begin hwindow hmost hlast, ?_, fun t _ => ?_⟩
  · rw [List.flatMap_append, List.forall_mem_append]
    exact ⟨h.past, by simp [Window.times]⟩
  · rw [bucketAt_checkAt_self, hcharged, h.window_eq, List.getLast?_concat]
    rfl

/-- A check in an open window is accepted if there is room in it, and else refused. -/
theorem checkAt_of_open {older : List Window} {w : Window}
    (h : Books window most client now (older ++ [w]) l) (hopen : now < w.start + window) :
    (w.times.length < most ∧ (l.checkAt client now).1 = .ok () ∧
      Books window most client now (older ++ [w.add now]) (l.checkAt client now).2) ∨
    (most ≤ w.times.length ∧ (∃ e, (l.checkAt client now).1 = .error e) ∧
      Books window most client now (older ++ [w]) (l.checkAt client now).2) := by
  have hbucket : l.bucketAt client now = ⟨w.times.length, w.start + window⟩ := by
    rw [h.bucketAt now (Nat.le_refl now), List.getLast?_concat]
    exact if_neg (Nat.not_le.mpr hopen)
  by_cases hfull : most ≤ w.times.length
  · have hcount : l.most ≤ (l.bucketAt client now).count := by rwa [hbucket, h.most_eq]
    refine .inr ⟨hfull, ⟨_, by rw [fst_checkAt, if_pos hcount]⟩, by simp [h.window_eq],
      by simp [h.most_eq], h.consecutive, h.past, fun t _ => ?_⟩
    rw [bucketAt_checkAt_self, charged, if_pos hcount, hbucket, h.window_eq, List.getLast?_concat]
    rfl
  · have hcount : ¬ l.most ≤ (l.bucketAt client now).count := by rwa [hbucket, h.most_eq]
    have hroom : w.times.length < most := Nat.not_le.mp hfull
    have hstart : w.start ≤ now := h.past w.start (by simp [Window.times])
    refine .inl ⟨hroom, by rw [fst_checkAt, if_neg hcount], by simp [h.window_eq],
      by simp [h.most_eq], h.consecutive.add hroom hstart hopen, ?_, fun t _ => ?_⟩
    · have hpast := h.past
      simp only [List.flatMap_append, List.flatMap_singleton, List.forall_mem_append,
        Window.times_add, List.forall_mem_singleton] at hpast ⊢
      exact ⟨hpast.1, hpast.2, Nat.le_refl now⟩
    · rw [bucketAt_checkAt_self, charged, if_neg hcount, hbucket, h.window_eq, List.getLast?_concat]
      simp [openBucket]

/-- **A check of the client.** It is accepted, and the windows have its time as their last one; or it is
refused, and the last window is full of checks younger than a window. -/
theorem checkAt (h : Books window most client now ws l) (hwindow : 0 < window) (hmost : 0 < most) :
    (∃ ws', (l.checkAt client now).1 = .ok () ∧
      Books window most client now ws' (l.checkAt client now).2 ∧
      ws'.flatMap Window.times = ws.flatMap Window.times ++ [now]) ∨
    (∃ e, (l.checkAt client now).1 = .error e ∧
      Books window most client now ws (l.checkAt client now).2 ∧
      most ≤ (ws.flatMap Window.times).countP fun t => t ≤ now ∧ now < t + window) := by
  by_cases hlast : ∀ w ∈ ws.getLast?, w.start + window ≤ now
  · obtain ⟨hok, hbooks⟩ := h.checkAt_of_ended hwindow hmost hlast
    exact .inl ⟨_, hok, hbooks, by rw [List.flatMap_append]; rfl⟩
  · -- there is a last window, and it is open
    rcases ws.eq_nil_or_concat with rfl | ⟨older, w, rfl⟩
    · exact absurd (by simp) hlast
    · rw [List.concat_eq_append] at h hlast ⊢
      have hopen : now < w.start + window := by simpa using hlast
      rcases h.checkAt_of_open hopen with ⟨-, hok, hbooks⟩ | ⟨hfull, ⟨e, he⟩, hbooks⟩
      · exact .inl ⟨_, hok, hbooks, by simp⟩
      · refine .inr ⟨e, he, hbooks, ?_⟩
        have hrecent : w.times.countP (fun t => t ≤ now ∧ now < t + window) = w.times.length := by
          rw [List.countP_eq_length]
          intro t ht
          have hpast := h.past t (by simp [ht])
          have hwithin := h.consecutive.within w (by simp) t ht
          simp only [decide_eq_true_eq]
          omega
        rw [List.flatMap_append, List.countP_append, List.flatMap_singleton, hrecent]
        omega

/-- **A check of anyone.** The windows have its time as their last one if it is of the client and accepted,
and enough checks younger than a window if it is of the client and refused. -/
theorem answer (h : Books window most client now ws l) (hwindow : 0 < window) (hmost : 0 < most)
    {a : Answer} (ha : a.now = now) (houtcome : a.outcome = (l.checkAt a.client now).1) :
    ∃ ws', Books window most client now ws' (l.checkAt a.client now).2 ∧
      ws'.flatMap Window.times = ws.flatMap Window.times ++ acceptedTimes client [a] ∧
      (a.client = client → a.outcome ≠ .ok () →
        most ≤ (ws.flatMap Window.times).countP fun t => t ≤ a.now ∧ a.now < t + window) := by
  by_cases hclient : a.client = client
  · rcases h.checkAt hwindow hmost with ⟨ws', hok, hbooks, htimes⟩ | ⟨e, herror, hbooks, hrecent⟩
    · rw [hclient, hok] at houtcome
      refine ⟨ws', by rwa [hclient], ?_, fun _ hne => absurd houtcome hne⟩
      rw [htimes, acceptedTimes, List.filterMap_cons, houtcome, if_pos hclient, ha]
      rfl
    · rw [hclient, herror] at houtcome
      refine ⟨ws, by rwa [hclient], ?_, fun _ _ => by rwa [ha]⟩
      rw [acceptedTimes, List.filterMap_cons, houtcome, List.filterMap_nil, List.append_nil]
  · have hother : (a.client == client) = false := by simpa using hclient
    refine ⟨ws, ?_, ?_, fun h => absurd h hclient⟩
    · exact h.of_alike (Nat.le_refl now)
        ((Alike.refl _ now l).checkAt_of_not_among (Nat.le_refl now) hother)
    · rw [acceptedTimes, List.filterMap_cons, if_neg hclient]
      cases a.outcome <;> simp

/-- **One call.** After a call the books are right again: its accepted check is in the windows, and if it
refused the client then the windows have enough checks younger than a window. -/
theorem step (h : Books window most client since ws l) (hwindow : 0 < window) (hmost : 0 < most)
    {c : Call} (hle : since ≤ c.now) :
    ∃ ws', Books window most client c.now ws' (l.step c).2 ∧
      ws'.flatMap Window.times
        = ws.flatMap Window.times ++ acceptedTimes client (l.step c).1.toList ∧
      ∀ a ∈ (l.step c).1, a.client = client → a.outcome ≠ .ok () →
        most ≤ (ws.flatMap Window.times).countP fun t => t ≤ a.now ∧ a.now < t + window := by
  have hpruned : Books window most client c.now ws (l.prune c.now) :=
    h.of_alike hle ((Alike.refl _ _ l).prune (Nat.le_refl c.now))
  have hkept : Books window most client c.now ws l := h.of_alike hle (.refl _ _ l)
  cases c with
  | prune now => exact ⟨ws, hpruned, by simp [Limiter.step, acceptedTimes], by simp [Limiter.step]⟩
  | checkAt other now =>
    obtain ⟨ws', hbooks, htimes, hrefused⟩ := hkept.answer hwindow hmost
      (a := ⟨other, now, (l.checkAt other now).1⟩) rfl rfl
    exact ⟨ws', hbooks, htimes, fun a ha => by rw [← Option.some.inj ha]; exact hrefused⟩
  | check other now =>
    have hcrowd : Books window most client now ws (if crowd < l.tracked then l.prune now else l) := by
      split
      · exact hpruned
      · exact hkept
    obtain ⟨ws', hbooks, htimes, hrefused⟩ := hcrowd.answer hwindow hmost
      (a := ⟨other, now, (l.check other now).1⟩) rfl rfl
    exact ⟨ws', hbooks, htimes, fun a ha => by rw [← Option.some.inj ha]; exact hrefused⟩

/-- **A run.** Behind a run there are windows with all accepted checks, and whenever the client is refused
enough of those accepted before are younger than a window. -/
theorem run (h : Books window most client since ws l) (hwindow : 0 < window) (hmost : 0 < most)
    {calls : List Call} (hcalls : Ascending calls) (hsince : ∀ c ∈ calls, since ≤ c.now) :
    (∃ ws', Consecutive window most ws' ∧ ws'.flatMap Window.times
      = ws.flatMap Window.times ++ acceptedTimes client (l.answers calls)) ∧
    ∀ before a behind, l.answers calls = before ++ a :: behind → a.client = client →
      a.outcome ≠ .ok () →
        most ≤ (ws.flatMap Window.times ++ acceptedTimes client before).countP fun t =>
          t ≤ a.now ∧ a.now < t + window := by
  induction calls generalizing since ws l with
  | nil =>
    refine ⟨⟨ws, h.consecutive, (List.append_nil _).symm⟩, fun before a behind hsplit => ?_⟩
    exact absurd hsplit.symm (by simp [answers])
  | cons c rest ih =>
    obtain ⟨hbehind, hrest⟩ := List.pairwise_cons.mp hcalls
    obtain ⟨ws', hbooks, htimes, hrefused⟩ := h.step hwindow hmost (hsince c List.mem_cons_self)
    obtain ⟨⟨ws'', hwindows, hall⟩, hlater⟩ := ih hbooks hrest hbehind
    rw [htimes, List.append_assoc, ← acceptedTimes_append] at hall
    refine ⟨⟨ws'', hwindows, hall⟩, fun before a behind hsplit hclient hne => ?_⟩
    rw [htimes] at hlater
    rw [answers] at hsplit
    cases hanswer : (l.step c).1 with
    | none =>
      rw [hanswer] at hsplit hlater
      simpa [acceptedTimes] using hlater before a behind hsplit hclient hne
    | some first =>
      rw [hanswer] at hsplit hlater
      -- the refusal is the answer to this call, or one to a later call
      cases before with
      | nil =>
        obtain ⟨rfl, -⟩ := List.cons.inj hsplit
        simpa [acceptedTimes] using hrefused first hanswer hclient hne
      | cons other before =>
        obtain ⟨rfl, hrestsplit⟩ : first = other ∧
            (l.step c).2.answers rest = before ++ a :: behind := List.cons.inj hsplit
        have hrecent := hlater before a behind hrestsplit hclient hne
        rwa [List.append_assoc, ← acceptedTimes_append] at hrecent

end Books

/-! ## What a limiter lets through -/

theorem bucketAt_new (window most : Nat) (client : String) (now : Nat) :
    (new window most).bucketAt client now = ⟨0, now + (new window most).window⟩ := by
  rw [bucketAt, new, Std.HashMap.getElem?_empty]

/-- The books of a new limiter are empty. -/
theorem books_new (window most : Nat) (client : String) :
    Books (new window most).window (new window most).most client 0 [] (new window most) := by
  exact ⟨rfl, rfl, ⟨by simp, by simp, .nil⟩, by simp, fun now _ => bucketAt_new window most client now⟩

/-- **What a limiter lets through.** In every run of a new limiter the accepted checks of a client are
those of consecutive windows. So a span of time as long as a window has at most twice as many of them
as a window may hold. And a check is refused only if so many checks of the same client were accepted
within a window before it. -/
theorem windows_of_ascending (window most : Nat) {calls : List Call} (h : Ascending calls)
    (client : String) :
    let l := new window most
    let times := acceptedTimes client (l.answers calls)
    (∃ ws : List Window, Consecutive l.window l.most ws ∧ ws.flatMap Window.times = times) ∧
    (∀ first, times.countP (fun t => first ≤ t ∧ t < first + l.window) ≤ 2 * l.most ∧
      times.countP (fun t => first < t ∧ t ≤ first + l.window) ≤ 2 * l.most) ∧
    ∀ before a behind, l.answers calls = before ++ a :: behind → a.client = client →
      a.outcome ≠ .ok () →
        l.most ≤ (acceptedTimes client before).countP fun t => t ≤ a.now ∧ a.now < t + l.window := by
  intro l times
  have hwindow : 0 < l.window := by
    have hsecond : 0 < second := by decide
    exact Nat.lt_of_lt_of_le hsecond (Nat.le_max_right window second)
  have hmost : 0 < l.most := Nat.le_max_right most 1
  obtain ⟨⟨ws, hws, (htimes : ws.flatMap Window.times = times)⟩, hrefused⟩ :=
    (books_new window most client).run hwindow hmost h fun _ _ => Nat.zero_le _
  have hspan : ∀ first, times.countP (fun t => first ≤ t ∧ t < first + l.window) ≤ 2 * l.most :=
    fun first => htimes ▸ hws.countP_le first
  refine ⟨⟨ws, hws, htimes⟩, fun first => ⟨hspan first, ?_⟩, hrefused⟩
  -- what is open on the left and closed on the right is the other way round one nanosecond later
  refine Nat.le_trans (List.countP_mono_left fun t _ ht => ?_) (hspan (first + 1))
  simp only [decide_eq_true_eq] at ht ⊢
  omega

/-- A run of a limiter of two requests in a second: the window of `a` is full when it ends, and another
one is full where it begins. -/
def crossing : List Call :=
  [.checkAt "a" 0, .checkAt "a" (second - 1), .checkAt "b" (second - 1), .checkAt "a" (second - 1),
    .prune second, .checkAt "a" second, .checkAt "a" second]

theorem answers_crossing :
    (new 0 2).answers crossing =
      [⟨"a", 0, .ok ()⟩, ⟨"a", second - 1, .ok ()⟩, ⟨"b", second - 1, .ok ()⟩] ++
        ⟨"a", second - 1, .error (.rateLimited 1)⟩ ::
          [⟨"a", second, .ok ()⟩, ⟨"a", second, .ok ()⟩] := by
  have hmost : (new 0 2).most = 2 := rfl
  have hwindow : (new 0 2).window = second := rfl
  have hwait : waitSeconds 999999999 1000000000 = 1 := by decide
  simp [crossing, answers, step, fst_checkAt, bucketAt_checkAt_self, bucketAt_checkAt_of_ne,
    bucketAt_prune, charged, bucketAt_new, hmost, hwindow, hwait, second]

/-- The four accepted checks of `a` are of two windows, so no second has more than four of them; and the
check that is refused comes behind two that were accepted in the second before it. -/
theorem windows_crossing :
    Ascending crossing ∧
    (∃ ws : List Window, Consecutive second 2 ws ∧
      ws.flatMap Window.times = [0, second - 1, second, second]) ∧
    (∀ first, [0, second - 1, second, second].countP
      (fun t => first ≤ t ∧ t < first + second) ≤ 4) ∧
    2 ≤ [0, second - 1].countP fun t => t ≤ second - 1 ∧ second - 1 < t + second := by
  have h : Ascending crossing := by decide
  have htimes : acceptedTimes "a" ((new 0 2).answers crossing) = [0, second - 1, second, second] := by
    simp [answers_crossing, acceptedTimes]
  have hmost : (new 0 2).most = 2 := rfl
  have hwindow : (new 0 2).window = second := rfl
  obtain ⟨hwindows, hspan, hrefused⟩ := windows_of_ascending 0 2 h "a"
  have hrecent := hrefused _ _ _ answers_crossing rfl (by simp)
  simp only [htimes, hmost, hwindow] at hwindows hspan hrecent
  exact ⟨h, hwindows, fun first => (hspan first).1, by simpa [acceptedTimes] using hrecent⟩

end Strata.Limiter
