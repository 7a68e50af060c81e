import Strata.Proofs.LimiterWaits

/-!
# How much a limiter remembers

A limiter forgets the clients whose window has ended only when it tracks a crowd, and it counts them
before it takes the next client in. So a check leaves at most one client more than a crowd, or else it
has just forgotten, and every client that it tracks is active. And an active client has made a check
less than a window ago, because every bucket was opened by a check of its client.
-/

namespace Strata.Limiter

variable {l : Limiter} {client : String} {now : Nat} {b : Bucket} {calls : List Call}

/-! ## Clients that are tracked -/

/-- The tracked clients whose window ends behind a time. -/
def active (l : Limiter) (now : Nat) : List String :=
  (l.buckets.toList.filter fun e => decide (now < e.2.resetAt)).map Prod.fst

/-- The tracked clients whose window has ended. -/
def ended (l : Limiter) (now : Nat) : List String :=
  (l.buckets.toList.filter fun e => !decide (now < e.2.resetAt)).map Prod.fst

theorem mem_active_iff :
    client ∈ l.active now ↔ ∃ b, l.buckets[client]? = some b ∧ now < b.resetAt := by
  simp [active]

theorem nodup_active (l : Limiter) (now : Nat) : (l.active now).Nodup := by
  have hkeys : (l.buckets.toList.map Prod.fst).Nodup := by
    rw [Std.HashMap.map_fst_toList_eq_keys]
    exact Std.HashMap.nodup_keys
  exact hkeys.sublist (List.filter_sublist.map Prod.fst)

/-- A tracked client is active or has ended. -/
theorem length_active_add_length_ended (l : Limiter) (now : Nat) :
    (l.active now).length + (l.ended now).length = l.tracked := by
  rw [active, ended, List.length_map, List.length_map, tracked, ← Std.HashMap.length_toList]
  exact (List.length_eq_length_filter_add _).symm

theorem ended_eq_nil
    (h : ∀ (client : String) (b : Bucket), l.buckets[client]? = some b → now < b.resetAt) :
    l.ended now = [] := by
  rw [ended, List.map_eq_nil_iff, List.filter_eq_nil_iff]
  rintro ⟨client, b⟩ hb
  simpa using h client b (Std.HashMap.mem_toList_iff_getElem?_eq_some.mp hb)

/-! ## One check -/

/-- A check uses a bucket that is open. -/
theorem lt_resetAt_bucketAt (h : 0 < l.window) : now < (l.bucketAt client now).resetAt := by
  rw [bucketAt]
  split
  · split
    · exact Nat.lt_add_of_pos_right h
    · omega
  · exact Nat.lt_add_of_pos_right h

theorem resetAt_charged (l : Limiter) (client : String) (now : Nat) :
    (l.charged client now).resetAt = (l.bucketAt client now).resetAt := by
  rw [charged]
  split <;> rfl

theorem getElem?_prune :
    (l.prune now).buckets[client]? = some b ↔ l.buckets[client]? = some b ∧ now < b.resetAt := by
  rw [prune, Std.HashMap.getElem?_filter']
  simp [Option.filter_eq_some_iff]

/-- The buckets behind a check: the one of its client, and the others as they were. -/
theorem of_getElem?_checkAt {other : String}
    (h : (l.checkAt client now).2.buckets[other]? = some b) :
    (other = client ∧ b = l.charged client now) ∨ l.buckets[other]? = some b := by
  rw [snd_checkAt, Std.HashMap.getElem?_insert] at h
  split at h
  next heq => exact .inl ⟨(eq_of_beq heq).symm, (Option.some.inj h).symm⟩
  next => exact .inr h

/-- **One check.** Its client is active behind it, and either there is at most one client more than a
crowd, or no tracked client has ended. -/
theorem check_spec (h : 0 < l.window) (client : String) (now : Nat) :
    client ∈ (l.check client now).2.active now ∧
      ((l.check client now).2.tracked ≤ crowd + 1 ∨ (l.check client now).2.ended now = []) := by
  constructor
  · have hopen : ∀ l : Limiter, 0 < l.window → client ∈ (l.checkAt client now).2.active now := by
      intro l h
      refine mem_active_iff.mpr ⟨l.charged client now, ?_, ?_⟩
      · rw [snd_checkAt, Std.HashMap.getElem?_insert_self]
      · rw [resetAt_charged]
        exact lt_resetAt_bucketAt h
    refine hopen _ ?_
    split
    · exact h
    · exact h
  · rw [check]
    split
    next =>
      -- all that is left is open, and so is the bucket of the client
      refine .inr (ended_eq_nil fun other b hb => ?_)
      rcases of_getElem?_checkAt hb with ⟨-, rfl⟩ | hb
      · rw [resetAt_charged]
        exact lt_resetAt_bucketAt (by exact h)
      · exact (getElem?_prune.mp hb).2
    next hfew =>
      refine .inl ?_
      rw [snd_checkAt]
      exact Nat.le_trans Std.HashMap.size_insert_le (Nat.succ_le_succ (Nat.not_lt.mp hfew))

/-- The bounds behind a check. Its client takes part in them: it has not ended. -/
theorem check_bounds (h : 0 < l.window) (client : String) (now : Nat) :
    let l' := (l.check client now).2
    l'.tracked ≤ max (crowd + 1) (l'.active now).length ∧ client ∈ l'.active now ∧
      (l'.ended now).length ≤ crowd := by
  intro l'
  obtain ⟨hactive, (hcases : l'.tracked ≤ crowd + 1 ∨ l'.ended now = [])⟩ := check_spec h client now
  have hsum := length_active_add_length_ended l' now
  have hpos : 0 < (l'.active now).length := List.length_pos_of_mem hactive
  rcases hcases with hfew | hnone
  · exact ⟨Nat.le_trans hfew (Nat.le_max_left _ _), hactive, by omega⟩
  · have hzero : (l'.ended now).length = 0 := List.length_eq_zero_iff.mpr hnone
    rw [hzero, Nat.add_zero] at hsum
    exact ⟨hsum ▸ Nat.le_max_right _ _, hactive, hzero ▸ Nat.zero_le crowd⟩

/-! ## Where buckets come from -/

/-- Every bucket ends a window behind a check of its client. -/
structure Opened (window : Nat) (asked : List (String × Nat)) (l : Limiter) : Prop where
  window_eq : l.window = window
  opened : ∀ (client : String) (b : Bucket), l.buckets[client]? = some b →
    ∃ t, (client, t) ∈ asked ∧ b.resetAt = t + window

namespace Opened

variable {window : Nat} {asked : List (String × Nat)}

theorem mono (h : Opened window asked l) (more : List (String × Nat)) :
    Opened window (asked ++ more) l :=
  ⟨h.window_eq, fun client b hb =>
    (h.opened client b hb).imp fun _ ht => ht.imp_left (List.mem_append_left more)⟩

theorem prune (h : Opened window asked l) (now : Nat) : Opened window asked (l.prune now) :=
  ⟨h.window_eq, fun client b hb => h.opened client b (getElem?_prune.mp hb).1⟩

/-- A check opens a bucket, or goes on with one that is open. -/
theorem bucketAt (h : Opened window asked l) (client : String) (now : Nat) :
    ∃ t, (client, t) ∈ asked ++ [(client, now)] ∧
      (l.bucketAt client now).resetAt = t + window := by
  have hnew : ∃ t, (client, t) ∈ asked ++ [(client, now)] ∧
      (⟨0, now + l.window⟩ : Bucket).resetAt = t + window :=
    ⟨now, by simp, by rw [h.window_eq]⟩
  rw [Limiter.bucketAt]
  split
  next b hb =>
    split
    · exact hnew
    · exact (h.mono _).opened client b hb
  next => exact hnew

theorem checkAt (h : Opened window asked l) (client : String) (now : Nat) :
    Opened window (asked ++ [(client, now)]) (l.checkAt client now).2 := by
  refine ⟨(window_checkAt l client now).trans h.window_eq, fun other b hb => ?_⟩
  rcases of_getElem?_checkAt hb with ⟨rfl, rfl⟩ | hb
  · rw [resetAt_charged]
    exact h.bucketAt other now
  · exact (h.mono _).opened other b hb

/-- **One call.** -/
theorem step (h : Opened window asked l) (c : Call) :
    Opened window (asked ++ c.asked?.toList) (l.step c).2 := by
  cases c with
  | prune now => exact (h.prune now).mono []
  | checkAt client now => exact h.checkAt client now
  | check client now =>
    have hcrowd : Opened window asked (if crowd < l.tracked then l.prune now else l) := by
      split
      · exact h.prune now
      · exact h
    exact hcrowd.checkAt client now

/-- **A run.** -/
theorem run (h : Opened window asked l) (calls : List Call) :
    Opened window (asked ++ calls.filterMap Call.asked?) (l.after calls) := by
  induction calls generalizing asked l with
  | nil => exact h.mono []
  | cons c rest ih =>
    have hsplit : asked ++ (c :: rest).filterMap Call.asked?
        = (asked ++ c.asked?.toList) ++ rest.filterMap Call.asked? := by
      rw [List.append_assoc, List.filterMap_cons]
      cases c.asked? <;> rfl
    rw [hsplit]
    exact ih (h.step c)

end Opened

/-- An active client has made a check less than a window ago. -/
theorem Opened.exists_asked {window : Nat} (h : Opened window (calls.filterMap Call.asked?) l)
    (hnow : ∀ c ∈ calls, c.now ≤ now) (hactive : client ∈ l.active now) :
    ∃ t, (client, t) ∈ calls.filterMap Call.asked? ∧ t ≤ now ∧ now < t + l.window := by
  obtain ⟨b, hb, hlt⟩ := mem_active_iff.mp hactive
  obtain ⟨t, ht, hreset⟩ := h.opened client b hb
  obtain ⟨c, hc, hasked⟩ := List.mem_filterMap.mp ht
  have hle : t ≤ now := Call.now_of_asked? hasked ▸ hnow c hc
  rw [hreset, ← h.window_eq] at hlt
  exact ⟨t, ht, hle, hlt⟩

theorem opened_new (window most : Nat) : Opened (new window most).window [] (new window most) :=
  ⟨rfl, fun client b hb => by simp [new] at hb⟩

theorem window_after (window most : Nat) (calls : List Call) :
    ((new window most).after calls).window = max window second :=
  ((opened_new window most).run calls).window_eq

/-- **The memory of a limiter is bounded by its active clients.** In a run of a new limiter, the client of
a check is active behind it, and the limiter tracks no more than 10001 clients or else only active ones;
of those that have ended it tracks 10000 at most. Each active client has made a check of the run less
than a window ago. -/
theorem tracked_le_of_run (window most : Nat) {before : List Call} {client : String} {now : Nat}
    (h : Ascending (before ++ [.check client now])) :
    let calls := before ++ [.check client now]
    let l := (new window most).after calls
    l.tracked ≤ max 10001 (l.active now).length ∧ client ∈ l.active now ∧ (l.active now).Nodup ∧
    (l.active now).length + (l.ended now).length = l.tracked ∧ (l.ended now).length ≤ 10000 ∧
    ∀ c ∈ l.active now,
      ∃ t, (c, t) ∈ calls.filterMap Call.asked? ∧ t ≤ now ∧ now < t + l.window := by
  intro calls l
  -- how much is tracked is up to the last call; where the buckets come from, to the whole run
  have hlast : l = (((new window most).after before).check client now).2 := by
    simp [l, calls, after, step]
  have hwindow : 0 < ((new window most).after before).window :=
    window_after window most before ▸ window_new_pos window most
  obtain ⟨htracked, hactive, hended⟩ := check_bounds hwindow client now
  rw [← hlast] at htracked hactive hended
  have hopened : Opened (new window most).window (calls.filterMap Call.asked?) l := by
    simpa using (opened_new window most).run calls
  have hnow : ∀ c ∈ calls, c.now ≤ now := by
    intro c hc
    rcases List.mem_append.mp hc with hc | hc
    · exact (List.pairwise_append.mp h).2.2 c hc _ List.mem_cons_self
    · cases List.mem_singleton.mp hc
      exact Nat.le_refl now
  exact ⟨htracked, hactive, nodup_active l now, length_active_add_length_ended l now, hended,
    fun c hc => hopened.exists_asked hnow hc⟩

/-- Twenty thousand clients that make one check each, all at the start. -/
def rush : List Call := (List.range 20000).map fun n => .check (toString n) 0

/-- A second later a limiter of a second tracks the next client, which alone is active, and ten thousand
others at most. -/
theorem tracked_le_rush :
    Ascending (rush ++ [.check "late" second]) ∧
    let l := (new second 1).after (rush ++ [.check "late" second])
    "late" ∈ l.active second ∧ (l.active second).length = 1 ∧ l.tracked ≤ 10001 ∧
    (l.ended second).length ≤ 10000 := by
  have hstart : ∀ c ∈ rush, c.now = 0 := by simp [rush, Call.now]
  have h : Ascending (rush ++ [.check "late" second]) := by
    refine List.pairwise_append.mpr ⟨?_, List.pairwise_singleton _ _, fun c hc d _ => ?_⟩
    · exact List.pairwise_of_forall_mem_list fun c hc d hd => by rw [hstart c hc, hstart d hd]
    · exact hstart c hc ▸ Nat.zero_le d.now
  refine ⟨h, ?_⟩
  intro l
  obtain ⟨-, hlate, hnodup, (hsum : (l.active second).length + (l.ended second).length = l.tracked),
    hended, hasked⟩ := tracked_le_of_run second 1 h
  -- the others have asked a window ago
  have hsubset : l.active second ⊆ ["late"] := by
    intro c hc
    obtain ⟨t, ht, -, hlt⟩ := hasked c hc
    obtain ⟨d, hd, hdasked⟩ := List.mem_filterMap.mp ht
    rcases List.mem_append.mp hd with hd | hd
    · have hzero : t = 0 := (Call.now_of_asked? hdasked).symm.trans (hstart d hd)
      rw [hzero, Nat.zero_add, window_after, Nat.max_self] at hlt
      exact absurd hlt (Nat.lt_irrefl second)
    · cases List.mem_singleton.mp hd
      cases hdasked
      exact List.mem_cons_self
  have hone : (l.active second).length ≤ 1 := (hnodup.subperm hsubset).length_le
  have hpos : 0 < (l.active second).length := List.length_pos_of_mem hlate
  have hended : (l.ended second).length ≤ 10000 := hended
  exact ⟨hlate, by omega, by omega, hended⟩

end Strata.Limiter
