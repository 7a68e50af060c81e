import Strata.Proofs.Loading
import Strata.Proofs.Visibility

/-!
# Replies

A body has to pass the limiter, the reader and validation before any record is read, so a refusal knows
nothing of the records. Behind that, compiling succeeds, and whatever a read reports is answered with
one and the same reply. On a store that was filled by loading no read fails within its budget, and the
record that a page ends with always has an identifier to resume from.
-/

namespace Strata

/-! ## How runs fail -/

/-- A fault of a run. -/
def Fault.IsExecution (e : Fault) : Prop := ∃ reason, e = .execution reason

namespace Predicate

mutual

/-- A test fails by a pattern that does not compile only. -/
theorem isExecution_of_test (p : Predicate) {e : Fault} (h : p.test = .error e) :
    e.IsExecution := by
  cases p with
  | all parts =>
    rw [test] at h
    exact isExecution_of_testAll parts h
  | compare path op value => simp [test] at h
  | oneOf path values => simp [test] at h
  | pattern path text ignoreCase =>
    rw [test] at h
    split at h
    next => exact ⟨_, (Except.error.inj h).symm⟩
    next => cases h
  | correlate pairs => simp [test] at h

theorem isExecution_of_testAll (parts : List Predicate) {e : Fault}
    (h : testAll parts = .error e) : e.IsExecution := by
  cases parts with
  | nil => simp [testAll] at h
  | cons p rest =>
    rw [testAll] at h
    split at h
    next hp => exact isExecution_of_test p (hp.trans h)
    next =>
      split at h
      next hrest => exact isExecution_of_testAll rest (hrest.trans h)
      next => cases h

end

end Predicate

mutual

theorem Stage.isExecution_of_transform {records : Records} (s : Stage) {e : Fault}
    (h : s.transform records = .error e) : e.IsExecution := by
  cases s with
  | filter p =>
    rw [Stage.transform] at h
    split at h
    next hp =>
      obtain rfl := Except.error.inj h
      exact p.isExecution_of_test hp
    next => cases h
  | sort keys => simp [Stage.transform] at h
  | limit n => simp [Stage.transform] at h
  | lookup level vars pipeline target =>
    rw [Stage.transform] at h
    split at h
    next hrun =>
      obtain rfl := Except.error.inj h
      exact isExecution_of_pipelineTransform pipeline hrun
    next => cases h
  | unwind field => simp [Stage.transform] at h
  | project fields => simp [Stage.transform] at h

theorem isExecution_of_pipelineTransform {records : Records} (stages : List Stage) {e : Fault}
    (h : pipelineTransform records stages = .error e) : e.IsExecution := by
  cases stages with
  | nil => simp [pipelineTransform] at h
  | cons s rest =>
    rw [pipelineTransform] at h
    split at h
    next hs =>
      obtain rfl := Except.error.inj h
      exact s.isExecution_of_transform hs
    next =>
      split at h
      next hrest =>
        obtain rfl := Except.error.inj h
        exact isExecution_of_pipelineTransform rest hrest
      next => cases h

end

/-- Running any stages on a store fails with a fault of a run. -/
theorem Store.isExecution_of_aggregate {s : Store} {level : Level} {stages : List Stage}
    {budget : Nat} {e : Fault} (h : s.aggregate level stages budget = .error e) :
    e.IsExecution := by
  rw [Store.aggregate, Strata.aggregate] at h
  split at h
  next hrun =>
    obtain rfl := Except.error.inj h
    exact isExecution_of_pipelineTransform stages hrun
  next =>
    split at h
    next => exact ⟨_, (Except.error.inj h).symm⟩
    next => cases h

/-- What a service reads from: a reader that fails with faults of a run only. -/
structure Datastore where
  read : Reader
  isExecution : ∀ {level : Level} {stages : List Stage} {budget : Nat} {e : Fault},
    read level stages budget = .error e → e.IsExecution

/-- A store to read from. -/
def Store.datastore (s : Store) : Datastore := ⟨s.aggregate, Store.isExecution_of_aggregate⟩

/-- A datastore whose every read fails, for some reason. -/
def Datastore.broken (reason : Level → List Stage → Nat → String) : Datastore where
  read level stages budget := .error (.execution (reason level stages budget))
  isExecution h := ⟨_, (Except.error.inj h).symm⟩

/-- Running stages on the root level, whatever a store holds, succeeds within any positive budget, and
fails in no way but by the time limit. -/
def FailsByTimeOnly (stages : List Stage) : Prop :=
  ∀ (s : Store) (budget : Nat),
    (0 < budget → ∃ rows, s.aggregate .poly stages budget = .ok rows) ∧
    ∀ e, s.aggregate .poly stages budget = .error e → e = timeLimit

theorem failsByTimeOnly_of_transform {stages : List Stage}
    (h : ∀ records, ∃ run, pipelineTransform records stages = .ok run) :
    FailsByTimeOnly stages := by
  intro s budget
  obtain ⟨run, hrun⟩ := h s.snapshot
  simp only [Store.aggregate, Strata.aggregate, hrun]
  by_cases hzero : budget = 0
  · simp [hzero, eq_comm]
  · simp [hzero]

/-! ## Pages behind validation -/

namespace Request

variable {r : Request}

/-- The pipeline of a request that compiles, and its probe, fail by the time limit only. -/
theorem failsByTimeOnly_of_compile {q : Query} (h : r.compile = .ok q) :
    FailsByTimeOnly q.pipeline ∧ FailsByTimeOnly (probeStages q.pipeline) := by
  obtain ⟨hr, cursor, hcursor, rfl⟩ := compile_eq_ok_iff.mp h
  constructor
  · refine failsByTimeOnly_of_transform fun records => ?_
    obtain ⟨run, hrun, -⟩ := exists_transform_pipelineFrom records hr hcursor (r.pageSize + 1)
    exact ⟨run, hrun⟩
  · rw [probeStages_pipelineFrom hcursor]
    refine failsByTimeOnly_of_transform fun records => ?_
    obtain ⟨run, hrun, -⟩ := exists_transform_rootStages records hr hcursor (r.pageSize + 1)
    exact ⟨run, hrun⟩

/-- The page of a request that compiles fails by its reads only. -/
theorem isExecution_of_page {q : Query} (hcompile : r.compile = .ok q) {a : Datastore}
    {budgets : Budgets} {e : Fault} (h : r.page a.read budgets = .error e) : e.IsExecution := by
  simp only [page, bind_eq_error_iff] at h
  obtain hq | ⟨_, -, hrows | ⟨_, -, hprobe | ⟨_, -, h⟩⟩⟩ := h
  · rw [hcompile] at hq
    cases hq
  · exact a.isExecution hrows
  · exact a.isExecution hprobe
  · -- the page would end with a record without an identifier
    split at h
    next => exact ⟨_, (Except.error.inj h).symm⟩
    next => cases h

end Request

/-! ## The reply to a fault -/

/-- The reply to whatever goes wrong in a run. -/
def Reply.failed : Reply := ⟨500, Json.object [("error", .str "Query execution failed")], none⟩

theorem Fault.IsExecution.reply_eq {e : Fault} (h : e.IsExecution) : e.reply = .failed := by
  obtain ⟨reason, rfl⟩ := h
  rfl

/-- There is one reply with the status of a failure. -/
theorem Fault.reply_eq_failed {e : Fault} (h : e.reply.status = 500) : e.reply = .failed := by
  cases e <;> first | rfl | cases h

theorem replyTo_eq_failed {outcome : Except Fault Page} (h : (replyTo outcome).status = 500) :
    replyTo outcome = .failed := by
  cases outcome with
  | error e => exact e.reply_eq_failed h
  | ok p => cases h

/-! ## What comes before reading -/

namespace Limiter

variable {l : Limiter} {client : String} {now : Nat}

/-- The limiter refuses in one way only. -/
theorem exists_rateLimited_of_checkAt {e : Fault} (h : (l.checkAt client now).1 = .error e) :
    ∃ seconds, e = .rateLimited seconds := by
  rw [checkAt] at h
  split at h
  next => exact ⟨_, (Except.error.inj h).symm⟩
  next => cases h

theorem checkAt_of_full {b : Bucket} (hb : l.buckets[client]? = some b) (hopen : now < b.resetAt)
    (hfull : l.most ≤ b.count) :
    (l.checkAt client now).1 = .error (.rateLimited (waitSeconds now b.resetAt)) := by
  have hbucket : l.bucketAt client now = b := by
    simp only [bucketAt, hb, if_neg (Nat.not_le.mpr hopen)]
  rw [checkAt, hbucket, if_pos hfull]

/-- A client that has made all requests of its window is refused until the window ends, also when
others are forgotten. -/
theorem check_of_full {b : Bucket} (hb : l.buckets[client]? = some b) (hopen : now < b.resetAt)
    (hfull : l.most ≤ b.count) :
    (l.check client now).1 = .error (.rateLimited (waitSeconds now b.resetAt)) := by
  have hkept : (l.prune now).buckets[client]? = some b := by
    rw [prune, Std.HashMap.getElem?_filter', hb, Option.filter_some_pos]
    exact decide_eq_true hopen
  rw [check]
  split
  · exact checkAt_of_full hkept hopen hfull
  · exact checkAt_of_full hb hopen hfull

end Limiter

namespace Service

variable {v v' : Service} {now : Nat} {client body : String}

theorem exists_rateLimited_of_allow {e : Fault} (h : (v.allow client now).1 = .error e) :
    ∃ seconds, e = .rateLimited seconds := by
  rw [allow] at h
  cases hlimiter : v.limiter with
  | none => simp [hlimiter] at h
  | some l =>
    simp only [hlimiter] at h
    exact Limiter.exists_rateLimited_of_checkAt h

/-- Whether a client is let through depends on the limiter only. -/
theorem fst_allow_congr (h : v.limiter = v'.limiter) :
    (v.allow client now).1 = (v'.allow client now).1 := by
  rw [allow, allow, h]
  cases v'.limiter <;> rfl

/-- The request of a body that is let through, read and validated. -/
def accept (v : Service) (now : Nat) (client body : String) : Except Fault Request :=
  (v.allow client now).1 >>= fun _ => Request.parse body

theorem accept_congr (h : v.limiter = v'.limiter) :
    v.accept now client body = v'.accept now client body := by
  rw [accept, accept, fst_allow_congr h]

theorem accept_eq_ok_iff {r : Request} :
    v.accept now client body = .ok r ↔
      (v.allow client now).1 = .ok () ∧ Request.parse body = .ok r :=
  check_bind_eq_ok_iff

/-- The reply is that to a refusal, or that to the page of the request. -/
theorem fst_respond (v : Service) (read : Reader) (now : Nat) (client body : String) :
    (v.respond read now client body).1
      = replyTo (v.accept now client body >>= fun r => r.page read v.budgets) := by
  have hrespond : (v.respond read now client body).1
      = replyTo (v.handle read now client body).1 := rfl
  rw [hrespond, fst_handle, accept]
  cases (v.allow client now).1 <;> rfl

theorem fst_respond_of_error {e : Fault} (h : v.accept now client body = .error e) (read : Reader) :
    (v.respond read now client body).1 = e.reply := by
  rw [fst_respond, h]
  rfl

theorem fst_respond_of_ok {r : Request} (h : v.accept now client body = .ok r) (read : Reader) :
    (v.respond read now client body).1 = replyTo (r.page read v.budgets) := by
  rw [fst_respond, h]
  rfl

/-- A body that is accepted is answered with a page or with a failure. -/
theorem status_of_accept {r : Request} (h : v.accept now client body = .ok r) (a : Datastore) :
    (v.respond a.read now client body).1.status = 200 ∨
      (v.respond a.read now client body).1.status = 500 := by
  obtain ⟨-, hparse⟩ := accept_eq_ok_iff.mp h
  obtain ⟨-, _, -, hcompile⟩ := Request.compile_of_parse hparse
  rw [fst_respond_of_ok h]
  cases hpage : r.page a.read v.budgets with
  | ok p => exact .inl rfl
  | error e =>
    right
    show e.reply.status = 500
    rw [(Request.isExecution_of_page hcompile hpage).reply_eq]
    rfl

/-! ## The replies of a service -/

/-- **No late failure.** The pipeline of a request that compiles, and its probe, fail on no store but by
the time limit. And on a store that was filled by loading, a client that is let through gets a page for
every body that is read and validated, if neither budget is exceeded; the probe always finds the
identifier that the page ends with. -/
theorem no_late_failure :
    (∀ (r : Request) (q : Query), r.compile = .ok q →
      FailsByTimeOnly q.pipeline ∧ FailsByTimeOnly (probeStages q.pipeline)) ∧
    ∀ s : Store, s.Loaded → ∀ (v : Service) (now : Nat) (client body : String) (r : Request),
      Request.parse body = .ok r → (v.allow client now).1 = .ok () →
      0 < v.budgets.main → 0 < v.budgets.probe →
        (∃ p, r.page s.aggregate v.budgets = .ok p ∧
          (v.respond s.aggregate now client body).1 = ⟨200, p.toJson, none⟩) ∧
        ∀ q probe, r.compile = .ok q →
          s.aggregate .poly (probeStages q.pipeline) v.budgets.probe = .ok probe →
          (pageInfo? probe r.pageSize).isSome := by
  refine ⟨fun r q => Request.failsByTimeOnly_of_compile, fun s hs v now client body r hparse hallow
    hmain hprobe => ?_⟩
  obtain ⟨hr, cursor, hcursor, hcompile⟩ := Request.compile_of_parse hparse
  obtain ⟨p, hp, -⟩ :=
    Request.exists_page_of_isSome hr hcursor (hs.wellIdentified .poly) hmain hprobe
  constructor
  · refine ⟨p, hp, ?_⟩
    rw [fst_respond_of_ok (accept_eq_ok_iff.mpr ⟨hallow, hparse⟩), hp]
    rfl
  · intro q probe hq hrows
    -- the page is put together from the same probe
    obtain ⟨q', _, probe', info, hq', -, hrows', hinfo, -⟩ := Request.page_eq_ok_iff.mp hp
    obtain rfl : q' = q := Except.ok.inj (hq'.symm.trans hq)
    obtain rfl : probe' = probe := Except.ok.inj (hrows'.symm.trans hrows)
    rw [hinfo]
    rfl

/-- A directory with two root records, of which the second one comes with an identifier. -/
def pairFolder : Folder where
  path := "data"
  file?
    | .poly => some (.opened (Text.Utf8.encode
        "\x7b\"POLYID\":1\x7d\n\x7b\"_id\":\x7b\"$oid\":\"65a000000000000000000001\"\x7d,\"POLYID\":2\x7d\n")
        none)
    | _ => none

/-- The store that `pairFolder` fills. -/
def loadedPair : Store := ((Store.empty 1).load pairFolder).2

/-- A body that asks for pages of one record. -/
def smallPageBody : String := "\x7b\"paging\":\x7b\"poly\":\x7b\"pageSize\":1\x7d\x7d\x7d"

/-- The first of two loaded records makes a page. -/
theorem no_late_failure_loadedPair :
    (loadedPair.snapshot .poly).length = 2 ∧ ∃ r q, Request.parse smallPageBody = .ok r ∧
      r.compile = .ok q ∧ FailsByTimeOnly q.pipeline ∧
      (({ limiter := none } : Service).respond loadedPair.aggregate 0 "a" smallPageBody).1.status
        = 200 := by
  refine ⟨by decide +kernel, ?_⟩
  have hsome : (Request.parse smallPageBody).toOption.isSome := by decide +kernel
  cases hparse : Request.parse smallPageBody with
  | error e => simp [hparse, Except.toOption] at hsome
  | ok r =>
    obtain ⟨-, _, -, hcompile⟩ := Request.compile_of_parse hparse
    obtain ⟨⟨p, -, hreply⟩, -⟩ := no_late_failure.2 loadedPair (.load (.empty 1) pairFolder)
      { limiter := none } 0 "a" smallPageBody r hparse rfl (by decide) (by decide)
    exact ⟨r, _, rfl, hcompile, (no_late_failure.1 r _ hcompile).1, congrArg Reply.status hreply⟩

/-- **Refusals do not depend on the records, and failures do not reveal them.** Take two services with
the same limiter, and two datastores with anything in them, which may fail at any read. A refusal of one
service is a refusal of the other, with the same reply. A client over its limit gets the same reply for
every body. And there is one reply to all failures. -/
theorem respond_of_limiter_eq (hlimiter : v.limiter = v'.limiter) (a b : Datastore) (now : Nat)
    (client : String) :
    (∀ body, (v.respond a.read now client body).1.status = 400 ∨
        (v.respond a.read now client body).1.status = 429 →
      (v'.respond b.read now client body).1 = (v.respond a.read now client body).1) ∧
    ((v.allow client now).1 ≠ .ok () → ∀ body body',
      (v.respond a.read now client body).1.status = 429 ∧
      (v'.respond b.read now client body').1 = (v.respond a.read now client body).1) ∧
    ∀ body, (v.respond a.read now client body).1.status = 500 →
      (v.respond a.read now client body).1 = .failed := by
  refine ⟨fun body hstatus => ?_, fun hover body body' => ?_, fun body hstatus => ?_⟩
  · cases haccept : v.accept now client body with
    | error e =>
      rw [fst_respond_of_error haccept, fst_respond_of_error (accept_congr hlimiter ▸ haccept)]
    | ok r =>
      have hserved := status_of_accept haccept a
      omega
  · cases hallow : (v.allow client now).1 with
    | ok u => exact absurd hallow hover
    | error e =>
      obtain ⟨seconds, rfl⟩ := exists_rateLimited_of_allow hallow
      have haccept : ∀ body, v.accept now client body = .error (.rateLimited seconds) := fun body => by
        rw [accept, hallow]
        rfl
      have haccept' := accept_congr hlimiter ▸ haccept body'
      rw [fst_respond_of_error (haccept body), fst_respond_of_error haccept']
      exact ⟨rfl, rfl⟩
  · rw [fst_respond] at hstatus ⊢
    exact replyTo_eq_failed hstatus

/-- The service without a limiter. -/
def unlimited : Service := { limiter := none }

/-- A limiter of one request in a second, after the request of a client. -/
def spentLimiter : Limiter := ⟨second, 1, (∅ : Std.HashMap String Bucket).insert "a" ⟨1, second⟩⟩

/-- The service with `spentLimiter`. -/
def spent : Service := { limiter := some spentLimiter }

theorem allow_spent : (spent.allow "a" 0).1 = .error (.rateLimited 1) := by
  have hbucket : spentLimiter.buckets["a"]? = some ⟨1, second⟩ := Std.HashMap.getElem?_insert_self
  exact Limiter.check_of_full hbucket (by decide) (by decide)

/-- A body that is no text of JSON is refused alike by a store and a broken datastore, and so are all
bodies of a client over its limit. What broke is not told. -/
theorem respond_broken :
    (unlimited.respond loadedPair.aggregate 0 "a" "").1
        = (unlimited.respond (Datastore.broken fun _ _ _ => "disk").read 0 "a" "").1 ∧
      (spent.respond loadedPair.aggregate 0 "a" smallPageBody).1
        = (spent.respond (Datastore.broken fun _ _ _ => "disk").read 0 "a" "").1 ∧
      (unlimited.respond (Datastore.broken fun _ _ _ => "disk").read 0 "a" smallPageBody).1
        = .failed := by
  obtain ⟨hrefused, -, hfailed⟩ := respond_of_limiter_eq (Eq.refl unlimited.limiter)
    (.broken fun _ _ _ => "disk") loadedPair.datastore 0 "a"
  obtain ⟨-, hover, -⟩ := respond_of_limiter_eq (Eq.refl spent.limiter)
    (.broken fun _ _ _ => "disk") loadedPair.datastore 0 "a"
  have hspent : (spent.allow "a" 0).1 ≠ .ok () := by
    rw [allow_spent]
    exact nofun
  exact ⟨hrefused "" (.inl (by decide +kernel)), (hover hspent "" smallPageBody).2,
    hfailed smallPageBody (by decide +kernel)⟩

end Service

end Strata
