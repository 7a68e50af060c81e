import Strata.Proofs.ResponseRows

/-!
# Counters and replies

A service counts a request by its outcome and replies to this outcome, and each of the two goes
through all faults on its own. They agree on every outcome, whatever the limiter and the reads
report, so the counters are a ledger of the replies: behind any number of requests they say how many
replies of each status there were, and how many rows the pages showed.

The counters are natural numbers, as those of sixty-four bits are until one of them is full.
-/

namespace Strata

/-- The number of rows that a reply shows. -/
def Reply.rowCount (reply : Reply) : Nat :=
  match reply.body.get? "rows" with
  | some (.arr rows) => rows.length
  | _ => 0

theorem rowCount_replyTo_ok (p : Page) : (replyTo (.ok p)).rowCount = p.rows.length := by
  have hrows : p.toJson.get? "rows" = some (.arr (p.rows.map Document.toPlain)) := by
    rw [Page.toJson, Json.get?_object]
    rfl
  rw [replyTo, Reply.rowCount, hrows]
  exact List.length_map ..

/-! ## One request -/

/-- A reply is entered into the counters, which become `m'`: under its status, with its rows. -/
inductive Entered (m : Metrics) (reply : Reply) : Metrics → Prop
  | served (hstatus : reply.status = 200) (hretry : reply.retryAfter = none) :
    Entered m reply { m with
      requests := m.requests + 1, served := m.served + 1, rows := m.rows + reply.rowCount }
  | rejected (hstatus : reply.status = 400) (hretry : reply.retryAfter = none) :
    Entered m reply { m with requests := m.requests + 1, rejected := m.rejected + 1 }
  | rateLimited {seconds : Nat} (hstatus : reply.status = 429)
      (hretry : reply.retryAfter = some seconds) :
    Entered m reply { m with requests := m.requests + 1, rateLimited := m.rateLimited + 1 }
  | failed (hstatus : reply.status = 500) (hretry : reply.retryAfter = none) :
    Entered m reply { m with requests := m.requests + 1, failed := m.failed + 1 }

/-- Counting an outcome enters the reply to it. -/
theorem entered_count (m : Metrics) (outcome : Except Fault Page) :
    Entered m (replyTo outcome) (m.count outcome) := by
  cases outcome with
  | ok p =>
    rw [Metrics.count, ← rowCount_replyTo_ok p]
    exact .served rfl rfl
  | error e =>
    cases e with
    | rateLimited seconds => exact .rateLimited rfl rfl
    | execution reason => exact .failed rfl rfl
    | io reason => exact .failed rfl rfl
    | _ => exact .rejected rfl rfl

/-- A reply has one of four statuses, and says when to try again exactly if the client is over its
limit. -/
structure Reply.Regular (reply : Reply) : Prop where
  status : reply.status ∈ [200, 400, 429, 500]
  retryAfter : reply.retryAfter.isSome ↔ reply.status = 429

theorem Entered.regular {m m' : Metrics} {reply : Reply} (h : Entered m reply m') :
    reply.Regular := by
  cases h with
  | served hstatus hretry => exact ⟨by simp [hstatus], by simp [hstatus, hretry]⟩
  | rejected hstatus hretry => exact ⟨by simp [hstatus], by simp [hstatus, hretry]⟩
  | rateLimited hstatus hretry => exact ⟨by simp [hstatus], by simp [hstatus, hretry]⟩
  | failed hstatus hretry => exact ⟨by simp [hstatus], by simp [hstatus, hretry]⟩

/-- The counters say what was replied: how often, how often with each status, and how many rows in
all pages together. -/
structure Ledger (m : Metrics) (replies : List Reply) : Prop where
  requests : m.requests = replies.length
  total : m.requests = m.served + m.rejected + m.rateLimited + m.failed
  served : m.served = replies.countP (·.status == 200)
  rejected : m.rejected = replies.countP (·.status == 400)
  rateLimited : m.rateLimited = replies.countP (·.status == 429)
  failed : m.failed = replies.countP (·.status == 500)
  rows : m.rows = ((replies.filter (·.status == 200)).map Reply.rowCount).sum

theorem ledger_nil : Ledger {} [] := ⟨rfl, rfl, rfl, rfl, rfl, rfl, rfl⟩

/-- A reply that is entered keeps the ledger. -/
theorem Ledger.enter {m m' : Metrics} {replies : List Reply} {reply : Reply}
    (h : Ledger m replies) (hentered : Entered m reply m') : Ledger m' (replies ++ [reply]) := by
  obtain ⟨hrequests, htotal, hserved, hrejected, hlimited, hfailed, hrows⟩ := h
  cases hentered with
  | served hstatus => constructor <;> simp [hstatus] <;> omega
  | rejected hstatus => constructor <;> simp [hstatus] <;> omega
  | rateLimited hstatus => constructor <;> simp [hstatus] <;> omega
  | failed hstatus => constructor <;> simp [hstatus] <;> omega

/-! ## Runs -/

namespace Service

/-- A request as it reaches a service: what is read for it, the time, the client and the body. The
limiter may be shared with others, who may have done anything to it since the last request. -/
structure Call where
  read : Reader
  now : Nat
  client : String
  body : String
  meanwhile : Option Limiter → Option Limiter := id

/-- The reply to a request, and the service behind it. -/
def step (v : Service) (c : Call) : Reply × Service :=
  { v with limiter := c.meanwhile v.limiter }.respond c.read c.now c.client c.body

/-- The service behind a run. -/
def after (v : Service) (calls : List Call) : Service := calls.foldl (fun v c => (v.step c).2) v

/-- The replies of a run. -/
def replies (v : Service) : List Call → List Reply
  | [] => []
  | c :: rest => (v.step c).1 :: (v.step c).2.replies rest

theorem length_replies (v : Service) (calls : List Call) :
    (v.replies calls).length = calls.length := by
  induction calls generalizing v with
  | nil => rfl
  | cons c rest ih => rw [replies, List.length_cons, List.length_cons, ih]

/-- A request enters its reply. -/
theorem entered_step (v : Service) (c : Call) :
    Entered v.metrics (v.step c).1 (v.step c).2.metrics := by
  have hmetrics : ∀ w : Service, (w.handle c.read c.now c.client c.body).2.metrics = w.metrics := by
    intro w
    rw [handle, allow]
    cases w.limiter <;> rfl
  have hentered := entered_count v.metrics
    (({ v with limiter := c.meanwhile v.limiter } : Service).handle c.read c.now c.client c.body).1
  rw [step, respond]
  simp only [hmetrics]
  exact hentered

/-- A run keeps the ledger, and its replies are regular. -/
theorem ledger_append {v : Service} {past : List Reply} (h : Ledger v.metrics past)
    (calls : List Call) :
    Ledger (v.after calls).metrics (past ++ v.replies calls) ∧
      ∀ reply ∈ v.replies calls, reply.Regular := by
  induction calls generalizing v past with
  | nil =>
    rw [replies, List.append_nil]
    exact ⟨h, by simp⟩
  | cons c rest ih =>
    have hentered := v.entered_step c
    obtain ⟨hledger, hregular⟩ := ih (h.enter hentered)
    rw [List.append_assoc] at hledger
    exact ⟨hledger, List.forall_mem_cons.mpr ⟨hentered.regular, hregular⟩⟩

/-- **The counters are a ledger.** Behind any run of a new service with any limiter, where each
request may be read from any records or meet any failure, there are as many requests as replies,
they are served, rejected, over the limit or failed as the statuses of the replies say, the rows are
those that the pages showed, and no reply has another status. A reply says when to try again exactly
if its client is over the limit. -/
theorem ledger_of_run (limiter : Option Limiter) (budgets : Budgets) (calls : List Call) :
    let v : Service := { limiter := limiter, budgets := budgets }
    (v.after calls).metrics.requests = calls.length ∧
      Ledger (v.after calls).metrics (v.replies calls) ∧
      ∀ reply ∈ v.replies calls, reply.Regular := by
  intro v
  have hnew : Ledger v.metrics [] := ledger_nil
  obtain ⟨hledger, hregular⟩ := ledger_append hnew calls
  rw [List.nil_append] at hledger
  exact ⟨hledger.requests.trans (v.length_replies calls), hledger, hregular⟩

end Service

end Strata
