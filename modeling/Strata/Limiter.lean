import Std.Data.HashMap
import Strata.Fault
import Strata.Text.Basic

/-!
# Rate limiting

Each client may make a number of requests in a window of time that begins with its first request;
the next request after the window has ended begins a new one. Times are nanoseconds. Clients whose
window has ended are forgotten when many are tracked.
-/

namespace Strata

/-- A second in nanoseconds. -/
def second : Nat := 1000000000

/-- The requests of a client in its window, and when the window ends. -/
structure Bucket where
  count : Nat
  resetAt : Nat
  deriving DecidableEq, Repr, Inhabited

/-- A limiter: the length of the window, the most requests in it, and the clients tracked. -/
structure Limiter where
  window : Nat
  most : Nat
  buckets : Std.HashMap String Bucket

namespace Limiter

/-- A limiter whose window is at least a second and which allows at least one request. -/
def new (window most : Nat) : Limiter := ⟨max window second, max most 1, ∅⟩

/-- The limiter if nothing is configured: thirty requests in a minute. -/
def standard : Limiter := new (60 * second) 30

/-- How many clients may be tracked before those whose window has ended are forgotten. -/
def crowd : Nat := 10000

/-- The number of clients tracked. -/
def tracked (l : Limiter) : Nat := l.buckets.size

/-- The bucket of a client at a time: the one in use, or a new one. -/
def bucketAt (l : Limiter) (key : String) (now : Nat) : Bucket :=
  match l.buckets[key]? with
  | some b => if b.resetAt ≤ now then ⟨0, now + l.window⟩ else b
  | none => ⟨0, now + l.window⟩

/-- The whole seconds from a time to another, rounded up, at least one. -/
def waitSeconds (now resetAt : Nat) : Nat := max 1 ((resetAt - now + (second - 1)) / second)

/-- Counts a request of a client at a time, or refuses it. -/
def checkAt (l : Limiter) (key : String) (now : Nat) : Except Fault Unit × Limiter :=
  let b := l.bucketAt key now
  if l.most ≤ b.count then
    (.error (.rateLimited (waitSeconds now b.resetAt)),
      { l with buckets := l.buckets.insert key b })
  else (.ok (), { l with buckets := l.buckets.insert key { b with count := b.count + 1 } })

/-- Forgets the clients whose window has ended. -/
def prune (l : Limiter) (now : Nat) : Limiter :=
  { l with buckets := l.buckets.filter fun _ b => decide (now < b.resetAt) }

/-- Counts a request, after forgetting what can be forgotten if there is a crowd. -/
def check (l : Limiter) (key : String) (now : Nat) : Except Fault Unit × Limiter :=
  (if crowd < l.tracked then l.prune now else l).checkAt key now

end Limiter

/-- The name of a client behind proxies: the first entry of the list of addresses, if there is
one. -/
def clientKey : Option String → String
  | none => "unknown"
  | some header =>
    let first := Text.trimChars (header.toList.takeWhile (· != ','))
    if first.isEmpty then "unknown" else String.ofList first

end Strata
