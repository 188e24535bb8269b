import ChmabaPay.Foundation.ExpiringCache
import ChmabaPay.Foundation.FixedWindow
import ChmabaPay.Services.Payments
import Mathlib.Data.List.DropRight
import Mathlib.Data.Rat.Floor

/-! # Request limits

`ratelimit.py` counts requests per rule and caller in windows of a minute, and failed sign-ins
per email. Both keep their counters in a cache of this process whose entries expire. Moments
are seconds of the monotonic clock, and every call carries its readings of it.
-/

namespace ChmabaPay

open ExpiringCache

def windowSeconds : ℚ := 60

/-- `int` of a float: the fraction is cut off. -/
def truncate (number : ℚ) : ℤ := if 0 ≤ number then ⌊number⌋ else ⌈number⌉

/-! ## Rules -/

inductive RulePer where
  | key
  | ip
deriving DecidableEq

/-- One limit: its name, its ceiling, and what it counts per. -/
structure Rule where
  name : List Char
  limit : ℤ
  per : RulePer
deriving DecidableEq

structure RateLimitSettings where
  enabled : Bool := true
  authPerMinute : ℤ := 20
  checkoutPerMinute : ℤ := 120
  khqrPerMinute : ℤ := 60
  apiPerMinute : ℤ := 600
  paymentCreatePerMinute : ℤ := 60

structure LimitedRequest where
  method : String
  path : List Char
  authorization : Option (List Char) := none
  forwardedFor : Option (List Char) := none
  clientHost : Option (List Char) := none

def startsWith (text : List Char) (beginning : String) : Bool := beginning.toList.isPrefixOf text

/-- `rstrip("/")`. -/
def rstripSlash (path : List Char) : List Char := path.rdropWhile (· == '/')

/-- The rule governing a request, or none to wave it through. -/
def ruleFor (settings : RateLimitSettings) (request : LimitedRequest) : Option Rule :=
  let path := request.path
  let method := pythonUpper request.method
  let reissue := startsWith path "/api/v1/payments/" &&
    "/reissue".toList.isSuffixOf (rstripSlash path)
  if method = "OPTIONS" ∨ path = "/health".toList ∨ startsWith path "/_dev" then none
  else if method = "POST" ∧ (rstripSlash path = "/api/v1/payments".toList ∨ reissue) then
    some ⟨"payment_create".toList, settings.paymentCreatePerMinute, .key⟩
  else if startsWith path "/api/v1/khqr" then
    some ⟨"khqr".toList, settings.khqrPerMinute, .ip⟩
  else if startsWith path "/auth" ∨ startsWith path "/api/v1/auth" ∨
      startsWith path "/user/google/auth" then
    some ⟨"auth".toList, settings.authPerMinute, .ip⟩
  else if startsWith path "/pay/" then
    some ⟨"checkout".toList, settings.checkoutPerMinute, .ip⟩
  else if startsWith path "/api/v1/" then
    some ⟨"api".toList, settings.apiPerMinute, .key⟩
  else none

/-- The caller's address: the first one of `X-Forwarded-For`, or that of the connection. -/
def clientIp (request : LimitedRequest) : List Char :=
  let first := pythonStrip ((request.forwardedFor.getD []).takeWhile (· ≠ ','))
  if first ≠ [] then first else request.clientHost.getD "unknown".toList

/-- Who a request counts against. -/
def identityFor (hashKey : List Char → List Char) (request : LimitedRequest) (rule : Rule) :
    List Char :=
  let authorization := request.authorization.getD []
  let scheme := authorization.takeWhile (· ≠ ' ')
  let token := (authorization.dropWhile (· ≠ ' ')).drop 1
  if rule.per = .key ∧ pythonLower scheme = "bearer".toList ∧ token ≠ [] then
    "key:".toList ++ hashKey token
  else "ip:".toList ++ clientIp request

/-! ## The limiter -/

structure Window where
  started : ℚ
  count : ℕ
deriving DecidableEq

/-- One more request. -/
def Window.counted (window : Window) : Window := { window with count := window.count + 1 }

/-- The readings of the clock in one call: its own, the cache's when the entry is looked up,
and the cache's when a new one is stored. -/
abbrev HitClock := FixedWindow.Clock ℚ

/-- One call of `hit`. -/
structure Hit where
  rule : Rule
  identity : List Char
  clock : HitClock

/-- What a call answers. -/
structure Verdict where
  allowed : Bool
  remaining : ℤ
  retryAfter : ℤ
deriving DecidableEq

def Hit.key (hit : Hit) : List Char := hit.rule.name ++ ":".toList ++ hit.identity

abbrev RateLimiter := Cache (List Char) Window ℚ

/-- The window of the caller, unless it is over. -/
def RateLimiter.find (limiter : RateLimiter) (hit : Hit) : Option Window :=
  (limiter.get hit.clock.looked hit.key).filter fun window =>
    decide (hit.clock.now - window.started < windowSeconds)

/-- The answer to a call that its window has counted. -/
def Hit.verdict (hit : Hit) (window : Window) : Verdict where
  allowed := decide ((window.count : ℤ) ≤ hit.rule.limit)
  remaining := max 0 (hit.rule.limit - window.count)
  retryAfter := max 1 (truncate (windowSeconds - (hit.clock.now - window.started)))

/-- `RateLimiter.hit`. The window is counted up where it is, which does not store it anew. -/
def RateLimiter.hit (limiter : RateLimiter) (hit : Hit) : RateLimiter × Verdict :=
  let (kept, window) := match limiter.find hit with
    | some window => (limiter, window)
    | none =>
        let window : Window := { started := hit.clock.now, count := 0 }
        (limiter.set hit.clock.stored windowSeconds hit.key window, window)
  (kept.modify hit.key Window.counted, hit.verdict window.counted)

/-- A call, whether it started a window, and what it answered. -/
structure HitAnswer where
  hit : Hit
  opened : Bool
  verdict : Verdict

/-- The calls of a run, one after the other. -/
def RateLimiter.answers : RateLimiter → List Hit → List HitAnswer
  | _, [] => []
  | limiter, hit :: rest =>
      ⟨hit, (limiter.find hit).isNone, (limiter.hit hit).2⟩ ::
        RateLimiter.answers (limiter.hit hit).1 rest

/-- The limiter after a run. -/
def RateLimiter.after (limiter : RateLimiter) (hits : List Hit) : RateLimiter :=
  hits.foldl (fun limiter hit => (limiter.hit hit).1) limiter

/-- What the middleware does with a request: it goes on to its route, with the headers of its
limit if there is one, or it is refused. -/
inductive Dispatched where
  | passed (headers : Option (ℤ × ℤ))
  | refused (rule : Rule) (remaining retryAfter : ℤ)

def dispatch (settings : RateLimitSettings) (hashKey : List Char → List Char)
    (limiter : RateLimiter) (request : LimitedRequest) (clock : HitClock) :
    RateLimiter × Dispatched :=
  if settings.enabled = false then (limiter, .passed none)
  else match ruleFor settings request with
  | none => (limiter, .passed none)
  | some rule =>
      let (counted, verdict) := limiter.hit ⟨rule, identityFor hashKey request rule, clock⟩
      if verdict.allowed then (counted, .passed (some (rule.limit, verdict.remaining)))
      else (counted, .refused rule verdict.remaining verdict.retryAfter)

/-! ## The lockout -/

def loginLockBaseSeconds : ℚ := 60

def loginLockMaxSeconds : ℚ := 3600

def loginFailureThreshold : ℤ := 5

structure LoginFailures where
  count : ℕ
  lockedUntil : ℚ
deriving DecidableEq

/-- The readings of the clock in one call of `record_failure`: the look-up, the start of the
lock, the moment the record is stored, and the two readings of `locked_for` at its end. -/
structure FailureClock where
  looked : ℚ
  now : ℚ
  stored : ℚ
  asked : ℚ
  read : ℚ

abbrev LoginLockout := Cache (List Char) LoginFailures ℚ

/-- Seconds the email must wait, or 0 when it may try again. -/
def LoginLockout.lockedFor (lockout : LoginLockout) (email : List Char) (asked read : ℚ) : ℤ :=
  match lockout.get asked email with
  | none => 0
  | some entry => max 0 (truncate (entry.lockedUntil - read))

/-- The lock that this many failures impose. -/
def lockSeconds (threshold : ℤ) (count : ℕ) : ℚ :=
  if threshold ≤ count then
    min (loginLockBaseSeconds * 2 ^ (count - threshold).toNat) loginLockMaxSeconds
  else 0

/-- The record after one more failure. Below the threshold it stays as locked as it was. -/
def LoginFailures.fail (threshold : ℤ) (now : ℚ) (entry : LoginFailures) : LoginFailures :=
  let count := entry.count + 1
  if threshold ≤ count then ⟨count, now + lockSeconds threshold count⟩
  else { entry with count := count }

/-- The record that one more failure of the email leaves. -/
def LoginLockout.failed (threshold : ℤ) (lockout : LoginLockout) (email : List Char)
    (clock : FailureClock) : LoginFailures :=
  LoginFailures.fail threshold clock.now ((lockout.get clock.looked email).getD ⟨0, 0⟩)

/-- Count one failure. The lockout in seconds, 0 while under the threshold. -/
def LoginLockout.recordFailure (threshold : ℤ) (lockout : LoginLockout) (email : List Char)
    (clock : FailureClock) : LoginLockout × ℤ :=
  let recorded : LoginLockout := lockout.set clock.stored loginLockMaxSeconds email
    (lockout.failed threshold email clock)
  (recorded, recorded.lockedFor email clock.asked clock.read)

/-- Forget an email's failures. -/
def LoginLockout.clear (lockout : LoginLockout) (email : List Char) : LoginLockout :=
  lockout.pop email

end ChmabaPay
