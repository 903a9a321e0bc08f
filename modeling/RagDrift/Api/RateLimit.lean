import RagDrift.Timeline.Windows
import Mathlib.Algebra.Order.Floor.Ring
import Mathlib.Algebra.Order.Field.Rat
import Mathlib.Data.Rat.Floor
import Mathlib.Logic.Function.Basic
import Mathlib.Tactic.Linarith

set_option autoImplicit false

/- `api.middleware.rate_limit`: a sliding window of accepted requests for each client. Nothing
is awaited while the lock is held, so that a call is one step. -/
namespace RagDrift.Api

open Timeline

structure Request where
  apiKey : Option String
  host : Option String

def getClientId (request : Request) : String :=
  match request.apiKey with
  | some apiKey =>
      if apiKey ≠ "" then "apikey:" ++ apiKey else "ip:" ++ request.host.getD "unknown"
  | none => "ip:" ++ request.host.getD "unknown"

inductive Refusal where
  | tooManyRequests (retryAfter : Int)
  | indexError
  deriving DecidableEq

variable {K : Type} [Field K] [LinearOrder K] [FloorRing K]

/-- `int(x)`: towards zero. -/
def truncate (x : K) : Int := if 0 ≤ x then ⌊x⌋ else ⌈x⌉

def windowSeconds : K := 60

/-- The defaultdict of lists that the module keeps. -/
abbrev Requests (K : Type) := String → List K

def noRequests : Requests K := fun _ => []

/-- A call of `rate_limit` with the clock reading it makes. -/
structure Call (K : Type) where
  request : Request
  now : K

abbrev Call.client (call : Call K) : String := getClientId call.request

def rateLimit (maxRequests : Int) (requests : Requests K) (call : Call K) :
    Except Refusal String × Requests K :=
  let clientId := getClientId call.request
  let windowStart := call.now - windowSeconds
  let entries := (requests clientId).filter fun time => time > windowStart
  if (entries.length : Int) ≥ maxRequests then
    match entries with
    | oldest :: _ =>
        (.error (.tooManyRequests (max 1 (truncate (windowSeconds - (call.now - oldest))))),
          Function.update requests clientId entries)
    | [] => (.error .indexError, Function.update requests clientId entries)
  else (.ok clientId, Function.update requests clientId (entries ++ [call.now]))

/-- What the module keeps after some calls. -/
def afterCalls (maxRequests : Int) (requests : Requests K) (calls : List (Call K)) : Requests K :=
  calls.foldl (fun requests call => (rateLimit maxRequests requests call).2) requests

/-- The calls with what each of them returned or raised. -/
def answered (maxRequests : Int) : Requests K → List (Call K) →
    List (Call K × Except Refusal String)
  | _, [] => []
  | requests, call :: rest =>
      (call, (rateLimit maxRequests requests call).1) ::
        answered maxRequests (rateLimit maxRequests requests call).2 rest

def rejected (outcome : Except Refusal String) : Prop :=
  ∃ retryAfter, outcome = .error (.tooManyRequests retryAfter)

/-- The clock readings of a client's accepted requests. -/
def acceptedTimes (client : String) (log : List (Call K × Except Refusal String)) : List K :=
  (log.filter fun entry => entry.1.client = client ∧ entry.2.isOk).map (·.1.now)

variable {maxRequests : Int} {requests : Requests K} {calls : List (Call K)} {call : Call K}

theorem rateLimit_room
    (room : ((prune call.now windowSeconds (requests call.client)).length : Int) < maxRequests) :
    rateLimit maxRequests requests call =
      (.ok call.client, Function.update requests call.client
        (prune call.now windowSeconds (requests call.client) ++ [call.now])) := by
  rw [prune, Call.client] at room
  rw [rateLimit, if_neg (not_le.mpr room)]
  rfl

theorem rateLimit_full {oldest : K} {rest : List K}
    (entries : prune call.now windowSeconds (requests call.client) = oldest :: rest)
    (full : maxRequests ≤ ((oldest :: rest).length : Int)) :
    rateLimit maxRequests requests call =
      (.error (.tooManyRequests (max 1 (truncate (windowSeconds - (call.now - oldest))))),
        Function.update requests call.client (oldest :: rest)) := by
  rw [prune, Call.client] at entries
  rw [rateLimit, entries, if_pos full]

omit [FloorRing K] in
/-- A call either finds room, or at least the limit of entries and an oldest one. -/
theorem rateLimit_cases (positive : 1 ≤ maxRequests) (requests : Requests K) (call : Call K) :
    ((prune call.now windowSeconds (requests call.client)).length : Int) < maxRequests ∨
      ∃ oldest rest, prune call.now windowSeconds (requests call.client) = oldest :: rest ∧
        maxRequests ≤ ((oldest :: rest).length : Int) := by
  rcases lt_or_ge ((prune call.now windowSeconds (requests call.client)).length : Int)
    maxRequests with room | full
  · exact .inl room
  · cases entries : prune call.now windowSeconds (requests call.client) with
    | nil =>
        rw [entries, List.length_nil] at full
        omega
    | cons oldest rest =>
        rw [entries] at full
        exact .inr ⟨oldest, rest, rfl, full⟩

theorem rejected_iff (positive : 1 ≤ maxRequests) :
    rejected (rateLimit maxRequests requests call).1 ↔
      maxRequests ≤ ((prune call.now windowSeconds (requests call.client)).length : Int) := by
  rcases rateLimit_cases positive requests call with room | ⟨oldest, rest, entries, full⟩
  · rw [rateLimit_room room]
    constructor
    · rintro ⟨_, same⟩
      cases same
    · intro full
      omega
  · rw [rateLimit_full entries full, entries]
    exact ⟨fun _ => full, fun _ => ⟨_, rfl⟩⟩

theorem accepted_of_not_rejected (positive : 1 ≤ maxRequests)
    (passed : ¬ rejected (rateLimit maxRequests requests call).1) :
    (rateLimit maxRequests requests call).1 = .ok call.client := by
  rw [rejected_iff positive, not_le] at passed
  rw [rateLimit_room passed]

/-- What is kept of a client after a call of its own. -/
theorem rateLimit_kept (positive : 1 ≤ maxRequests) (requests : Requests K) (call : Call K) :
    (rateLimit maxRequests requests call).2 call.client =
      prune call.now windowSeconds (requests call.client) ++
        if (rateLimit maxRequests requests call).1.isOk then [call.now] else [] := by
  rcases rateLimit_cases positive requests call with room | ⟨oldest, rest, entries, full⟩
  · rw [rateLimit_room room]
    exact Function.update_self _ _ _
  · rw [rateLimit_full entries full, entries]
    exact (Function.update_self _ _ _).trans (List.append_nil _).symm

theorem rateLimit_frame {client : String} (other : client ≠ call.client) :
    (rateLimit maxRequests requests call).2 client = requests client := by
  rw [rateLimit]
  split_ifs
  · split <;> exact Function.update_of_ne other _ _
  · exact Function.update_of_ne other _ _

/-- The outcome of a call reads nothing but its own client's entries. -/
theorem rateLimit_outcome_congr {others : Requests K}
    (same : requests call.client = others call.client) :
    (rateLimit maxRequests requests call).1 = (rateLimit maxRequests others call).1 ∧
      (rateLimit maxRequests requests call).2 call.client =
        (rateLimit maxRequests others call).2 call.client := by
  rw [Call.client] at same
  rw [rateLimit, rateLimit, same]
  split_ifs
  · split <;> simp [Call.client]
  · simp [Call.client]

theorem afterCalls_append (front back : List (Call K)) :
    afterCalls maxRequests requests (front ++ back) =
      afterCalls maxRequests (afterCalls maxRequests requests front) back :=
  List.foldl_append

theorem answered_append (front back : List (Call K)) :
    answered maxRequests requests (front ++ back) =
      answered maxRequests requests front ++
        answered maxRequests (afterCalls maxRequests requests front) back := by
  induction front generalizing requests with
  | nil => rfl
  | cons call rest ih =>
      rw [List.cons_append, answered, answered, ih, List.cons_append]
      rfl

theorem afterCalls_frame {client : String} (others : ∀ call ∈ calls, client ≠ call.client) :
    afterCalls maxRequests requests calls client = requests client := by
  induction calls generalizing requests with
  | nil => rfl
  | cons call rest ih =>
      calc afterCalls maxRequests requests (call :: rest) client
          = (rateLimit maxRequests requests call).2 client :=
            ih fun other inside => others other (List.mem_cons_of_mem _ inside)
        _ = requests client := rateLimit_frame (others call List.mem_cons_self)

/-- What a client is answered is what it is answered alone. -/
theorem answered_filter {alone : Requests K} {client : String}
    (same : requests client = alone client) (calls : List (Call K)) :
    (answered maxRequests requests calls).filter (fun entry => entry.1.client = client) =
      answered maxRequests alone (calls.filter fun call => call.client = client) := by
  induction calls generalizing requests alone with
  | nil => rfl
  | cons call rest ih =>
      rw [answered]
      by_cases own : call.client = client
      · subst own
        have both := @rateLimit_outcome_congr _ _ _ _ maxRequests requests call alone same
        rw [List.filter_cons_of_pos (by simp), List.filter_cons_of_pos (by simp), answered,
          ih both.2, both.1]
      · rw [List.filter_cons_of_neg (by simpa using own),
          List.filter_cons_of_neg (by simpa using own)]
        apply ih
        rw [rateLimit_frame (Ne.symm own), same]

omit [Field K] [LinearOrder K] [FloorRing K] in
theorem acceptedTimes_append (client : String)
    (front back : List (Call K × Except Refusal String)) :
    acceptedTimes client (front ++ back) =
      acceptedTimes client front ++ acceptedTimes client back := by
  rw [acceptedTimes, List.filter_append, List.map_append]
  rfl

theorem mem_calls_of_accepted {client : String} {time : K}
    (accepted : time ∈ acceptedTimes client (answered maxRequests requests calls)) :
    ∃ call ∈ calls, call.now = time := by
  induction calls generalizing requests with
  | nil => cases accepted
  | cons call rest ih =>
      rw [answered, ← List.singleton_append, acceptedTimes_append, List.mem_append] at accepted
      rcases accepted with here | later
      · obtain ⟨entry, inside, rfl⟩ := List.mem_map.mp here
        rw [List.mem_filter, List.mem_singleton] at inside
        exact ⟨call, List.mem_cons_self, by rw [inside.1]⟩
      · obtain ⟨other, inside, same⟩ := ih later
        exact ⟨other, List.mem_cons_of_mem _ inside, same⟩

end RagDrift.Api
