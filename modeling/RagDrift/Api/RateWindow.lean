import RagDrift.Api.RateLimit
import Mathlib.Data.List.Induction

set_option autoImplicit false

/- What the pruned lists of the rate limiter have to do with everything it accepted. -/
namespace RagDrift.Api

open Timeline

variable {K : Type} [LinearOrder K] {calls : List (Call K)} {call : Call K}

/-- The readings of the clock never go back. -/
def Ordered (calls : List (Call K)) : Prop := calls.Pairwise fun call later => call.now ≤ later.now

theorem Ordered.latest (ordered : Ordered (calls ++ [call])) :
    ∀ earlier ∈ calls, earlier.now ≤ call.now := by
  intro earlier inside
  exact (List.pairwise_append.mp ordered).2.2 earlier inside call (List.mem_singleton_self call)

theorem Ordered.front {back : List (Call K)} (ordered : Ordered (calls ++ back)) :
    Ordered calls :=
  (List.pairwise_append.mp ordered).1

theorem Ordered.snoc (ordered : Ordered (calls ++ [call])) {next : Call K}
    (later : call.now ≤ next.now) : Ordered ((calls ++ [call]) ++ [next]) := by
  rw [Ordered, List.pairwise_append]
  refine ⟨ordered, List.pairwise_singleton _ _, ?_⟩
  intro earlier inside last same
  rw [List.mem_singleton] at same
  subst same
  rcases List.mem_append.mp inside with before | here
  · exact (ordered.latest earlier before).trans later
  · rw [List.mem_singleton] at here
    subst here
    exact later

variable [Field K] [FloorRing K] {maxRequests : Int}

/-- Everything accepted of a client by some first calls. -/
def acceptedBy (maxRequests : Int) (calls : List (Call K)) (client : String) : List K :=
  acceptedTimes client (answered maxRequests noRequests calls)

theorem acceptedBy_snoc (calls : List (Call K)) (call : Call K) (client : String) :
    acceptedBy maxRequests (calls ++ [call]) client =
      acceptedBy maxRequests calls client ++
        if call.client = client ∧
          (rateLimit maxRequests (afterCalls maxRequests noRequests calls) call).1.isOk then
          [call.now] else [] := by
  rw [acceptedBy, answered_append, acceptedTimes_append, acceptedBy]
  congr 1
  rw [answered, answered, acceptedTimes]
  split_ifs with accepted
  · rw [List.filter_cons_of_pos (by simpa using accepted)]
    rfl
  · rw [List.filter_cons_of_neg (by simpa using accepted)]
    rfl

theorem accepted_le {client : String} (latest : ∀ earlier ∈ calls, earlier.now ≤ call.now) :
    ∀ time ∈ acceptedBy maxRequests calls client, time ≤ call.now := by
  intro time accepted
  obtain ⟨earlier, inside, rfl⟩ := mem_calls_of_accepted accepted
  exact latest earlier inside

theorem acceptedBy_sorted (ordered : Ordered calls) (client : String) :
    (acceptedBy maxRequests calls client).Pairwise fun time later => time ≤ later := by
  induction calls using List.reverseRecOn with
  | nil => exact List.Pairwise.nil
  | append_singleton calls call ih =>
      rw [acceptedBy_snoc]
      split_ifs
      · rw [List.pairwise_append]
        refine ⟨ih ordered.front, List.pairwise_singleton _ _, ?_⟩
        intro time accepted last same
        rw [List.mem_singleton] at same
        exact same ▸ accepted_le ordered.latest time accepted
      · rw [List.append_nil]
        exact ih ordered.front

/-- From the last reading on, the kept entries and all accepted ones have the same part within
reach, and no window holds more than the limit. -/
structure Remembers (maxRequests : Int) (calls : List (Call K)) : Prop where
  kept : ∀ client now, (∀ call ∈ calls, call.now ≤ now) →
    prune now windowSeconds (afterCalls maxRequests noRequests calls client) =
      prune now windowSeconds (acceptedBy maxRequests calls client)
  capped : ∀ client, Capped windowSeconds maxRequests (acceptedBy maxRequests calls client)

theorem Remembers.nil (positive : 1 ≤ maxRequests) : Remembers maxRequests ([] : List (Call K)) :=
  ⟨fun _ _ _ => rfl, fun _ _ => by
    have : (0 : Int) ≤ maxRequests := by omega
    exact this⟩

/-- Under the invariant the length of the pruned list counts the window. -/
theorem Remembers.count (remembers : Remembers maxRequests calls)
    (latest : ∀ earlier ∈ calls, earlier.now ≤ call.now) :
    prune call.now windowSeconds (afterCalls maxRequests noRequests calls call.client) =
      sliding call.now windowSeconds (acceptedBy maxRequests calls call.client) := by
  rw [sliding_eq_prune (accepted_le latest)]
  exact remembers.kept call.client call.now latest

variable [IsStrictOrderedRing K]

theorem Remembers.snoc (positive : 1 ≤ maxRequests) (remembers : Remembers maxRequests calls)
    (latest : ∀ earlier ∈ calls, earlier.now ≤ call.now) :
    Remembers maxRequests (calls ++ [call]) := by
  constructor
  · intro client now after
    have reached : call.now ≤ now := after call (List.mem_append_right _ List.mem_cons_self)
    have before : ∀ earlier ∈ calls, earlier.now ≤ now :=
      fun earlier inside => after earlier (List.mem_append_left _ inside)
    rw [afterCalls_append, acceptedBy_snoc]
    by_cases own : call.client = client
    · subst own
      have last := rateLimit_kept positive (afterCalls maxRequests noRequests calls) call
      rw [afterCalls, List.foldl_cons, List.foldl_nil, last]
      have here := remembers.kept call.client now before
      have cut : prune now windowSeconds (prune call.now windowSeconds
          (afterCalls maxRequests noRequests calls call.client)) = _ := prune_prune reached _
      simp only [prune, List.filter_append] at here cut ⊢
      rw [cut, here]
      simp
    · rw [if_neg (fun both => own both.1), List.append_nil, afterCalls, List.foldl_cons,
        List.foldl_nil, rateLimit_frame (Ne.symm own)]
      exact remembers.kept client now before
  · intro client
    rw [acceptedBy_snoc]
    split_ifs with accepted
    · obtain ⟨rfl, passed⟩ := accepted
      apply (remembers.capped call.client).snoc (accepted_le latest)
      have room : ¬ rejected
          (rateLimit maxRequests (afterCalls maxRequests noRequests calls) call).1 := by
        rintro ⟨retryAfter, refused⟩
        rw [refused] at passed
        cases passed
      rw [rejected_iff positive, not_le, remembers.count latest] at room
      exact room
    · rw [List.append_nil]
      exact remembers.capped client

theorem remembers_of_ordered (positive : 1 ≤ maxRequests) (ordered : Ordered calls) :
    Remembers maxRequests calls := by
  induction calls using List.reverseRecOn with
  | nil => exact Remembers.nil positive
  | append_singleton calls call ih => exact (ih ordered.front).snoc positive ordered.latest

/-- Which requests a client gets through depends on its own window of accepted ones. -/
theorem rate_limit_sliding_window (positive : 1 ≤ maxRequests) (ordered : Ordered calls) :
    (∀ client, Capped windowSeconds maxRequests (acceptedBy maxRequests calls client)) ∧
      (∀ front call back, calls = front ++ call :: back →
        (rejected (rateLimit maxRequests (afterCalls maxRequests noRequests front) call).1 ↔
          ((sliding call.now windowSeconds
            (acceptedBy maxRequests front call.client)).length : Int) = maxRequests) ∧
        (¬ rejected (rateLimit maxRequests (afterCalls maxRequests noRequests front) call).1 →
          (rateLimit maxRequests (afterCalls maxRequests noRequests front) call).1 =
            .ok call.client)) ∧
      ∀ client,
        (answered maxRequests noRequests calls).filter (fun entry => entry.1.client = client) =
          answered maxRequests noRequests (calls.filter fun call => call.client = client) := by
  refine ⟨(remembers_of_ordered positive ordered).capped, ?_, ?_⟩
  · rintro front call back rfl
    rw [List.append_cons] at ordered
    have first : Ordered (front ++ [call]) := ordered.front
    have remembers := remembers_of_ordered positive first.front
    have bound := remembers.capped call.client call.now
    refine ⟨?_, accepted_of_not_rejected positive⟩
    rw [rejected_iff positive, remembers.count first.latest]
    omega
  · intro client
    exact answered_filter rfl calls

theorem rate_limit_sliding_window_boundary :
    let client : Request := ⟨some "", some "10.0.0.7"⟩
    let calls : List (Call ℚ) :=
      [⟨client, 0⟩, ⟨client, 1⟩, ⟨client, 59⟩, ⟨⟨some "key", none⟩, 59⟩, ⟨client, 60⟩]
    (acceptedBy 2 calls "ip:10.0.0.7") = [0, 1, 60] ∧
      ((sliding 60 windowSeconds (acceptedBy 2 calls "ip:10.0.0.7")).length : Int) ≤ 2 :=
  ⟨by decide +kernel,
    (rate_limit_sliding_window (by decide) (by norm_num [Ordered])).1 "ip:10.0.0.7" 60⟩

end RagDrift.Api
