import RagDrift.Api.RateWindow

set_option autoImplicit false

/- Whether the Retry-After of a rejected request is long enough. -/
namespace RagDrift.Api

open Timeline

variable {K : Type} [LinearOrder K] [Field K] [FloorRing K] [IsStrictOrderedRing K]
  {maxRequests : Int} {calls : List (Call K)} {call : Call K}

/-- Truncating keeps a number above one only where it is whole. -/
theorem le_truncated_iff {remaining : K} (positive : 0 < remaining) :
    remaining ≤ ((max 1 (truncate remaining) : Int) : K) ↔
      remaining ≤ 1 ∨ ∃ whole : Int, remaining = whole := by
  rw [truncate, if_pos positive.le]
  constructor
  · intro covered
    rcases le_or_gt remaining 1 with short | long
    · exact .inl short
    · right
      have floor : (1 : Int) ≤ ⌊remaining⌋ := Int.le_floor.mpr (by exact_mod_cast long.le)
      rw [max_eq_right floor] at covered
      exact ⟨⌊remaining⌋, le_antisymm covered (Int.floor_le remaining)⟩
  · rintro (short | ⟨whole, rfl⟩)
    · calc remaining ≤ ((1 : Int) : K) := by exact_mod_cast short
        _ ≤ _ := Int.cast_le.mpr (le_max_left _ _)
    · rw [Int.floor_intCast]
      exact Int.cast_le.mpr (le_max_right _ _)

/-- The entries a rejected client has: its window, oldest first, full and kept as it is. -/
theorem rejected_entries (positive : 1 ≤ maxRequests) (ordered : Ordered (calls ++ [call]))
    {retryAfter : Int}
    (refused : (rateLimit maxRequests (afterCalls maxRequests noRequests calls) call).1 =
      .error (.tooManyRequests retryAfter)) :
    ∃ oldest rest,
      sliding call.now windowSeconds (acceptedBy maxRequests calls call.client) =
        oldest :: rest ∧
      ((oldest :: rest).length : Int) = maxRequests ∧
      retryAfter = max 1 (truncate (windowSeconds - (call.now - oldest))) ∧
      (∀ time ∈ oldest :: rest, oldest ≤ time) ∧
      call.now < oldest + windowSeconds ∧
      (rateLimit maxRequests (afterCalls maxRequests noRequests calls) call).2 call.client =
        oldest :: rest := by
  have remembers := remembers_of_ordered positive ordered.front
  have window := remembers.count ordered.latest
  rcases rateLimit_cases positive (afterCalls maxRequests noRequests calls) call with
    room | ⟨oldest, rest, entries, full⟩
  · rw [rateLimit_room room] at refused
    cases refused
  · rw [rateLimit_full entries full] at refused ⊢
    rw [entries] at window
    have bound := remembers.capped call.client call.now
    rw [← window] at bound
    have sorted : (oldest :: rest).Pairwise fun time later => time ≤ later := by
      rw [window]
      exact (acceptedBy_sorted ordered.front call.client).filter _
    have inside : oldest ∈ sliding call.now windowSeconds
        (acceptedBy maxRequests calls call.client) := window ▸ List.mem_cons_self
    rw [sliding, List.mem_filter, decide_eq_true_eq] at inside
    refine ⟨oldest, rest, window.symm, le_antisymm bound full, ?_, ?_, ?_, ?_⟩
    · cases refused
      rfl
    · intro time there
      rcases List.mem_cons.mp there with rfl | later
      · exact le_rfl
      · exact (List.pairwise_cons.mp sorted).1 time later
    · linarith [inside.2.1]
    · exact Function.update_self _ _ _

/-- A full list of entries lets the next request through once its oldest is out of reach, and
not before. -/
theorem accepted_next_iff (positive : 1 ≤ maxRequests) {requests : Requests K} {next : Call K}
    {oldest : K} {rest : List K} (entries : requests next.client = oldest :: rest)
    (full : ((oldest :: rest).length : Int) = maxRequests)
    (first : ∀ time ∈ oldest :: rest, oldest ≤ time) :
    (rateLimit maxRequests requests next).1 = .ok next.client ↔
      oldest + windowSeconds ≤ next.now := by
  have outcome : (rateLimit maxRequests requests next).1 = .ok next.client ↔
      ((prune next.now windowSeconds (oldest :: rest)).length : Int) < maxRequests := by
    rw [← entries, ← not_le, ← rejected_iff positive]
    constructor
    · rintro accepted ⟨retryAfter, refused⟩
      rw [accepted] at refused
      cases refused
    · exact accepted_of_not_rejected positive
  rw [outcome]
  constructor
  · intro room
    by_contra early
    have all : prune next.now windowSeconds (oldest :: rest) = oldest :: rest := by
      apply List.filter_eq_self.mpr
      intro time inside
      have later := first time inside
      rw [decide_eq_true_eq]
      linarith [not_le.mp early]
    rw [all] at room
    omega
  · intro late
    have gone : ¬ oldest > next.now - windowSeconds := by linarith
    rw [prune, List.filter_cons_of_neg (by simpa using gone)]
    have shorter := List.length_filter_le
      (fun time => decide (time > next.now - windowSeconds)) rest
    rw [List.length_cons] at full
    omega

/-- Calls of other clients do not change when the next request is let through. -/
theorem accepted_retry_iff (positive : 1 ≤ maxRequests) {oldest : K} {rest : List K}
    (kept : (rateLimit maxRequests (afterCalls maxRequests noRequests calls) call).2 call.client =
      oldest :: rest)
    (full : ((oldest :: rest).length : Int) = maxRequests)
    (first : ∀ time ∈ oldest :: rest, oldest ≤ time) {between : List (Call K)} {next : Call K}
    (others : ∀ other ∈ between, other.client ≠ call.client) (same : next.client = call.client) :
    (rateLimit maxRequests (afterCalls maxRequests noRequests (calls ++ [call] ++ between))
      next).1 = .ok next.client ↔ oldest + windowSeconds ≤ next.now := by
  apply accepted_next_iff positive _ full first
  rw [same, afterCalls_append, afterCalls_frame fun other inside => (others other inside).symm,
    afterCalls_append]
  exact kept

/-- The header is enough where the seconds that remain are at most one, or whole. -/
theorem retry_after_sufficient_iff (positive : 1 ≤ maxRequests)
    (ordered : Ordered (calls ++ [call])) {retryAfter : Int}
    (refused : (rateLimit maxRequests (afterCalls maxRequests noRequests calls) call).1 =
      .error (.tooManyRequests retryAfter)) :
    (∀ between next, (∀ other ∈ between, other.client ≠ call.client) →
        next.client = call.client → Ordered ((calls ++ [call] ++ between) ++ [next]) →
        call.now + retryAfter ≤ next.now →
        (rateLimit maxRequests (afterCalls maxRequests noRequests (calls ++ [call] ++ between))
          next).1 = .ok next.client) ↔
      ∃ oldest,
        (sliding call.now windowSeconds (acceptedBy maxRequests calls call.client)).head? =
          some oldest ∧
        (windowSeconds - (call.now - oldest) ≤ 1 ∨
          ∃ whole : Int, windowSeconds - (call.now - oldest) = whole) := by
  obtain ⟨oldest, rest, window, full, header, first, recent, kept⟩ :=
    rejected_entries positive ordered refused
  have remains : 0 < windowSeconds - (call.now - oldest) := by linarith
  have covers := le_truncated_iff remains
  rw [← header] at covers
  rw [window, List.head?_cons]
  constructor
  · intro enough
    have least : (1 : Int) ≤ retryAfter := header ▸ le_max_left _ _
    have wait : (0 : K) ≤ retryAfter := by exact_mod_cast (by omega : (0 : Int) ≤ retryAfter)
    let retry : Call K := ⟨call.request, call.now + retryAfter⟩
    have alone : ∀ other ∈ ([] : List (Call K)), other.client ≠ call.client := by simp
    have own : retry.client = call.client := rfl
    have later : Ordered ((calls ++ [call] ++ []) ++ [retry]) := by
      rw [List.append_nil]
      exact ordered.snoc (le_add_of_nonneg_right wait)
    have accepted := (accepted_retry_iff positive kept full first alone own).mp
      (enough [] retry alone own later le_rfl)
    refine ⟨oldest, rfl, covers.mp ?_⟩
    linarith
  · rintro ⟨first', same, whole⟩ between next others own _ waited
    cases Option.some.inj same
    rw [accepted_retry_iff positive kept full first others own]
    linarith [covers.mpr whole]

theorem retry_after_sufficient_iff_whole :
    let client : Request := ⟨none, some "10.0.0.7"⟩
    let calls : List (Call ℚ) := [⟨client, 1 / 2⟩]
    (rateLimit 1 (afterCalls 1 noRequests calls) ⟨client, 101 / 2⟩).1 =
        .error (.tooManyRequests 10) ∧
      (rateLimit 1 (afterCalls 1 noRequests
        (calls ++ [⟨client, 101 / 2⟩] ++ [⟨⟨some "key", none⟩, 60⟩])) ⟨client, 121 / 2⟩).1 =
          .ok "ip:10.0.0.7" := by
  have refused : (rateLimit 1 (afterCalls 1 noRequests [⟨⟨none, some "10.0.0.7"⟩, 1 / 2⟩])
      ⟨⟨none, some "10.0.0.7"⟩, (101 / 2 : ℚ)⟩).1 = .error (.tooManyRequests 10) := by
    decide +kernel
  refine ⟨refused, ?_⟩
  apply (retry_after_sufficient_iff (by decide) (by norm_num [Ordered]) refused).mpr
  · exact ⟨1 / 2, by decide +kernel, .inr ⟨10, by norm_num [windowSeconds]⟩⟩
  · decide +kernel
  · rfl
  · norm_num [Ordered]
  · norm_num

/-- Ten and a half seconds before the oldest request leaves the window, the header says ten. -/
theorem retry_after_too_short :
    let client : Request := ⟨some "key", none⟩
    let calls : List (Call ℚ) := [⟨client, 0⟩, ⟨client, 99 / 2⟩, ⟨client, 119 / 2⟩]
    (answered 1 noRequests calls).map (·.2) =
      [.ok "apikey:key", .error (.tooManyRequests 10), .error (.tooManyRequests 1)] ∧
      (99 / 2 + 10 : ℚ) ≤ 119 / 2 ∧
      ¬ ∀ (calls : List (Call ℚ)) (call : Call ℚ) (retryAfter : Int),
        Ordered (calls ++ [call]) →
        (rateLimit 1 (afterCalls 1 noRequests calls) call).1 =
          .error (.tooManyRequests retryAfter) →
        ∀ between next, (∀ other ∈ between, other.client ≠ call.client) →
          next.client = call.client → Ordered ((calls ++ [call] ++ between) ++ [next]) →
          call.now + retryAfter ≤ next.now →
          (rateLimit 1 (afterCalls 1 noRequests (calls ++ [call] ++ between)) next).1 =
            .ok next.client := by
  refine ⟨by decide +kernel, by norm_num, ?_⟩
  intro sufficient
  have accepted := sufficient [⟨⟨some "key", none⟩, 0⟩] ⟨⟨some "key", none⟩, 99 / 2⟩ 10
    (by norm_num [Ordered]) (by decide +kernel) [] ⟨⟨some "key", none⟩, 119 / 2⟩ (by simp) rfl
    (by norm_num [Ordered]) (by norm_num)
  revert accepted
  decide +kernel

end RagDrift.Api
