import PackageVet.Service.Retry

/-! Bounded retry keeps to its policy.

A request that is made again and again gives one result after another (`Request.resultAt`). Retrying
it goes through these results and stops at the first that settles the matter, or when the attempts
are used up (`Retry.run_withRetry`). What was asked for is seen by noting every result: the notes
are the results up to the one that decides, and nothing after it
(`Retry.withRetry_keeps_policy`). -/
namespace PackageVet
variable {σ α : Type}

/-! ### Results -/

namespace Retry

/-- Whether no further try is made after a result: a success, or an answer that cannot be read. -/
def Settles : Except ServiceError α → Prop
  | .ok _ => True
  | .error (.malformedResponse _ _) => True
  | .error _ => False

instance : DecidablePred (Settles (α := α))
  | .ok _ => .isTrue trivial
  | .error (.malformedResponse _ _) => .isTrue trivial
  | .error (.transport _ _) => .isFalse nofun
  | .error (.retriesExhausted _ _ _) => .isFalse nofun

/-- What is said of a failure. -/
def failureText : Except ServiceError α → String
  | .ok _ => ""
  | .error e => e.message

/-- What a retry comes to whose last result is given. -/
def verdict (service : String) (attempts : Nat) (result : Except ServiceError α) :
    Except ServiceError α :=
  if Settles result then result
  else .error (.retriesExhausted service attempts (failureText result))

/-- Whether the `last`th of some results, counted from zero, is the first that settles the matter,
or the last one if none does. -/
structure StopsAt (results : Nat → Except ServiceError α) (attempts last : Nat) : Prop where
  lt : last < attempts
  before : ∀ i < last, ¬ Settles (results i)
  stops : Settles (results last) ∨ last + 1 = attempts

end Retry

/-! ### A request made again and again -/

namespace Request

/-- The state once a request has been made so many times. -/
def stateAfter (request : Request σ α) (s : σ) : Nat → σ
  | 0 => s
  | n + 1 => request.stateAfter (request.run s).2 n

/-- What a request gives after it has been made so many times. -/
def resultAt (request : Request σ α) (s : σ) (n : Nat) : Except ServiceError α :=
  (request.run (request.stateAfter s n)).1

/-- The request, with every result noted. -/
def noted (request : Request σ α) : Request (List (Except ServiceError α) × σ) α :=
  ExceptT.mk fun s => ((request.run s.2).1, s.1 ++ [(request.run s.2).1], (request.run s.2).2)

variable (request : Request σ α)

/-- The notes are the results so far, put after what was noted before. -/
theorem stateAfter_noted (notes : List (Except ServiceError α)) (s : σ) (n : Nat) :
    request.noted.stateAfter (notes, s) n =
      (notes ++ (List.range n).map (request.resultAt s), request.stateAfter s n) := by
  induction n generalizing notes s with
  | zero => simp [stateAfter]
  | succ n ih =>
    have hrest : (List.range (n + 1)).map (request.resultAt s) =
        (request.run s).1 :: (List.range n).map (request.resultAt (request.run s).2) := by
      rw [List.range_succ_eq_map, List.map_cons, List.map_map]
      rfl
    rw [hrest]
    refine (ih (notes ++ [(request.run s).1]) (request.run s).2).trans ?_
    rw [List.append_assoc, List.singleton_append]
    rfl

/-- Noting the results does not change them. -/
theorem resultAt_noted (notes : List (Except ServiceError α)) (s : σ) :
    request.noted.resultAt (notes, s) = request.resultAt s := by
  funext n
  unfold resultAt
  rw [stateAfter_noted]
  rfl

end Request

/-! ### Retrying -/

namespace Retry

variable {service : String} {attempts : Nat} {request : Request σ α}

/-- One more try: its result is taken if it settles the matter, else its text is all that is kept
of it. -/
theorem run_retryFrom_succ (left : Nat) (last : String) (s : σ) :
    (retryFrom service attempts request (left + 1) last).run s =
      if Settles (request.run s).1 then request.run s
      else (retryFrom service attempts request left (failureText (request.run s).1)).run
        (request.run s).2 := by
  rw [retryFrom, ExceptT.run_mk]
  simp only [bind, StateT.bind]
  rcases request.run s with ⟨(e | a), s'⟩
  · cases e with
    | malformedResponse name message => exact (if_pos trivial).symm
    | transport name message => exact (if_neg nofun).symm
    | retriesExhausted name n message => exact (if_neg nofun).symm
  · exact (if_pos trivial).symm

theorem run_retryFrom (left : Nat) (last : String) (s : σ) :
    ∃ n, StopsAt (request.resultAt s) (left + 1) n ∧
      (retryFrom service attempts request (left + 1) last).run s =
        (verdict service attempts (request.resultAt s n), request.stateAfter s (n + 1)) := by
  induction left generalizing last s with
  | zero =>
    refine ⟨0, ⟨Nat.one_pos, nofun, .inr rfl⟩, ?_⟩
    rw [run_retryFrom_succ]
    show _ = (verdict service attempts (request.run s).1, (request.run s).2)
    unfold verdict
    split <;> rfl
  | succ left ih =>
    rw [run_retryFrom_succ]
    by_cases hsettles : Settles (request.run s).1
    · refine ⟨0, ⟨Nat.succ_pos _, nofun, .inl hsettles⟩, ?_⟩
      rw [if_pos hsettles]
      exact Prod.ext (if_pos hsettles).symm rfl
    · obtain ⟨n, hstops, hrun⟩ := ih (failureText (request.run s).1) (request.run s).2
      refine ⟨n + 1, ⟨Nat.succ_lt_succ hstops.lt, ?_, ?_⟩, ?_⟩
      · intro i hi
        cases i with
        | zero => exact hsettles
        | succ i => exact hstops.before i (Nat.lt_of_succ_lt_succ hi)
      · exact hstops.stops.imp_right fun h => congrArg (· + 1) h
      · rw [if_neg hsettles]
        exact hrun

/-- A policy of no attempts makes one. -/
theorem exists_attempts (policy : RetryPolicy) : ∃ left, max policy.attempts 1 = left + 1 :=
  ⟨max policy.attempts 1 - 1, by omega⟩

theorem run_withRetry (service : String) (policy : RetryPolicy) (request : Request σ α) (s : σ) :
    ∃ n, StopsAt (request.resultAt s) (max policy.attempts 1) n ∧
      (withRetry service policy request).run s =
        (verdict service (max policy.attempts 1) (request.resultAt s n),
          request.stateAfter s (n + 1)) := by
  obtain ⟨left, hleft⟩ := exists_attempts policy
  unfold withRetry
  dsimp only
  rw [hleft]
  exact run_retryFrom left "" s

/-- A request that succeeds is made once. -/
theorem run_withRetry_of_ok {policy : RetryPolicy} {s s' : σ} {a : α}
    (h : request.run s = (.ok a, s')) :
    (withRetry service policy request).run s = (.ok a, s') := by
  obtain ⟨left, hleft⟩ := exists_attempts policy
  unfold withRetry
  dsimp only
  rw [hleft, run_retryFrom_succ, h]
  exact if_pos trivial

theorem StopsAt.unique {results : Nat → Except ServiceError α} {m n : Nat}
    (hm : StopsAt results attempts m) (hn : StopsAt results attempts n) : m = n := by
  have hle {i j : Nat} (hi : StopsAt results attempts i) (hj : StopsAt results attempts j) :
      i ≤ j := by
    refine Nat.le_of_not_lt fun hlt => ?_
    rcases hj.stops with hsettles | hlast
    · exact hi.before j hlt hsettles
    · have hlt' := hi.lt
      omega
  exact Nat.le_antisymm (hle hm hn) (hle hn hm)

/-- **A retry makes its request until a result settles the matter or the attempts are used up, and
not once more.** It comes to the result that settled it; where none did, it says how many attempts
there were and what the last failure was. -/
theorem withRetry_keeps_policy (service : String) (policy : RetryPolicy) (request : Request σ α)
    (s : σ) :
    ∃ last, StopsAt (request.resultAt s) (max policy.attempts 1) last ∧
      (withRetry service policy request).run s =
        (verdict service (max policy.attempts 1) (request.resultAt s last),
          request.stateAfter s (last + 1)) ∧
      (withRetry service policy request.noted).run ([], s) =
        (verdict service (max policy.attempts 1) (request.resultAt s last),
          (List.range (last + 1)).map (request.resultAt s), request.stateAfter s (last + 1)) := by
  obtain ⟨last, hstops, hrun⟩ := run_withRetry service policy request s
  obtain ⟨n, hnoted, hnotes⟩ := run_withRetry service policy request.noted ([], s)
  rw [Request.resultAt_noted] at hnoted hnotes
  obtain rfl := hnoted.unique hstops
  rw [Request.stateAfter_noted, List.nil_append] at hnotes
  exact ⟨n, hstops, hrun, hnotes⟩

-- the third result is never asked for
example :
    let results : List (Except ServiceError Nat) :=
      [.error (.transport "oracle" "down"), .error (.malformedResponse "oracle" "?"), .ok 1]
    let request : Request Nat Nat := ExceptT.mk fun n => (results.getD n (.ok 0), n + 1)
    (withRetry "oracle" { attempts := 3 } request).run 0 =
      (.error (.malformedResponse "oracle" "?"), 2) := rfl

end Retry

end PackageVet
