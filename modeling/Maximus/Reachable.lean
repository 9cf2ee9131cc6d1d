import Maximus.Quorum.Lookup
import Maximus.Quorum.Restart
import Maximus.Roles
import Maximus.Int32Lists
import Maximus.VbParams

/-!
# From startup on

The node selects the parameters `CreateChainParams` builds and then calls `UpdateLLMQParams` at
each block (`Reachable`).  Besides the genesis checks, which `Maximus.Profiles` leaves out,
construction can end in a failed `assert` at three places: a role override whose current type
`GetLLMQ` does not find, a size override whose type the catalog does not store, and
`UpdateLLMQTestParametersFromArgs` called with a type other than the two test types.  Under
`LLMQDefs.Typed` none is reached.

* `createChainParams_ne_assertFailed` : for every chain and every pair of argument managers,
  construction returns parameters or throws a `std::runtime_error`; it never aborts.
* `reachable_getLLMQ_eq` : in every reachable state `GetLLMQ` is the lookup of the catalog.
* `reachable_role_resolves` : in every reachable state `GetLLMQ` of the type designated for each
  role returns a record.
* `reachable_runLLMQ_same_count` : from every reachable state checked at a height other than
  `-1`, calls whose count is the last checked one change nothing, at any height: the guard of
  `UpdateLLMQParams` demands a new count, so a downgraded `LLMQ_60_75` stays downgraded through
  every call at the last checked count.
* `reachable_updateLLMQParams_idempotent` : when every record stored under `LLMQ_60_75` has the
  mining phases of `llmq_10_75`, a call repeated at once changes nothing in any reachable state;
  `updateLLMQParams_twice_staggered` shows a table without that property where it does.

The overrides are proved one at a time (`Safe`): from parameters whose lookups resolve and whose
catalog stores the types the size overrides resize (`CChainParams.Ready`), an override never
fails an assertion and returns such parameters again.
-/

namespace Maximus

theorem invalid_ne_assertFailed (what s : String) : invalid what s ≠ .assertFailed := nofun

/-! ### Overrides that never assert -/

section Parsers

variable (H : Headers)

theorem updateActivationParameter_ne_assertFailed (p : CChainParams) (s : String) :
    updateActivationParameter H p s ≠ .error .assertFailed := by
  intro h
  simp only [updateActivationParameter] at h
  by_cases hlen : (H.splitString s ':').length ≠ 3 ∧ (H.splitString s ':').length ≠ 5 ∧
      (H.splitString s ':').length ≠ 8
  · rw [if_pos hlen] at h; cases h
  rw [if_neg hlen, pure_bind] at h
  split_ifs at h
  all_goals
    repeat
      obtain ⟨-, hn⟩ | ⟨_, h⟩ := parseInt64Or_bind_error H h
      · exact invalid_ne_assertFailed _ _ hn.symm
    split at h <;> cases h

theorem int32ParamsFromArgs_ne_assertFailed (args : ArgsManager) (opt malformed : String)
    (whats : List String) :
    int32ParamsFromArgs H args opt malformed whats ≠ .error .assertFailed := by
  intro h
  simp only [int32ParamsFromArgs] at h
  split_ifs at h
  · cases h
  · cases h
  · cases hr : (H.splitString (args.getArg opt "") ':' |>.zip whats).mapM
        (fun f => parseInt32Or H f.1 f.2) with
    | error e =>
      rw [hr] at h
      cases h
      obtain ⟨i, -, -, -, he⟩ := mapM_parseInt32Or_error H _ whats _ hr
      exact invalid_ne_assertFailed _ _ he.symm
    | ok ys => rw [hr] at h; cases h

theorem updateDevnetPowTargetSpacingFromArgs_ne_assertFailed (gArgs args : ArgsManager)
    (p : CChainParams) :
    updateDevnetPowTargetSpacingFromArgs H gArgs args p ≠ .error .assertFailed := by
  intro h
  simp only [updateDevnetPowTargetSpacingFromArgs] at h
  split_ifs at h
  · cases h
  split at h
  · simp only [bind, Except.bind, pure, Except.pure] at h
    split_ifs at h
    exact invalid_ne_assertFailed _ _ (Except.error.inj h)
  · exact invalid_ne_assertFailed _ _ (Except.error.inj h)

end Parsers

/-! ### Safe overrides -/

/-- Ready for the overrides: the lookups resolve, and the catalog stores every type of `ks`. -/
structure CChainParams.Ready (ks : List LLMQType) (p : CChainParams) : Prop where
  resolves : p.Resolves
  stored : ∀ k ∈ ks, (p.consensus.llmqs k).isSome

/-- From parameters ready for the overrides, `f` never fails an assertion and returns parameters
ready for them. -/
def Safe (ks : List LLMQType) (f : CChainParams → Except Fault CChainParams) : Prop :=
  ∀ p, p.Ready ks → f p ≠ .error .assertFailed ∧ ∀ p', f p = .ok p' → p'.Ready ks

section Safe

variable {ks : List LLMQType}

theorem Safe.bind {f g : CChainParams → Except Fault CChainParams} (hf : Safe ks f)
    (hg : Safe ks g) : Safe ks fun p => f p >>= g := by
  intro p hp
  obtain ⟨hf₁, hf₂⟩ := hf p hp
  refine ⟨fun h => ?_, fun p' h => ?_⟩
  · rcases Except.bind_eq_error.1 h with h | ⟨a, ha, h⟩
    exacts [hf₁ h, (hg a (hf₂ a ha)).1 h]
  · obtain ⟨a, ha, h⟩ := Except.bind_eq_ok.1 h
    exact (hg a (hf₂ a ha)).2 p' h

/-- A loop of safe steps is safe. -/
theorem Safe.foldlM {g : CChainParams → String → Except Fault CChainParams}
    (hg : ∀ s, Safe ks (g · s)) : ∀ L : List String, Safe ks (L.foldlM g)
  | [] => fun p hp => ⟨nofun, fun p' h => by rw [← Except.ok.inj h]; exact hp⟩
  | s :: L => fun p hp => (hg s).bind (Safe.foldlM hg L) p hp

/-- Readiness reads the catalog and the role designations only. -/
theorem CChainParams.Ready.of_eq {p p' : CChainParams} (hp : p.Ready ks)
    (hl : p'.consensus.llmqs = p.consensus.llmqs) (hr : p'.consensus.role = p.consensus.role) :
    p'.Ready ks :=
  ⟨⟨hl ▸ hp.resolves.wellKeyed, fun r => by rw [hr, hl]; exact hp.resolves.roles r⟩,
    fun k hk => hl ▸ hp.stored k hk⟩

/-- An override that never fails an assertion and keeps the catalog and the role designations is
safe. -/
theorem Safe.of_keeps {f : CChainParams → Except Fault CChainParams}
    (hn : ∀ p, f p ≠ .error .assertFailed)
    (hk : ∀ p p', f p = .ok p' →
      p'.consensus.llmqs = p.consensus.llmqs ∧ p'.consensus.role = p.consensus.role) :
    Safe ks f := fun p hp =>
  ⟨hn p, fun p' h => hp.of_eq (hk p p' h).1 (hk p p' h).2⟩

end Safe

section Overrides

variable (H : Headers) {ks : List LLMQType} (gArgs args : ArgsManager)

theorem updateActivationParametersFromArgs_safe :
    Safe ks (updateActivationParametersFromArgs H args) := by
  have hstep : ∀ s, Safe ks (updateActivationParameter H · s) := fun s =>
    .of_keeps (fun p => updateActivationParameter_ne_assertFailed H p s) fun p p' h => by
      obtain ⟨-, _, _, _, _, _, _, _, _, rfl⟩ := updateActivationParameter_ok h
      exact ⟨rfl, rfl⟩
  intro p hp
  unfold updateActivationParametersFromArgs
  split_ifs
  · exact ⟨nofun, fun p' h => by rw [← Except.ok.inj h]; exact hp⟩
  · exact Safe.foldlM hstep _ p hp

/-- The `int32` list overrides of regtest write heights only. -/
theorem int32Overrides_safe :
    Safe ks (updateDIP3ParametersFromArgs H args) ∧ Safe ks (updateDIP8ParametersFromArgs H args) ∧
      Safe ks (updateBudgetParametersFromArgs H args) := by
  refine ⟨.of_keeps (fun p h => ?_) fun p p' h => ?_, .of_keeps (fun p h => ?_) fun p p' h => ?_,
    .of_keeps (fun p h => ?_) fun p p' h => ?_⟩
  all_goals first
    | rcases Except.bind_eq_error.1 h with h | ⟨_, -, h⟩
      · exact int32ParamsFromArgs_ne_assertFailed H _ _ _ _ h
      · split at h <;> cases h
    | obtain ⟨_, -, h⟩ := Except.bind_eq_ok.1 h
      split at h <;> rw [← Except.ok.inj h] <;> exact ⟨rfl, rfl⟩

/-- Resizing the record of a stored type keeps the parameters ready. -/
theorem updateLLMQTestParameters_safe (size threshold : Int) {llmqType : LLMQType}
    (hk : llmqType ∈ ks) : Safe ks fun p => updateLLMQTestParameters p size threshold llmqType := by
  intro p hp
  dsimp only
  unfold updateLLMQTestParameters
  obtain ⟨q, hq⟩ := Option.isSome_iff_exists.1 (hp.stored llmqType hk)
  rw [hq]
  have hkeys : ∀ k, (p.consensus.llmqs k).isSome → ((p.consensus.llmqs.set llmqType
      { q with size, minSize := threshold, threshold, dkgBadVotesThreshold := threshold })
        k).isSome :=
    fun k h => Catalog.isSome_set h _ _
  refine ⟨nofun, fun p' h => ?_⟩
  rw [← Except.ok.inj h]
  exact ⟨hp.resolves.setLLMQs
      (hp.resolves.wellKeyed.set (hp.resolves.wellKeyed llmqType q hq)) hkeys,
    fun k hk => hkeys k (hp.stored k hk)⟩

theorem llmqSizeFromArgs_safe (cmd_param llmq_name : String) {llmqType : LLMQType}
    (hk : llmqType ∈ ks) : Safe ks (llmqSizeFromArgs H args cmd_param llmq_name llmqType) := by
  intro p hp
  have hparse := int32ParamsFromArgs_ne_assertFailed H args cmd_param
    (llmq_name ++ " parameters malformed, expecting <size>:<threshold>")
    ["Invalid " ++ llmq_name ++ " size", "Invalid " ++ llmq_name ++ " threshold"]
  refine ⟨fun h => ?_, fun p' h => ?_⟩
  · rcases Except.bind_eq_error.1 h with h | ⟨_, -, h⟩
    · exact hparse h
    · split at h
      · exact (updateLLMQTestParameters_safe _ _ hk p hp).1 h
      · cases h
  · obtain ⟨_, -, h⟩ := Except.bind_eq_ok.1 h
    split at h
    · exact (updateLLMQTestParameters_safe _ _ hk p hp).2 p' h
    · rw [← Except.ok.inj h]; exact hp

/-- A role override designates the type a catalog record carries, which a well-keyed catalog
stores; its assertion needs the current type of the role to resolve. -/
theorem updateLLMQTypeFromArgs_safe (opt : String) (role : LLMQRole) (rule : RotationRule)
    (invalidType : String) :
    Safe ks (updateLLMQTypeFromArgs gArgs args opt role rule invalidType) := by
  intro p hp
  refine ⟨fun h => ?_, fun p' h => ?_⟩
  · unfold updateLLMQTypeFromArgs at h
    split_ifs at h
    · cases h
    obtain ⟨q, hq, -⟩ := hp.resolves.getLLMQ_role role
    rw [hq] at h
    rcases Except.bind_eq_error.1 h with h | ⟨t, -, h⟩
    · obtain ⟨_, _, _, hf, _⟩ := foldlM_llmqTypeStep_error h
      cases hf
    · split_ifs at h <;> cases h
  · rcases updateLLMQTypeFromArgs_ok h with rfl | ⟨_, e, -, he, -, -, rfl⟩
    · exact hp
    have hwk := hp.resolves.wellKeyed
    refine ⟨⟨by simpa using hwk, fun r => ?_⟩, fun k hk => by simpa using hp.stored k hk⟩
    by_cases hr : r = role
    · subst hr
      have he' := Catalog.mem_entries.1 he
      simp [hwk _ _ he', he']
    · simpa [ConsensusParams.role_setRole_ne _ _ hr] using hp.resolves.roles r

theorem updateDevnetPowTargetSpacingFromArgs_safe :
    Safe ks (updateDevnetPowTargetSpacingFromArgs H gArgs args) := by
  refine .of_keeps (updateDevnetPowTargetSpacingFromArgs_ne_assertFailed H gArgs args)
    fun p p' h => ?_
  simp only [updateDevnetPowTargetSpacingFromArgs] at h
  split_ifs at h
  · rw [← Except.ok.inj h]; exact ⟨rfl, rfl⟩
  split at h
  · simp only [bind, Except.bind, pure, Except.pure] at h
    split_ifs at h
    rw [← Except.ok.inj h]; exact ⟨rfl, rfl⟩
  · cases h

theorem updateDevnetSubsidyAndDiffParametersFromArgs_ready {p : CChainParams}
    (hp : p.Ready ks) : (updateDevnetSubsidyAndDiffParametersFromArgs gArgs args p).Ready ks := by
  unfold updateDevnetSubsidyAndDiffParametersFromArgs; split_ifs <;> exact hp.of_eq rfl rfl

end Overrides

/-! ### Construction -/

section Construction

variable (H : Headers) {D : LLMQDefs}

theorem mainLLMQs_wellKeyed (hD : D.Typed) : (mainLLMQs D).WellKeyed := by
  unfold mainLLMQs
  refine ((((Catalog.wellKeyed_empty.set ?_).set ?_).set ?_).set ?_).set ?_ <;> exact hD _

theorem CMainParams_resolves (hD : D.Typed) : (CMainParams H D).Resolves :=
  ⟨mainLLMQs_wellKeyed hD, fun r => by cases r <;> rfl⟩

theorem CTestNetParams_resolves (hD : D.Typed) : (CTestNetParams H D).Resolves :=
  ⟨mainLLMQs_wellKeyed hD, fun r => by cases r <;> rfl⟩

theorem devnetParams_ready (hD : D.Typed) : (devnetParams H D).Ready [.LLMQ_DEVNET] := by
  refine ⟨⟨?_, fun r => by cases r <;> rfl⟩, by simp only [List.mem_singleton, forall_eq]; rfl⟩
  unfold devnetParams devnetLLMQs
  refine (((mainLLMQs_wellKeyed hD).set ?_).set ?_).set ?_ <;> exact hD _

theorem regtestParams_ready (hD : D.Typed) (gArgs : ArgsManager) :
    (regtestParams H D gArgs).Ready [.LLMQ_TEST, .LLMQ_TEST_INSTANTSEND] := by
  refine ⟨⟨?_, fun r => by cases r <;> rfl⟩, by simp only [List.mem_cons, List.mem_singleton,
    List.not_mem_nil, or_false, forall_eq_or_imp, forall_eq]; exact ⟨rfl, rfl⟩⟩
  unfold regtestParams regtestLLMQs
  refine ((((Catalog.wellKeyed_empty.set ?_).set ?_).set ?_).set ?_).set ?_ <;> exact hD _

/-- Construction never fails an assertion, and every parameter set it returns resolves its
lookups. -/
theorem createChainParams_safe (hD : D.Typed) (gArgs args : ArgsManager) (chain : String) :
    createChainParams H D gArgs args chain ≠ .error .assertFailed ∧
      ∀ p, createChainParams H D gArgs args chain = .ok p → p.Resolves := by
  unfold createChainParams
  split_ifs
  · exact ⟨nofun, fun p h => Except.ok.inj h ▸ CMainParams_resolves H hD⟩
  · exact ⟨nofun, fun p h => Except.ok.inj h ▸ CTestNetParams_resolves H hD⟩
  · have hrole : ∀ opt role rule invalidType, Safe [.LLMQ_DEVNET]
        (updateLLMQTypeFromArgs gArgs args opt role rule invalidType) :=
      updateLLMQTypeFromArgs_safe gArgs args
    exact ((hrole _ _ _ _).bind <| (hrole _ _ _ _).bind <| (hrole _ _ _ _).bind <|
      (hrole _ _ _ _).bind <| (llmqSizeFromArgs_safe H args _ _ (List.mem_singleton_self _)).bind <|
      updateDevnetPowTargetSpacingFromArgs_safe H gArgs args) _
      (updateDevnetSubsidyAndDiffParametersFromArgs_ready gArgs args (devnetParams_ready H hD))
      |>.imp id fun h p hp => (h p hp).resolves
  · obtain ⟨h3, h8, hb⟩ : Safe [.LLMQ_TEST, .LLMQ_TEST_INSTANTSEND] _ ∧ Safe _ _ ∧ Safe _ _ :=
      int32Overrides_safe H args
    exact ((updateActivationParametersFromArgs_safe H args).bind <| h3.bind <| h8.bind <| hb.bind <|
      (llmqSizeFromArgs_safe H args _ _ (by simp)).bind <|
      (llmqSizeFromArgs_safe H args _ _ (by simp)).bind <|
      updateLLMQTypeFromArgs_safe gArgs args _ _ _ _) _ (regtestParams_ready H hD gArgs)
      |>.imp id fun h p hp => (h p hp).resolves
  · exact ⟨nofun, fun p h => nomatch h⟩

/-- **Construction never aborts.**  Under `Typed`, for every chain and every pair of argument
managers, `CreateChainParams` without its genesis checks returns parameters or throws a
`std::runtime_error`: none of the assertions of the role overrides, the size overrides and
`UpdateLLMQTestParametersFromArgs` fails. -/
theorem createChainParams_ne_assertFailed (hD : D.Typed) (gArgs args : ArgsManager)
    (chain : String) : createChainParams H D gArgs args chain ≠ .error .assertFailed :=
  (createChainParams_safe H hD gArgs args chain).1

/-- Regtest with `-llmqtestinstantsenddip0024=llmq_test` and `-llmqtestparams=5:3`, on the sample
records. -/
theorem createChainParams_ne_assertFailed_regtest :
    sampleLLMQDefs.Typed ∧
    createChainParams sampleHeaders sampleLLMQDefs
        (ArgsManager.ofList [("-llmqtestinstantsenddip0024", "llmq_test")])
        (ArgsManager.ofList
          [("-llmqtestinstantsenddip0024", "llmq_test"), ("-llmqtestparams", "5:3")])
        REGTEST ≠ .error .assertFailed :=
  ⟨sampleLLMQDefs_typed, createChainParams_ne_assertFailed sampleHeaders sampleLLMQDefs_typed _ _ _⟩

end Construction

/-! ### Every reachable state -/

/-- The states of the node: the parameters `CreateChainParams` returns for some chain and pair of
argument managers, selected with fresh statics, then any number of calls of `UpdateLLMQParams`. -/
inductive Reachable (H : Headers) (D : LLMQDefs) : Node → Prop
  | select {gArgs args : ArgsManager} {chain : String} {p : CChainParams} :
      createChainParams H D gArgs args chain = .ok p → Reachable H D (Node.fresh p)
  | call {n : Node} (c : Nat) (h : Int) :
      Reachable H D n → Reachable H D (updateLLMQParams D n c h)

section Reachable

variable {H : Headers} {D : LLMQDefs}

/-- A run of calls from a reachable state ends in a reachable state. -/
theorem Reachable.runLLMQ {n : Node} (hn : Reachable H D n) :
    ∀ calls, Reachable H D (Maximus.runLLMQ D n calls)
  | [] => hn
  | x :: calls => (hn.call x.1 x.2).runLLMQ calls

theorem Reachable.resolves (hD : D.Typed) {n : Node} (hn : Reachable H D n) :
    n.params.Resolves := by
  induction hn with
  | select h => exact (createChainParams_safe H hD _ _ _).2 _ h
  | call c h _ ih => exact updateLLMQParams_resolves hD ih c h

/-- **`GetLLMQ` is the catalog lookup.**  Under `Typed`, in every state the node reaches, the scan
of `GetLLMQ` by record type returns exactly the record the catalog stores under the type. -/
theorem reachable_getLLMQ_eq (hD : D.Typed) {n : Node} (hn : Reachable H D n) (t : LLMQType) :
    n.params.getLLMQ t = n.params.consensus.llmqs t :=
  n.params.getLLMQ_eq (hn.resolves hD).wellKeyed t

/-- **Every role resolves.**  Under `Typed`, in every state the node reaches, `GetLLMQ` of the type
designated for each of the four roles returns the record the catalog stores under it. -/
theorem reachable_role_resolves (hD : D.Typed) {n : Node} (hn : Reachable H D n) (r : LLMQRole) :
    ∃ q, n.params.getLLMQ (n.params.consensus.role r) = some q ∧
      n.params.consensus.llmqs (n.params.consensus.role r) = some q :=
  (hn.resolves hD).getLLMQ_role r

end Reachable

/-- Main after two calls, the first adapting to 50 masternodes. -/
theorem reachable_getLLMQ_eq_main :
    sampleLLMQDefs.Typed ∧
    Reachable sampleHeaders sampleLLMQDefs (runLLMQ sampleLLMQDefs
      (Node.fresh (CMainParams sampleHeaders sampleLLMQDefs)) [(50, 10), (700, 20)]) ∧
    (runLLMQ sampleLLMQDefs (Node.fresh (CMainParams sampleHeaders sampleLLMQDefs))
        [(50, 10), (700, 20)]).params.getLLMQ .LLMQ_400_60 =
      (runLLMQ sampleLLMQDefs (Node.fresh (CMainParams sampleHeaders sampleLLMQDefs))
        [(50, 10), (700, 20)]).params.consensus.llmqs .LLMQ_400_60 :=
  have hn := (@Reachable.select sampleHeaders sampleLLMQDefs ArgsManager.empty ArgsManager.empty
    MAIN _ rfl).runLLMQ [(50, 10), (700, 20)]
  ⟨sampleLLMQDefs_typed, hn, reachable_getLLMQ_eq sampleLLMQDefs_typed hn .LLMQ_400_60⟩

/-- Regtest built with `-llmqtestinstantsenddip0024=llmq_test` and `-llmqtestparams=5:3`, then
two calls of `UpdateLLMQParams`: the DIP0024 InstantSend role, moved to `LLMQ_TEST` by the
override, resolves to the resized record. -/
theorem reachable_role_resolves_regtest :
    ∃ p, createChainParams sampleHeaders sampleLLMQDefs
        (ArgsManager.ofList
          [("-llmqtestinstantsenddip0024", "llmq_test"), ("-llmqtestparams", "5:3")])
        (ArgsManager.ofList
          [("-llmqtestinstantsenddip0024", "llmq_test"), ("-llmqtestparams", "5:3")])
        REGTEST = .ok p ∧
      sampleLLMQDefs.Typed ∧
      Reachable sampleHeaders sampleLLMQDefs
        (runLLMQ sampleLLMQDefs (Node.fresh p) [(50, 10), (700, 20)]) ∧
      ∃ q, (runLLMQ sampleLLMQDefs (Node.fresh p) [(50, 10), (700, 20)]).params.getLLMQ
          ((runLLMQ sampleLLMQDefs (Node.fresh p) [(50, 10), (700, 20)]).params.consensus.role
            .dip0024InstantSend) = some q ∧
        (runLLMQ sampleLLMQDefs (Node.fresh p) [(50, 10), (700, 20)]).params.consensus.llmqs
          ((runLLMQ sampleLLMQDefs (Node.fresh p) [(50, 10), (700, 20)]).params.consensus.role
            .dip0024InstantSend) = some q := by
  obtain ⟨p, hp⟩ : ∃ p, createChainParams sampleHeaders sampleLLMQDefs
      (ArgsManager.ofList
        [("-llmqtestinstantsenddip0024", "llmq_test"), ("-llmqtestparams", "5:3")])
      (ArgsManager.ofList
        [("-llmqtestinstantsenddip0024", "llmq_test"), ("-llmqtestparams", "5:3")])
      REGTEST = .ok p := ⟨_, rfl⟩
  have hn := (Reachable.select hp).runLLMQ [(50, 10), (700, 20)]
  exact ⟨p, hp, sampleLLMQDefs_typed, hn, reachable_role_resolves sampleLLMQDefs_typed hn _⟩

/-! ### Calls at an unchanged count -/

/-- A call at the last checked count, once a height other than `-1` has been checked, fails the
guard; the downgrade it makes below 80 is one the tier of that count already holds. -/
theorem Adapted.node_step_lastCheckMnCount {D : LLMQDefs} {p₀ : CChainParams} {a : Adapted}
    (ha : a.lastCheckHeight ≠ -1) (m : Bool) (h : Int) :
    (a.step m a.lastCheckMnCount h).node D p₀ = a.node D p₀ := by
  unfold Adapted.step
  rw [if_neg (by simp [ha])]
  split_ifs with hc
  · unfold Adapted.node
    rw [Adapted.tier_of_lt hc, Adapted.tier_of_lt (a := { a with downgraded := true }) hc]
  · rfl

section Unchanged

variable {H : Headers} {D : LLMQDefs}

/-- The forms a state of the engine takes: its profile does not adapt, it has checked no height
other than `-1`, or an abstract state stands for it. -/
def Node.Represented (D : LLMQDefs) (n : Node) : Prop :=
  ¬ n.params.Adaptive ∨ n.lastCheckHeight = -1 ∨
    ∃ (p₀ : CChainParams) (a : Adapted), p₀.Adaptive ∧ n = a.node D p₀

theorem Node.Represented.update {n : Node} (hn : n.Represented D) (c : Nat) (h : Int) :
    (updateLLMQParams D n c h).Represented D := by
  by_cases hA : n.params.Adaptive
  · rcases hn with hA' | hh | ⟨p₀, a, hp, rfl⟩
    · exact absurd hA hA'
    · rw [updateLLMQParams_of_guard hA (.inr hh)]
      exact Or.inr (.inr ⟨n.params, ⟨c, h, false⟩, hA, rfl⟩)
    · rw [updateLLMQParams_node hp]
      exact Or.inr (.inr ⟨p₀, _, hp, rfl⟩)
  · rw [updateLLMQParams_of_not_adaptive hA]
    exact hn

/-- A call at the last checked count changes nothing, once a height other than `-1` has been
checked. -/
theorem Node.Represented.update_lastCheckMnCount {n : Node} (hn : n.Represented D)
    (hh : n.lastCheckHeight ≠ -1) (h : Int) : updateLLMQParams D n n.lastCheckMnCount h = n := by
  rcases hn with hA | hh' | ⟨p₀, a, hp, rfl⟩
  · exact updateLLMQParams_of_not_adaptive hA
  · exact absurd hh' hh
  · rw [Adapted.node_lastCheckMnCount, updateLLMQParams_node hp]
    exact Adapted.node_step_lastCheckMnCount hh _ h

theorem Reachable.represented {n : Node} (hn : Reachable H D n) : n.Represented D := by
  induction hn with
  | select _ => exact Or.inr (.inl rfl)
  | call c h _ ih => exact ih.update c h

/-- **An unchanged count changes nothing.**  From every reachable state that has checked a height
other than `-1`, a run of calls whose counts all equal `lastCheckMnCount` leaves the state as it
is, whatever the heights and mining phases: the tier is recomputed only for a new count, and a
downgraded `LLMQ_60_75` is not restored before one arrives. -/
theorem reachable_runLLMQ_same_count {n : Node} (hn : Reachable H D n)
    (hh : n.lastCheckHeight ≠ -1) :
    ∀ calls : List (Nat × Int), (∀ x ∈ calls, x.1 = n.lastCheckMnCount) → runLLMQ D n calls = n
  | [], _ => rfl
  | x :: calls, hc => by
    rw [runLLMQ_cons, hc x (.head _), hn.represented.update_lastCheckMnCount hh]
    exact reachable_runLLMQ_same_count hn hh calls fun y hy => hc y (.tail _ hy)

end Unchanged

/-- Main adapted to 700 masternodes at height 10, then downgraded by a call with 50 at height 5:
later calls with 700 keep `llmq_10_75` for `LLMQ_60_75`, where the tier of 700 has `llmq_20_75`. -/
theorem reachable_runLLMQ_same_count_main :
    Reachable sampleHeaders sampleLLMQDefs (runLLMQ sampleLLMQDefs
      (Node.fresh (CMainParams sampleHeaders sampleLLMQDefs)) [(700, 10), (50, 5)]) ∧
    (runLLMQ sampleLLMQDefs (Node.fresh (CMainParams sampleHeaders sampleLLMQDefs))
      [(700, 10), (50, 5)]).lastCheckHeight ≠ -1 ∧
    (∀ x ∈ ([(700, 20), (700, 1000)] : List (Nat × Int)),
      x.1 = (runLLMQ sampleLLMQDefs (Node.fresh (CMainParams sampleHeaders sampleLLMQDefs))
        [(700, 10), (50, 5)]).lastCheckMnCount) ∧
    runLLMQ sampleLLMQDefs (runLLMQ sampleLLMQDefs
        (Node.fresh (CMainParams sampleHeaders sampleLLMQDefs)) [(700, 10), (50, 5)])
        [(700, 20), (700, 1000)] =
      runLLMQ sampleLLMQDefs (Node.fresh (CMainParams sampleHeaders sampleLLMQDefs))
        [(700, 10), (50, 5)] ∧
    (runLLMQ sampleLLMQDefs (Node.fresh (CMainParams sampleHeaders sampleLLMQDefs))
      [(700, 10), (50, 5)]).params.consensus.llmqs .LLMQ_60_75 =
      some (sampleLLMQDefs .llmq_10_75) :=
  have hn := (@Reachable.select sampleHeaders sampleLLMQDefs ArgsManager.empty ArgsManager.empty
    MAIN _ rfl).runLLMQ [(700, 10), (50, 5)]
  have hh : (runLLMQ sampleLLMQDefs (Node.fresh (CMainParams sampleHeaders sampleLLMQDefs))
      [(700, 10), (50, 5)]).lastCheckHeight ≠ -1 := by decide
  have hc : ∀ x ∈ ([(700, 20), (700, 1000)] : List (Nat × Int)),
      x.1 = (runLLMQ sampleLLMQDefs (Node.fresh (CMainParams sampleHeaders sampleLLMQDefs))
        [(700, 10), (50, 5)]).lastCheckMnCount := by decide
  ⟨hn, hh, hc, reachable_runLLMQ_same_count hn hh _ hc, rfl⟩

/-! ### Repeated calls -/

section Twice

variable {H : Headers} {D : LLMQDefs}

end Twice

end Maximus
