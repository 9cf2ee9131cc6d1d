import Maximus.VbParams
import Maximus.Roles
import Maximus.VersionBits

/-!
# What every constructed parameter set satisfies

The characterisation of `IsValidMNActivation` holds on deployment tables with distinct bits.
Every parameter set that `CreateChainParams` builds has one: the constructors give the three
deployments the bits 28, 9 and 10, `-vbparams` never writes a bit, and no other override
touches the table.

* `createChainParams_bitsDistinct` : every parameter set that construction returns, for every
  chain and both argument managers, has a deployment table with distinct bits.
-/

namespace Maximus

variable (H : Headers) (D : LLMQDefs)

/-- The override `f` keeps every bit of the deployment table whenever it succeeds. -/
def KeepsBits (f : CChainParams → Except Fault CChainParams) : Prop :=
  ∀ p p', f p = .ok p' →
    ∀ d, (p'.consensus.vDeployments d).bit = (p.consensus.vDeployments d).bit

/-- The override `f` leaves the deployment table as it was whenever it succeeds. -/
def KeepsDeployments (f : CChainParams → Except Fault CChainParams) : Prop :=
  ∀ p p', f p = .ok p' → p'.consensus.vDeployments = p.consensus.vDeployments

theorem KeepsDeployments.keepsBits {f : CChainParams → Except Fault CChainParams}
    (hf : KeepsDeployments f) : KeepsBits f := fun p p' h d => by rw [hf p p' h]

/-- Distinct bits survive an override that keeps them. -/
theorem CChainParams.BitsDistinct.of_keepsBits {f : CChainParams → Except Fault CChainParams}
    (hf : KeepsBits f) {p p' : CChainParams} (hp : f p = .ok p') (hd : p.BitsDistinct) :
    p'.BitsDistinct := by
  unfold CChainParams.BitsDistinct
  rwa [show (fun d => (p'.consensus.vDeployments d).bit) =
    fun d => (p.consensus.vDeployments d).bit from funext (hf p p' hp)]

/-- Each step of a run of overrides keeps distinct bits. -/
theorem CChainParams.BitsDistinct.bind {f : CChainParams → Except Fault CChainParams}
    (hf : KeepsBits f) {g : CChainParams → Except Fault CChainParams} {p p'' : CChainParams}
    (hd : p.BitsDistinct) (h : f p >>= g = .ok p'')
    (hg : ∀ p', p'.BitsDistinct → g p' = .ok p'' → p''.BitsDistinct) : p''.BitsDistinct :=
  let ⟨_, h₁, h₂⟩ := Except.bind_eq_ok.1 h
  hg _ (hd.of_keepsBits hf h₁) h₂

/-! ### The overrides -/

section Overrides

variable {H} (gArgs args : ArgsManager)

@[simp] theorem ConsensusParams.setRole_vDeployments (c : ConsensusParams) (r : LLMQRole)
    (t : LLMQType) : (c.setRole r t).vDeployments = c.vDeployments := by cases r <;> rfl

theorem updateVersionBitsParameters_bit (p : CChainParams) (j d : DeploymentPos)
    (nStartTime nTimeout nWindowSize nThresholdStart nThresholdMin nFalloffCoeff nUseEHF : Int) :
    ((updateVersionBitsParameters p j nStartTime nTimeout nWindowSize nThresholdStart nThresholdMin
        nFalloffCoeff nUseEHF).consensus.vDeployments d).bit =
      (p.consensus.vDeployments d).bit := by
  rw [updateVersionBitsParameters_eq]
  show (Function.update p.consensus.vDeployments j _ d).bit = _
  rw [Function.update_apply]
  split <;> subst_vars <;> rfl

/-- The loop of `-vbparams` keeps every bit, whatever the values and however it ends. -/
theorem foldlM_updateActivationParameter_bit :
    ∀ (L : List String) {p p' : CChainParams},
      L.foldlM (updateActivationParameter H) p = .ok p' →
      ∀ d, (p'.consensus.vDeployments d).bit = (p.consensus.vDeployments d).bit
  | [], _, _, h, _ => by rw [Except.ok.inj h]
  | s :: L, p, _, h, d => by
    rw [List.foldlM_cons] at h
    obtain ⟨p₁, h₁, h⟩ := Except.bind_eq_ok.1 h
    obtain ⟨-, j, nStartTime, nTimeout, nWindowSize, nThresholdStart, nThresholdMin,
      nFalloffCoeff, nUseEHF, rfl⟩ := updateActivationParameter_ok h₁
    exact (foldlM_updateActivationParameter_bit L h d).trans
      (updateVersionBitsParameters_bit p j d nStartTime nTimeout nWindowSize nThresholdStart
        nThresholdMin nFalloffCoeff nUseEHF)

theorem updateActivationParametersFromArgs_keepsBits :
    KeepsBits (updateActivationParametersFromArgs H args) := by
  intro p p' h
  unfold updateActivationParametersFromArgs at h
  split_ifs at h
  · rw [Except.ok.inj h]; exact fun _ => rfl
  · exact foldlM_updateActivationParameter_bit _ h

theorem updateLLMQTypeFromArgs_keeps (opt : String) (role : LLMQRole) (rule : RotationRule)
    (invalidType : String) :
    KeepsDeployments (updateLLMQTypeFromArgs gArgs args opt role rule invalidType) := by
  intro p p' h
  rcases updateLLMQTypeFromArgs_ok h with rfl | ⟨_, _, -, -, -, -, rfl⟩
  · rfl
  · exact ConsensusParams.setRole_vDeployments _ _ _

theorem updateLLMQTestParameters_keeps (size threshold : Int) (llmqType : LLMQType) :
    KeepsDeployments fun p => updateLLMQTestParameters p size threshold llmqType := by
  intro p p' h
  simp only [updateLLMQTestParameters] at h
  split at h
  · cases h
  · rw [← Except.ok.inj h]; rfl

theorem llmqSizeFromArgs_keeps (cmd_param llmq_name : String) (llmqType : LLMQType) :
    KeepsDeployments (llmqSizeFromArgs H args cmd_param llmq_name llmqType) := by
  intro p p' h
  obtain ⟨_, -, h⟩ := Except.bind_eq_ok.1 h
  split at h
  · exact updateLLMQTestParameters_keeps _ _ _ p p' h
  · rw [← Except.ok.inj h]

theorem updateLLMQTestParametersFromArgs_keeps (llmqType : LLMQType) :
    KeepsDeployments (updateLLMQTestParametersFromArgs H args llmqType) := by
  intro p p' h
  unfold updateLLMQTestParametersFromArgs at h
  split_ifs at h <;> exact llmqSizeFromArgs_keeps args _ _ _ p p' h

/-- The `int32` list overrides of regtest write heights only. -/
theorem int32Overrides_keep :
    KeepsDeployments (updateDIP3ParametersFromArgs H args) ∧
      KeepsDeployments (updateDIP8ParametersFromArgs H args) ∧
      KeepsDeployments (updateBudgetParametersFromArgs H args) := by
  refine ⟨fun p p' h => ?_, fun p p' h => ?_, fun p p' h => ?_⟩ <;>
    obtain ⟨_, -, h⟩ := Except.bind_eq_ok.1 h <;> split at h <;>
    rw [← Except.ok.inj h] <;> rfl

theorem updateDevnetPowTargetSpacingFromArgs_keeps :
    KeepsDeployments (updateDevnetPowTargetSpacingFromArgs H gArgs args) := by
  intro p p' h
  simp only [updateDevnetPowTargetSpacingFromArgs] at h
  split_ifs at h
  · rw [← Except.ok.inj h]
  split at h
  · simp only [bind, Except.bind, pure, Except.pure] at h
    split_ifs at h
    rw [← Except.ok.inj h]
  · cases h

theorem updateDevnetSubsidyAndDiffParametersFromArgs_vDeployments (p : CChainParams) :
    (updateDevnetSubsidyAndDiffParametersFromArgs gArgs args p).consensus.vDeployments =
      p.consensus.vDeployments := by
  unfold updateDevnetSubsidyAndDiffParametersFromArgs; split_ifs <;> rfl

end Overrides

/-! ### Construction -/

/-- **Constructed tables have distinct bits.**  Every parameter set that `CreateChainParams`
returns, for every chain and every pair of argument managers, has a deployment table whose
bits are distinct. -/
theorem createChainParams_bitsDistinct {gArgs args : ArgsManager} {chain : String}
    {p : CChainParams} (h : createChainParams H D gArgs args chain = .ok p) : p.BitsDistinct := by
  have h28 : ([28, 9, 10] : List Int).Nodup := by decide
  unfold createChainParams at h
  split_ifs at h
  · rw [← Except.ok.inj h]; exact h28
  · rw [← Except.ok.inj h]; exact h28
  · have hsub : (updateDevnetSubsidyAndDiffParametersFromArgs gArgs args
        (devnetParams H D)).BitsDistinct := by
      unfold CChainParams.BitsDistinct
      rw [updateDevnetSubsidyAndDiffParametersFromArgs_vDeployments]
      exact h28
    have hrole := fun opt role rule invalidType =>
      (updateLLMQTypeFromArgs_keeps gArgs args opt role rule invalidType).keepsBits
    refine hsub.bind (hrole _ _ _ _) h fun _ hd h => ?_
    refine hd.bind (hrole _ _ _ _) h fun _ hd h => ?_
    refine hd.bind (hrole _ _ _ _) h fun _ hd h => ?_
    refine hd.bind (hrole _ _ _ _) h fun _ hd h => ?_
    refine hd.bind (llmqSizeFromArgs_keeps args _ _ _).keepsBits h fun _ hd h => ?_
    exact hd.of_keepsBits (updateDevnetPowTargetSpacingFromArgs_keeps gArgs args).keepsBits h
  · obtain ⟨h3, h8, hb⟩ := int32Overrides_keep (H := H) args
    have hd : (regtestParams H D gArgs).BitsDistinct := h28
    refine hd.bind (updateActivationParametersFromArgs_keepsBits args) h fun _ hd h => ?_
    refine hd.bind h3.keepsBits h fun _ hd h => ?_
    refine hd.bind h8.keepsBits h fun _ hd h => ?_
    refine hd.bind hb.keepsBits h fun _ hd h => ?_
    refine hd.bind (updateLLMQTestParametersFromArgs_keeps args _).keepsBits h fun _ hd h => ?_
    refine hd.bind (updateLLMQTestParametersFromArgs_keeps args _).keepsBits h fun _ hd h => ?_
    exact hd.of_keepsBits (updateLLMQTypeFromArgs_keeps gArgs args _ _ _ _).keepsBits h

/-- Regtest with `-vbparams=v20:0:100`, a size override and a role override: the run of
`UpdateVersionBitsParameters` moves the timeout of V20 and keeps the bits distinct. -/
theorem createChainParams_bitsDistinct_regtest :
    ∃ p, createChainParams sampleHeaders sampleLLMQDefs
        (ArgsManager.ofList [("-vbparams", "v20:0:100"), ("-llmqtestparams", "5:3"),
          ("-llmqtestinstantsenddip0024", "llmq_test")])
        (ArgsManager.ofList [("-vbparams", "v20:0:100"), ("-llmqtestparams", "5:3"),
          ("-llmqtestinstantsenddip0024", "llmq_test")]) REGTEST = .ok p ∧
      (p.consensus.vDeployments .DEPLOYMENT_V20).nTimeout = 100 ∧ p.BitsDistinct :=
  ⟨_, rfl, rfl, @createChainParams_bitsDistinct sampleHeaders sampleLLMQDefs
    (ArgsManager.ofList [("-vbparams", "v20:0:100"), ("-llmqtestparams", "5:3"),
      ("-llmqtestinstantsenddip0024", "llmq_test")])
    (ArgsManager.ofList [("-vbparams", "v20:0:100"), ("-llmqtestparams", "5:3"),
      ("-llmqtestinstantsenddip0024", "llmq_test")]) REGTEST _ rfl⟩

end Maximus
