import Maximus.Profiles
import Maximus.Genesis

/-!
# What construction reads from the process-wide arguments

`CreateChainParams(args, chain)` is handed an argument manager, yet regtest reads `-fastprune`
from the process-wide `gArgs`, and the devnet overrides check that their option is set in
`args` but read its value from `gArgs`.  `SelectParams` passes `gArgs` for `args`, which hides
the difference.  The devnet constructor also runs `FindDevNetGenesisBlock`, which reads
`gArgs.GetDevNetName()`; `Maximus.CDevNetParams` leaves that call out, and
`Maximus.findDevNetGenesisBlock` models it on its own.

* `createChainParams_congr_gArgs` : two process-wide managers that answer alike the queries
  construction makes of `gArgs`, the devnet name included, give the same parameters for every
  chain and every `args`, and the same devnet genesis block.
* `construction_reads_gArgs` : devnet ignores the value of `-llmqplatform` passed in `args`
  when `gArgs` does not hold it, and on regtest, with no arguments passed, setting
  `-fastprune` in `gArgs` alone changes the parameters.
-/

namespace Maximus

variable (H : Headers) (D : LLMQDefs)

/-- The options whose string value construction reads from `gArgs`. -/
def gArgsStringOptions : List String :=
  ["-llmqchainlocks", "-llmqinstantsenddip0024", "-llmqplatform", "-llmqmnhf",
    "-llmqtestinstantsenddip0024", "-powtargetspacing"]

/-- The options whose integer value construction reads from `gArgs`. -/
def gArgsIntOptions : List String :=
  ["-minimumdifficultyblocks", "-highsubsidyblocks", "-highsubsidyfactor"]

/-- Two process-wide managers that answer alike every query construction makes of `gArgs`. -/
structure GArgsAgree (G₁ G₂ : ArgsManager) : Prop where
  fastprune : G₁.getBoolArg "-fastprune" false = G₂.getBoolArg "-fastprune" false
  getArg : ∀ opt ∈ gArgsStringOptions, ∀ d, G₁.getArg opt d = G₂.getArg opt d
  getIntArg : ∀ opt ∈ gArgsIntOptions, ∀ d, G₁.getIntArg opt d = G₂.getIntArg opt d
  /-- `GetDevNetName()`, read by the devnet genesis search. -/
  devNetName : G₁.getDevNetName = G₂.getDevNetName

section Congr

variable {H D} {G₁ G₂ : ArgsManager} (hG : GArgsAgree G₁ G₂) (args : ArgsManager)
include hG

theorem updateLLMQTypeFromArgs_congr {opt : String} (hopt : opt ∈ gArgsStringOptions)
    (role : LLMQRole) (rule : RotationRule) (invalidType : String) (p : CChainParams) :
    updateLLMQTypeFromArgs G₁ args opt role rule invalidType p =
      updateLLMQTypeFromArgs G₂ args opt role rule invalidType p := by
  simp only [updateLLMQTypeFromArgs, hG.getArg opt hopt]

theorem updateDevnetSubsidyAndDiffParametersFromArgs_congr (p : CChainParams) :
    updateDevnetSubsidyAndDiffParametersFromArgs G₁ args p =
      updateDevnetSubsidyAndDiffParametersFromArgs G₂ args p := by
  simp only [updateDevnetSubsidyAndDiffParametersFromArgs,
    hG.getIntArg _ (by decide : "-minimumdifficultyblocks" ∈ gArgsIntOptions),
    hG.getIntArg _ (by decide : "-highsubsidyblocks" ∈ gArgsIntOptions),
    hG.getIntArg _ (by decide : "-highsubsidyfactor" ∈ gArgsIntOptions)]

theorem updateDevnetPowTargetSpacingFromArgs_congr (p : CChainParams) :
    updateDevnetPowTargetSpacingFromArgs H G₁ args p =
      updateDevnetPowTargetSpacingFromArgs H G₂ args p := by
  simp only [updateDevnetPowTargetSpacingFromArgs,
    hG.getArg _ (by decide : "-powtargetspacing" ∈ gArgsStringOptions)]

theorem findDevNetGenesisBlock_congr (P : PowFunctions) (prevBlock : CBlock) (reward : Int) :
    findDevNetGenesisBlock P G₁ prevBlock reward =
      findDevNetGenesisBlock P G₂ prevBlock reward := by
  simp only [findDevNetGenesisBlock, hG.devNetName]

/-- **Construction reads `gArgs` only through these queries.**  The parameters, for every chain,
and the devnet genesis block, for every hash function, previous block and reward, are the same
under two process-wide managers that answer these queries alike. -/
theorem createChainParams_congr_gArgs :
    (∀ chain, createChainParams H D G₁ args chain = createChainParams H D G₂ args chain) ∧
      ∀ (P : PowFunctions) (prevBlock : CBlock) (reward : Int),
        findDevNetGenesisBlock P G₁ prevBlock reward =
          findDevNetGenesisBlock P G₂ prevBlock reward := by
  refine ⟨fun chain => ?_, findDevNetGenesisBlock_congr hG⟩
  have hrole : ∀ {opt}, opt ∈ gArgsStringOptions → ∀ role rule invalidType p,
      updateLLMQTypeFromArgs G₁ args opt role rule invalidType p =
        updateLLMQTypeFromArgs G₂ args opt role rule invalidType p :=
    fun hopt => updateLLMQTypeFromArgs_congr hG args hopt
  simp only [createChainParams, CDevNetParams, CRegTestParams, regtestParams, hG.fastprune,
    updateDevnetSubsidyAndDiffParametersFromArgs_congr hG args,
    updateDevnetPowTargetSpacingFromArgs_congr hG args,
    updateDevnetLLMQChainLocksFromArgs, updateDevnetLLMQInstantSendDIP0024FromArgs,
    updateDevnetLLMQPlatformFromArgs, updateDevnetLLMQMnhfFromArgs,
    updateLLMQInstantSendDIP0024FromArgs,
    hrole (by decide : "-llmqchainlocks" ∈ gArgsStringOptions),
    hrole (by decide : "-llmqinstantsenddip0024" ∈ gArgsStringOptions),
    hrole (by decide : "-llmqplatform" ∈ gArgsStringOptions),
    hrole (by decide : "-llmqmnhf" ∈ gArgsStringOptions),
    hrole (by decide : "-llmqtestinstantsenddip0024" ∈ gArgsStringOptions)]

end Congr

/-- A devnet `gArgs` holding `-devnet=maximus` and `-llmqplatform=llmq_devnet_dip0024`, and the
same with `-fastprune=0` added, give the same devnet parameters. -/
theorem createChainParams_congr_gArgs_devnet :
    GArgsAgree
      (ArgsManager.ofList [("-devnet", "maximus"), ("-llmqplatform", "llmq_devnet_dip0024")])
      (ArgsManager.ofList [("-devnet", "maximus"), ("-llmqplatform", "llmq_devnet_dip0024"),
        ("-fastprune", "0")]) ∧
    createChainParams sampleHeaders sampleLLMQDefs
        (ArgsManager.ofList [("-devnet", "maximus"), ("-llmqplatform", "llmq_devnet_dip0024")])
        (ArgsManager.ofList [("-llmqplatform", "llmq_devnet_dip0024")]) DEVNET =
      createChainParams sampleHeaders sampleLLMQDefs
        (ArgsManager.ofList [("-devnet", "maximus"), ("-llmqplatform", "llmq_devnet_dip0024"),
          ("-fastprune", "0")])
        (ArgsManager.ofList [("-llmqplatform", "llmq_devnet_dip0024")]) DEVNET := by
  have hG : GArgsAgree
      (ArgsManager.ofList [("-devnet", "maximus"), ("-llmqplatform", "llmq_devnet_dip0024")])
      (ArgsManager.ofList [("-devnet", "maximus"), ("-llmqplatform", "llmq_devnet_dip0024"),
        ("-fastprune", "0")]) := by
    refine ⟨rfl, fun _ h _ => ?_, fun _ h _ => ?_, rfl⟩
    · simp only [gArgsStringOptions, List.mem_cons, List.not_mem_nil, or_false] at h
      rcases h with rfl | rfl | rfl | rfl | rfl | rfl <;> rfl
    · simp only [gArgsIntOptions, List.mem_cons, List.not_mem_nil, or_false] at h
      rcases h with rfl | rfl | rfl <;> rfl
  exact ⟨hG, (createChainParams_congr_gArgs hG
    (ArgsManager.ofList [("-llmqplatform", "llmq_devnet_dip0024")])).1 DEVNET⟩

/-! ### `-fastprune` -/

/-- With no arguments passed, regtest is its constructed parameters. -/
theorem createChainParams_regtest_empty (gArgs : ArgsManager) :
    createChainParams H D gArgs ArgsManager.empty REGTEST = .ok (regtestParams H D gArgs) := rfl

/-- On regtest, with no arguments passed, `-fastprune` set in `gArgs` alone lowers the prune
height from 1000 to 100. -/
theorem fastprune_read_from_gArgs :
    createChainParams H D ArgsManager.empty ArgsManager.empty REGTEST ≠
      createChainParams H D (ArgsManager.ofList [("-fastprune", "1")]) ArgsManager.empty REGTEST := by
  rw [createChainParams_regtest_empty, createChainParams_regtest_empty]
  intro h
  have e : (1000 : Int) = 100 := congrArg CChainParams.nPruneAfterHeight (Except.ok.inj h)
  exact absurd e (by decide)

/-- **Construction reads gArgs.**  On a devnet named by `-devnet=maximus` in both managers, with
`-llmqplatform=llmq_devnet_dip0024` passed in `args`, devnet keeps its platform quorum when
`gArgs` does not hold that setting, the value being read from `gArgs`, and takes
`LLMQ_DEVNET_DIP0024` when `gArgs` holds it too; and on regtest, for every table of records,
`-fastprune` set in `gArgs` alone changes the parameters. -/
theorem construction_reads_gArgs :
    (∃ p, createChainParams sampleHeaders sampleLLMQDefs
        (ArgsManager.ofList [("-devnet", "maximus")])
        (ArgsManager.ofList [("-devnet", "maximus"), ("-llmqplatform", "llmq_devnet_dip0024")])
        DEVNET = .ok p ∧
      p.consensus.llmqTypePlatform = .LLMQ_DEVNET_PLATFORM) ∧
    (∃ p, createChainParams sampleHeaders sampleLLMQDefs
        (ArgsManager.ofList [("-devnet", "maximus"), ("-llmqplatform", "llmq_devnet_dip0024")])
        (ArgsManager.ofList [("-devnet", "maximus"), ("-llmqplatform", "llmq_devnet_dip0024")])
        DEVNET = .ok p ∧
      p.consensus.llmqTypePlatform = .LLMQ_DEVNET_DIP0024) ∧
    ∀ H D, createChainParams H D ArgsManager.empty ArgsManager.empty REGTEST ≠
      createChainParams H D (ArgsManager.ofList [("-fastprune", "1")]) ArgsManager.empty REGTEST :=
  ⟨⟨_, rfl, rfl⟩, ⟨_, rfl, rfl⟩, fastprune_read_from_gArgs⟩

end Maximus
