import Maximus.Overrides

/-!
# The four network profiles

`CMainParams`, `CTestNetParams`, `CDevNetParams` and `CRegTestParams`, restricted to the fields
of `CChainParams` in this model, and `CreateChainParams`, which selects one by name.  Main and
test take no arguments and cannot fail; devnet and regtest apply their overrides in the order
of their constructors, and fail with the first override that fails.

A member of the parameter record that a constructor does not set keeps its default-constructed
value, taken from `Headers`.  Genesis blocks and their hash assertions are not modelled here.
-/

namespace Maximus

variable (H : Headers) (D : LLMQDefs)

/-! ### Main and test -/

/-- The deployment table of the main network. -/
def mainDeployments : DeploymentPos → BIP9Deployment
  | .DEPLOYMENT_TESTDUMMY =>
    { H.deployment with bit := 28, nStartTime := 1199145601, nTimeout := 1230767999 }
  | .DEPLOYMENT_V20 =>
    { H.deployment with
      bit := 9, nStartTime := 0, nTimeout := 1740787200, nWindowSize := 4032,
      nThresholdStart := 3226, nThresholdMin := 2420, nFalloffCoeff := 5 }
  | .DEPLOYMENT_MN_RR =>
    { H.deployment with
      bit := 10, nStartTime := 0, nTimeout := 1740787200, nWindowSize := 4032,
      nThresholdStart := 3226, nThresholdMin := 2420, nFalloffCoeff := 5, useEHF := true }

/-- The catalog main and test construct: `LLMQ_400_60` and `LLMQ_400_85` start on their
20-member records. -/
def mainLLMQs : Catalog :=
  ((((Catalog.empty.set .LLMQ_50_60 (D .llmq_50_60)).set .LLMQ_60_75 (D .llmq_60_75)).set
    .LLMQ_400_60 (D .llmq_20_60)).set .LLMQ_400_85 (D .llmq_20_85)).set
    .LLMQ_100_67 (D .llmq_100_67)

/-- `CMainParams()`. -/
def CMainParams : CChainParams where
  strNetworkID := MAIN
  consensus :=
    { vDeployments := mainDeployments H
      llmqs := mainLLMQs D
      llmqTypeChainLocks := .LLMQ_400_60
      llmqTypeDIP0024InstantSend := .LLMQ_60_75
      llmqTypePlatform := .LLMQ_100_67
      llmqTypeMnhf := .LLMQ_400_85
      DIP0003Height := 2
      DIP0003EnforcementHeight := 2
      DIP0008Height := 2
      nMasternodePaymentsStartBlock := 250
      nBudgetPaymentsStartBlock := 250
      nSuperblockStartBlock := 18000
      nMinimumDifficultyBlocks := H.nMinimumDifficultyBlocks
      nHighSubsidyBlocks := H.nHighSubsidyBlocks
      nHighSubsidyFactor := H.nHighSubsidyFactor
      nPowTargetSpacing := 72 }
  nPruneAfterHeight := 100000

/-- The deployment table of a test chain with `V20` and `MN_RR` of window `window`, thresholds
`thresholdStart` to `thresholdMin`, and no timeout. -/
def testDeployments (testDummyStart testDummyTimeout window thresholdStart thresholdMin : Int) :
    DeploymentPos → BIP9Deployment
  | .DEPLOYMENT_TESTDUMMY =>
    { H.deployment with bit := 28, nStartTime := testDummyStart, nTimeout := testDummyTimeout }
  | .DEPLOYMENT_V20 =>
    { H.deployment with
      bit := 9, nStartTime := 0, nTimeout := NO_TIMEOUT, nWindowSize := window,
      nThresholdStart := thresholdStart, nThresholdMin := thresholdMin, nFalloffCoeff := 5 }
  | .DEPLOYMENT_MN_RR =>
    { H.deployment with
      bit := 10, nStartTime := 0, nTimeout := NO_TIMEOUT, nWindowSize := window,
      nThresholdStart := thresholdStart, nThresholdMin := thresholdMin, nFalloffCoeff := 5,
      useEHF := true }

/-- `CTestNetParams()`. -/
def CTestNetParams : CChainParams where
  strNetworkID := TESTNET
  consensus :=
    { vDeployments := testDeployments H 1199145601 1230767999 100 80 60
      llmqs := mainLLMQs D
      llmqTypeChainLocks := .LLMQ_400_60
      llmqTypeDIP0024InstantSend := .LLMQ_60_75
      llmqTypePlatform := .LLMQ_100_67
      llmqTypeMnhf := .LLMQ_400_85
      DIP0003Height := 2
      DIP0003EnforcementHeight := 2
      DIP0008Height := 2
      nMasternodePaymentsStartBlock := 250
      nBudgetPaymentsStartBlock := 250
      nSuperblockStartBlock := 350
      nMinimumDifficultyBlocks := H.nMinimumDifficultyBlocks
      nHighSubsidyBlocks := H.nHighSubsidyBlocks
      nHighSubsidyFactor := H.nHighSubsidyFactor
      nPowTargetSpacing := 36 }
  nPruneAfterHeight := 1000

/-! ### Devnet -/

/-- The devnet catalog: the main catalog and the three devnet records. -/
def devnetLLMQs : Catalog :=
  (((mainLLMQs D).set .LLMQ_DEVNET (D .llmq_devnet)).set .LLMQ_DEVNET_DIP0024
    (D .llmq_devnet_dip0024)).set .LLMQ_DEVNET_PLATFORM (D .llmq_devnet_platform)

/-- The devnet parameters before any override. -/
def devnetParams : CChainParams where
  strNetworkID := DEVNET
  consensus :=
    { vDeployments := testDeployments H 1199145601 1230767999 120 80 60
      llmqs := devnetLLMQs D
      llmqTypeChainLocks := .LLMQ_DEVNET
      llmqTypeDIP0024InstantSend := .LLMQ_DEVNET_DIP0024
      llmqTypePlatform := .LLMQ_DEVNET_PLATFORM
      llmqTypeMnhf := .LLMQ_DEVNET
      DIP0003Height := 2
      DIP0003EnforcementHeight := 2
      DIP0008Height := 2
      nMasternodePaymentsStartBlock := 250
      nBudgetPaymentsStartBlock := 250
      nSuperblockStartBlock := 4200
      nMinimumDifficultyBlocks := H.nMinimumDifficultyBlocks
      nHighSubsidyBlocks := H.nHighSubsidyBlocks
      nHighSubsidyFactor := H.nHighSubsidyFactor
      nPowTargetSpacing := 72 }
  nPruneAfterHeight := 1000

/-- `CDevNetParams(args)`, with `gArgs` the process-wide argument manager. -/
def CDevNetParams (gArgs args : ArgsManager) : Except Fault CChainParams := do
  let p := updateDevnetSubsidyAndDiffParametersFromArgs gArgs args (devnetParams H D)
  let p ← updateDevnetLLMQChainLocksFromArgs gArgs args p
  let p ← updateDevnetLLMQInstantSendDIP0024FromArgs gArgs args p
  let p ← updateDevnetLLMQPlatformFromArgs gArgs args p
  let p ← updateDevnetLLMQMnhfFromArgs gArgs args p
  let p ← updateLLMQDevnetParametersFromArgs H args p
  updateDevnetPowTargetSpacingFromArgs H gArgs args p

/-! ### Regtest -/

/-- The regtest catalog. -/
def regtestLLMQs : Catalog :=
  ((((Catalog.empty.set .LLMQ_TEST (D .llmq_test)).set .LLMQ_TEST_INSTANTSEND
    (D .llmq_test_instantsend)).set .LLMQ_TEST_V17 (D .llmq_test_v17)).set .LLMQ_TEST_DIP0024
    (D .llmq_test_dip0024)).set .LLMQ_TEST_PLATFORM (D .llmq_test_platform)

/-- The regtest parameters before any override; the prune height reads `-fastprune` from
`gArgs`. -/
def regtestParams (gArgs : ArgsManager) : CChainParams where
  strNetworkID := REGTEST
  consensus :=
    { vDeployments := fun d => match d with
        | .DEPLOYMENT_TESTDUMMY =>
          { H.deployment with bit := 28, nStartTime := 0, nTimeout := NO_TIMEOUT }
        | .DEPLOYMENT_V20 =>
          { H.deployment with
            bit := 9, nStartTime := 0, nTimeout := NO_TIMEOUT, nWindowSize := 400,
            nThresholdStart := 384, nThresholdMin := 288, nFalloffCoeff := 5 }
        | .DEPLOYMENT_MN_RR =>
          { H.deployment with
            bit := 10, nStartTime := 0, nTimeout := NO_TIMEOUT, nWindowSize := 12,
            nThresholdStart := 9, nThresholdMin := 7, nFalloffCoeff := 5, useEHF := true }
      llmqs := regtestLLMQs D
      llmqTypeChainLocks := .LLMQ_TEST
      llmqTypeDIP0024InstantSend := .LLMQ_TEST_DIP0024
      llmqTypePlatform := .LLMQ_TEST_PLATFORM
      llmqTypeMnhf := .LLMQ_TEST
      DIP0003Height := 20
      DIP0003EnforcementHeight := 30
      DIP0008Height := 20
      nMasternodePaymentsStartBlock := 250
      nBudgetPaymentsStartBlock := 250
      nSuperblockStartBlock := 1800
      nMinimumDifficultyBlocks := H.nMinimumDifficultyBlocks
      nHighSubsidyBlocks := H.nHighSubsidyBlocks
      nHighSubsidyFactor := H.nHighSubsidyFactor
      nPowTargetSpacing := 72 }
  nPruneAfterHeight := if gArgs.getBoolArg "-fastprune" false then 100 else 1000

/-- `CRegTestParams(args)`, with `gArgs` the process-wide argument manager. -/
def CRegTestParams (gArgs args : ArgsManager) : Except Fault CChainParams := do
  let p ← updateActivationParametersFromArgs H args (regtestParams H D gArgs)
  let p ← updateDIP3ParametersFromArgs H args p
  let p ← updateDIP8ParametersFromArgs H args p
  let p ← updateBudgetParametersFromArgs H args p
  let p ← updateLLMQTestParametersFromArgs H args .LLMQ_TEST p
  let p ← updateLLMQTestParametersFromArgs H args .LLMQ_TEST_INSTANTSEND p
  updateLLMQInstantSendDIP0024FromArgs gArgs args p

/-! ### Selection -/

/-- `CreateChainParams(args, chain)`, with `gArgs` the process-wide argument manager. -/
def createChainParams (gArgs args : ArgsManager) (chain : String) : Except Fault CChainParams :=
  if chain = MAIN then pure (CMainParams H D)
  else if chain = TESTNET then pure (CTestNetParams H D)
  else if chain = DEVNET then CDevNetParams H D gArgs args
  else if chain = REGTEST then CRegTestParams H D gArgs args
  else throw (.runtimeError ("CreateChainParams: Unknown chain " ++ chain ++ "."))

/-- `SelectParams(network)`: the parameters built from `gArgs` itself. -/
def selectParams (gArgs : ArgsManager) (network : String) : Except Fault CChainParams :=
  createChainParams H D gArgs gArgs network

end Maximus
