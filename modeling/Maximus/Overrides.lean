import Maximus.Consensus

/-!
# Command-line overrides of the test profiles

The `Update*FromArgs` members of `CRegTestParams` and `CDevNetParams`.  Each reads one option,
parses it, and either throws a `std::runtime_error` naming what it could not parse or applies
one `Update*` mutator.

Near-identical members are one definition with parameters, each member applied to its own
option name and messages as the source spells them:

* `int32ParamsFromArgs` is the shape of `-dip3params`, `-dip8params`, `-budgetparams`,
  `-llmqtestparams`, `-llmqtestinstantsendparams` and `-llmqdevnetparams`: a colon-separated
  list of `int32` fields of fixed length;
* `updateLLMQTypeFromArgs` is the shape of the five role overrides `-llmqchainlocks`,
  `-llmqinstantsenddip0024`, `-llmqplatform`, `-llmqmnhf` and `-llmqtestinstantsenddip0024`.
  They differ in the rotation they demand of the selected type (`RotationRule`): only
  `-llmqchainlocks` and `-llmqinstantsenddip0024` demand one.

`-vbparams` (`updateActivationParametersFromArgs`) takes 3, 5 or 8 fields and loops over every
value given; its specification is in `Maximus.VbParams`.
-/

namespace Maximus

variable (H : Headers)

/-- `strprintf("<what> (%s)", s)` as a thrown error. -/
def invalid (what s : String) : Fault := .runtimeError (what ++ " (" ++ s ++ ")")

/-- `ParseInt64(s, &x)`, throwing `invalid what s` when it fails. -/
def parseInt64Or (s what : String) : Except Fault Int :=
  match H.parseInt64 s with
  | some x => pure x
  | none => throw (invalid what s)

theorem parseInt64Or_eq_ok {s what : String} {x : Int} :
    parseInt64Or H s what = .ok x ↔ H.parseInt64 s = some x := by
  unfold parseInt64Or; split <;> simp_all [throw, throwThe, MonadExceptOf.throw, pure, Except.pure]

theorem parseInt64Or_of_some {s : String} {x : Int} (h : H.parseInt64 s = some x)
    (what : String) : parseInt64Or H s what = pure x := by
  rw [parseInt64Or, h]

/-- A parse that throws names its field; one that succeeds passes its value on. -/
theorem parseInt64Or_bind_error {s what : String} {α : Type} {k : Int → Except Fault α}
    {e : Fault} (h : parseInt64Or H s what >>= k = .error e) :
    (H.parseInt64 s = none ∧ e = invalid what s) ∨ ∃ x, k x = .error e := by
  unfold parseInt64Or at h
  cases hs : H.parseInt64 s <;> rw [hs] at h
  · exact .inl ⟨rfl, (Except.error.inj h).symm⟩
  · exact .inr ⟨_, h⟩

/-- `ParseInt32(s, &x)`, throwing `invalid what s` when it fails. -/
def parseInt32Or (s what : String) : Except Fault Int :=
  match H.parseInt32 s with
  | some x => pure x
  | none => throw (invalid what s)

theorem parseInt32Or_of_some {s : String} {x : Int} (h : H.parseInt32 s = some x)
    (what : String) : parseInt32Or H s what = pure x := by
  rw [parseInt32Or, h]

theorem parseInt32Or_of_none {s : String} (h : H.parseInt32 s = none) (what : String) :
    parseInt32Or H s what = .error (invalid what s) := by
  rw [parseInt32Or, h]; rfl

/-- The conversion of an `int64_t` to `int`. -/
def int32Of (x : Int) : Int := (x + 2 ^ 31) % 2 ^ 32 - 2 ^ 31

/-! ### `-vbparams` -/

/-- `CRegTestParams::UpdateVersionBitsParameters`: the start and timeout always, every other
field only when it is not `-1`. -/
def updateVersionBitsParameters (p : CChainParams) (d : DeploymentPos)
    (nStartTime nTimeout nWindowSize nThresholdStart nThresholdMin nFalloffCoeff nUseEHF : Int) :
    CChainParams :=
  let dep := p.consensus.vDeployments d
  let dep := { dep with nStartTime := nStartTime, nTimeout := nTimeout }
  let dep := if nWindowSize ≠ -1 then { dep with nWindowSize := nWindowSize } else dep
  let dep := if nThresholdStart ≠ -1 then { dep with nThresholdStart := nThresholdStart } else dep
  let dep := if nThresholdMin ≠ -1 then { dep with nThresholdMin := nThresholdMin } else dep
  let dep := if nFalloffCoeff ≠ -1 then { dep with nFalloffCoeff := nFalloffCoeff } else dep
  let dep := if nUseEHF ≠ -1 then { dep with useEHF := decide (nUseEHF > 0) } else dep
  { p with consensus := { p.consensus with
      vDeployments := Function.update p.consensus.vDeployments d dep } }

/-- `UpdateVersionBitsParameters` as one update of the record of `d`. -/
theorem updateVersionBitsParameters_eq (p : CChainParams) (d : DeploymentPos)
    (nStartTime nTimeout nWindowSize nThresholdStart nThresholdMin nFalloffCoeff nUseEHF : Int) :
    updateVersionBitsParameters p d nStartTime nTimeout nWindowSize nThresholdStart nThresholdMin
        nFalloffCoeff nUseEHF =
      { p with consensus := { p.consensus with
          vDeployments := Function.update p.consensus.vDeployments d
            { p.consensus.vDeployments d with
              nStartTime := nStartTime, nTimeout := nTimeout
              nWindowSize := if nWindowSize ≠ -1 then nWindowSize
                else (p.consensus.vDeployments d).nWindowSize
              nThresholdStart := if nThresholdStart ≠ -1 then nThresholdStart
                else (p.consensus.vDeployments d).nThresholdStart
              nThresholdMin := if nThresholdMin ≠ -1 then nThresholdMin
                else (p.consensus.vDeployments d).nThresholdMin
              nFalloffCoeff := if nFalloffCoeff ≠ -1 then nFalloffCoeff
                else (p.consensus.vDeployments d).nFalloffCoeff
              useEHF := if nUseEHF ≠ -1 then decide (nUseEHF > 0)
                else (p.consensus.vDeployments d).useEHF } } } := by
  simp only [updateVersionBitsParameters, BIP9Deployment.ite_eq, ite_self]

/-- The error for a `-vbparams` value of the wrong length. -/
def vbParamsMalformed : String :=
  "Version bits parameters malformed, expecting " ++
    "<deployment>:<start>:<end> or " ++
    "<deployment>:<start>:<end>:<window>:<threshold> or " ++
    "<deployment>:<start>:<end>:<window>:<thresholdstart>:<thresholdmin>:<falloffcoeff>:<useehf>"

/-- One iteration of the loop of `UpdateActivationParametersFromArgs`, on one value
`strDeployment` of `-vbparams`. -/
def updateActivationParameter (p : CChainParams) (strDeployment : String) :
    Except Fault CChainParams := do
  let v := H.splitString strDeployment ':'
  if v.length ≠ 3 ∧ v.length ≠ 5 ∧ v.length ≠ 8 then throw (.runtimeError vbParamsMalformed)
  let nStartTime ← parseInt64Or H (v.getD 1 "") "Invalid nStartTime"
  let nTimeout ← parseInt64Or H (v.getD 2 "") "Invalid nTimeout"
  let (nWindowSize, nThresholdStart) ← if v.length ≥ 5 then do
      let nWindowSize ← parseInt64Or H (v.getD 3 "") "Invalid nWindowSize"
      let nThresholdStart ← parseInt64Or H (v.getD 4 "") "Invalid nThresholdStart"
      pure (nWindowSize, nThresholdStart)
    else pure (-1, -1)
  let (nThresholdMin, nFalloffCoeff, nUseEHF) ← if v.length = 8 then do
      let nThresholdMin ← parseInt64Or H (v.getD 5 "") "Invalid nThresholdMin"
      let nFalloffCoeff ← parseInt64Or H (v.getD 6 "") "Invalid nFalloffCoeff"
      let nUseEHF ← parseInt64Or H (v.getD 7 "") "Invalid nUseEHF"
      pure (nThresholdMin, nFalloffCoeff, nUseEHF)
    else pure (-1, -1, -1)
  match DeploymentPos.all.find? (fun j => v.getD 0 "" = H.deploymentName j) with
  | some j => pure (updateVersionBitsParameters p j nStartTime nTimeout nWindowSize
      nThresholdStart nThresholdMin nFalloffCoeff nUseEHF)
  | none => throw (invalid "Invalid deployment" (v.getD 0 ""))

/-- `CRegTestParams::UpdateActivationParametersFromArgs`. -/
def updateActivationParametersFromArgs (args : ArgsManager) (p : CChainParams) :
    Except Fault CChainParams :=
  if !args.isArgSet "-vbparams" then pure p
  else (args.getArgs "-vbparams").foldlM (updateActivationParameter H) p

/-! ### Colon-separated `int32` lists -/

/-- Read `opt` from `args`, split it on `:`, demand one field per entry of `whats` (throwing
`malformed` otherwise) and parse each with `ParseInt32`, throwing `invalid what field` at the
first failure; `none` when the option is not set. -/
def int32ParamsFromArgs (args : ArgsManager) (opt malformed : String) (whats : List String) :
    Except Fault (Option (List Int)) :=
  if !args.isArgSet opt then pure none
  else do
    let vParams := H.splitString (args.getArg opt "") ':'
    if vParams.length ≠ whats.length then throw (.runtimeError malformed)
    some <$> (vParams.zip whats).mapM fun f => parseInt32Or H f.1 f.2

/-- `CRegTestParams::UpdateDIP3Parameters`. -/
def updateDIP3Parameters (p : CChainParams) (nActivationHeight nEnforcementHeight : Int) :
    CChainParams :=
  { p with consensus := { p.consensus with
      DIP0003Height := nActivationHeight, DIP0003EnforcementHeight := nEnforcementHeight } }

/-- `CRegTestParams::UpdateDIP3ParametersFromArgs`. -/
def updateDIP3ParametersFromArgs (args : ArgsManager) (p : CChainParams) :
    Except Fault CChainParams := do
  match ← int32ParamsFromArgs H args "-dip3params"
      "DIP3 parameters malformed, expecting <activation>:<enforcement>"
      ["Invalid activation height", "Invalid enforcement height"] with
  | some [a, e] => pure (updateDIP3Parameters p a e)
  | _ => pure p

/-- `CRegTestParams::UpdateDIP8Parameters`. -/
def updateDIP8Parameters (p : CChainParams) (nActivationHeight : Int) : CChainParams :=
  { p with consensus := { p.consensus with DIP0008Height := nActivationHeight } }

/-- `CRegTestParams::UpdateDIP8ParametersFromArgs`. -/
def updateDIP8ParametersFromArgs (args : ArgsManager) (p : CChainParams) :
    Except Fault CChainParams := do
  match ← int32ParamsFromArgs H args "-dip8params"
      "DIP8 parameters malformed, expecting <activation>" ["Invalid activation height"] with
  | some [a] => pure (updateDIP8Parameters p a)
  | _ => pure p

/-- `CRegTestParams::UpdateBudgetParameters`. -/
def updateBudgetParameters (p : CChainParams)
    (nMasternodePaymentsStartBlock nBudgetPaymentsStartBlock nSuperblockStartBlock : Int) :
    CChainParams :=
  { p with consensus := { p.consensus with
      nMasternodePaymentsStartBlock := nMasternodePaymentsStartBlock,
      nBudgetPaymentsStartBlock := nBudgetPaymentsStartBlock,
      nSuperblockStartBlock := nSuperblockStartBlock } }

/-- `CRegTestParams::UpdateBudgetParametersFromArgs`. -/
def updateBudgetParametersFromArgs (args : ArgsManager) (p : CChainParams) :
    Except Fault CChainParams := do
  match ← int32ParamsFromArgs H args "-budgetparams"
      "Budget parameters malformed, expecting <masternode>:<budget>:<superblock>"
      ["Invalid masternode start height", "Invalid budget start block",
        "Invalid superblock start height"] with
  | some [m, b, s] => pure (updateBudgetParameters p m b s)
  | _ => pure p

/-- `CRegTestParams::UpdateLLMQTestParameters`: resize the catalog entry of `llmqType`, which
must exist. -/
def updateLLMQTestParameters (p : CChainParams) (size threshold : Int) (llmqType : LLMQType) :
    Except Fault CChainParams :=
  match p.consensus.llmqs llmqType with
  | none => throw .assertFailed
  | some q => pure (p.setLLMQs (p.consensus.llmqs.set llmqType { q with
      size := size, minSize := threshold, threshold := threshold,
      dkgBadVotesThreshold := threshold }))

/-- `CDevNetParams::UpdateLLMQDevnetParameters`. -/
def updateLLMQDevnetParameters (p : CChainParams) (size threshold : Int) :
    Except Fault CChainParams :=
  updateLLMQTestParameters p size threshold .LLMQ_DEVNET

/-- The shape of the `<size>:<threshold>` options: parse option `cmd_param` and resize the
entry of `llmqType`, naming it `llmq_name` in errors. -/
def llmqSizeFromArgs (args : ArgsManager) (cmd_param llmq_name : String) (llmqType : LLMQType)
    (p : CChainParams) : Except Fault CChainParams := do
  match ← int32ParamsFromArgs H args cmd_param
      (llmq_name ++ " parameters malformed, expecting <size>:<threshold>")
      ["Invalid " ++ llmq_name ++ " size", "Invalid " ++ llmq_name ++ " threshold"] with
  | some [size, threshold] => updateLLMQTestParameters p size threshold llmqType
  | _ => pure p

/-- `CRegTestParams::UpdateLLMQTestParametersFromArgs`, for `LLMQ_TEST` or
`LLMQ_TEST_INSTANTSEND` only. -/
def updateLLMQTestParametersFromArgs (args : ArgsManager) (llmqType : LLMQType)
    (p : CChainParams) : Except Fault CChainParams :=
  if llmqType = .LLMQ_TEST then llmqSizeFromArgs H args "-llmqtestparams" "LLMQ_TEST" llmqType p
  else if llmqType = .LLMQ_TEST_INSTANTSEND then
    llmqSizeFromArgs H args "-llmqtestinstantsendparams" "LLMQ_TEST_INSTANTSEND" llmqType p
  else throw .assertFailed

/-- `CDevNetParams::UpdateLLMQDevnetParametersFromArgs`. -/
def updateLLMQDevnetParametersFromArgs (args : ArgsManager) (p : CChainParams) :
    Except Fault CChainParams :=
  llmqSizeFromArgs H args "-llmqdevnetparams" "LLMQ_DEVNET" .LLMQ_DEVNET p

/-! ### Quorum role overrides -/

/-- What a role override demands of the rotation of the catalog entries carrying the name it
is given. -/
inductive RotationRule where
  /-- Nothing. -/
  | any
  /-- `useRotation` must equal `rot`; otherwise throw `what`. -/
  | required (rot : Bool) (what : String)

/-- One iteration of the loop of a role override, over the catalog entry `e`. -/
def llmqTypeStep (strLLMQType : String) (rule : RotationRule) (llmqType : LLMQType)
    (e : LLMQType × LLMQParams) : Except Fault LLMQType :=
  if e.2.name = strLLMQType then
    match rule with
    | .any => pure e.2.type
    | .required rot what => if e.2.useRotation ≠ rot then throw (.runtimeError what)
      else pure e.2.type
  else pure llmqType

/-- The loop of a role override: the type of the last catalog entry named `strLLMQType`, or
`LLMQ_NONE`, checking each entry of that name against the rule. -/
def llmqTypeByName (llmqs : Catalog) (strLLMQType : String) (rule : RotationRule) :
    Except Fault LLMQType :=
  llmqs.entries.foldlM (llmqTypeStep strLLMQType rule) .LLMQ_NONE

/-- The shape of the role overrides: when `opt` is set in `args`, read its value from `gArgs`
(defaulting to the name of the role's current record, which must exist), find the type of that
name, and designate it for the role. -/
def updateLLMQTypeFromArgs (gArgs args : ArgsManager) (opt : String) (role : LLMQRole)
    (rule : RotationRule) (invalidType : String) (p : CChainParams) : Except Fault CChainParams :=
  if !args.isArgSet opt then pure p
  else match p.getLLMQ (p.consensus.role role) with
    | none => throw .assertFailed
    | some q => do
      let llmqType ← llmqTypeByName p.consensus.llmqs (gArgs.getArg opt q.name) rule
      if llmqType = .LLMQ_NONE then throw (.runtimeError invalidType)
      pure { p with consensus := p.consensus.setRole role llmqType }

/-- `CDevNetParams::UpdateDevnetLLMQChainLocksFromArgs`. -/
def updateDevnetLLMQChainLocksFromArgs (gArgs args : ArgsManager) (p : CChainParams) :
    Except Fault CChainParams :=
  updateLLMQTypeFromArgs gArgs args "-llmqchainlocks" .chainLocks
    (.required false "LLMQ type specified for -llmqchainlocks must NOT use rotation")
    "Invalid LLMQ type specified for -llmqchainlocks." p

/-- `CDevNetParams::UpdateDevnetLLMQInstantSendDIP0024FromArgs`. -/
def updateDevnetLLMQInstantSendDIP0024FromArgs (gArgs args : ArgsManager) (p : CChainParams) :
    Except Fault CChainParams :=
  updateLLMQTypeFromArgs gArgs args "-llmqinstantsenddip0024" .dip0024InstantSend
    (.required true "LLMQ type specified for -llmqinstantsenddip0024 must use rotation")
    "Invalid LLMQ type specified for -llmqinstantsenddip0024." p

/-- `CDevNetParams::UpdateDevnetLLMQPlatformFromArgs`. -/
def updateDevnetLLMQPlatformFromArgs (gArgs args : ArgsManager) (p : CChainParams) :
    Except Fault CChainParams :=
  updateLLMQTypeFromArgs gArgs args "-llmqplatform" .platform .any
    "Invalid LLMQ type specified for -llmqplatform." p

/-- `CDevNetParams::UpdateDevnetLLMQMnhfFromArgs`. -/
def updateDevnetLLMQMnhfFromArgs (gArgs args : ArgsManager) (p : CChainParams) :
    Except Fault CChainParams :=
  updateLLMQTypeFromArgs gArgs args "-llmqmnhf" .mnhf .any
    "Invalid LLMQ type specified for -llmqmnhf." p

/-- `CRegTestParams::UpdateLLMQInstantSendDIP0024FromArgs`. -/
def updateLLMQInstantSendDIP0024FromArgs (gArgs args : ArgsManager) (p : CChainParams) :
    Except Fault CChainParams :=
  updateLLMQTypeFromArgs gArgs args "-llmqtestinstantsenddip0024" .dip0024InstantSend .any
    "Invalid LLMQ type specified for -llmqtestinstantsenddip0024." p

/-! ### Devnet difficulty, subsidy and spacing -/

/-- `CDevNetParams::UpdateDevnetSubsidyAndDiffParametersFromArgs`: checks `args`, reads
`gArgs`. -/
def updateDevnetSubsidyAndDiffParametersFromArgs (gArgs args : ArgsManager) (p : CChainParams) :
    CChainParams :=
  if !args.isArgSet "-minimumdifficultyblocks" && !args.isArgSet "-highsubsidyblocks" &&
      !args.isArgSet "-highsubsidyfactor" then p
  else
    let c := p.consensus
    { p with consensus := { c with
        nMinimumDifficultyBlocks :=
          int32Of (gArgs.getIntArg "-minimumdifficultyblocks" c.nMinimumDifficultyBlocks),
        nHighSubsidyBlocks := int32Of (gArgs.getIntArg "-highsubsidyblocks" c.nHighSubsidyBlocks),
        nHighSubsidyFactor :=
          int32Of (gArgs.getIntArg "-highsubsidyfactor" c.nHighSubsidyFactor) } }

/-- `CDevNetParams::UpdateDevnetPowTargetSpacingFromArgs`: checks `args`, reads `gArgs`. -/
def updateDevnetPowTargetSpacingFromArgs (gArgs args : ArgsManager) (p : CChainParams) :
    Except Fault CChainParams :=
  if !args.isArgSet "-powtargetspacing" then pure p
  else do
    let strPowTargetSpacing := gArgs.getArg "-powtargetspacing" ""
    let powTargetSpacing ← match H.parseInt64 strPowTargetSpacing with
      | some x => pure x
      | none => throw (invalid "Invalid parsing of powTargetSpacing" strPowTargetSpacing)
    if powTargetSpacing < 1 then
      throw (invalid "Invalid value of powTargetSpacing" strPowTargetSpacing)
    pure { p with consensus := { p.consensus with nPowTargetSpacing := powTargetSpacing } }

end Maximus
