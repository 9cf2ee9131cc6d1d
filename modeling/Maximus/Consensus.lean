import Maximus.Args
import Mathlib.Data.Int.Order.Basic

/-!
# The consensus parameter record

The part of `CChainParams` and `Consensus::Params` that the modelled functions of
`chainparams.cpp` read or write: the version-bits deployment table, the LLMQ catalog, the four
quorum role designations, the heights the regtest and devnet overrides set, and the network
name.

Three families of declarations come from headers outside this excerpt and enter as
parameters:

* `LLMQDefs`, the quorum parameter records `Consensus::llmq_*` of `llmq/params.h`.  Only two
  facts about them are assumed, as fields: a record `llmq_X_Y` has the `X` members its name
  states, and its DKG mining window lies inside its DKG interval;
* `Headers`, the member initialisers of `Consensus::BIP9Deployment` and `Consensus::Params`,
  the names of `VersionBitsDeploymentInfo`, the string helpers
  `SplitString`, `ParseInt64`, `ParseInt32`, and `VERSIONBITS_NUM_BITS`;
* the numeric values of `Consensus::LLMQType`, which fix only the order in which the
  catalog, a `std::map` keyed by them, is iterated (`LLMQType.all`).

`sampleLLMQDefs` is one table satisfying the two assumptions, and `sampleHeaders` one set of
headers, whose string helpers split on the separator and parse signed decimal integers of the
width named; theorems with hypotheses on them are instantiated on these.
-/

namespace Maximus

/-! ### Quorum types and records -/

/-- `Consensus::LLMQType`, in the order of its values. -/
inductive LLMQType where
  | LLMQ_50_60 | LLMQ_400_60 | LLMQ_400_85 | LLMQ_100_67 | LLMQ_60_75
  | LLMQ_TEST | LLMQ_DEVNET | LLMQ_TEST_V17 | LLMQ_TEST_DIP0024 | LLMQ_TEST_INSTANTSEND
  | LLMQ_DEVNET_DIP0024 | LLMQ_TEST_PLATFORM | LLMQ_DEVNET_PLATFORM
  | LLMQ_NONE
  deriving DecidableEq, Repr

namespace LLMQType

/-- Every quorum type, in iteration order. -/
def all : List LLMQType :=
  [LLMQ_50_60, LLMQ_400_60, LLMQ_400_85, LLMQ_100_67, LLMQ_60_75, LLMQ_TEST, LLMQ_DEVNET,
    LLMQ_TEST_V17, LLMQ_TEST_DIP0024, LLMQ_TEST_INSTANTSEND, LLMQ_DEVNET_DIP0024,
    LLMQ_TEST_PLATFORM, LLMQ_DEVNET_PLATFORM, LLMQ_NONE]

theorem mem_all (t : LLMQType) : t ∈ all := by cases t <;> decide

theorem nodup_all : all.Nodup := by decide

end LLMQType

/-- `Consensus::LLMQParams`, with the fields this file reads or writes. -/
structure LLMQParams where
  type : LLMQType
  name : String
  useRotation : Bool
  size : Int
  minSize : Int
  threshold : Int
  dkgInterval : Int
  dkgMiningWindowStart : Int
  dkgMiningWindowEnd : Int
  dkgBadVotesThreshold : Int
  deriving DecidableEq, Repr

/-- The records `Consensus::llmq_*` that `chainparams.cpp` stores in a catalog. -/
inductive LLMQRecord where
  | llmq_test | llmq_test_instantsend | llmq_test_v17 | llmq_test_dip0024 | llmq_test_platform
  | llmq_devnet | llmq_devnet_dip0024 | llmq_devnet_platform
  | llmq_50_60 | llmq_60_75 | llmq_400_60 | llmq_400_85 | llmq_100_67
  | llmq_10_60 | llmq_10_75 | llmq_20_60 | llmq_20_75 | llmq_20_85 | llmq_40_60 | llmq_40_85
  deriving DecidableEq, Repr

/-- The member count a record's name states, `X` for `llmq_X_Y`. -/
def LLMQRecord.memberCount : LLMQRecord → Option Int
  | .llmq_50_60 => some 50 | .llmq_60_75 => some 60 | .llmq_400_60 => some 400
  | .llmq_400_85 => some 400 | .llmq_100_67 => some 100 | .llmq_10_60 => some 10
  | .llmq_10_75 => some 10 | .llmq_20_60 => some 20 | .llmq_20_75 => some 20
  | .llmq_20_85 => some 20 | .llmq_40_60 => some 40 | .llmq_40_85 => some 40
  | _ => none

/-- The DKG mining window of a record lies inside its DKG interval. -/
def LLMQParams.WindowInside (q : LLMQParams) : Prop :=
  0 ≤ q.dkgMiningWindowStart ∧ q.dkgMiningWindowStart ≤ q.dkgMiningWindowEnd ∧
    q.dkgMiningWindowEnd < q.dkgInterval

instance (q : LLMQParams) : Decidable q.WindowInside := by
  unfold LLMQParams.WindowInside; infer_instance

/-- The quorum parameter records of `llmq/params.h`. -/
structure LLMQDefs where
  /-- The record `Consensus::r`. -/
  params : LLMQRecord → LLMQParams
  /-- A record `llmq_X_Y` has `X` members. -/
  size_eq : ∀ r n, r.memberCount = some n → (params r).size = n
  /-- Every record's DKG mining window lies inside its DKG interval. -/
  window_inside : ∀ r, (params r).WindowInside

instance : CoeFun LLMQDefs (fun _ => LLMQRecord → LLMQParams) := ⟨LLMQDefs.params⟩

/-- A record of `sampleLLMQDefs`, from its type, name, rotation, size, thresholds, DKG
interval and mining window. -/
def sampleRecord (t : LLMQType) (name : String) (rot : Bool) (size minSize threshold : Int)
    (interval windowStart windowEnd : Int) : LLMQParams :=
  ⟨t, name, rot, size, minSize, threshold, interval, windowStart, windowEnd, minSize⟩

/-- One table of records satisfying the assumptions of `LLMQDefs`. -/
def sampleParams : LLMQRecord → LLMQParams
  | .llmq_test => sampleRecord .LLMQ_TEST "llmq_test" false 3 2 2 24 10 18
  | .llmq_test_instantsend =>
    sampleRecord .LLMQ_TEST_INSTANTSEND "llmq_test_instantsend" false 3 2 2 24 10 18
  | .llmq_test_v17 => sampleRecord .LLMQ_TEST_V17 "llmq_test_v17" false 3 2 2 24 10 18
  | .llmq_test_dip0024 => sampleRecord .LLMQ_TEST_DIP0024 "llmq_test_dip0024" true 4 4 2 24 12 20
  | .llmq_test_platform =>
    sampleRecord .LLMQ_TEST_PLATFORM "llmq_test_platform" false 3 2 2 24 10 18
  | .llmq_devnet => sampleRecord .LLMQ_DEVNET "llmq_devnet" false 12 7 6 24 10 18
  | .llmq_devnet_dip0024 =>
    sampleRecord .LLMQ_DEVNET_DIP0024 "llmq_devnet_dip0024" true 8 6 4 48 12 20
  | .llmq_devnet_platform =>
    sampleRecord .LLMQ_DEVNET_PLATFORM "llmq_devnet_platform" false 12 9 8 24 10 18
  | .llmq_50_60 => sampleRecord .LLMQ_50_60 "llmq_50_60" false 50 40 30 24 10 18
  | .llmq_60_75 => sampleRecord .LLMQ_60_75 "llmq_60_75" true 60 50 45 288 42 50
  | .llmq_400_60 => sampleRecord .LLMQ_400_60 "llmq_400_60" false 400 300 240 288 20 28
  | .llmq_400_85 => sampleRecord .LLMQ_400_85 "llmq_400_85" false 400 350 340 576 20 48
  | .llmq_100_67 => sampleRecord .LLMQ_100_67 "llmq_100_67" false 100 80 67 24 10 18
  | .llmq_10_60 => sampleRecord .LLMQ_50_60 "llmq_10_60" false 10 8 6 24 10 18
  | .llmq_10_75 => sampleRecord .LLMQ_60_75 "llmq_10_75" true 10 8 8 288 42 50
  | .llmq_20_60 => sampleRecord .LLMQ_400_60 "llmq_20_60" false 20 16 12 288 20 28
  | .llmq_20_75 => sampleRecord .LLMQ_60_75 "llmq_20_75" true 20 16 15 288 42 50
  | .llmq_20_85 => sampleRecord .LLMQ_400_85 "llmq_20_85" false 20 18 17 576 20 48
  | .llmq_40_60 => sampleRecord .LLMQ_400_60 "llmq_40_60" false 40 32 24 288 20 28
  | .llmq_40_85 => sampleRecord .LLMQ_400_85 "llmq_40_85" false 40 36 34 576 20 48

/-- The sample table. -/
def sampleLLMQDefs : LLMQDefs where
  params := sampleParams
  size_eq := by
    intro r n h
    cases r <;> simp only [LLMQRecord.memberCount, reduceCtorEq, Option.some.injEq] at h <;>
      simp [sampleParams, sampleRecord, h]
  window_inside := by intro r; cases r <;> decide

/-! ### The catalog -/

/-- `consensus.llmqs`: the record stored under each quorum type, if any. -/
abbrev Catalog := LLMQType → Option LLMQParams

namespace Catalog

/-- The catalog with no entry (a default-constructed `std::map`). -/
def empty : Catalog := fun _ => none

/-- `llmqs[t] = q`. -/
def set (c : Catalog) (t : LLMQType) (q : LLMQParams) : Catalog := Function.update c t (some q)

/-- The entries, in the order a range-for over the map visits them. -/
def entries (c : Catalog) : List (LLMQType × LLMQParams) :=
  LLMQType.all.filterMap fun t => (c t).map (t, ·)

@[simp] theorem set_same (c : Catalog) (t : LLMQType) (q : LLMQParams) : c.set t q t = some q :=
  Function.update_same _ _ _

@[simp] theorem set_ne (c : Catalog) {t t' : LLMQType} (q : LLMQParams) (h : t' ≠ t) :
    c.set t q t' = c t' :=
  Function.update_noteq h _ _

theorem set_apply (c : Catalog) (t t' : LLMQType) (q : LLMQParams) :
    c.set t q t' = if t' = t then some q else c t' := Function.update_apply _ _ _ _

@[simp] theorem set_set (c : Catalog) (t : LLMQType) (q q' : LLMQParams) :
    (c.set t q).set t q' = c.set t q' := Function.update_idem _ _ _

theorem set_comm (c : Catalog) {t t' : LLMQType} (h : t ≠ t') (q q' : LLMQParams) :
    (c.set t q).set t' q' = (c.set t' q').set t q := Function.update_comm h _ _ _

theorem mem_entries {c : Catalog} {t : LLMQType} {q : LLMQParams} :
    (t, q) ∈ c.entries ↔ c t = some q := by
  simp [entries, LLMQType.mem_all]

end Catalog

/-! ### Version-bits deployments -/

/-- `Consensus::DeploymentPos`, the slots of the deployment table. -/
inductive DeploymentPos where
  | DEPLOYMENT_TESTDUMMY | DEPLOYMENT_V20 | DEPLOYMENT_MN_RR
  deriving DecidableEq, Repr

/-- The slots in index order, `0 ≤ index < MAX_VERSION_BITS_DEPLOYMENTS`. -/
def DeploymentPos.all : List DeploymentPos := [.DEPLOYMENT_TESTDUMMY, .DEPLOYMENT_V20, .DEPLOYMENT_MN_RR]

theorem DeploymentPos.mem_all (d : DeploymentPos) : d ∈ all := by cases d <;> decide

/-- `Consensus::BIP9Deployment`. -/
structure BIP9Deployment where
  bit : Int
  nStartTime : Int
  nTimeout : Int
  nWindowSize : Int
  nThresholdStart : Int
  nThresholdMin : Int
  nFalloffCoeff : Int
  useEHF : Bool
  deriving DecidableEq, Repr

/-- A conditional choice of deployments, field by field. -/
theorem BIP9Deployment.ite_eq {c : Prop} [Decidable c] (x y : BIP9Deployment) :
    (if c then x else y) =
      { bit := if c then x.bit else y.bit, nStartTime := if c then x.nStartTime else y.nStartTime
        nTimeout := if c then x.nTimeout else y.nTimeout
        nWindowSize := if c then x.nWindowSize else y.nWindowSize
        nThresholdStart := if c then x.nThresholdStart else y.nThresholdStart
        nThresholdMin := if c then x.nThresholdMin else y.nThresholdMin
        nFalloffCoeff := if c then x.nFalloffCoeff else y.nFalloffCoeff
        useEHF := if c then x.useEHF else y.useEHF } := by
  split <;> rfl

/-- `Consensus::BIP9Deployment::NO_TIMEOUT`, the largest `int64_t`. -/
def NO_TIMEOUT : Int := 2 ^ 63 - 1

/-- The declarations of headers outside this excerpt that the file uses, other than the
quorum records. -/
structure Headers where
  /-- A default-constructed `Consensus::BIP9Deployment`. -/
  deployment : BIP9Deployment
  /-- The initial `consensus.nMinimumDifficultyBlocks`. -/
  nMinimumDifficultyBlocks : Int
  /-- The initial `consensus.nHighSubsidyBlocks`. -/
  nHighSubsidyBlocks : Int
  /-- The initial `consensus.nHighSubsidyFactor`. -/
  nHighSubsidyFactor : Int
  /-- `VersionBitsDeploymentInfo[pos].name`. -/
  deploymentName : DeploymentPos → String
  /-- `SplitString(str, sep)`. -/
  splitString : String → Char → List String
  /-- `ParseInt64(str, &out)`: the value, or `none` when it returns false. -/
  parseInt64 : String → Option Int
  /-- `ParseInt32(str, &out)`. -/
  parseInt32 : String → Option Int
  /-- `VERSIONBITS_NUM_BITS` of versionbits.h. -/
  VERSIONBITS_NUM_BITS : Int

/-- The pieces of a list of characters between the occurrences of `sep`; an empty list is one
empty piece, as `SplitString` gives. -/
def splitChars (sep : Char) : List Char → List (List Char)
  | [] => [[]]
  | x :: xs =>
    let rest := splitChars sep xs
    if x = sep then [] :: rest else (x :: rest.headD []) :: rest.tail

/-- The value of a non-empty string of decimal digits. -/
def decimalValue (ds : List Char) : Option Nat :=
  if ds ≠ [] ∧ ds.all Char.isDigit = true then
    some (ds.foldl (fun n d => 10 * n + (d.toNat - '0'.toNat)) 0)
  else none

/-- A `ParseIntegral` for a signed type of width `bits`: decimal digits after an optional `-`
or `+`, and a value the type holds. -/
def parseIntegral (bits : Nat) (s : String) : Option Int :=
  let v : Option Int := match s.toList with
    | '-' :: ds => (decimalValue ds).map fun n => -(n : Int)
    | '+' :: ds => (decimalValue ds).map fun n => (n : Int)
    | ds => (decimalValue ds).map fun n => (n : Int)
  v.filter fun x => decide (-(2 ^ (bits - 1) : Int) ≤ x ∧ x < 2 ^ (bits - 1))

/-- One instance of `Headers`. -/
def sampleHeaders : Headers where
  deployment := ⟨28, -2, -2, 0, 0, 0, 0, false⟩
  nMinimumDifficultyBlocks := 0
  nHighSubsidyBlocks := 0
  nHighSubsidyFactor := 1
  deploymentName
    | .DEPLOYMENT_TESTDUMMY => "testdummy"
    | .DEPLOYMENT_V20 => "v20"
    | .DEPLOYMENT_MN_RR => "mn_rr"
  splitString s c := (splitChars c s.toList).map String.mk
  parseInt64 := parseIntegral 64
  parseInt32 := parseIntegral 32
  VERSIONBITS_NUM_BITS := 29

/-! ### The parameter record -/

/-- The four quorum roles a profile designates a quorum type for. -/
inductive LLMQRole where
  | chainLocks | dip0024InstantSend | platform | mnhf
  deriving DecidableEq, Repr

/-- `Consensus::Params`, with the fields this file reads or writes. -/
structure ConsensusParams where
  vDeployments : DeploymentPos → BIP9Deployment
  llmqs : Catalog
  llmqTypeChainLocks : LLMQType
  llmqTypeDIP0024InstantSend : LLMQType
  llmqTypePlatform : LLMQType
  llmqTypeMnhf : LLMQType
  DIP0003Height : Int
  DIP0003EnforcementHeight : Int
  DIP0008Height : Int
  nMasternodePaymentsStartBlock : Int
  nBudgetPaymentsStartBlock : Int
  nSuperblockStartBlock : Int
  nMinimumDifficultyBlocks : Int
  nHighSubsidyBlocks : Int
  nHighSubsidyFactor : Int
  nPowTargetSpacing : Int

namespace ConsensusParams

/-- The quorum type designated for a role. -/
def role (c : ConsensusParams) : LLMQRole → LLMQType
  | .chainLocks => c.llmqTypeChainLocks
  | .dip0024InstantSend => c.llmqTypeDIP0024InstantSend
  | .platform => c.llmqTypePlatform
  | .mnhf => c.llmqTypeMnhf

/-- Designate a quorum type for a role (`UpdateDevnetLLMQChainLocks` and its siblings). -/
def setRole (c : ConsensusParams) : LLMQRole → LLMQType → ConsensusParams
  | .chainLocks, t => { c with llmqTypeChainLocks := t }
  | .dip0024InstantSend, t => { c with llmqTypeDIP0024InstantSend := t }
  | .platform, t => { c with llmqTypePlatform := t }
  | .mnhf, t => { c with llmqTypeMnhf := t }

@[simp] theorem role_setRole (c : ConsensusParams) (r : LLMQRole) (t : LLMQType) :
    (c.setRole r t).role r = t := by cases r <;> rfl

theorem role_setRole_ne (c : ConsensusParams) {r r' : LLMQRole} (t : LLMQType) (h : r' ≠ r) :
    (c.setRole r t).role r' = c.role r' := by cases r <;> cases r' <;> first | rfl | exact absurd rfl h

@[simp] theorem setRole_llmqs (c : ConsensusParams) (r : LLMQRole) (t : LLMQType) :
    (c.setRole r t).llmqs = c.llmqs := by cases r <;> rfl

end ConsensusParams

/-- `CChainParams`, with the fields this file reads or writes. -/
structure CChainParams where
  /-- `strNetworkID`, returned by `NetworkIDString()`. -/
  strNetworkID : String
  consensus : ConsensusParams
  nPruneAfterHeight : Int

/-- `CBaseChainParams::MAIN`, `TESTNET`, `DEVNET` and `REGTEST`. -/
def MAIN : String := "main"
def TESTNET : String := "test"
def DEVNET : String := "devnet"
def REGTEST : String := "regtest"

namespace CChainParams

/-- `GetLLMQ(llmqType)`: the first catalog entry whose record has that type. -/
def getLLMQ (p : CChainParams) (llmqType : LLMQType) : Option LLMQParams :=
  (p.consensus.llmqs.entries.find? fun e => e.2.type = llmqType).map Prod.snd

/-- Replace the catalog. -/
def setLLMQs (p : CChainParams) (llmqs : Catalog) : CChainParams :=
  { p with consensus := { p.consensus with llmqs := llmqs } }

@[simp] theorem setLLMQs_llmqs (p : CChainParams) (c : Catalog) :
    (p.setLLMQs c).consensus.llmqs = c := rfl

@[simp] theorem setLLMQs_strNetworkID (p : CChainParams) (c : Catalog) :
    (p.setLLMQs c).strNetworkID = p.strNetworkID := rfl

@[simp] theorem setLLMQs_setLLMQs (p : CChainParams) (c c' : Catalog) :
    (p.setLLMQs c).setLLMQs c' = p.setLLMQs c' := rfl

@[simp] theorem setLLMQs_self (p : CChainParams) : p.setLLMQs p.consensus.llmqs = p := rfl

end CChainParams

end Maximus
