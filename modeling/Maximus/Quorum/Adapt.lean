import Maximus.Profiles

/-!
# The quorum adaptation engine

`UpdateLLMQParams(totalMnCount, height)` is called at each new block with the active
masternode count.  On main and test it replaces the records of the four adapted quorum types
`LLMQ_50_60`, `LLMQ_60_75`, `LLMQ_400_60` and `LLMQ_400_85` by those of the tier the count
falls in, unless a guard defers the change.  Its state is the catalog of the selected
parameters and two file-level statics, `lastCheckMnCount` and `lastCheckHeight`; `Node` holds
all three, and `updateLLMQParams` is one call.

The guard re-derives the tiers when the height is past the last checked one, the count has
changed, and no catalog entry is inside its DKG mining window (`isLLMQsMiningPhase`), or when
nothing has been checked yet (`lastCheckHeight = -1`).  When the guard fails the call still
downgrades `LLMQ_60_75` to `llmq_10_75` if the count is below 80.

`tierOf` states the tier table by count bands, and `adaptLLMQs_eq` proves that the sequence of
catalog writes in the source installs exactly it.  `updateLLMQParams_of_guard`,
`updateLLMQParams_of_skip_lt` and `updateLLMQParams_of_skip_ge` say what one call does in each
branch; later proofs use these and never unfold the step.
-/

namespace Maximus

variable (D : LLMQDefs)

/-! ### The mining phase -/

/-- `IsMiningPhase(params, nHeight)`.  C++ `%` on `int` truncates toward zero. -/
def isMiningPhase (params : LLMQParams) (nHeight : Int) : Bool :=
  let phaseIndex := nHeight.tmod params.dkgInterval
  decide (phaseIndex ≥ params.dkgMiningWindowStart ∧ phaseIndex ≤ params.dkgMiningWindowEnd)

/-- `IsLLMQsMiningPhase(nHeight)`, over the catalog of the selected parameters. -/
def isLLMQsMiningPhase (llmqs : Catalog) (nHeight : Int) : Bool :=
  llmqs.entries.any fun e => isMiningPhase e.2 nHeight

theorem isLLMQsMiningPhase_iff {llmqs : Catalog} {nHeight : Int} :
    isLLMQsMiningPhase llmqs nHeight = true ↔
      ∃ t q, llmqs t = some q ∧ isMiningPhase q nHeight = true := by
  simp [isLLMQsMiningPhase, List.any_eq_true, Catalog.mem_entries]

/-- The start of a record's mining window, moved up by one interval, is inside the window. -/
theorem isMiningPhase_windowStart {q : LLMQParams} (h : q.WindowInside) :
    isMiningPhase q (q.dkgMiningWindowStart + q.dkgInterval) = true := by
  obtain ⟨h0, hse, hei⟩ := h
  have hmod : (q.dkgMiningWindowStart + q.dkgInterval).tmod q.dkgInterval =
      q.dkgMiningWindowStart := by
    rw [Int.tmod_eq_emod (by omega) (by omega), Int.add_emod_self, Int.emod_eq_of_lt h0 (by omega)]
  simp [isMiningPhase, hmod, hse]

/-! ### Tiers -/

/-- The records installed for the four adapted quorum types. -/
structure Tier where
  llmq50_60 : LLMQRecord
  llmq60_75 : LLMQRecord
  llmq400_60 : LLMQRecord
  llmq400_85 : LLMQRecord
  deriving DecidableEq, Repr

/-- The four adapted quorum types. -/
def adaptedTypes : List LLMQType := [.LLMQ_50_60, .LLMQ_60_75, .LLMQ_400_60, .LLMQ_400_85]

namespace Tier

/-- The record a tier installs for a quorum type, if that type is adapted. -/
def get (t : Tier) : LLMQType → Option LLMQRecord
  | .LLMQ_50_60 => some t.llmq50_60
  | .LLMQ_60_75 => some t.llmq60_75
  | .LLMQ_400_60 => some t.llmq400_60
  | .LLMQ_400_85 => some t.llmq400_85
  | _ => none

/-- A catalog with a tier's records installed. -/
def install (t : Tier) (llmqs : Catalog) : Catalog := fun k =>
  match t.get k with
  | some r => some (D r)
  | none => llmqs k

theorem get_isSome_iff (t : Tier) (k : LLMQType) : (t.get k).isSome ↔ k ∈ adaptedTypes := by
  cases k <;> simp [get, adaptedTypes]

theorem install_of_get {t : Tier} {k : LLMQType} {r : LLMQRecord} (h : t.get k = some r)
    (llmqs : Catalog) : t.install D llmqs k = some (D r) := by
  simp [install, h]

theorem install_of_not_mem {k : LLMQType} (h : k ∉ adaptedTypes) (t : Tier) (llmqs : Catalog) :
    t.install D llmqs k = llmqs k := by
  have : t.get k = none := by simpa [Option.isNone_iff_eq_none] using mt (get_isSome_iff t k).1 h
  simp [install, this]

@[simp] theorem install_install (t t' : Tier) (llmqs : Catalog) :
    t.install D (t'.install D llmqs) = t.install D llmqs := by
  funext k; cases k <;> rfl

@[simp] theorem install_set_60_75 (t : Tier) (llmqs : Catalog) (r : LLMQRecord) :
    (t.install D llmqs).set .LLMQ_60_75 (D r) = { t with llmq60_75 := r }.install D llmqs := by
  funext k; cases k <;> rfl

end Tier

/-- The tier table: five bands of the masternode count, the first ending at 80 on test and at
100 elsewhere, and the top band splitting `LLMQ_60_75` at 2000. -/
def tierOf (isTestNet : Bool) (totalMnCount : Nat) : Tier :=
  if totalMnCount < (if isTestNet then 80 else 100) then
    ⟨.llmq_10_60, .llmq_10_75, .llmq_20_60, .llmq_20_85⟩
  else if totalMnCount < 200 then ⟨.llmq_50_60, .llmq_10_75, .llmq_40_60, .llmq_40_85⟩
  else if totalMnCount < 600 then ⟨.llmq_50_60, .llmq_20_75, .llmq_40_60, .llmq_40_85⟩
  else if totalMnCount ≤ 2000 then ⟨.llmq_50_60, .llmq_20_75, .llmq_400_60, .llmq_400_85⟩
  else ⟨.llmq_50_60, .llmq_60_75, .llmq_400_60, .llmq_400_85⟩

/-- Below its profile's first boundary, a count selects `llmq_10_75` for `LLMQ_60_75`. -/
theorem tierOf_llmq60_75_of_lt (isTestNet : Bool) {c : Nat} (h : c < 80) :
    (tierOf isTestNet c).llmq60_75 = .llmq_10_75 := by
  have h' : c < (if isTestNet then 80 else 100) := by split <;> omega
  rw [tierOf, if_pos h']

/-! ### One call -/

/-- The catalog writes of the update branch of `UpdateLLMQParams`, as the source makes them. -/
def adaptLLMQs (isTestNet : Bool) (totalMnCount : Nat) (llmqs : Catalog) : Catalog :=
  if (totalMnCount < 80 && isTestNet) || (totalMnCount < 100 && !isTestNet) then
    (((llmqs.set .LLMQ_50_60 (D .llmq_10_60)).set .LLMQ_60_75 (D .llmq_10_75)).set
      .LLMQ_400_60 (D .llmq_20_60)).set .LLMQ_400_85 (D .llmq_20_85)
  else if totalMnCount < 200 then
    (((llmqs.set .LLMQ_50_60 (D .llmq_50_60)).set .LLMQ_60_75 (D .llmq_10_75)).set
      .LLMQ_400_60 (D .llmq_40_60)).set .LLMQ_400_85 (D .llmq_40_85)
  else if totalMnCount < 600 then
    (((llmqs.set .LLMQ_50_60 (D .llmq_50_60)).set .LLMQ_60_75 (D .llmq_20_75)).set
      .LLMQ_400_60 (D .llmq_40_60)).set .LLMQ_400_85 (D .llmq_40_85)
  else
    let llmqs := (((llmqs.set .LLMQ_50_60 (D .llmq_50_60)).set .LLMQ_400_60 (D .llmq_400_60)).set
      .LLMQ_400_85 (D .llmq_400_85)).set .LLMQ_60_75 (D .llmq_20_75)
    if totalMnCount > 2000 then llmqs.set .LLMQ_60_75 (D .llmq_60_75) else llmqs

/-- The source's writes install the tier table. -/
theorem adaptLLMQs_eq (isTestNet : Bool) (totalMnCount : Nat) (llmqs : Catalog) :
    adaptLLMQs D isTestNet totalMnCount llmqs = (tierOf isTestNet totalMnCount).install D llmqs := by
  funext k
  unfold adaptLLMQs tierOf
  cases isTestNet <;> simp only [Bool.and_false, Bool.and_true, Bool.not_false, Bool.not_true,
    Bool.false_or, Bool.or_false, decide_eq_true_eq, Bool.false_eq_true, ↓reduceIte] <;>
    split_ifs <;> first | omega | (cases k <;> rfl)

/-- The process state of the adaptation engine: the selected parameters (`globalChainParams`)
and the statics `lastCheckMnCount` and `lastCheckHeight`. -/
structure Node where
  params : CChainParams
  lastCheckMnCount : Nat
  lastCheckHeight : Int

/-- The state right after the parameters `p` are selected: the statics hold their initial
values. -/
def Node.fresh (p : CChainParams) : Node := ⟨p, 0, -1⟩

/-- The guard of the update branch. -/
def Node.Guard (n : Node) (totalMnCount : Nat) (height : Int) : Prop :=
  (n.lastCheckHeight < height ∧ n.lastCheckMnCount ≠ totalMnCount ∧
    isLLMQsMiningPhase n.params.consensus.llmqs height = false) ∨ n.lastCheckHeight = -1

instance (n : Node) (c : Nat) (h : Int) : Decidable (n.Guard c h) := by
  unfold Node.Guard; infer_instance

/-- `CChainParams::UpdateLLMQParams(totalMnCount, height)`, called on the selected parameters
(`this` is `Params()`). -/
def updateLLMQParams (n : Node) (totalMnCount : Nat) (height : Int) : Node :=
  if n.params.strNetworkID = DEVNET ∨ n.params.strNetworkID = REGTEST then n
  else if n.Guard totalMnCount height then
    { params := n.params.setLLMQs (adaptLLMQs D (n.params.strNetworkID = "test") totalMnCount
        n.params.consensus.llmqs)
      lastCheckMnCount := totalMnCount
      lastCheckHeight := height }
  else if totalMnCount < 80 then
    { n with params := n.params.setLLMQs (n.params.consensus.llmqs.set .LLMQ_60_75 (D .llmq_10_75)) }
  else n

/-- A sequence of calls `(totalMnCount, height)`. -/
def runLLMQ (n : Node) (calls : List (Nat × Int)) : Node :=
  calls.foldl (fun n x => updateLLMQParams D n x.1 x.2) n

@[simp] theorem runLLMQ_cons (n : Node) (x : Nat × Int) (calls : List (Nat × Int)) :
    runLLMQ D n (x :: calls) = runLLMQ D (updateLLMQParams D n x.1 x.2) calls := rfl

/-- The profiles that adapt: neither devnet nor regtest. -/
def CChainParams.Adaptive (p : CChainParams) : Prop := p.strNetworkID ≠ DEVNET ∧ p.strNetworkID ≠ REGTEST

/-- Whether the profile is test, by the comparison `UpdateLLMQParams` makes. -/
def CChainParams.isTestNet (p : CChainParams) : Bool := p.strNetworkID = "test"

theorem CMainParams_adaptive (H : Headers) : (CMainParams H D).Adaptive :=
  show MAIN ≠ DEVNET ∧ MAIN ≠ REGTEST by decide

theorem CTestNetParams_adaptive (H : Headers) : (CTestNetParams H D).Adaptive :=
  show TESTNET ≠ DEVNET ∧ TESTNET ≠ REGTEST by decide

@[simp] theorem CChainParams.adaptive_setLLMQs (p : CChainParams) (c : Catalog) :
    (p.setLLMQs c).Adaptive ↔ p.Adaptive := Iff.rfl

@[simp] theorem CChainParams.isTestNet_setLLMQs (p : CChainParams) (c : Catalog) :
    (p.setLLMQs c).isTestNet = p.isTestNet := rfl

section Step

variable {D} {n : Node} {c : Nat} {h : Int}

theorem updateLLMQParams_of_not_adaptive (hn : ¬ n.params.Adaptive) :
    updateLLMQParams D n c h = n := by
  rw [updateLLMQParams, if_pos]
  by_contra h
  exact hn ⟨fun e => h (.inl e), fun e => h (.inr e)⟩

theorem updateLLMQParams_of_guard (hn : n.params.Adaptive) (hg : n.Guard c h) :
    updateLLMQParams D n c h =
      ⟨n.params.setLLMQs ((tierOf n.params.isTestNet c).install D n.params.consensus.llmqs), c, h⟩ := by
  rw [updateLLMQParams, if_neg (fun h => h.elim hn.1 hn.2), if_pos hg, adaptLLMQs_eq]; rfl

theorem updateLLMQParams_of_skip_lt (hn : n.params.Adaptive) (hg : ¬ n.Guard c h) (hc : c < 80) :
    updateLLMQParams D n c h =
      { n with
        params := n.params.setLLMQs (n.params.consensus.llmqs.set .LLMQ_60_75 (D .llmq_10_75)) } := by
  rw [updateLLMQParams, if_neg (fun h => h.elim hn.1 hn.2), if_neg hg, if_pos hc]

theorem updateLLMQParams_of_skip_ge (hn : n.params.Adaptive) (hg : ¬ n.Guard c h) (hc : 80 ≤ c) :
    updateLLMQParams D n c h = n := by
  rw [updateLLMQParams, if_neg (fun h => h.elim hn.1 hn.2), if_neg hg, if_neg (by omega)]

end Step

end Maximus
