import Maximus.Profiles

/-!
# Masternode activation by version bit

`CChainParams::IsValidMNActivation(nBit, timePast)` scans the deployment table in index order
for a deployment carrying `nBit`.  A deployment whose time window excludes `timePast` is passed
over with `continue`, so a bit whose only deployment is out of its window reaches the closing
"unknown bit" answer, `true`.

* `isValidMNActivation_iff` : on a table with distinct bits, the answer for a bit the
  assertion admits is `true` exactly when every deployment carrying the bit whose window
  contains the time uses EHF.
* `mnrr_after_timeout_accepted` : on main, `MN_RR` carries bit 10 and times out at 1740787200;
  one second later the bit is accepted.
-/

namespace Maximus

variable (H : Headers)

/-- The loop of `IsValidMNActivation` over the slots `indices`; `true` once they are
exhausted, the "unknown bit" answer. -/
def scanMNActivation (vDeployments : DeploymentPos → BIP9Deployment) (nBit timePast : Int) :
    List DeploymentPos → Bool
  | [] => true
  | index :: rest =>
    let deployment := vDeployments index
    if deployment.bit = nBit then
      if timePast > deployment.nTimeout ∨ timePast < deployment.nStartTime then
        scanMNActivation vDeployments nBit timePast rest
      else deployment.useEHF
    else scanMNActivation vDeployments nBit timePast rest

/-- `CChainParams::IsValidMNActivation(nBit, timePast)`. -/
def isValidMNActivation (p : CChainParams) (nBit timePast : Int) : Except Fault Bool :=
  if nBit < H.VERSIONBITS_NUM_BITS then
    pure (scanMNActivation p.consensus.vDeployments nBit timePast DeploymentPos.all)
  else throw .assertFailed

/-- The deployments of the table carry distinct bits. -/
def CChainParams.BitsDistinct (p : CChainParams) : Prop :=
  (DeploymentPos.all.map fun d => (p.consensus.vDeployments d).bit).Nodup

instance (p : CChainParams) : Decidable p.BitsDistinct := by
  unfold CChainParams.BitsDistinct; infer_instance

/-- Over slots with distinct bits, the scan accepts exactly when every slot carrying the bit
whose window contains the time uses EHF. -/
theorem scanMNActivation_eq_true_iff {vDeployments : DeploymentPos → BIP9Deployment}
    {nBit timePast : Int} : ∀ {indices : List DeploymentPos},
    (indices.map fun d => (vDeployments d).bit).Nodup →
    (scanMNActivation vDeployments nBit timePast indices = true ↔
      ∀ d ∈ indices, (vDeployments d).bit = nBit → (vDeployments d).nStartTime ≤ timePast →
        timePast ≤ (vDeployments d).nTimeout → (vDeployments d).useEHF = true)
  | [], _ => by simp [scanMNActivation]
  | d :: rest, hnd => by
    rw [List.map_cons, List.nodup_cons] at hnd
    rw [List.forall_mem_cons, scanMNActivation]
    by_cases hb : (vDeployments d).bit = nBit
    · have hrest : ∀ d' ∈ rest, (vDeployments d').bit ≠ nBit := fun d' hd' e =>
        hnd.1 (List.mem_map.2 ⟨d', hd', e.trans hb.symm⟩)
      have hvac : ∀ d' ∈ rest, (vDeployments d').bit = nBit → (vDeployments d').nStartTime ≤
          timePast → timePast ≤ (vDeployments d').nTimeout → (vDeployments d').useEHF = true :=
        fun d' hd' e => absurd e (hrest d' hd')
      simp only [hb, ite_true, true_implies, and_iff_left hvac]
      split_ifs with hw
      · exact iff_of_true ((scanMNActivation_eq_true_iff hnd.2).2 hvac) (fun h1 h2 => by omega)
      · exact ⟨fun he _ _ => he, fun h => h (by omega) (by omega)⟩
    · simp only [hb, ite_false, false_implies, true_and]
      exact scanMNActivation_eq_true_iff hnd.2

/-- **Activation by bit.**  On a table with distinct bits, a bit below `VERSIONBITS_NUM_BITS`
is accepted at `timePast` exactly when every deployment carrying it whose window
`[nStartTime, nTimeout]` contains `timePast` uses EHF.  A deployment out of its window does
not refuse the bit. -/
theorem isValidMNActivation_iff {p : CChainParams} (hd : p.BitsDistinct) {nBit : Int}
    (hb : nBit < H.VERSIONBITS_NUM_BITS) (timePast : Int) :
    isValidMNActivation H p nBit timePast = .ok true ↔
      ∀ d, (p.consensus.vDeployments d).bit = nBit →
        (p.consensus.vDeployments d).nStartTime ≤ timePast →
        timePast ≤ (p.consensus.vDeployments d).nTimeout →
        (p.consensus.vDeployments d).useEHF = true := by
  rw [isValidMNActivation, if_pos hb]
  refine (Except.ok.injEq _ _).to_iff.trans ((scanMNActivation_eq_true_iff hd).trans ?_)
  simp only [DeploymentPos.mem_all, true_implies]

/-- Activation on main: `MN_RR` accepts bit 10 inside its window. -/
theorem isValidMNActivation_iff_main :
    (CMainParams sampleHeaders sampleLLMQDefs).BitsDistinct ∧
    (10 : Int) < sampleHeaders.VERSIONBITS_NUM_BITS ∧
    (isValidMNActivation sampleHeaders (CMainParams sampleHeaders sampleLLMQDefs) 10 1740787200 =
        .ok true ↔
      ∀ d, ((CMainParams sampleHeaders sampleLLMQDefs).consensus.vDeployments d).bit = 10 →
        ((CMainParams sampleHeaders sampleLLMQDefs).consensus.vDeployments d).nStartTime ≤
          1740787200 →
        1740787200 ≤ ((CMainParams sampleHeaders sampleLLMQDefs).consensus.vDeployments d).nTimeout →
        ((CMainParams sampleHeaders sampleLLMQDefs).consensus.vDeployments d).useEHF = true) :=
  ⟨by decide, by decide, isValidMNActivation_iff sampleHeaders (by decide) (by decide) 1740787200⟩

/-- On main, one second after `MN_RR` times out, bit 10, which only `MN_RR` carries, is
accepted: the out-of-window match falls through to the "unknown bit" answer. -/
theorem mnrr_after_timeout_accepted :
    (CMainParams sampleHeaders sampleLLMQDefs).BitsDistinct ∧ (0 : Int) ≤ 10 ∧
    (10 : Int) < sampleHeaders.VERSIONBITS_NUM_BITS ∧
    ((CMainParams sampleHeaders sampleLLMQDefs).consensus.vDeployments .DEPLOYMENT_MN_RR).bit =
      10 ∧
    ((CMainParams sampleHeaders sampleLLMQDefs).consensus.vDeployments .DEPLOYMENT_MN_RR).nTimeout <
      1740787201 ∧
    isValidMNActivation sampleHeaders (CMainParams sampleHeaders sampleLLMQDefs) 10 1740787201 =
      .ok true :=
  ⟨by decide, by decide, by decide, rfl, by decide, rfl⟩

end Maximus
