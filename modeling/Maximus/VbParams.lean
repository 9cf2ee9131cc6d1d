import Maximus.Profiles
import Mathlib.Tactic.IntervalCases

/-!
# The `-vbparams` parser

`CRegTestParams::UpdateActivationParametersFromArgs` reads every value of `-vbparams` in
order.  A value is split on `:` into `<deployment>:<start>:<end>`, optionally followed by
`<window>:<thresholdstart>` and then by `<thresholdmin>:<falloffcoeff>:<useehf>`; an optional
field given as `-1` counts as not given.

The specification is written from that description, apart from the loop: `VbParamsBad` says
which values are rejected, and `vbSpecStep` what a well-formed value does to the deployment
table.

* `vbparams_spec` : the loop throws exactly when some value is rejected; otherwise the table
  is the left fold of `vbSpecStep` over the values, which keeps every bit, and every
  deployment that no value names.
* `updateActivationParameter_error` : the error a rejected value throws is the malformed-value
  message, or names a numeric field that does not parse, or the deployment name not found.
-/

namespace Maximus

variable (H : Headers)

/-! ### The specification -/

/-- A value of `-vbparams` that is rejected: a field count other than 3, 5 or 8, a numeric
field (every field after the first) that `ParseInt64` rejects, or a first field that names no
deployment. -/
def VbParamsBad (strDeployment : String) : Prop :=
  let v := H.splitString strDeployment ':'
  (v.length ≠ 3 ∧ v.length ≠ 5 ∧ v.length ≠ 8) ∨
    (∃ i < v.length, 1 ≤ i ∧ H.parseInt64 (v.getD i "") = none) ∨
    ∀ j ∈ DeploymentPos.all, H.deploymentName j ≠ v.getD 0 ""

instance (s : String) : Decidable (VbParamsBad H s) := by unfold VbParamsBad; infer_instance

/-- Optional field `i` of the fields `v`, when it is given and is not `-1`. -/
def vbOptional (v : List String) (i : Nat) : Option Int :=
  if i < v.length then (H.parseInt64 (v.getD i "")).filter (· != -1) else none

/-- What a well-formed value does to the deployment table: the deployments it names get the
start and timeout it gives, and each optional field it supplies; `useEHF` becomes whether the
value given for it is positive. -/
def vbSpecStep (vDeployments : DeploymentPos → BIP9Deployment) (strDeployment : String) :
    DeploymentPos → BIP9Deployment := fun d =>
  let v := H.splitString strDeployment ':'
  let dep := vDeployments d
  if H.deploymentName d = v.getD 0 "" then
    { dep with
      nStartTime := (H.parseInt64 (v.getD 1 "")).getD dep.nStartTime
      nTimeout := (H.parseInt64 (v.getD 2 "")).getD dep.nTimeout
      nWindowSize := (vbOptional H v 3).getD dep.nWindowSize
      nThresholdStart := (vbOptional H v 4).getD dep.nThresholdStart
      nThresholdMin := (vbOptional H v 5).getD dep.nThresholdMin
      nFalloffCoeff := (vbOptional H v 6).getD dep.nFalloffCoeff
      useEHF := ((vbOptional H v 7).map fun x => decide (x > 0)).getD dep.useEHF }
  else dep

section Frame

variable {H}

@[simp] theorem vbSpecStep_bit (vDeployments : DeploymentPos → BIP9Deployment) (s : String)
    (d : DeploymentPos) : (vbSpecStep H vDeployments s d).bit = (vDeployments d).bit := by
  unfold vbSpecStep; dsimp only; split_ifs <;> rfl

theorem vbSpecStep_of_ne {vDeployments : DeploymentPos → BIP9Deployment} {s : String}
    {d : DeploymentPos} (h : H.deploymentName d ≠ (H.splitString s ':').getD 0 "") :
    vbSpecStep H vDeployments s d = vDeployments d := if_neg h

/-- The fold keeps every bit. -/
theorem foldl_vbSpecStep_bit (L : List String) (vDeployments : DeploymentPos → BIP9Deployment)
    (d : DeploymentPos) : (L.foldl (vbSpecStep H) vDeployments d).bit = (vDeployments d).bit := by
  induction L generalizing vDeployments with
  | nil => rfl
  | cons s L ih => rw [List.foldl_cons, ih, vbSpecStep_bit]

/-- The fold keeps every deployment that no value names. -/
theorem foldl_vbSpecStep_of_ne {L : List String} {d : DeploymentPos}
    (h : ∀ s ∈ L, H.deploymentName d ≠ (H.splitString s ':').getD 0 "")
    (vDeployments : DeploymentPos → BIP9Deployment) :
    L.foldl (vbSpecStep H) vDeployments d = vDeployments d := by
  induction L generalizing vDeployments with
  | nil => rfl
  | cons s L ih =>
    rw [List.foldl_cons, ih (fun s' hs' => h s' (.tail _ hs')), vbSpecStep_of_ne (h s (.head _))]

end Frame

/-! ### One value -/

/-- The parameters with the deployment table `vDeployments`. -/
def CChainParams.setDeployments (p : CChainParams)
    (vDeployments : DeploymentPos → BIP9Deployment) : CChainParams :=
  { p with consensus := { p.consensus with vDeployments := vDeployments } }

@[simp] theorem CChainParams.setDeployments_vDeployments (p : CChainParams)
    (vDeployments : DeploymentPos → BIP9Deployment) :
    (p.setDeployments vDeployments).consensus.vDeployments = vDeployments := rfl

@[simp] theorem CChainParams.setDeployments_setDeployments (p : CChainParams)
    (vDeployments vDeployments' : DeploymentPos → BIP9Deployment) :
    (p.setDeployments vDeployments).setDeployments vDeployments' =
      p.setDeployments vDeployments' := rfl

@[simp] theorem CChainParams.setDeployments_self (p : CChainParams) :
    p.setDeployments p.consensus.vDeployments = p := rfl

section One

variable {H}

/-- With distinct names, the search of the loop finds the deployment of the given name. -/
theorem find?_deploymentName (hnames : (DeploymentPos.all.map H.deploymentName).Nodup)
    {j : DeploymentPos} {name : String} (hj : H.deploymentName j = name) :
    DeploymentPos.all.find? (fun j' => decide (name = H.deploymentName j')) = some j := by
  subst hj
  have hne : ∀ d d', d ≠ d' → H.deploymentName d ≠ H.deploymentName d' := fun d d' h e =>
    h (List.inj_on_of_nodup_map hnames (DeploymentPos.mem_all d) (DeploymentPos.mem_all d') e)
  cases j <;> simp [DeploymentPos.all, List.find?, hne]

/-- The deployment the search finds has the name searched for. -/
theorem deploymentName_of_find? {name : String} {j : DeploymentPos}
    (h : DeploymentPos.all.find? (fun j' => decide (name = H.deploymentName j')) = some j) :
    H.deploymentName j = name := by
  simpa [eq_comm] using List.find?_some h

/-- A name the search does not find names no deployment. -/
theorem deploymentName_ne_of_find?_none {name : String}
    (h : DeploymentPos.all.find? (fun j => decide (name = H.deploymentName j)) = none) :
    ∀ j ∈ DeploymentPos.all, H.deploymentName j ≠ name := fun j hj e => by
  simpa [e] using List.find?_eq_none.1 h j hj

/-- A field that `UpdateVersionBitsParameters` sets only when it is not `-1`. -/
theorem getD_filter_some (c old : Int) :
    ((some c).filter (· != -1)).getD old = if c ≠ -1 then c else old := by
  by_cases hc : c = -1 <;> simp [Option.filter_some, hc]

/-- The flag `useEHF`, set only when its field is not `-1`. -/
theorem getD_map_filter_some (c : Int) (old : Bool) :
    (((some c).filter (· != -1)).map fun x => decide (x > 0)).getD old =
      if c ≠ -1 then decide (c > 0) else old := by
  by_cases hc : c = -1 <;> simp [Option.filter_some, hc]

/-- `UpdateVersionBitsParameters` of the values parsed from a well-formed value, with `-1` for
every optional field it does not supply, performs `vbSpecStep`. -/
theorem updateVersionBitsParameters_eq_spec
    (hnames : (DeploymentPos.all.map H.deploymentName).Nodup) (p : CChainParams) {s : String}
    {j : DeploymentPos} (hj : H.deploymentName j = (H.splitString s ':').getD 0 "")
    {nStartTime nTimeout nWindowSize nThresholdStart nThresholdMin nFalloffCoeff nUseEHF : Int}
    (h1 : H.parseInt64 ((H.splitString s ':').getD 1 "") = some nStartTime)
    (h2 : H.parseInt64 ((H.splitString s ':').getD 2 "") = some nTimeout)
    (h3 : vbOptional H (H.splitString s ':') 3 = (some nWindowSize).filter (· != -1))
    (h4 : vbOptional H (H.splitString s ':') 4 = (some nThresholdStart).filter (· != -1))
    (h5 : vbOptional H (H.splitString s ':') 5 = (some nThresholdMin).filter (· != -1))
    (h6 : vbOptional H (H.splitString s ':') 6 = (some nFalloffCoeff).filter (· != -1))
    (h7 : vbOptional H (H.splitString s ':') 7 = (some nUseEHF).filter (· != -1)) :
    updateVersionBitsParameters p j nStartTime nTimeout nWindowSize nThresholdStart nThresholdMin
        nFalloffCoeff nUseEHF =
      p.setDeployments (vbSpecStep H p.consensus.vDeployments s) := by
  rw [updateVersionBitsParameters_eq]
  show p.setDeployments _ = p.setDeployments _
  congr 1
  funext d
  by_cases hd : d = j
  · subst hd
    rw [Function.update_same, vbSpecStep, if_pos hj]
    simp only [h1, h2, h3, h4, h5, h6, h7, Option.getD_some, getD_filter_some,
      getD_map_filter_some]
  · rw [Function.update_noteq hd, vbSpecStep_of_ne]
    rw [← hj]
    exact fun e => hd (List.inj_on_of_nodup_map hnames (DeploymentPos.mem_all _)
      (DeploymentPos.mem_all _) e)

/-- Optional field `i` when the value has it. -/
theorem vbOptional_of_lt {v : List String} {i : Nat} (hi : i < v.length) {c : Int}
    (h : H.parseInt64 (v.getD i "") = some c) : vbOptional H v i = (some c).filter (· != -1) := by
  rw [vbOptional, if_pos hi, h]

/-- Optional field `i` when the value stops before it: the `-1` the source passes. -/
theorem vbOptional_of_le {v : List String} {i : Nat} (hi : v.length ≤ i) :
    vbOptional H v i = (some (-1)).filter (· != -1) := by
  rw [vbOptional, if_neg (by omega)]; rfl

/-- What rules a value out, read off a run that produced a value. -/
theorem not_vbParamsBad_of {s : String}
    (hlen : ¬((H.splitString s ':').length ≠ 3 ∧ (H.splitString s ':').length ≠ 5 ∧
      (H.splitString s ':').length ≠ 8))
    (hparse : ∀ i < (H.splitString s ':').length, 1 ≤ i →
      H.parseInt64 ((H.splitString s ':').getD i "") ≠ none)
    {j : DeploymentPos} (hj : H.deploymentName j = (H.splitString s ':').getD 0 "") :
    ¬ VbParamsBad H s := by
  simp only [VbParamsBad, not_or]
  exact ⟨hlen, fun ⟨i, hi, h1, hn⟩ => hparse i hi h1 hn, fun h => h j (DeploymentPos.mem_all j) hj⟩

/-- A value the loop accepts is well formed, and the loop applied `UpdateVersionBitsParameters`
to it. -/
theorem updateActivationParameter_ok {p p' : CChainParams} {s : String}
    (h : updateActivationParameter H p s = .ok p') : ¬ VbParamsBad H s ∧
      ∃ j nStartTime nTimeout nWindowSize nThresholdStart nThresholdMin nFalloffCoeff nUseEHF,
        p' = updateVersionBitsParameters p j nStartTime nTimeout nWindowSize nThresholdStart
          nThresholdMin nFalloffCoeff nUseEHF := by
  simp only [updateActivationParameter] at h
  by_cases hlen : (H.splitString s ':').length ≠ 3 ∧ (H.splitString s ':').length ≠ 5 ∧
      (H.splitString s ':').length ≠ 8
  · rw [if_pos hlen] at h; cases h
  rw [if_neg hlen] at h
  simp only [pure_bind] at h
  -- Every parse the value reaches succeeds, and the search finds its deployment.
  split_ifs at h
  all_goals
    repeat
      replace h := Except.bind_eq_ok.1 h
      obtain ⟨_, hx, h⟩ := h
      rw [parseInt64Or_eq_ok] at hx
    split at h
    · refine ⟨not_vbParamsBad_of hlen (fun i hi h1 => ?_) (deploymentName_of_find? ‹_›),
        _, _, _, _, _, _, _, _, (Except.ok.inj h).symm⟩
      have : i < 8 := by omega
      interval_cases i <;> first | omega | exact Option.ne_none_iff_exists'.2 ⟨_, ‹_›⟩
    · cases h

/-- A well-formed value performs `vbSpecStep`. -/
theorem updateActivationParameter_of_good
    (hnames : (DeploymentPos.all.map H.deploymentName).Nodup) (p : CChainParams) {s : String}
    (hs : ¬ VbParamsBad H s) :
    updateActivationParameter H p s =
      .ok (p.setDeployments (vbSpecStep H p.consensus.vDeployments s)) := by
  simp only [VbParamsBad, not_or, not_exists, not_forall, Classical.not_imp, not_not] at hs
  obtain ⟨hlen, hparse, j, -, hj⟩ := hs
  have hp : ∀ i, 1 ≤ i → i < (H.splitString s ':').length →
      ∃ x, H.parseInt64 ((H.splitString s ':').getD i "") = some x :=
    fun i h1 hi => Option.ne_none_iff_exists'.1 fun hn => hparse i ⟨hi, h1, hn⟩
  have hfind := find?_deploymentName hnames hj
  obtain ⟨nStartTime, ha⟩ := hp 1 le_rfl (by omega)
  obtain ⟨nTimeout, hb⟩ := hp 2 (by omega) (by omega)
  simp only [updateActivationParameter, if_neg hlen, pure_bind, parseInt64Or_of_some H ha,
    parseInt64Or_of_some H hb, hfind]
  rcases (show (H.splitString s ':').length = 3 ∨ (H.splitString s ':').length = 5 ∨
      (H.splitString s ':').length = 8 by omega) with hl | hl | hl
  · rw [if_neg (by omega), if_neg (by omega)]
    exact congrArg Except.ok (updateVersionBitsParameters_eq_spec hnames p hj ha hb
      (vbOptional_of_le (by omega)) (vbOptional_of_le (by omega)) (vbOptional_of_le (by omega))
      (vbOptional_of_le (by omega)) (vbOptional_of_le (by omega)))
  · obtain ⟨nWindowSize, h3⟩ := hp 3 (by omega) (by omega)
    obtain ⟨nThresholdStart, h4⟩ := hp 4 (by omega) (by omega)
    rw [if_pos (by omega)]
    simp only [parseInt64Or_of_some H h3, parseInt64Or_of_some H h4, pure_bind]
    rw [if_neg (by omega)]
    exact congrArg Except.ok (updateVersionBitsParameters_eq_spec hnames p hj ha hb
      (vbOptional_of_lt (by omega) h3) (vbOptional_of_lt (by omega) h4)
      (vbOptional_of_le (by omega)) (vbOptional_of_le (by omega)) (vbOptional_of_le (by omega)))
  · obtain ⟨nWindowSize, h3⟩ := hp 3 (by omega) (by omega)
    obtain ⟨nThresholdStart, h4⟩ := hp 4 (by omega) (by omega)
    obtain ⟨nThresholdMin, h5⟩ := hp 5 (by omega) (by omega)
    obtain ⟨nFalloffCoeff, h6⟩ := hp 6 (by omega) (by omega)
    obtain ⟨nUseEHF, h7⟩ := hp 7 (by omega) (by omega)
    rw [if_pos (by omega)]
    simp only [parseInt64Or_of_some H h3, parseInt64Or_of_some H h4, pure_bind]
    rw [if_pos hl]
    simp only [parseInt64Or_of_some H h5, parseInt64Or_of_some H h6, parseInt64Or_of_some H h7,
      pure_bind]
    exact congrArg Except.ok (updateVersionBitsParameters_eq_spec hnames p hj ha hb
      (vbOptional_of_lt (by omega) h3) (vbOptional_of_lt (by omega) h4)
      (vbOptional_of_lt (by omega) h5) (vbOptional_of_lt (by omega) h6)
      (vbOptional_of_lt (by omega) h7))

end One

/-! ### The loop -/

section Loop

variable {H}

/-- The loop over the values `L` throws exactly when some value is rejected, and otherwise
folds `vbSpecStep` over them. -/
theorem foldlM_updateActivationParameter
    (hnames : (DeploymentPos.all.map H.deploymentName).Nodup) :
    ∀ (L : List String) (p : CChainParams),
      ((∃ e, L.foldlM (updateActivationParameter H) p = .error e) ↔
        ∃ s ∈ L, VbParamsBad H s) ∧
      ((∀ s ∈ L, ¬ VbParamsBad H s) → L.foldlM (updateActivationParameter H) p =
        .ok (p.setDeployments (L.foldl (vbSpecStep H) p.consensus.vDeployments)))
  | [], p => ⟨by simp [pure, Except.pure], fun _ => rfl⟩
  | s :: L, p => by
    rw [List.foldlM_cons]
    by_cases hs : VbParamsBad H s
    · obtain ⟨e, he⟩ : ∃ e, updateActivationParameter H p s = .error e := by
        cases h : updateActivationParameter H p s with
        | error e => exact ⟨e, rfl⟩
        | ok p' => exact absurd hs (updateActivationParameter_ok h).1
      rw [he]
      exact ⟨iff_of_true ⟨e, rfl⟩ ⟨s, .head _, hs⟩, fun h => absurd hs (h s (.head _))⟩
    · have ih := foldlM_updateActivationParameter hnames L
        (p.setDeployments (vbSpecStep H p.consensus.vDeployments s))
      rw [updateActivationParameter_of_good hnames p hs]
      simp only [bind, Except.bind, List.foldl_cons, CChainParams.setDeployments_vDeployments,
        CChainParams.setDeployments_setDeployments] at ih ⊢
      refine ⟨ih.1.trans ⟨fun ⟨s', hs', hb⟩ => ⟨s', .tail _ hs', hb⟩, fun ⟨s', hs', hb⟩ => ?_⟩,
        fun h => ih.2 fun s' hs' => h s' (.tail _ hs')⟩
      rcases List.mem_cons.1 hs' with rfl | hs'
      · exact absurd hb hs
      · exact ⟨s', hs', hb⟩

end Loop

/-- **The -vbparams loop.**  When `-vbparams` is set and the deployment names are distinct,
`UpdateActivationParametersFromArgs` throws exactly when one of the values given is rejected.
Otherwise it replaces the deployment table by the left fold of `vbSpecStep` over the values,
and leaves the rest of the parameters as they were; that fold keeps every bit, and every
deployment that no value names. -/
theorem vbparams_spec (hnames : (DeploymentPos.all.map H.deploymentName).Nodup)
    (args : ArgsManager) (hset : args.isArgSet "-vbparams" = true) (p : CChainParams) :
    ((∃ e, updateActivationParametersFromArgs H args p = .error e) ↔
      ∃ s ∈ args.getArgs "-vbparams", VbParamsBad H s) ∧
    ((∀ s ∈ args.getArgs "-vbparams", ¬ VbParamsBad H s) →
      updateActivationParametersFromArgs H args p = .ok (p.setDeployments
        ((args.getArgs "-vbparams").foldl (vbSpecStep H) p.consensus.vDeployments))) ∧
    ∀ d, ((args.getArgs "-vbparams").foldl (vbSpecStep H) p.consensus.vDeployments d).bit =
        (p.consensus.vDeployments d).bit ∧
      ((∀ s ∈ args.getArgs "-vbparams", H.deploymentName d ≠ (H.splitString s ':').getD 0 "") →
        (args.getArgs "-vbparams").foldl (vbSpecStep H) p.consensus.vDeployments d =
          p.consensus.vDeployments d) := by
  have hloop := foldlM_updateActivationParameter hnames (args.getArgs "-vbparams") p
  rw [updateActivationParametersFromArgs, hset]
  exact ⟨hloop.1, hloop.2, fun d => ⟨foldl_vbSpecStep_bit _ _ d,
    fun h => foldl_vbSpecStep_of_ne h _⟩⟩

/-- The loop on regtest, for one value setting the start and timeout of `v20`. -/
theorem vbparams_spec_regtest :
    (DeploymentPos.all.map sampleHeaders.deploymentName).Nodup ∧
    (ArgsManager.ofList [("-vbparams", "v20:0:100")]).isArgSet "-vbparams" = true ∧
    ((∃ e, updateActivationParametersFromArgs sampleHeaders
        (ArgsManager.ofList [("-vbparams", "v20:0:100")])
        (regtestParams sampleHeaders sampleLLMQDefs ArgsManager.empty) = .error e) ↔
      ∃ s ∈ (ArgsManager.ofList [("-vbparams", "v20:0:100")]).getArgs "-vbparams",
        VbParamsBad sampleHeaders s) ∧
    ((∀ s ∈ (ArgsManager.ofList [("-vbparams", "v20:0:100")]).getArgs "-vbparams",
        ¬ VbParamsBad sampleHeaders s) →
      updateActivationParametersFromArgs sampleHeaders
        (ArgsManager.ofList [("-vbparams", "v20:0:100")])
        (regtestParams sampleHeaders sampleLLMQDefs ArgsManager.empty) =
      .ok ((regtestParams sampleHeaders sampleLLMQDefs ArgsManager.empty).setDeployments
        (((ArgsManager.ofList [("-vbparams", "v20:0:100")]).getArgs "-vbparams").foldl
          (vbSpecStep sampleHeaders)
          (regtestParams sampleHeaders sampleLLMQDefs ArgsManager.empty).consensus.vDeployments))) ∧
    ∀ d, (((ArgsManager.ofList [("-vbparams", "v20:0:100")]).getArgs "-vbparams").foldl
          (vbSpecStep sampleHeaders)
          (regtestParams sampleHeaders sampleLLMQDefs ArgsManager.empty).consensus.vDeployments
          d).bit =
        ((regtestParams sampleHeaders sampleLLMQDefs ArgsManager.empty).consensus.vDeployments
          d).bit ∧
      ((∀ s ∈ (ArgsManager.ofList [("-vbparams", "v20:0:100")]).getArgs "-vbparams",
          sampleHeaders.deploymentName d ≠ (sampleHeaders.splitString s ':').getD 0 "") →
        ((ArgsManager.ofList [("-vbparams", "v20:0:100")]).getArgs "-vbparams").foldl
          (vbSpecStep sampleHeaders)
          (regtestParams sampleHeaders sampleLLMQDefs ArgsManager.empty).consensus.vDeployments d =
        (regtestParams sampleHeaders sampleLLMQDefs ArgsManager.empty).consensus.vDeployments d) :=
  have hnames : (DeploymentPos.all.map sampleHeaders.deploymentName).Nodup := by decide
  ⟨hnames, rfl, vbparams_spec sampleHeaders hnames _ rfl _⟩

/-! ### Errors -/

/-- The messages `UpdateActivationParametersFromArgs` throws for the numeric fields `1` to `7` of
a value, when `ParseInt64` rejects them. -/
def vbFieldErrors : List String :=
  ["Invalid nStartTime", "Invalid nTimeout", "Invalid nWindowSize", "Invalid nThresholdStart",
    "Invalid nThresholdMin", "Invalid nFalloffCoeff", "Invalid nUseEHF"]

/-- **Every error names what it rejects.**  A value of `-vbparams` that the loop rejects throws
the malformed-value message, or names a numeric field that `ParseInt64` rejects together with
the field's text, or names the first field when no deployment carries that name. -/
theorem updateActivationParameter_error {p : CChainParams} {s : String} {e : Fault}
    (h : updateActivationParameter H p s = .error e) :
    e = .runtimeError vbParamsMalformed ∨
      (∃ i < (H.splitString s ':').length, 1 ≤ i ∧
        H.parseInt64 ((H.splitString s ':').getD i "") = none ∧
        e = invalid (vbFieldErrors.getD (i - 1) "") ((H.splitString s ':').getD i "")) ∨
      ((∀ j ∈ DeploymentPos.all, H.deploymentName j ≠ (H.splitString s ':').getD 0 "") ∧
        e = invalid "Invalid deployment" ((H.splitString s ':').getD 0 "")) := by
  simp only [updateActivationParameter] at h
  set v := H.splitString s ':'
  by_cases hlen : v.length ≠ 3 ∧ v.length ≠ 5 ∧ v.length ≠ 8
  · rw [if_pos hlen] at h; exact .inl (Except.error.inj h).symm
  rw [if_neg hlen] at h
  simp only [pure_bind] at h
  -- Each parse either throws, naming its field, or passes its value on to the next one.
  split_ifs at h
  all_goals
    repeat
      obtain ⟨hn, rfl⟩ | ⟨_, h⟩ := parseInt64Or_bind_error H h
      · exact .inr (.inl ⟨_, by omega, by omega, hn, rfl⟩)
    split at h
    · cases h
    · exact .inr (.inr ⟨deploymentName_ne_of_find?_none ‹_›, (Except.error.inj h).symm⟩)

/- `-vbparams=v20:x:100`: the start time does not parse, and the error names it. -/
example :
    updateActivationParameter sampleHeaders
        (regtestParams sampleHeaders sampleLLMQDefs ArgsManager.empty) "v20:x:100" =
      .error (invalid "Invalid nStartTime" "x") := rfl

end Maximus
