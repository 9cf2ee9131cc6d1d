import Maximus.Profiles

/-!
# Rotation checks of the quorum role overrides

The five role overrides look up the quorum type whose record carries the name they are given
(`llmqTypeByName`).  Only `-llmqchainlocks` and `-llmqinstantsenddip0024` check the rotation of
the records carrying that name; `-llmqplatform`, `-llmqmnhf` and regtest's
`-llmqtestinstantsenddip0024` designate whatever type the name selects.

* `llmqTypeByName_ok` : a lookup that succeeds returns `LLMQ_NONE` or the type of a record
  carrying the name, and every record carrying the name passes the rule.
* `updateLLMQTypeFromArgs_ok` : an override that succeeds designates such a type for its role
  and changes nothing else.
* `updateLLMQTypeFromArgs_error` : every error of an override states its cause: the `assert` on
  the role's current type, the rotation message for a record of the name with the other
  rotation, the invalid-type message for a name no record carries.
* `role_overrides_skip_rotation` : on the sample records, devnet accepts the rotating
  `llmq_devnet_dip0024` for the platform and mnhf roles, and regtest accepts the non-rotating
  `llmq_test` for the DIP0024 InstantSend role, where the two checked siblings designate only
  records of the rotation their role needs (`devnet_checked_overrides`).
-/

namespace Maximus

/-- What a rule demands of a record carrying the name looked up. -/
def RotationRule.Admits : RotationRule → LLMQParams → Prop
  | .any, _ => True
  | .required rot _, q => q.useRotation = rot

/-- One iteration of the lookup keeps its type, or takes the type of a record carrying the
name that passes the rule. -/
theorem llmqTypeStep_ok {name : String} {rule : RotationRule} {t₀ t₁ : LLMQType}
    {e : LLMQType × LLMQParams} (h : llmqTypeStep name rule t₀ e = .ok t₁) :
    (t₁ = t₀ ∧ e.2.name ≠ name) ∨ (t₁ = e.2.type ∧ e.2.name = name ∧ rule.Admits e.2) := by
  unfold llmqTypeStep at h
  split_ifs at h with hn
  · cases rule with
    | any => exact .inr ⟨(Except.ok.inj h).symm, hn, trivial⟩
    | required rot what =>
      dsimp only at h
      split_ifs at h with hr
      exact .inr ⟨(Except.ok.inj h).symm, hn, not_not.1 hr⟩
  · exact .inl ⟨(Except.ok.inj h).symm, hn⟩

/-- The loop of `llmqTypeByName` from any start, over any list of entries. -/
theorem foldlM_llmqTypeStep_ok {name : String} {rule : RotationRule} :
    ∀ {l : List (LLMQType × LLMQParams)} {t₀ t : LLMQType},
      l.foldlM (llmqTypeStep name rule) t₀ = .ok t →
      (t = t₀ ∨ ∃ e ∈ l, e.2.name = name ∧ e.2.type = t) ∧
        ∀ e ∈ l, e.2.name = name → rule.Admits e.2
  | [], _, _, h => ⟨.inl (Except.ok.inj h).symm, fun _ h => absurd h (List.not_mem_nil _)⟩
  | e :: l, t₀, t, h => by
    rw [List.foldlM_cons] at h
    obtain ⟨t₁, h₁, h⟩ := Except.bind_eq_ok.1 h
    obtain ⟨ih₁, ih₂⟩ := foldlM_llmqTypeStep_ok h
    have hstep := llmqTypeStep_ok h₁
    refine ⟨?_, fun e' he' hn' => ?_⟩
    · rcases ih₁ with rfl | ⟨e', he', hn', ht'⟩
      · rcases hstep with ⟨rfl, -⟩ | ⟨rfl, hn, -⟩
        · exact .inl rfl
        · exact .inr ⟨e, .head _, hn, rfl⟩
      · exact .inr ⟨e', .tail _ he', hn', ht'⟩
    · rcases List.mem_cons.1 he' with rfl | he'
      · rcases hstep with ⟨-, hn⟩ | ⟨-, -, ha⟩
        · exact absurd hn' hn
        · exact ha
      · exact ih₂ e' he' hn'

/-- **Lookup by name.**  A lookup that succeeds returns `LLMQ_NONE` or the type of a catalog
record carrying the name, and every record carrying the name passes the rule. -/
theorem llmqTypeByName_ok {llmqs : Catalog} {name : String} {rule : RotationRule} {t : LLMQType}
    (h : llmqTypeByName llmqs name rule = .ok t) :
    (t = .LLMQ_NONE ∨ ∃ e ∈ llmqs.entries, e.2.name = name ∧ e.2.type = t) ∧
      ∀ e ∈ llmqs.entries, e.2.name = name → rule.Admits e.2 :=
  foldlM_llmqTypeStep_ok h

/-- **What a role override does.**  When its option is set in `args`, an override that succeeds
designates for its role the type of a record carrying the name read from `gArgs`, every record
of that name passing its rule, and changes nothing else; when the option is not set it changes
nothing. -/
theorem updateLLMQTypeFromArgs_ok {gArgs args : ArgsManager} {opt : String} {role : LLMQRole}
    {rule : RotationRule} {invalidType : String} {p p' : CChainParams}
    (h : updateLLMQTypeFromArgs gArgs args opt role rule invalidType p = .ok p') :
    p' = p ∨ ∃ q e, p.getLLMQ (p.consensus.role role) = some q ∧ e ∈ p.consensus.llmqs.entries ∧
      e.2.name = gArgs.getArg opt q.name ∧
      (∀ e' ∈ p.consensus.llmqs.entries, e'.2.name = gArgs.getArg opt q.name → rule.Admits e'.2) ∧
      p' = { p with consensus := p.consensus.setRole role e.2.type } := by
  unfold updateLLMQTypeFromArgs at h
  split_ifs at h with hset
  · exact .inl (Except.ok.inj h).symm
  split at h
  · cases h
  next q hq =>
    obtain ⟨t, ht, h⟩ := Except.bind_eq_ok.1 h
    obtain ⟨hex, hall⟩ := llmqTypeByName_ok ht
    split_ifs at h with hnone
    · cases h
    obtain ⟨e, he, hn, rfl⟩ := hex.resolve_left hnone
    exact .inr ⟨q, e, hq, he, hn, hall, (Except.ok.inj h).symm⟩

/-- The two checked overrides of devnet designate only names whose records have the rotation
their role needs: none for ChainLocks, rotation for DIP0024 InstantSend. -/
theorem devnet_checked_overrides {gArgs args : ArgsManager} {p p' : CChainParams} :
    (updateDevnetLLMQChainLocksFromArgs gArgs args p = .ok p' → p' = p ∨
      ∃ e ∈ p.consensus.llmqs.entries, e.2.useRotation = false ∧
        p' = { p with consensus := p.consensus.setRole .chainLocks e.2.type }) ∧
    (updateDevnetLLMQInstantSendDIP0024FromArgs gArgs args p = .ok p' → p' = p ∨
      ∃ e ∈ p.consensus.llmqs.entries, e.2.useRotation = true ∧
        p' = { p with consensus := p.consensus.setRole .dip0024InstantSend e.2.type }) := by
  constructor <;> intro h <;> rcases updateLLMQTypeFromArgs_ok h with h | ⟨q, e, -, he, hn, hall, h⟩
  all_goals first | exact .inl h | exact .inr ⟨e, he, hall e he hn, h⟩

/-! ### What a role override throws -/

/-- One iteration of the lookup throws only the message of a rule demanding a rotation that the
entry, which carries the name, does not have. -/
theorem llmqTypeStep_error {name : String} {rule : RotationRule} {t₀ : LLMQType}
    {e : LLMQType × LLMQParams} {f : Fault} (h : llmqTypeStep name rule t₀ e = .error f) :
    ∃ rot what, rule = .required rot what ∧ f = .runtimeError what ∧ e.2.name = name ∧
      e.2.useRotation ≠ rot := by
  unfold llmqTypeStep at h
  split_ifs at h with hn
  · cases rule with
    | any => cases h
    | required rot what =>
      dsimp only at h
      split_ifs at h with hr
      · exact ⟨rot, what, rfl, (Except.error.inj h).symm, hn, hr⟩
      · cases h
  · cases h

theorem foldlM_llmqTypeStep_error {name : String} {rule : RotationRule} {f : Fault} :
    ∀ {l : List (LLMQType × LLMQParams)} {t₀ : LLMQType},
      l.foldlM (llmqTypeStep name rule) t₀ = .error f →
      ∃ rot what, rule = .required rot what ∧ f = .runtimeError what ∧
        ∃ e ∈ l, e.2.name = name ∧ e.2.useRotation ≠ rot
  | [], _, h => nomatch h
  | e :: l, t₀, h => by
    rw [List.foldlM_cons] at h
    rcases Except.bind_eq_error.1 h with h | ⟨t₁, -, h⟩
    · obtain ⟨rot, what, hr, hf, hn, hrot⟩ := llmqTypeStep_error h
      exact ⟨rot, what, hr, hf, e, .head _, hn, hrot⟩
    · obtain ⟨rot, what, hr, hf, e', he', hn, hrot⟩ := foldlM_llmqTypeStep_error h
      exact ⟨rot, what, hr, hf, e', .tail _ he', hn, hrot⟩

/-- Once an entry carries the name, the loop returns the type of an entry carrying it. -/
theorem foldlM_llmqTypeStep_named {name : String} {rule : RotationRule} :
    ∀ {l : List (LLMQType × LLMQParams)} {t₀ t : LLMQType},
      l.foldlM (llmqTypeStep name rule) t₀ = .ok t → (∃ e ∈ l, e.2.name = name) →
      ∃ e ∈ l, e.2.name = name ∧ e.2.type = t
  | [], _, _, _, ⟨_, he, _⟩ => absurd he (List.not_mem_nil _)
  | e :: l, t₀, t, h, hex => by
    rw [List.foldlM_cons] at h
    obtain ⟨t₁, h₁, h⟩ := Except.bind_eq_ok.1 h
    rcases llmqTypeStep_ok h₁ with ⟨-, hn⟩ | ⟨rfl, hn, -⟩
    · -- the head does not carry the name, so a later entry does
      obtain ⟨e', he', hn'⟩ := hex
      obtain ⟨e'', he'', hn'', ht⟩ := foldlM_llmqTypeStep_named h
        ⟨e', (List.mem_cons.1 he').resolve_left (by rintro rfl; exact hn hn'), hn'⟩
      exact ⟨e'', .tail _ he'', hn'', ht⟩
    · -- the head carries it: the rest keeps its type or takes a later entry's
      rcases (foldlM_llmqTypeStep_ok h).1 with rfl | ⟨e', he', hn', ht⟩
      · exact ⟨e, .head _, hn, rfl⟩
      · exact ⟨e', .tail _ he', hn', ht⟩

/-- **Every error of a role override states its cause.**  Where no record of the catalog carries
`LLMQ_NONE` as its type, a role override throws only when its option is set, and then fails its
`assert` only when `GetLLMQ` does not find the role's current type, throws its rule's rotation
message only when a record carrying the name read from `gArgs` has the other rotation, and throws
its invalid-type message only when no record carries that name. -/
theorem updateLLMQTypeFromArgs_error {gArgs args : ArgsManager} {opt : String} {role : LLMQRole}
    {rule : RotationRule} {invalidType : String} {p : CChainParams} {f : Fault}
    (hnone : ∀ e ∈ p.consensus.llmqs.entries, e.2.type ≠ .LLMQ_NONE)
    (h : updateLLMQTypeFromArgs gArgs args opt role rule invalidType p = .error f) :
    args.isArgSet opt = true ∧
      ((p.getLLMQ (p.consensus.role role) = none ∧ f = .assertFailed) ∨
        ∃ q, p.getLLMQ (p.consensus.role role) = some q ∧
          ((∃ rot what, rule = .required rot what ∧ f = .runtimeError what ∧
              ∃ e ∈ p.consensus.llmqs.entries, e.2.name = gArgs.getArg opt q.name ∧
                e.2.useRotation ≠ rot) ∨
            (f = .runtimeError invalidType ∧
              ∀ e ∈ p.consensus.llmqs.entries, e.2.name ≠ gArgs.getArg opt q.name))) := by
  unfold updateLLMQTypeFromArgs at h
  split_ifs at h with hset
  · cases h
  refine ⟨by simpa using hset, ?_⟩
  split at h
  next hq => exact .inl ⟨hq, (Except.error.inj h).symm⟩
  next q hq =>
    refine .inr ⟨q, hq, ?_⟩
    rcases Except.bind_eq_error.1 h with h | ⟨t, ht, h⟩
    · exact .inl (foldlM_llmqTypeStep_error h)
    · split_ifs at h with ht'
      · refine .inr ⟨(Except.error.inj h).symm, fun e he hn => ?_⟩
        obtain ⟨e', he', -, rfl⟩ := foldlM_llmqTypeStep_named ht ⟨e, he, hn⟩
        exact hnone e' he' ht'
      · cases h

/-! ### Overrides that check nothing -/

/-- On the sample records, with `-devnet=maximus`, `-llmqplatform=llmq_devnet_dip0024` and
`-llmqmnhf=llmq_devnet_dip0024` build devnet parameters whose platform or mnhf quorum uses
rotation, and `-llmqtestinstantsenddip0024=llmq_test` builds regtest parameters whose DIP0024
InstantSend quorum does not; the two checked siblings, `-llmqchainlocks` and
`-llmqinstantsenddip0024`, designate only records with the rotation their role needs, for every
pair of argument managers and every parameter set. -/
theorem role_overrides_skip_rotation :
    (∃ p, createChainParams sampleHeaders sampleLLMQDefs
        (ArgsManager.ofList [("-devnet", "maximus"), ("-llmqplatform", "llmq_devnet_dip0024")])
        (ArgsManager.ofList [("-devnet", "maximus"), ("-llmqplatform", "llmq_devnet_dip0024")])
        DEVNET = .ok p ∧
      (p.getLLMQ p.consensus.llmqTypePlatform).map LLMQParams.useRotation = some true) ∧
    (∃ p, createChainParams sampleHeaders sampleLLMQDefs
        (ArgsManager.ofList [("-devnet", "maximus"), ("-llmqmnhf", "llmq_devnet_dip0024")])
        (ArgsManager.ofList [("-devnet", "maximus"), ("-llmqmnhf", "llmq_devnet_dip0024")])
        DEVNET = .ok p ∧
      (p.getLLMQ p.consensus.llmqTypeMnhf).map LLMQParams.useRotation = some true) ∧
    (∃ p, createChainParams sampleHeaders sampleLLMQDefs
        (ArgsManager.ofList [("-llmqtestinstantsenddip0024", "llmq_test")])
        (ArgsManager.ofList [("-llmqtestinstantsenddip0024", "llmq_test")]) REGTEST = .ok p ∧
      (p.getLLMQ p.consensus.llmqTypeDIP0024InstantSend).map LLMQParams.useRotation =
        some false) ∧
    ∀ (gArgs args : ArgsManager) (p p' : CChainParams),
      (updateDevnetLLMQChainLocksFromArgs gArgs args p = .ok p' → p' = p ∨
        ∃ e ∈ p.consensus.llmqs.entries, e.2.useRotation = false ∧
          p' = { p with consensus := p.consensus.setRole .chainLocks e.2.type }) ∧
      (updateDevnetLLMQInstantSendDIP0024FromArgs gArgs args p = .ok p' → p' = p ∨
        ∃ e ∈ p.consensus.llmqs.entries, e.2.useRotation = true ∧
          p' = { p with consensus := p.consensus.setRole .dip0024InstantSend e.2.type }) :=
  ⟨⟨_, rfl, rfl⟩, ⟨_, rfl, rfl⟩, ⟨_, rfl, rfl⟩, fun _ _ _ _ => devnet_checked_overrides⟩

end Maximus
