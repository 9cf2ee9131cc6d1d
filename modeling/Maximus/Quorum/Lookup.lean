import Maximus.Quorum.Runs

/-!
# Quorum lookups

`GetLLMQ(llmqType)` does not look `llmqType` up as a key of the catalog: it scans the catalog in
key order for the first record whose `type` field is `llmqType`.  Whether a lookup finds the
record stored under its type therefore depends on the `type` fields of the records of
`llmq/params.h`, which are not in this excerpt.

`chainparams.cpp` stores every record under one type only, `LLMQRecord.slot`: the constructors
store `llmq_X_Y` under `LLMQ_X_Y` (main and test start `LLMQ_400_60` and `LLMQ_400_85` on
`llmq_20_60` and `llmq_20_85`), and `UpdateLLMQParams` stores the smaller records of a tier under
the type they stand in for.  `LLMQDefs.Typed` is the assumption that every record carries that
type in its `type` field; the records of `sampleLLMQDefs` do (`sampleLLMQDefs_typed`).

* `CChainParams.getLLMQ_eq` : on a catalog whose records carry their keys (`Catalog.WellKeyed`),
  `GetLLMQ` is the lookup of the map.
* `CChainParams.Resolves` : the catalog is well keyed and stores the type designated for each
  role, so that every role's `GetLLMQ` returns the record stored under its type.
* `updateLLMQParams_resolves` : under `Typed`, a call of `UpdateLLMQParams` keeps `Resolves`.
-/

namespace Maximus

/-! ### Where records are stored -/

/-- The quorum type under which `chainparams.cpp` stores a record. -/
def LLMQRecord.slot : LLMQRecord → LLMQType
  | .llmq_test => .LLMQ_TEST
  | .llmq_test_instantsend => .LLMQ_TEST_INSTANTSEND
  | .llmq_test_v17 => .LLMQ_TEST_V17
  | .llmq_test_dip0024 => .LLMQ_TEST_DIP0024
  | .llmq_test_platform => .LLMQ_TEST_PLATFORM
  | .llmq_devnet => .LLMQ_DEVNET
  | .llmq_devnet_dip0024 => .LLMQ_DEVNET_DIP0024
  | .llmq_devnet_platform => .LLMQ_DEVNET_PLATFORM
  | .llmq_50_60 | .llmq_10_60 => .LLMQ_50_60
  | .llmq_60_75 | .llmq_10_75 | .llmq_20_75 => .LLMQ_60_75
  | .llmq_400_60 | .llmq_20_60 | .llmq_40_60 => .LLMQ_400_60
  | .llmq_400_85 | .llmq_20_85 | .llmq_40_85 => .LLMQ_400_85
  | .llmq_100_67 => .LLMQ_100_67

/-- Every record carries in its `type` field the type `chainparams.cpp` stores it under. -/
def LLMQDefs.Typed (D : LLMQDefs) : Prop := ∀ r, (D r).type = r.slot

theorem sampleLLMQDefs_typed : sampleLLMQDefs.Typed := fun r => by cases r <;> rfl

/-! ### Well-keyed catalogs -/

namespace Catalog

/-- Every record of the catalog carries the type it is stored under. -/
def WellKeyed (c : Catalog) : Prop := ∀ t q, c t = some q → q.type = t

theorem wellKeyed_empty : empty.WellKeyed := fun _ _ h => nomatch h

theorem WellKeyed.set {c : Catalog} (hc : c.WellKeyed) {t : LLMQType} {q : LLMQParams}
    (hq : q.type = t) : (c.set t q).WellKeyed := by
  intro t' q' h
  rw [set_apply] at h
  split_ifs at h with ht
  · cases h; exact ht ▸ hq
  · exact hc t' q' h

/-- A write keeps every type the catalog stores. -/
theorem isSome_set {c : Catalog} {k : LLMQType} (hk : (c k).isSome) (t : LLMQType)
    (q : LLMQParams) : (c.set t q k).isSome := by
  rw [set_apply]; split_ifs <;> simp [hk]

end Catalog

/-- On a well-keyed catalog the scan of `GetLLMQ` finds the record stored under the type, and
nothing when no record is. -/
theorem CChainParams.getLLMQ_eq {p : CChainParams} (hp : p.consensus.llmqs.WellKeyed)
    (t : LLMQType) : p.getLLMQ t = p.consensus.llmqs t := by
  unfold getLLMQ
  -- every entry the scan can stop at is the entry under `t`
  have hkey : ∀ e ∈ p.consensus.llmqs.entries, e.2.type = t → p.consensus.llmqs t = some e.2 :=
    fun e he ht => ht ▸ hp e.1 e.2 (Catalog.mem_entries.1 he) ▸ Catalog.mem_entries.1 he
  cases hq : p.consensus.llmqs t with
  | none =>
    rw [List.find?_eq_none.2 fun e he ht => by simpa [hq] using hkey e he (of_decide_eq_true ht)]
    rfl
  | some q =>
    obtain ⟨e, he⟩ : ∃ e, p.consensus.llmqs.entries.find? (fun e => e.2.type = t) = some e :=
      Option.ne_none_iff_exists'.1 fun hn => by
        simpa using List.find?_eq_none.1 hn (t, q) (Catalog.mem_entries.2 hq)
          (hp t q hq ▸ decide_eq_true rfl)
    rw [he]
    have := hkey e (List.mem_of_find?_eq_some he) (by simpa using List.find?_some he)
    rw [hq] at this
    exact congrArg some (Option.some.inj this).symm

/-! ### Resolving lookups -/

/-- The lookups of the quorum roles resolve: the catalog is well keyed and stores the type
designated for each role. -/
structure CChainParams.Resolves (p : CChainParams) : Prop where
  wellKeyed : p.consensus.llmqs.WellKeyed
  roles : ∀ r, (p.consensus.llmqs (p.consensus.role r)).isSome

/-- Where the lookups resolve, `GetLLMQ` of every role returns the record stored under its type. -/
theorem CChainParams.Resolves.getLLMQ_role {p : CChainParams} (hp : p.Resolves) (r : LLMQRole) :
    ∃ q, p.getLLMQ (p.consensus.role r) = some q ∧
      p.consensus.llmqs (p.consensus.role r) = some q :=
  let ⟨q, hq⟩ := Option.isSome_iff_exists.1 (hp.roles r)
  ⟨q, (p.getLLMQ_eq hp.wellKeyed _).trans hq, hq⟩

/-- Replacing the catalog by a well-keyed one that keeps every stored type keeps `Resolves`. -/
theorem CChainParams.Resolves.setLLMQs {p : CChainParams} (hp : p.Resolves) {c : Catalog}
    (hc : c.WellKeyed) (hk : ∀ k, (p.consensus.llmqs k).isSome → (c k).isSome) :
    (p.setLLMQs c).Resolves :=
  ⟨hc, fun r => by rw [CChainParams.role_setLLMQs]; exact hk _ (hp.roles r)⟩

/-! ### The adaptation engine -/

section Engine

variable {D : LLMQDefs}

/-- The records of a tier stand under the types they are stored under. -/
def Tier.Slotted (t : Tier) : Prop :=
  t.llmq50_60.slot = .LLMQ_50_60 ∧ t.llmq60_75.slot = .LLMQ_60_75 ∧
    t.llmq400_60.slot = .LLMQ_400_60 ∧ t.llmq400_85.slot = .LLMQ_400_85

instance (t : Tier) : Decidable t.Slotted := instDecidableAnd

theorem tierOf_slotted (isTestNet : Bool) (c : Nat) : (tierOf isTestNet c).Slotted := by
  unfold tierOf
  generalize (if isTestNet then 80 else 100) = b
  split_ifs <;> decide

theorem Catalog.WellKeyed.install (hD : D.Typed) {c : Catalog} (hc : c.WellKeyed) {t : Tier}
    (ht : t.Slotted) : (t.install D c).WellKeyed := by
  intro k q h
  unfold Tier.install at h
  split at h
  next r hr =>
    cases h
    obtain ⟨h1, h2, h3, h4⟩ := ht
    rw [hD]
    cases k <;> simp only [Tier.get, Option.some.injEq, reduceCtorEq] at hr <;> subst hr <;>
      assumption
  · exact hc k q h

theorem Catalog.isSome_install {c : Catalog} {k : LLMQType} (hk : (c k).isSome) (t : Tier) :
    (t.install D c k).isSome := by
  unfold Tier.install; split <;> simp [hk]

/-- **One call keeps the lookups resolving.**  Under `Typed`, every call of `UpdateLLMQParams`
installs only records that carry the type they are stored under, and removes no type. -/
theorem updateLLMQParams_resolves (hD : D.Typed) {n : Node} (hn : n.params.Resolves)
    (c : Nat) (h : Int) : (updateLLMQParams D n c h).params.Resolves := by
  by_cases hA : n.params.Adaptive
  · by_cases hg : n.Guard c h
    · rw [updateLLMQParams_of_guard hA hg]
      exact hn.setLLMQs (hn.wellKeyed.install hD (tierOf_slotted _ c))
        fun k hk => Catalog.isSome_install hk _
    · by_cases hc : c < 80
      · rw [updateLLMQParams_of_skip_lt hA hg hc]
        exact hn.setLLMQs (hn.wellKeyed.set (hD _)) fun k hk => Catalog.isSome_set hk _ _
      · rw [updateLLMQParams_of_skip_ge hA hg (by omega)]
        exact hn
  · rw [updateLLMQParams_of_not_adaptive hA]
    exact hn

end Engine

end Maximus
