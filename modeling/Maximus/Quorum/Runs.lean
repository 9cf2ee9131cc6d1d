import Maximus.Quorum.Adapt
import Mathlib.Data.List.Chain

/-!
# Runs of the adaptation engine

Once it has been called on main or test, the engine's state is determined by three things
(`Adapted`): the two statics, and whether a skipped call has downgraded `LLMQ_60_75` to
`llmq_10_75` since the last update.  `Adapted.node` is the state they stand for, with the tier
of the last checked count installed over the constructed catalog, and `Adapted.step` is one
call on them.  `updateLLMQParams_node` proves that the engine simulates this abstract machine
step for step, and `updateLLMQParams_fresh` that the first call after selection lands in it.

From the simulation:

* `adaptation_invariant`: every state reached on main or test after at least one call keeps
  the constructed key set, the other entries and the role designations, holds the tier of the
  last checked count for `LLMQ_50_60`, `LLMQ_400_60` and `LLMQ_400_85`, and for `LLMQ_60_75`
  either that tier's record or `llmq_10_75`;
* `adaptation_monotone`: along a run whose counts never decrease (never increase), the size
  of every adapted record never decreases (never increases);
* `main_skip_keeps_llmq60_75`: on main a skipped call with a count in `[80, 100)` leaves
  `LLMQ_60_75` on a larger record, since the skipped branch tests `< 80` where main's first
  tier ends at 100;
* `mining_phase_defers`: a call at a mining-phase height, from any state that has been checked
  once, changes nothing but possibly `LLMQ_60_75` to `llmq_10_75`; `first_call_ignores_mining`
  shows the first call after selection is not deferred.
-/

namespace Maximus

variable (D : LLMQDefs)

/-- What the adaptation engine remembers once it has been called. -/
structure Adapted where
  lastCheckMnCount : Nat
  lastCheckHeight : Int
  /-- A skipped call has downgraded `LLMQ_60_75` since the last update. -/
  downgraded : Bool
  deriving DecidableEq, Repr

namespace Adapted

/-- The tier whose records the catalog holds. -/
def tier (isTestNet : Bool) (a : Adapted) : Tier :=
  if a.downgraded then { tierOf isTestNet a.lastCheckMnCount with llmq60_75 := .llmq_10_75 }
  else tierOf isTestNet a.lastCheckMnCount

/-- The state `a` stands for, over the parameters `p₀` a profile constructed. -/
def node (p₀ : CChainParams) (a : Adapted) : Node :=
  ⟨p₀.setLLMQs ((a.tier p₀.isTestNet).install D p₀.consensus.llmqs), a.lastCheckMnCount,
    a.lastCheckHeight⟩

/-- One call; `mining` tells whether the height is in a mining phase of the catalog. -/
def step (mining : Bool) (a : Adapted) (c : Nat) (h : Int) : Adapted :=
  if (a.lastCheckHeight < h ∧ a.lastCheckMnCount ≠ c ∧ mining = false) ∨ a.lastCheckHeight = -1
  then ⟨c, h, false⟩
  else if c < 80 then { a with downgraded := true }
  else a

/-- A call on the state `a` stands for, with the mining phase read from its catalog. -/
def next (p₀ : CChainParams) (a : Adapted) (c : Nat) (h : Int) : Adapted :=
  a.step (isLLMQsMiningPhase (a.node D p₀).params.consensus.llmqs h) c h

@[simp] theorem node_lastCheckMnCount (p₀ : CChainParams) (a : Adapted) :
    (a.node D p₀).lastCheckMnCount = a.lastCheckMnCount := rfl

@[simp] theorem node_lastCheckHeight (p₀ : CChainParams) (a : Adapted) :
    (a.node D p₀).lastCheckHeight = a.lastCheckHeight := rfl

@[simp] theorem node_params (p₀ : CChainParams) (a : Adapted) :
    (a.node D p₀).params = p₀.setLLMQs ((a.tier p₀.isTestNet).install D p₀.consensus.llmqs) := rfl

/-- A downgrade only replaces the `LLMQ_60_75` record. -/
theorem tier_eq (isTestNet : Bool) (a : Adapted) :
    a.tier isTestNet = { tierOf isTestNet a.lastCheckMnCount with
      llmq60_75 := if a.downgraded then .llmq_10_75 else
        (tierOf isTestNet a.lastCheckMnCount).llmq60_75 } := by
  unfold tier; cases a.downgraded <;> rfl

end Adapted

/-! ### Simulation -/

section Simulation

variable {D} {p₀ : CChainParams}

/-- The engine simulates `Adapted.step`. -/
theorem updateLLMQParams_node (hp : p₀.Adaptive) (a : Adapted) (c : Nat) (h : Int) :
    updateLLMQParams D (a.node D p₀) c h = (a.next D p₀ c h).node D p₀ := by
  have hn : (a.node D p₀).params.Adaptive := hp
  by_cases hg : (a.node D p₀).Guard c h
  · have hg' : (a.lastCheckHeight < h ∧ a.lastCheckMnCount ≠ c ∧
        isLLMQsMiningPhase (a.node D p₀).params.consensus.llmqs h = false) ∨
        a.lastCheckHeight = -1 := hg
    rw [updateLLMQParams_of_guard hn hg, Adapted.next, Adapted.step, if_pos hg']
    simp [Adapted.node, Adapted.tier]
  · have hg' : ¬ ((a.lastCheckHeight < h ∧ a.lastCheckMnCount ≠ c ∧
        isLLMQsMiningPhase (a.node D p₀).params.consensus.llmqs h = false) ∨
        a.lastCheckHeight = -1) := hg
    by_cases hc : c < 80
    · rw [updateLLMQParams_of_skip_lt hn hg hc, Adapted.next, Adapted.step, if_neg hg', if_pos hc]
      simp only [Adapted.node_params, CChainParams.setLLMQs_llmqs, Tier.install_set_60_75,
        CChainParams.setLLMQs_setLLMQs, Adapted.tier]
      cases a.downgraded <;> rfl
    · rw [updateLLMQParams_of_skip_ge hn hg (by omega), Adapted.next, Adapted.step, if_neg hg',
        if_neg hc]

/-- The first call after selection always updates. -/
theorem updateLLMQParams_fresh (hp : p₀.Adaptive) (c : Nat) (h : Int) :
    updateLLMQParams D (Node.fresh p₀) c h = (⟨c, h, false⟩ : Adapted).node D p₀ := by
  rw [updateLLMQParams_of_guard hp (.inr rfl)]; rfl

/-- The abstract run. -/
def Adapted.run (D : LLMQDefs) (p₀ : CChainParams) (a : Adapted) : List (Nat × Int) → Adapted
  | [] => a
  | x :: xs => (a.next D p₀ x.1 x.2).run D p₀ xs

theorem runLLMQ_node (hp : p₀.Adaptive) (a : Adapted) (calls : List (Nat × Int)) :
    runLLMQ D (a.node D p₀) calls = (a.run D p₀ calls).node D p₀ := by
  induction calls generalizing a with
  | nil => rfl
  | cons x xs ih => rw [runLLMQ_cons, updateLLMQParams_node hp, ih]; rfl

/-- Every state reached after at least one call stands for an abstract state. -/
theorem runLLMQ_fresh (hp : p₀.Adaptive) (c : Nat) (h : Int) (calls : List (Nat × Int)) :
    ∃ a : Adapted, runLLMQ D (updateLLMQParams D (Node.fresh p₀) c h) calls = a.node D p₀ :=
  ⟨_, by rw [updateLLMQParams_fresh hp, runLLMQ_node hp]⟩

end Simulation

/-! ### The catalog invariant -/

/-- What every state reached on main or test after at least one call satisfies, against the
parameters `p₀` the profile constructed. -/
structure AdaptationInv (p₀ : CChainParams) (n : Node) : Prop where
  /-- The key set is the constructed one. -/
  keys : ∀ k, (n.params.consensus.llmqs k).isSome = (p₀.consensus.llmqs k).isSome
  /-- Entries of the other types are the constructed ones. -/
  others : ∀ k, k ∉ adaptedTypes → n.params.consensus.llmqs k = p₀.consensus.llmqs k
  /-- The role designations are the constructed ones. -/
  roles : ∀ r, n.params.consensus.role r = p₀.consensus.role r
  llmq50_60 : n.params.consensus.llmqs .LLMQ_50_60 =
    some (D (tierOf p₀.isTestNet n.lastCheckMnCount).llmq50_60)
  llmq400_60 : n.params.consensus.llmqs .LLMQ_400_60 =
    some (D (tierOf p₀.isTestNet n.lastCheckMnCount).llmq400_60)
  llmq400_85 : n.params.consensus.llmqs .LLMQ_400_85 =
    some (D (tierOf p₀.isTestNet n.lastCheckMnCount).llmq400_85)
  /-- `LLMQ_60_75` holds the tier's record, or `llmq_10_75`. -/
  llmq60_75 : n.params.consensus.llmqs .LLMQ_60_75 =
      some (D (tierOf p₀.isTestNet n.lastCheckMnCount).llmq60_75) ∨
    n.params.consensus.llmqs .LLMQ_60_75 = some (D .llmq_10_75)

@[simp] theorem CChainParams.role_setLLMQs (p : CChainParams) (c : Catalog) (r : LLMQRole) :
    (p.setLLMQs c).consensus.role r = p.consensus.role r := by cases r <;> rfl

/-- The constructed catalog of main and test holds every adapted type. -/
theorem mainLLMQs_adapted {k : LLMQType} (hk : k ∈ adaptedTypes) : (mainLLMQs D k).isSome := by
  simp only [adaptedTypes, List.mem_cons, List.mem_singleton, List.not_mem_nil, or_false] at hk
  rcases hk with rfl | rfl | rfl | rfl <;> rfl

/-- Every abstract state stands for a state satisfying the invariant, over a constructed
catalog that holds the adapted types. -/
theorem Adapted.node_inv {p₀ : CChainParams}
    (hkeys : ∀ k ∈ adaptedTypes, (p₀.consensus.llmqs k).isSome) (a : Adapted) :
    AdaptationInv D p₀ (a.node D p₀) where
  keys k := by
    by_cases hk : k ∈ adaptedTypes
    · obtain ⟨r, hr⟩ := Option.isSome_iff_exists.1 (((a.tier p₀.isTestNet).get_isSome_iff k).2 hk)
      simp [Tier.install_of_get D hr, hkeys k hk]
    · simp [Tier.install_of_not_mem D hk]
  others k hk := by simp [Tier.install_of_not_mem D hk]
  roles r := by simp
  llmq50_60 := by simp [Tier.install, Tier.get, Adapted.tier_eq]
  llmq400_60 := by simp [Tier.install, Tier.get, Adapted.tier_eq]
  llmq400_85 := by simp [Tier.install, Tier.get, Adapted.tier_eq]
  llmq60_75 := by
    simp only [Adapted.node_params, CChainParams.setLLMQs_llmqs, Tier.install, Tier.get,
      Adapted.tier_eq, Adapted.node_lastCheckMnCount]
    cases a.downgraded <;> simp

/-- **The adaptation invariant.**  On main and test, after the first call and any calls after
it, the catalog differs from the constructed one only in the records of the four adapted types:
the tier of the last checked count for `LLMQ_50_60`, `LLMQ_400_60` and `LLMQ_400_85`, and for
`LLMQ_60_75` that tier's record or `llmq_10_75`. -/
theorem adaptation_invariant {H : Headers} {p : CChainParams}
    (hp : p = CMainParams H D ∨ p = CTestNetParams H D) (c : Nat) (h : Int)
    (calls : List (Nat × Int)) :
    AdaptationInv D p (runLLMQ D (updateLLMQParams D (Node.fresh p) c h) calls) := by
  have hA : p.Adaptive := by
    rcases hp with rfl | rfl
    exacts [CMainParams_adaptive D H, CTestNetParams_adaptive D H]
  have hkeys : ∀ k ∈ adaptedTypes, (p.consensus.llmqs k).isSome := by
    rcases hp with rfl | rfl <;> exact fun k hk => mainLLMQs_adapted D hk
  obtain ⟨a, ha⟩ := runLLMQ_fresh (D := D) hA c h calls
  rw [ha]
  exact a.node_inv D hkeys

/-- The invariant on the main network, after one call and one more. -/
theorem adaptation_invariant_main :
    (CMainParams sampleHeaders sampleLLMQDefs = CMainParams sampleHeaders sampleLLMQDefs ∨
      CMainParams sampleHeaders sampleLLMQDefs = CTestNetParams sampleHeaders sampleLLMQDefs) ∧
    AdaptationInv sampleLLMQDefs (CMainParams sampleHeaders sampleLLMQDefs)
      (runLLMQ sampleLLMQDefs
        (updateLLMQParams sampleLLMQDefs (Node.fresh (CMainParams sampleHeaders sampleLLMQDefs))
          700 10) [(90, 5)]) :=
  ⟨.inl rfl, adaptation_invariant sampleLLMQDefs (.inl rfl) 700 10 [(90, 5)]⟩

/-! ### Monotone adaptation -/

namespace Tier

/-- The member count of the record a tier installs for a type; `0` for a type it does not
adapt. -/
def members (t : Tier) (k : LLMQType) : Int := ((t.get k).bind LLMQRecord.memberCount).getD 0

@[simp] theorem get_with_llmq60_75 (t : Tier) (r : LLMQRecord) (k : LLMQType) :
    { t with llmq60_75 := r }.get k = if k = .LLMQ_60_75 then some r else t.get k := by
  cases k <;> rfl

theorem members_with_llmq60_75 (t : Tier) (r : LLMQRecord) (k : LLMQType) :
    { t with llmq60_75 := r }.members k =
      if k = .LLMQ_60_75 then (r.memberCount).getD 0 else t.members k := by
  simp only [members, get_with_llmq60_75]; split_ifs <;> rfl

/-- Every record the tier installs states its member count. -/
def Counted (t : Tier) : Prop :=
  t.llmq50_60.memberCount.isSome ∧ t.llmq60_75.memberCount.isSome ∧
    t.llmq400_60.memberCount.isSome ∧ t.llmq400_85.memberCount.isSome

instance (t : Tier) : Decidable t.Counted := by unfold Counted; infer_instance

theorem Counted.get {t : Tier} (h : t.Counted) {k : LLMQType} {r : LLMQRecord}
    (hr : t.get k = some r) : r.memberCount.isSome := by
  obtain ⟨h1, h2, h3, h4⟩ := h
  cases k <;> cases hr <;> assumption

end Tier

theorem tierOf_counted (isTestNet : Bool) (c : Nat) : (tierOf isTestNet c).Counted := by
  unfold tierOf
  generalize (if isTestNet then 80 else 100) = b
  split_ifs <;> decide

theorem Adapted.tier_counted (a : Adapted) (isTestNet : Bool) : (a.tier isTestNet).Counted := by
  have h := tierOf_counted isTestNet a.lastCheckMnCount
  unfold Adapted.tier; split_ifs
  · exact ⟨h.1, rfl, h.2.2⟩
  · exact h

section Members

variable (isTestNet : Bool) (c : Nat)

theorem tierOf_members_50_60 :
    (tierOf isTestNet c).members .LLMQ_50_60 = if c < (if isTestNet then 80 else 100) then 10 else 50 := by
  unfold tierOf
  generalize (if isTestNet then 80 else 100) = b
  split_ifs <;> rfl

theorem tierOf_members_60_75 :
    (tierOf isTestNet c).members .LLMQ_60_75 = if c < 200 then 10 else if c ≤ 2000 then 20 else 60 := by
  have hb : (if isTestNet then 80 else 100) ≤ 100 := by split <;> omega
  unfold tierOf
  generalize (if isTestNet then 80 else 100) = b at hb ⊢
  split_ifs <;> first | rfl | omega

theorem tierOf_members_400_60 :
    (tierOf isTestNet c).members .LLMQ_400_60 =
      if c < (if isTestNet then 80 else 100) then 20 else if c < 600 then 40 else 400 := by
  unfold tierOf
  generalize (if isTestNet then 80 else 100) = b
  split_ifs <;> first | rfl | omega

theorem tierOf_members_400_85 :
    (tierOf isTestNet c).members .LLMQ_400_85 = (tierOf isTestNet c).members .LLMQ_400_60 := by
  unfold tierOf
  generalize (if isTestNet then 80 else 100) = b
  split_ifs <;> rfl

theorem Tier.members_of_not_mem {k : LLMQType} (hk : k ∉ adaptedTypes) (t : Tier) :
    t.members k = 0 := by
  have : t.get k = none := by simpa [Option.isNone_iff_eq_none] using mt (t.get_isSome_iff k).1 hk
  simp [Tier.members, this]

/-- A larger count never selects a smaller record. -/
theorem tierOf_members_mono (k : LLMQType) {c c' : Nat} (h : c ≤ c') :
    (tierOf isTestNet c).members k ≤ (tierOf isTestNet c').members k := by
  by_cases hk : k ∈ adaptedTypes
  · simp only [adaptedTypes, List.mem_cons, List.mem_singleton, List.not_mem_nil, or_false] at hk
    rcases hk with rfl | rfl | rfl | rfl <;>
      simp only [tierOf_members_50_60, tierOf_members_60_75, tierOf_members_400_85,
        tierOf_members_400_60] <;> generalize (if isTestNet then 80 else 100) = b <;> split_ifs <;>
      omega
  · simp [Tier.members_of_not_mem hk]

/-- `llmq_10_75` is the smallest record `LLMQ_60_75` is given. -/
theorem ten_le_tierOf_members_60_75 : 10 ≤ (tierOf isTestNet c).members .LLMQ_60_75 := by
  rw [tierOf_members_60_75]; split_ifs <;> omega

end Members

namespace Adapted

variable {isTestNet : Bool} {a : Adapted} {m : Bool} {c : Nat} {h : Int}

theorem tier_members (k : LLMQType) : (a.tier isTestNet).members k =
    if a.downgraded ∧ k = .LLMQ_60_75 then 10 else (tierOf isTestNet a.lastCheckMnCount).members k := by
  unfold tier; cases a.downgraded <;> simp [Tier.members_with_llmq60_75, LLMQRecord.memberCount]

/-- A downgrade only lowers a record. -/
theorem tier_members_le (k : LLMQType) :
    (a.tier isTestNet).members k ≤ (tierOf isTestNet a.lastCheckMnCount).members k := by
  rw [tier_members]; split_ifs with hd
  · rw [hd.2]; exact ten_le_tierOf_members_60_75 _ _
  · exact le_rfl

/-- Below 80 the downgrade changes nothing: the tier already holds `llmq_10_75`. -/
theorem tier_of_lt (hc : a.lastCheckMnCount < 80) :
    a.tier isTestNet = tierOf isTestNet a.lastCheckMnCount := by
  unfold tier; split_ifs
  · rw [← tierOf_llmq60_75_of_lt isTestNet hc]
  · rfl

@[simp] theorem step_tier_update : (⟨c, h, false⟩ : Adapted).tier isTestNet = tierOf isTestNet c := rfl

/-- A call leaves the last checked count at its own count or where it was. -/
theorem step_lastCheckMnCount :
    (a.step m c h).lastCheckMnCount = c ∨ (a.step m c h).lastCheckMnCount = a.lastCheckMnCount := by
  unfold step; split_ifs <;> simp

/-- A call with a count at least the last checked one never shrinks a record. -/
theorem step_up (hc : a.lastCheckMnCount ≤ c) (k : LLMQType) :
    (a.tier isTestNet).members k ≤ ((a.step m c h).tier isTestNet).members k := by
  unfold step
  split_ifs with hg hc80
  · exact (tier_members_le k).trans (tierOf_members_mono isTestNet k hc)
  · rw [tier_of_lt (show a.lastCheckMnCount < 80 by omega),
      tier_of_lt (a := { a with downgraded := true }) (show a.lastCheckMnCount < 80 by omega)]
  · exact le_rfl

/-- Ready for a call with count `c` in a run of non-increasing counts: `c` is at most the last
checked count, and a downgrade happened only below 80. -/
def DownReady (a : Adapted) (c : Nat) : Prop :=
  c ≤ a.lastCheckMnCount ∧ (a.downgraded = true → c < 80)

/-- A call with a count at most the last checked one never grows a record. -/
theorem step_down (ha : a.DownReady c) (k : LLMQType) :
    ((a.step m c h).tier isTestNet).members k ≤ (a.tier isTestNet).members k := by
  obtain ⟨hc, hd⟩ := ha
  unfold step
  split_ifs with hg hc80
  · rw [step_tier_update, tier_members]
    split_ifs with hk
    · rw [hk.2, tierOf_members_60_75, if_pos (by have := hd hk.1; omega)]
    · exact tierOf_members_mono isTestNet k hc
  · rw [tier_members, tier_members]
    by_cases hk : k = .LLMQ_60_75
    · subst hk
      simp only [and_true, ite_true]
      split_ifs <;> simp [ten_le_tierOf_members_60_75]
    · simp [hk]
  · exact le_rfl

/-- After such a call the state is ready for any smaller count. -/
theorem step_downReady (ha : a.DownReady c) {c' : Nat} (hc' : c' ≤ c) :
    (a.step m c h).DownReady c' := by
  obtain ⟨hc, hd⟩ := ha
  unfold step
  split_ifs with hg hc80
  · exact ⟨hc', by simp⟩
  · exact ⟨hc'.trans hc, fun _ => by omega⟩
  · exact ⟨hc'.trans hc, fun h => by have := hd h; omega⟩

end Adapted

/-- The states a run passes through, the first one included. -/
def traceLLMQ (n : Node) : List (Nat × Int) → List Node
  | [] => [n]
  | x :: xs => n :: traceLLMQ (updateLLMQParams D n x.1 x.2) xs

/-- Each adapted type holds a record in both states, the second at least as large. -/
def SizesLe (n n' : Node) : Prop :=
  ∀ k ∈ adaptedTypes, ∃ q q', n.params.consensus.llmqs k = some q ∧
    n'.params.consensus.llmqs k = some q' ∧ q.size ≤ q'.size

section Trace

variable {D} {p₀ : CChainParams}

/-- The record installed for an adapted type has the member count the tier states. -/
theorem Adapted.node_llmqs (a : Adapted) {k : LLMQType} (hk : k ∈ adaptedTypes) :
    ∃ q, (a.node D p₀).params.consensus.llmqs k = some q ∧
      q.size = (a.tier p₀.isTestNet).members k := by
  obtain ⟨r, hr⟩ := Option.isSome_iff_exists.1 (((a.tier p₀.isTestNet).get_isSome_iff k).2 hk)
  obtain ⟨n, hn⟩ := Option.isSome_iff_exists.1 (a.tier_counted p₀.isTestNet |>.get hr)
  exact ⟨_, Tier.install_of_get D hr _, by simp [D.size_eq r n hn, Tier.members, hr, hn]⟩

theorem Adapted.sizesLe_node {a a' : Adapted}
    (h : ∀ k, (a.tier p₀.isTestNet).members k ≤ (a'.tier p₀.isTestNet).members k) :
    SizesLe (a.node D p₀) (a'.node D p₀) := fun k hk => by
  obtain ⟨q, hq, hs⟩ := a.node_llmqs (D := D) hk
  obtain ⟨q', hq', hs'⟩ := a'.node_llmqs (D := D) hk
  exact ⟨q, q', hq, hq', by rw [hs, hs']; exact h k⟩

/-- A run from an abstract state passes through states related by `R`, when every call from a
state ready for its count moves to a state related by `R` and ready for any next count allowed
by `Q`. -/
theorem traceLLMQ_chain (hp : p₀.Adaptive) {Q : Nat → Nat → Prop} {I : Adapted → Nat → Prop}
    {R : Node → Node → Prop}
    (hstep : ∀ a c h, I a c →
      R (a.node D p₀) ((a.next D p₀ c h).node D p₀) ∧ ∀ c', Q c c' → I (a.next D p₀ c h) c') :
    ∀ (calls : List (Nat × Int)) (a : Adapted), (∀ x ∈ calls.head?, I a x.1) →
      calls.Chain' (fun x y => Q x.1 y.1) → (traceLLMQ D (a.node D p₀) calls).Chain' R
  | [], _, _, _ => List.chain'_singleton _
  | [x], a, ha, _ => by
    simp only [traceLLMQ, updateLLMQParams_node hp]
    exact List.chain'_pair.2 (hstep a x.1 x.2 (ha x rfl)).1
  | x :: y :: xs, a, ha, hc => by
    obtain ⟨hxy, hc⟩ := List.chain'_cons.1 hc
    have hs := hstep a x.1 x.2 (ha x rfl)
    have ih := traceLLMQ_chain hp hstep (y :: xs) (a.next D p₀ x.1 x.2)
      (fun z hz => by cases hz; exact hs.2 _ hxy) hc
    rw [traceLLMQ, updateLLMQParams_node hp]
    cases xs <;> exact List.Chain'.cons hs.1 ih

end Trace

/-- **Monotone adaptation.**  On main and test, along a run whose masternode counts never
decrease, the record of each adapted type never shrinks from one state to the next after the
first call; along a run whose counts never increase, it never grows. -/
theorem adaptation_monotone {H : Headers} {p : CChainParams}
    (hp : p = CMainParams H D ∨ p = CTestNetParams H D) (calls : List (Nat × Int)) :
    (calls.Chain' (fun x y => x.1 ≤ y.1) →
      (traceLLMQ D (Node.fresh p) calls).tail.Chain' SizesLe) ∧
    (calls.Chain' (fun x y => y.1 ≤ x.1) →
      (traceLLMQ D (Node.fresh p) calls).tail.Chain' fun n n' => SizesLe n' n) := by
  have hA : p.Adaptive := by
    rcases hp with rfl | rfl
    exacts [CMainParams_adaptive D H, CTestNetParams_adaptive D H]
  cases calls with
  | nil => exact ⟨fun _ => List.chain'_nil, fun _ => List.chain'_nil⟩
  | cons x xs =>
    simp only [traceLLMQ, List.tail_cons, updateLLMQParams_fresh hA]
    refine ⟨fun hc => traceLLMQ_chain (Q := (· ≤ ·))
      (I := fun a c => a.lastCheckMnCount ≤ c) hA ?_ xs _ ?_ hc.tail,
      fun hc => traceLLMQ_chain (Q := fun c c' => c' ≤ c) (I := Adapted.DownReady) hA ?_ xs _ ?_
        hc.tail⟩
    · intro a c h ha
      refine ⟨Adapted.sizesLe_node fun k => a.step_up ha k, fun c' hc' => ?_⟩
      rcases Adapted.step_lastCheckMnCount (a := a) (m := isLLMQsMiningPhase
        (a.node D p).params.consensus.llmqs h) (c := c) (h := h) with e | e <;>
        simp only [Adapted.next, e] <;> omega
    · intro y hy
      cases xs <;> cases hy
      exact (List.chain'_cons.1 hc).1
    · intro a c h ha
      exact ⟨Adapted.sizesLe_node fun k => a.step_down ha k, fun c' => a.step_downReady ha⟩
    · intro y hy
      cases xs <;> cases hy
      exact ⟨(List.chain'_cons.1 hc).1, fun h => by simp at h⟩

/-- Monotone adaptation on a growing main network. -/
theorem adaptation_monotone_main :
    (CMainParams sampleHeaders sampleLLMQDefs = CMainParams sampleHeaders sampleLLMQDefs ∨
      CMainParams sampleHeaders sampleLLMQDefs = CTestNetParams sampleHeaders sampleLLMQDefs) ∧
    (([(50, 1), (700, 2), (2500, 3)] : List (Nat × Int)).Chain' (fun x y => x.1 ≤ y.1) →
      (traceLLMQ sampleLLMQDefs (Node.fresh (CMainParams sampleHeaders sampleLLMQDefs))
        [(50, 1), (700, 2), (2500, 3)]).tail.Chain' SizesLe) :=
  ⟨.inl rfl, (adaptation_monotone sampleLLMQDefs (.inl rfl) _).1⟩

/-! ### The small-network safety net -/

/-- Different member counts make different records. -/
theorem LLMQDefs.ne_of_memberCount {r r' : LLMQRecord} {n n' : Int} (hr : r.memberCount = some n)
    (hr' : r'.memberCount = some n') (h : n ≠ n') : D r ≠ D r' := fun e =>
  h (by rw [← D.size_eq r n hr, ← D.size_eq r' n' hr', e])

/-- On main, a call with a count of 90, below main's first tier boundary of 100, that the guard
skips leaves `LLMQ_60_75` on `llmq_20_75`: the skipped branch downgrades only below 80. -/
theorem main_skip_keeps_llmq60_75 (H : Headers) :
    (runLLMQ D (Node.fresh (CMainParams H D)) [(700, 10), (90, 5)]).params.consensus.llmqs
      .LLMQ_60_75 = some (D .llmq_20_75) ∧ D .llmq_20_75 ≠ D .llmq_10_75 := by
  have hA := CMainParams_adaptive D H
  refine ⟨?_, D.ne_of_memberCount rfl rfl (by decide)⟩
  rw [runLLMQ_cons, updateLLMQParams_fresh hA, runLLMQ_cons, updateLLMQParams_node hA]
  rfl

/-! ### The mining-phase guard -/

/-- **Deferral in a mining phase.**  From any state checked at least once (`lastCheckHeight` not
the sentinel `-1`), a call at a height where some catalog entry is in its DKG mining window
leaves the state as it was, or only sets `LLMQ_60_75` to `llmq_10_75`. -/
theorem mining_phase_defers (n : Node) (c : Nat) (h : Int) (hh : n.lastCheckHeight ≠ -1)
    (hm : isLLMQsMiningPhase n.params.consensus.llmqs h = true) :
    updateLLMQParams D n c h = n ∨
      updateLLMQParams D n c h = { n with
        params := n.params.setLLMQs (n.params.consensus.llmqs.set .LLMQ_60_75 (D .llmq_10_75)) } := by
  by_cases hA : n.params.Adaptive
  · have hg : ¬ n.Guard c h := by simp [Node.Guard, hm, hh]
    by_cases hc : c < 80
    · exact .inr (updateLLMQParams_of_skip_lt hA hg hc)
    · exact .inl (updateLLMQParams_of_skip_ge hA hg (by omega))
  · exact .inl (updateLLMQParams_of_not_adaptive hA)

/-- Deferral on the main network, checked at height 5, for a call at height 34, where the
sample `llmq_50_60` is in its mining window. -/
theorem mining_phase_defers_main :
    (⟨CMainParams sampleHeaders sampleLLMQDefs, 0, 5⟩ : Node).lastCheckHeight ≠ -1 ∧
    isLLMQsMiningPhase (CMainParams sampleHeaders sampleLLMQDefs).consensus.llmqs 34 = true ∧
    (updateLLMQParams sampleLLMQDefs ⟨CMainParams sampleHeaders sampleLLMQDefs, 0, 5⟩ 700 34 =
        ⟨CMainParams sampleHeaders sampleLLMQDefs, 0, 5⟩ ∨
      updateLLMQParams sampleLLMQDefs ⟨CMainParams sampleHeaders sampleLLMQDefs, 0, 5⟩ 700 34 =
        { (⟨CMainParams sampleHeaders sampleLLMQDefs, 0, 5⟩ : Node) with
          params := (CMainParams sampleHeaders sampleLLMQDefs).setLLMQs
            ((CMainParams sampleHeaders sampleLLMQDefs).consensus.llmqs.set .LLMQ_60_75
              (sampleLLMQDefs .llmq_10_75)) }) :=
  have hm : isLLMQsMiningPhase (CMainParams sampleHeaders sampleLLMQDefs).consensus.llmqs 34 =
      true := by decide
  ⟨by decide, hm, mining_phase_defers sampleLLMQDefs _ 700 34 (by decide) hm⟩

/-- The first call after selection is not deferred by a mining phase: at the start of the
mining window of `llmq_50_60`, one interval up, it still records the count. -/
theorem first_call_ignores_mining_in_window (H : Headers) :
    isLLMQsMiningPhase (CMainParams H D).consensus.llmqs
        ((D .llmq_50_60).dkgMiningWindowStart + (D .llmq_50_60).dkgInterval) = true ∧
      (updateLLMQParams D (Node.fresh (CMainParams H D)) 700
        ((D .llmq_50_60).dkgMiningWindowStart + (D .llmq_50_60).dkgInterval)).lastCheckMnCount ≠
        (Node.fresh (CMainParams H D)).lastCheckMnCount := by
  refine ⟨isLLMQsMiningPhase_iff.2 ⟨.LLMQ_50_60, _, rfl, isMiningPhase_windowStart
    (D.window_inside _)⟩, ?_⟩
  rw [updateLLMQParams_fresh (CMainParams_adaptive D H)]
  simp [Node.fresh]

/-- The first call on the sample records, at height 34, in the window of `llmq_50_60`. -/
theorem first_call_ignores_mining :
    isLLMQsMiningPhase (CMainParams sampleHeaders sampleLLMQDefs).consensus.llmqs 34 = true ∧
      (updateLLMQParams sampleLLMQDefs (Node.fresh (CMainParams sampleHeaders sampleLLMQDefs))
        700 34).lastCheckMnCount ≠
        (Node.fresh (CMainParams sampleHeaders sampleLLMQDefs)).lastCheckMnCount :=
  first_call_ignores_mining_in_window sampleLLMQDefs sampleHeaders

end Maximus
