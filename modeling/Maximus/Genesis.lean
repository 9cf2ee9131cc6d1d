import Maximus.Args

/-!
# The devnet genesis search

`CDevNetParams` mines the devnet genesis block while it is constructed.
`FindDevNetGenesisBlock` builds the block `CreateDevNetGenesisBlock` gives on top of the
network's genesis block, then runs `for (uint32_t nNonce = 0; nNonce < UINT32_MAX; nNonce++)`,
returning the block as soon as its hash is at most the target its `nBits` encode, and ends in
`assert(false)` when the loop runs out.

The block hash, `arith_uint256::SetCompact` and `BlockMerkleRoot` come from headers outside
this excerpt and enter as the parameters `PowFunctions`: every result holds for every hash
function.

* `nonceSearch_spec` : the loop, from any nonce `s` and with fuel for the nonces left below
  `UINT32_MAX`, returns the block at the least nonce of `[s, UINT32_MAX)` that meets the
  target, or nothing when none does.
* `findDevNetGenesisBlock_spec` : for a non-empty devnet name, the search returns the template
  at the least nonce below `UINT32_MAX` that meets the target, and otherwise fails its
  assertion; it fails in no other way.
* `findDevNetGenesisBlock_skips_last_nonce` : the nonce `0xFFFFFFFF` is never tried.  Under a
  hash that only this nonce brings under the target, the search fails its assertion although
  `0xFFFFFFFF` is the least nonce of the full 32-bit range that meets the target.

Only what the source sets in the coinbase is kept: the outpoint and sequence of the input that
`vin.resize(1)` creates and the lock time keep their default values and are not modelled.
-/

namespace Maximus

/-! ### Blocks -/

/-- The opcodes the devnet genesis script uses. -/
inductive OpcodeType where
  | OP_RETURN
  deriving DecidableEq, Repr

/-- What `CScript::operator<<` appends to a script. -/
inductive ScriptItem where
  /-- An integer, pushed as a number. -/
  | num (n : Int)
  /-- A byte vector, pushed as data. -/
  | data (bytes : List UInt8)
  /-- An opcode. -/
  | op (opcode : OpcodeType)
  deriving DecidableEq, Repr

/-- `CTxIn`: its `scriptSig`. -/
structure CTxIn where
  scriptSig : List ScriptItem
  deriving DecidableEq, Repr

/-- `CTxOut`. -/
structure CTxOut where
  nValue : Int
  scriptPubKey : List ScriptItem
  deriving DecidableEq, Repr

/-- `CMutableTransaction`, and the `CTransaction` made from it. -/
structure CMutableTransaction where
  nVersion : Int
  vin : List CTxIn
  vout : List CTxOut
  deriving DecidableEq, Repr

/-- `CBlock`.  A `uint256` is the number `UintToArith256` reads from it. -/
structure CBlock where
  nVersion : Int
  hashPrevBlock : Nat
  hashMerkleRoot : Nat
  nTime : UInt32
  nBits : UInt32
  nNonce : UInt32
  vtx : List CMutableTransaction
  deriving DecidableEq, Repr

/-- The functions of `primitives/block.h`, `arith_uint256.h` and `consensus/merkle.h` that the
search calls. -/
structure PowFunctions where
  /-- `UintToArith256(block.GetHash())`. -/
  getHash : CBlock → Nat
  /-- `arith_uint256::SetCompact(nBits)`: the target `nBits` encodes.  The caller ignores the
  negative and overflow flags. -/
  setCompact : UInt32 → Nat
  /-- `BlockMerkleRoot(block)`. -/
  blockMerkleRoot : CBlock → Nat

/-- `UINT32_MAX`. -/
def UINT32_MAX : UInt32 := 0xFFFFFFFF

/-! ### The search -/

/-- `CreateDevNetGenesisBlock(prevBlockHash, devNetName, nTime, nNonce, nBits, genesisReward)`:
a version-4 block on top of `prevBlockHash` whose one transaction pays `genesisReward` to an
unspendable `OP_RETURN` output and carries the height `1` (BIP34) and the devnet name in its
`scriptSig`. -/
def createDevNetGenesisBlock (blockMerkleRoot : CBlock → Nat) (prevBlockHash : Nat)
    (devNetName : String) (nTime nNonce nBits : UInt32) (genesisReward : Int) :
    Except Fault CBlock :=
  if devNetName = "" then throw .assertFailed
  else
    let txNew : CMutableTransaction :=
      { nVersion := 1
        vin := [{ scriptSig := [.num 1, .data devNetName.toUTF8.data.toList] }]
        vout := [{ nValue := genesisReward, scriptPubKey := [.op .OP_RETURN] }] }
    let genesis : CBlock :=
      { nVersion := 4, hashPrevBlock := prevBlockHash, hashMerkleRoot := 0, nTime, nBits, nNonce,
        vtx := [txNew] }
    pure { genesis with hashMerkleRoot := blockMerkleRoot genesis }

/-- The loop of `FindDevNetGenesisBlock`, from the nonce `nNonce` on: while
`nNonce < UINT32_MAX`, set `block.nNonce` and return the block if its hash is at most
`bnTarget`; `none` when the loop ends.  `fuel` bounds the iterations. -/
def nonceSearch (getHash : CBlock → Nat) (bnTarget : Nat) :
    Nat → CBlock → UInt32 → Option CBlock
  | 0, _, _ => none
  | fuel + 1, block, nNonce =>
    if nNonce < UINT32_MAX then
      let block := { block with nNonce }
      if getHash block ≤ bnTarget then some block
      else nonceSearch getHash bnTarget fuel block (nNonce + 1)
    else none

/-- `FindDevNetGenesisBlock(prevBlock, reward)`, with `gArgs` the process-wide argument manager.
The loop runs at most `UINT32_MAX` times and is given that much fuel; `error(...)` followed by
`assert(false)` is a failed assertion. -/
def findDevNetGenesisBlock (P : PowFunctions) (gArgs : ArgsManager) (prevBlock : CBlock)
    (reward : Int) : Except Fault CBlock := do
  let devNetName := gArgs.getDevNetName
  if devNetName = "" then throw .assertFailed
  let block ← createDevNetGenesisBlock P.blockMerkleRoot (P.getHash prevBlock) devNetName
    (prevBlock.nTime + 1) 0 prevBlock.nBits reward
  let bnTarget := P.setCompact block.nBits
  match nonceSearch P.getHash bnTarget UINT32_MAX.toNat block 0 with
  | some block => pure block
  | none => throw .assertFailed

/-- `CreateDevNetGenesisBlock` fails its assertion on an empty name only. -/
theorem createDevNetGenesisBlock_ok (blockMerkleRoot : CBlock → Nat) (prevBlockHash : Nat)
    {devNetName : String} (nTime nNonce nBits : UInt32) (genesisReward : Int)
    (h : devNetName ≠ "") : ∃ genesis, createDevNetGenesisBlock blockMerkleRoot prevBlockHash
      devNetName nTime nNonce nBits genesisReward = .ok genesis :=
  ⟨_, if_neg h⟩

/-! ### Nonces -/

theorem UInt32.lt_iff_toNat_lt {a b : UInt32} : a < b ↔ a.toNat < b.toNat := Iff.rfl

theorem UInt32.le_iff_toNat_le {a b : UInt32} : a ≤ b ↔ a.toNat ≤ b.toNat := Iff.rfl

theorem UInt32.lt_of_le_of_lt {a b c : UInt32} (h₁ : a ≤ b) (h₂ : b < c) : a < c :=
  Nat.lt_of_le_of_lt h₁ h₂

theorem UINT32_MAX_toNat : UINT32_MAX.toNat = 2 ^ 32 - 1 := rfl

/-- The loop's increment does not wrap. -/
theorem toNat_add_one_of_lt_UINT32_MAX {s : UInt32} (h : s < UINT32_MAX) :
    (s + 1).toNat = s.toNat + 1 := by
  have h : s.toBitVec.toNat < 2 ^ 32 - 1 := h
  simp only [UInt32.add_def, UInt32.toNat, BitVec.toNat_add]
  exact Nat.mod_eq_of_lt (show s.toBitVec.toNat + 1 < 2 ^ 32 by omega)

/-- A nonce from `s` on is `s` itself or comes after `s + 1`. -/
theorem eq_or_add_one_le_of_le {s m : UInt32} (hs : s < UINT32_MAX) (h : s ≤ m) :
    m = s ∨ s + 1 ≤ m := by
  rw [UInt32.le_iff_toNat_le] at h
  rw [UInt32.le_iff_toNat_le, toNat_add_one_of_lt_UINT32_MAX hs]
  rcases Nat.eq_or_lt_of_le h with h | h
  · exact .inl (UInt32.toNat.inj h.symm)
  · exact .inr h

/-! ### The loop -/

section Loop

variable (getHash : CBlock → Nat) (bnTarget : Nat)

/-- `n` is the least nonce of `[s, bound)` at which `block` meets the target `bnTarget`. -/
def LeastNonce (block : CBlock) (s : UInt32) (bound : Nat) (n : UInt32) : Prop :=
  s ≤ n ∧ n.toNat < bound ∧ getHash { block with nNonce := n } ≤ bnTarget ∧
    ∀ m, s ≤ m → m < n → bnTarget < getHash { block with nNonce := m }

/-- **The loop.**  Started at nonce `s` with fuel for the nonces left below `UINT32_MAX`, the
loop returns the block at the least nonce of `[s, UINT32_MAX)` that meets the target, or
nothing when no nonce of that range does. -/
theorem nonceSearch_spec (fuel : Nat) (block : CBlock) (s : UInt32)
    (hfuel : UINT32_MAX.toNat - s.toNat ≤ fuel) :
    (∃ n, LeastNonce getHash bnTarget block s UINT32_MAX.toNat n ∧
        nonceSearch getHash bnTarget fuel block s = some { block with nNonce := n }) ∨
      ((∀ m, s ≤ m → m < UINT32_MAX → bnTarget < getHash { block with nNonce := m }) ∧
        nonceSearch getHash bnTarget fuel block s = none) := by
  induction fuel generalizing block s with
  | zero =>
    have hs : ¬ s < UINT32_MAX := by rw [UInt32.lt_iff_toNat_lt]; omega
    exact .inr ⟨fun m hsm hm => absurd (UInt32.lt_of_le_of_lt hsm hm) hs, rfl⟩
  | succ fuel ih =>
    by_cases hs : s < UINT32_MAX
    case neg =>
      -- the loop has ended
      exact .inr ⟨fun m hsm hm => absurd (UInt32.lt_of_le_of_lt hsm hm) hs,
        by simp [nonceSearch, hs]⟩
    by_cases hm : getHash { block with nNonce := s } ≤ bnTarget
    case pos =>
      -- `s` meets the target
      exact .inl ⟨s, ⟨UInt32.le_refl s, hs, hm, fun m hsm hms =>
        absurd (UInt32.lt_of_le_of_lt hsm hms) (UInt32.lt_irrefl s)⟩, by simp [nonceSearch, hs, hm]⟩
    -- `s` misses the target: the loop goes on from `s + 1`
    have hstep : nonceSearch getHash bnTarget (fuel + 1) block s =
        nonceSearch getHash bnTarget fuel { block with nNonce := s } (s + 1) := by
      simp [nonceSearch, hs, hm]
    have hsucc := toNat_add_one_of_lt_UINT32_MAX hs
    have hmiss : ∀ m, s ≤ m → (s + 1 ≤ m → bnTarget < getHash { block with nNonce := m }) →
        bnTarget < getHash { block with nNonce := m } := fun m hsm h =>
      (eq_or_add_one_le_of_le hs hsm).elim (fun h => h ▸ Nat.lt_of_not_le hm) h
    rw [hstep]
    rcases ih { block with nNonce := s } (s + 1) (by omega) with
      ⟨n, ⟨hsn, hn, hmet, hleast⟩, h⟩ | ⟨hnone, h⟩
    · refine .inl ⟨n, ⟨?_, hn, hmet, fun m hsm hmn => hmiss m hsm (hleast m · hmn)⟩, h⟩
      rw [UInt32.le_iff_toNat_le] at hsn ⊢
      omega
    · exact .inr ⟨fun m hsm hm => hmiss m hsm (hnone m · hm), h⟩

end Loop

/-! ### The search -/

section Search

variable (P : PowFunctions) (gArgs : ArgsManager) (prevBlock : CBlock) (reward : Int)

/-- With a devnet name, the search builds its template and runs the loop on it from nonce `0`
with `UINT32_MAX` iterations of fuel. -/
theorem findDevNetGenesisBlock_eq {tmpl : CBlock} (hname : gArgs.getDevNetName ≠ "")
    (htmpl : createDevNetGenesisBlock P.blockMerkleRoot (P.getHash prevBlock)
      gArgs.getDevNetName (prevBlock.nTime + 1) 0 prevBlock.nBits reward = .ok tmpl) :
    findDevNetGenesisBlock P gArgs prevBlock reward =
      (nonceSearch P.getHash (P.setCompact tmpl.nBits) UINT32_MAX.toNat tmpl 0).elim
        (.error .assertFailed) .ok := by
  simp only [findDevNetGenesisBlock, hname, htmpl, if_false, pure_bind, bind, Except.bind]
  cases nonceSearch P.getHash (P.setCompact tmpl.nBits) UINT32_MAX.toNat tmpl 0 <;> rfl

/-- **The devnet genesis search.**  For a non-empty devnet name, `FindDevNetGenesisBlock`
returns the template `CreateDevNetGenesisBlock` gives, at the least nonce below `UINT32_MAX`
whose hash is at most the target of the template's `nBits`, or fails its assertion when no nonce
below `UINT32_MAX` meets that target.  It ends in no other way. -/
theorem findDevNetGenesisBlock_spec (hname : gArgs.getDevNetName ≠ "") :
    ∃ tmpl, createDevNetGenesisBlock P.blockMerkleRoot (P.getHash prevBlock)
        gArgs.getDevNetName (prevBlock.nTime + 1) 0 prevBlock.nBits reward = .ok tmpl ∧
      ((∃ n, LeastNonce P.getHash (P.setCompact tmpl.nBits) tmpl 0 UINT32_MAX.toNat n ∧
          findDevNetGenesisBlock P gArgs prevBlock reward = .ok { tmpl with nNonce := n }) ∨
        ((∀ n, n < UINT32_MAX → P.setCompact tmpl.nBits < P.getHash { tmpl with nNonce := n }) ∧
          findDevNetGenesisBlock P gArgs prevBlock reward = .error .assertFailed)) := by
  obtain ⟨tmpl, htmpl⟩ := createDevNetGenesisBlock_ok P.blockMerkleRoot (P.getHash prevBlock)
    (prevBlock.nTime + 1) 0 prevBlock.nBits reward hname
  refine ⟨tmpl, htmpl, ?_⟩
  rw [findDevNetGenesisBlock_eq P gArgs prevBlock reward hname htmpl]
  rcases nonceSearch_spec P.getHash _ UINT32_MAX.toNat _ 0 (Nat.sub_le _ _) with
    ⟨n, hn, h⟩ | ⟨hnone, h⟩
  · exact .inl ⟨n, hn, by rw [h]; rfl⟩
  · exact .inr ⟨fun n => hnone n n.toNat.zero_le, by rw [h]; rfl⟩

/-- The devnet's genesis header fields (time `1729976223`, bits `0x207fffff`), a reward of
`50 * COIN` and a hash `5 - nNonce` against the target `2`. -/
theorem findDevNetGenesisBlock_spec_devnet :
    ArgsManager.empty.getDevNetName ≠ "" ∧
    ∃ tmpl, createDevNetGenesisBlock (fun _ => 0) (5 - (0 : UInt32).toNat)
        ArgsManager.empty.getDevNetName (1729976223 + 1) 0 0x207fffff 5000000000 = .ok tmpl ∧
      ((∃ n, LeastNonce (fun b => 5 - b.nNonce.toNat) 2 tmpl 0 UINT32_MAX.toNat n ∧
          findDevNetGenesisBlock ⟨fun b => 5 - b.nNonce.toNat, fun _ => 2, fun _ => 0⟩
            ArgsManager.empty ⟨1, 0, 0, 1729976223, 0x207fffff, 0, []⟩ 5000000000 =
            .ok { tmpl with nNonce := n }) ∨
        ((∀ n, n < UINT32_MAX → 2 < 5 - ({ tmpl with nNonce := n } : CBlock).nNonce.toNat) ∧
          findDevNetGenesisBlock ⟨fun b => 5 - b.nNonce.toNat, fun _ => 2, fun _ => 0⟩
            ArgsManager.empty ⟨1, 0, 0, 1729976223, 0x207fffff, 0, []⟩ 5000000000 =
            .error .assertFailed)) :=
  ⟨by decide, findDevNetGenesisBlock_spec ⟨fun b => 5 - b.nNonce.toNat, fun _ => 2, fun _ => 0⟩
    ArgsManager.empty ⟨1, 0, 0, 1729976223, 0x207fffff, 0, []⟩ 5000000000 (by decide)⟩

example : (findDevNetGenesisBlock ⟨fun b => 5 - b.nNonce.toNat, fun _ => 2, fun _ => 0⟩
    ArgsManager.empty ⟨1, 0, 0, 1729976223, 0x207fffff, 0, []⟩ 5000000000).map CBlock.nNonce =
    .ok 3 := rfl

/-! ### The last nonce -/

/-- A hash under which a block meets `target` exactly when its nonce is `0xFFFFFFFF`. -/
def lastNonceHash (target : Nat) (block : CBlock) : Nat :=
  if block.nNonce = UINT32_MAX then 0 else target + 1

theorem lt_lastNonceHash {target : Nat} {block : CBlock} (h : block.nNonce ≠ UINT32_MAX) :
    target < lastNonceHash target block := by
  simp [lastNonceHash, h]

/-- **The last nonce is never tried.**  Under `lastNonceHash` of the target, `0xFFFFFFFF` is the
least nonce of the full 32-bit range at which the template meets its target, and still the
search fails its assertion: the loop stops at `nNonce < UINT32_MAX`. -/
theorem findDevNetGenesisBlock_skips_last_nonce (setCompact : UInt32 → Nat)
    (blockMerkleRoot : CBlock → Nat) (hname : gArgs.getDevNetName ≠ "") :
    ∃ tmpl, createDevNetGenesisBlock blockMerkleRoot
        (lastNonceHash (setCompact prevBlock.nBits) prevBlock) gArgs.getDevNetName
        (prevBlock.nTime + 1) 0 prevBlock.nBits reward = .ok tmpl ∧
      LeastNonce (lastNonceHash (setCompact prevBlock.nBits)) (setCompact tmpl.nBits) tmpl 0
        UInt32.size UINT32_MAX ∧
      findDevNetGenesisBlock ⟨lastNonceHash (setCompact prevBlock.nBits), setCompact,
        blockMerkleRoot⟩ gArgs prevBlock reward = .error .assertFailed := by
  refine ⟨_, if_neg hname, ⟨Nat.zero_le _, UINT32_MAX.toNat_lt_size, by simp [lastNonceHash],
    fun m _ hm => lt_lastNonceHash (UInt32.ne_of_lt hm)⟩, ?_⟩
  rw [findDevNetGenesisBlock_eq _ gArgs prevBlock reward hname (if_neg hname)]
  rcases nonceSearch_spec (lastNonceHash (setCompact prevBlock.nBits)) (setCompact prevBlock.nBits)
    UINT32_MAX.toNat _ 0 (Nat.sub_le _ _) with ⟨n, ⟨-, hn, hmet, -⟩, -⟩ | ⟨-, h⟩
  · exact absurd hmet (Nat.not_le_of_lt (lt_lastNonceHash (UInt32.ne_of_lt hn)))
  · rw [h]; rfl

/-- The devnet's genesis header fields and a reward of `50 * COIN`, against the target `0`. -/
theorem findDevNetGenesisBlock_skips_last_nonce_devnet :
    ArgsManager.empty.getDevNetName ≠ "" ∧
    ∃ tmpl, createDevNetGenesisBlock (fun _ => 0)
        (lastNonceHash 0 ⟨1, 0, 0, 1729976223, 0x207fffff, 0, []⟩)
        ArgsManager.empty.getDevNetName (1729976223 + 1) 0 0x207fffff 5000000000 = .ok tmpl ∧
      LeastNonce (lastNonceHash 0) 0 tmpl 0 UInt32.size UINT32_MAX ∧
      findDevNetGenesisBlock ⟨lastNonceHash 0, fun _ => 0, fun _ => 0⟩ ArgsManager.empty
        ⟨1, 0, 0, 1729976223, 0x207fffff, 0, []⟩ 5000000000 = .error .assertFailed :=
  ⟨by decide, findDevNetGenesisBlock_skips_last_nonce ArgsManager.empty
    ⟨1, 0, 0, 1729976223, 0x207fffff, 0, []⟩ 5000000000 (fun _ => 0) (fun _ => 0) (by decide)⟩

end Search

end Maximus
