import ChainClaim.Proofs.Curve
import ChainClaim.Sample.Seeded
import Mathlib.Data.List.Nodup
import Mathlib.Data.List.Range

/-!
# Seeded channels that are told apart

A seed is a secret scalar whatever its first byte is, so there is a channel for each number
(`ofSeed?_seed`). The number is put into the seed as that one byte: channels have one key exactly if
their numbers agree in their last byte. So the first 256 channels are told apart by their keys, and
the one after them is the first one again (`several_distinct_iff`).
-/

namespace ChainClaim.SeededChannel

/-- The seed of a numbered channel: the last byte of its number, and the byte `0x11` after it. -/
def seed (number : Nat) : Bytes :=
  UInt8.ofNat number :: List.replicate 31 0x11

theorem toNat_seed (number : Nat) :
    (seed number).toNat = (numbered (UInt8.ofNat number)).key.scalar := by
  have htail : Bytes.toNat (List.replicate 31 0x11) = seedTail := by decide
  have hhead : Bytes.toNat [UInt8.ofNat number] = (UInt8.ofNat number).toNat := by
    rw [Bytes.toNat, List.foldl_cons, List.foldl_nil, Nat.zero_mul, Nat.zero_add]
  have hseed : (seed number).toNat = (UInt8.ofNat number).toNat * 256 ^ 31 + seedTail := by
    rw [seed, ← List.singleton_append, Bytes.toNat_append, htail, hhead, List.length_replicate]
  -- the scalar is put together by a shift, the number by powers of 256
  have hshift : 256 ^ 31 = 2 ^ 248 := by decide
  rw [hseed, hshift, ← Nat.shiftLeft_eq]
  rfl

theorem toBytes_numbered (number : Nat) :
    (numbered (UInt8.ofNat number)).key.toBytes = seed number := by
  rw [SigningKey.toBytes, ← toNat_seed]
  exact Bytes.ofNat_toNat rfl

/-- No seed of a numbered channel is out of range. -/
theorem ofSeed?_seed (number : Nat) :
    ofSeed? (seed number) = some (numbered (UInt8.ofNat number)) := by
  rw [ofSeed?, ← toBytes_numbered, SigningKey.ofBytes?_toBytes]
  rfl

/-- The byte in which channels differ makes their keys differ. -/
theorem key_numbered_inj {a b : UInt8} (h : (numbered a).key = (numbered b).key) : a = b := by
  have hscalar : a.toNat <<< 248 + seedTail = b.toNat <<< 248 + seedTail :=
    congrArg SigningKey.scalar h
  apply UInt8.toNat_inj.mp
  omega

theorem key_numbered_eq_iff {i j : Nat} :
    (numbered (UInt8.ofNat i)).key = (numbered (UInt8.ofNat j)).key ↔ i % 256 = j % 256 := by
  constructor
  · intro h
    have hbyte := congrArg UInt8.toNat (key_numbered_inj h)
    rwa [UInt8.toNat_ofNat', UInt8.toNat_ofNat'] at hbyte
  · intro h
    have hbyte : UInt8.ofNat i = UInt8.ofNat j := by
      apply UInt8.toNat_inj.mp
      rwa [UInt8.toNat_ofNat', UInt8.toNat_ofNat']
    rw [hbyte]

theorem getElem?_several {count i : Nat} (h : i < count) :
    (several count)[i]? = some (numbered (UInt8.ofNat i)) := by
  rw [several, List.getElem?_map, List.getElem?_range h, Option.map_some]

/-- The channels asked for are made, as many as are asked for. Two of them have one key exactly if
their numbers have one last byte, so all keys are distinct exactly up to 256 channels. -/
theorem several_distinct_iff (count : Nat) :
    (List.range count).mapM (fun i => ofSeed? (seed i)) = some (several count) ∧
      (several count).length = count ∧
      (∀ i j, i < count → j < count →
        ((several count)[i]?.map (·.key) = (several count)[j]?.map (·.key) ↔
          i % 256 = j % 256)) ∧
      (((several count).map (·.key)).Nodup ↔ count ≤ 256) := by
  refine ⟨?_, ?_, ?_, ?_⟩
  · have hmade : (fun i => ofSeed? (seed i)) = fun i => pure (numbered (UInt8.ofNat i)) :=
      funext ofSeed?_seed
    rw [hmade, List.mapM_pure]
    rfl
  · rw [several, List.length_map, List.length_range]
  · intro i j hi hj
    rw [getElem?_several hi, getElem?_several hj, ← key_numbered_eq_iff]
    exact Option.some_inj
  · have hkeys : (several count).map (·.key) =
        (List.range count).map fun i => (numbered (UInt8.ofNat i)).key := List.map_map
    -- keys without repetition are keys told apart by their numbers
    rw [hkeys, List.nodup_map_iff_inj_on List.nodup_range]
    constructor
    · intro hinj
      refine Nat.le_of_not_lt fun hmany => ?_
      -- the channel with the number 256 is the one with the number zero
      have hzero : (numbered (UInt8.ofNat 0)).key = (numbered (UInt8.ofNat 256)).key := rfl
      have h := hinj 0 (List.mem_range.mpr (by omega)) 256 (List.mem_range.mpr hmany) hzero
      cases h
    · intro hfew i hi j hj hkey
      have hi := List.mem_range.mp hi
      have hj := List.mem_range.mp hj
      have hbyte := key_numbered_eq_iff.mp hkey
      omega

/-- Of three channels the keys are distinct. -/
theorem several_distinct_three :
    ((several 3).map (·.key)).Nodup ∧ (several 3)[0]?.map (·.key) ≠ (several 3)[2]?.map (·.key) := by
  obtain ⟨-, -, hkeys, hdistinct⟩ := several_distinct_iff 3
  refine ⟨hdistinct.mpr (by decide), fun h => ?_⟩
  have hbyte := (hkeys 0 2 (by decide) (by decide)).mp h
  cases hbyte

/-- The channel after the first 256 is the first one again. -/
theorem several_repeats :
    ∃ channel, (several 257)[0]? = some channel ∧ (several 257)[256]? = some channel :=
  ⟨numbered 0, getElem?_several (by decide), getElem?_several (by decide)⟩

end ChainClaim.SeededChannel
