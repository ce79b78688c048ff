import Specimen.Seed

/-!
# Specimen.Proofs.Seed

The seeds of the instances of a batch (`batch_distinct`).

The seed of every instance but the first is mixed from the seed of the batch and from the index, by
steps that can be undone: the multiplier is odd and therefore has an inverse modulo 2⁶⁴. So the seed
tells the index (`ofInstance_eq_iff`).
-/

namespace Specimen.Seed

variable {base index other seed : UInt64}

/-- The inverse of the multiplier that mixes the seeds of instances. -/
def unmix : UInt64 := 0xce965057aff6957b

theorem mul_unmix (word : UInt64) : word * 0x100000001b3 * unmix = word := by
  have hinverse : 0x100000001b3 * unmix = 1 := by decide
  rw [UInt64.mul_assoc, hinverse, UInt64.mul_one]

theorem unmix_mul (word : UInt64) : word * unmix * 0x100000001b3 = word := by
  rw [UInt64.mul_assoc, UInt64.mul_comm unmix, ← UInt64.mul_assoc, mul_unmix]

/-- The index whose instance would have a seed. -/
def indexOf (base seed : UInt64) : UInt64 :=
  (base ^^^ 0xcbf29ce484222325) * 0x100000001b3 ^^^ seed * unmix

/-- Behind the first instance, there is at most one with a given seed. -/
theorem ofInstance_eq_iff (hi : index ≠ 0) :
    ofInstance base index = seed ↔ index = indexOf base seed := by
  unfold ofInstance indexOf
  rw [if_neg hi]
  constructor
  · rintro rfl
    rw [mul_unmix, ← UInt64.xor_assoc, UInt64.xor_self, UInt64.zero_xor]
  · rintro rfl
    rw [← UInt64.xor_assoc, UInt64.xor_self, UInt64.zero_xor, unmix_mul]

/-- Behind the first instance, different instances have different seeds. -/
theorem ofInstance_inj (hi : index ≠ 0) (ho : other ≠ 0) :
    ofInstance base index = ofInstance base other ↔ index = other := by
  rw [ofInstance_eq_iff hi, ← (ofInstance_eq_iff ho).mp rfl]

/-! ### Batches -/

theorem toUInt64_inj {i j : Nat} (hi : i < 2 ^ 64) (hj : j < 2 ^ 64) :
    i.toUInt64 = j.toUInt64 ↔ i = j := by
  refine ⟨fun h => ?_, congrArg Nat.toUInt64⟩
  have hword := congrArg UInt64.toNat h
  rwa [Nat.toUInt64_eq, Nat.toUInt64_eq, UInt64.toNat_ofNat', UInt64.toNat_ofNat',
    Nat.mod_eq_of_lt hi, Nat.mod_eq_of_lt hj] at hword

/-- The seeds of the instances of a batch, in order. -/
def batch (base : UInt64) (count : Nat) : List UInt64 :=
  (List.range count).map fun index => ofInstance base index.toUInt64

theorem nodup_tail_batch {count : Nat} (hc : count ≤ 2 ^ 64) : (batch base count).tail.Nodup := by
  rw [batch, ← List.map_tail, List.tail_range, List.Nodup, List.pairwise_map]
  refine List.Pairwise.imp_of_mem (fun {i j} hi hj hij => ?_) (List.nodup_range' 1)
  rw [List.mem_range'_1] at hi hj
  have hne {k : Nat} (hk : 1 ≤ k ∧ k < 1 + (count - 1)) : k.toUInt64 ≠ 0 := fun h =>
    Nat.ne_of_gt hk.1 ((toUInt64_inj (by omega) (by decide)).mp h)
  rw [Ne, ofInstance_inj (hne hi) (hne hj), toUInt64_inj (by omega) (by omega)]
  exact hij

/-- **The seeds of a batch.** Instances with different indices have different seeds, but for the
first one, which keeps the seed of the batch. So no seed occurs twice in a batch behind the first. -/
theorem batch_distinct (base : UInt64) :
    (∀ i j : UInt64, i ≠ 0 → j ≠ 0 → i ≠ j → ofInstance base i ≠ ofInstance base j) ∧
    ∀ count ≤ 2 ^ 64, (batch base count).tail.Nodup :=
  ⟨fun _ _ hi hj hij hseed => hij ((ofInstance_inj hi hj).mp hseed), fun _ => nodup_tail_batch⟩

/-- The second and the third instance, and four of them together. -/
theorem batch_distinct_nine :
    ((1 : UInt64) ≠ 0 ∧ (2 : UInt64) ≠ 0 ∧ (1 : UInt64) ≠ 2 ∧ ofInstance 9 1 ≠ ofInstance 9 2) ∧
      4 ≤ 2 ^ 64 ∧ (batch 9 4).tail.Nodup := by
  obtain ⟨hpair, hbatch⟩ := batch_distinct 9
  exact ⟨⟨by decide, by decide, by decide, hpair 1 2 (by decide) (by decide) (by decide)⟩,
    by decide, hbatch 4 (by decide)⟩

end Specimen.Seed
