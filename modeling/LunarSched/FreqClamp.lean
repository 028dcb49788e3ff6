import LunarSched.Clamp
import LunarSched.Governor

/-!
The soft limits and the caps of a policy. `soft_freq_clamp` applies four one-sided bounds
one after the other; the caps come last, so they win, and all four together are one clamp
between bounds that do not depend on the target (`softFreqClamp_eq`). With it the laws of
the limits are those of a clamp (`limits_compose`).
-/
namespace LunarSched.FreqClamp
open LunarSched.Governor LunarSched.Clamp

/-- The upper bound that the soft maximum leaves below the cap. -/
def upperLimit (tun : LseGovTunables) (lg : LseGovPolicy) : ℕ :=
  if 0 ≤ tun.softFreqMax then min tun.softFreqMax.toNat lg.clusterFreqCapMax else lg.clusterFreqCapMax

/-- The lower bound that the soft minimum and the upper bound leave above the cap. -/
def lowerLimit (tun : LseGovTunables) (lg : LseGovPolicy) : ℕ :=
  max (min tun.softFreqMin.toNat (upperLimit tun lg)) lg.clusterFreqCapMin

/-- The caps that `soft_freq_clamp` applies: they are switched on and in order, and the
    upper one is set. A lower one that is not set is 0 and no limit. -/
structure Capped (y : GovSysctl) (lg : LseGovPolicy) : Prop where
  on : y.clusterFreqCapEnable ≠ 0
  positive : 0 < lg.clusterFreqCapMax
  ordered : lg.clusterFreqCapMin ≤ lg.clusterFreqCapMax

/-- The laws of the limits at one target. A second clamp is made with the record that the
    first one leaves. -/
structure LimitsCompose (y : GovSysctl) (tun : LseGovTunables) (lg : LseGovPolicy) (target : ℕ) : Prop where
  within : lg.clusterFreqCapMin ≤ (softFreqClamp y tun lg target).1 ∧
    (softFreqClamp y tun lg target).1 ≤ lg.clusterFreqCapMax
  again : (softFreqClamp y tun (softFreqClamp y tun lg target).2 (softFreqClamp y tun lg target).1).1 =
    (softFreqClamp y tun lg target).1
  mono : ∀ higher, target ≤ higher → (softFreqClamp y tun lg target).1 ≤ (softFreqClamp y tun lg higher).1
  below : 0 ≤ tun.softFreqMax → (lg.clusterFreqCapMin : ℤ) ≤ tun.softFreqMax →
    ((softFreqClamp y tun lg target).1 : ℤ) ≤ tun.softFreqMax
  above : 0 ≤ tun.softFreqMin → tun.softFreqMin ≤ lg.clusterFreqCapMax →
    (tun.softFreqMax < 0 ∨ tun.softFreqMin ≤ tun.softFreqMax) →
      tun.softFreqMin ≤ (softFreqClamp y tun lg target).1
  kept : (0 ≤ tun.softFreqMin → tun.softFreqMin ≤ target) → (0 ≤ tun.softFreqMax → (target : ℤ) ≤ tun.softFreqMax) →
    lg.clusterFreqCapMin ≤ target → target ≤ lg.clusterFreqCapMax → (softFreqClamp y tun lg target).1 = target

section
variable {y : GovSysctl} {tun : LseGovTunables} {lg : LseGovPolicy}

/-- The soft minimum: a negative one is no limit. -/
theorem softMin_eq (tun : LseGovTunables) (target : ℕ) :
    (if 0 ≤ tun.softFreqMin ∧ target < tun.softFreqMin.toNat then tun.softFreqMin.toNat else target) =
      max target tun.softFreqMin.toNat := by
  split_ifs <;> omega

/-- The caps. -/
theorem caps_eq (capped : Capped y lg) (soft : ℕ) :
    (let capMax := if lg.clusterFreqCapMax ≠ 0 ∧ lg.clusterFreqCapMax < soft then lg.clusterFreqCapMax else soft
     if lg.clusterFreqCapMin ≠ 0 ∧ capMax < lg.clusterFreqCapMin then lg.clusterFreqCapMin else capMax) =
      clamp lg.clusterFreqCapMin lg.clusterFreqCapMax soft := by
  obtain ⟨_,positive,ordered⟩ := capped
  simp only [clamp]
  split_ifs <;> omega

/-- The soft maximum and the caps after it: the lower of the two upper bounds stays. -/
theorem upper_eq (capped : Capped y lg) (tun : LseGovTunables) (freq : ℕ) :
    (let soft := if 0 ≤ tun.softFreqMax ∧ tun.softFreqMax.toNat < freq then tun.softFreqMax.toNat else freq
     let capMax := if lg.clusterFreqCapMax ≠ 0 ∧ lg.clusterFreqCapMax < soft then lg.clusterFreqCapMax else soft
     if lg.clusterFreqCapMin ≠ 0 ∧ capMax < lg.clusterFreqCapMin then lg.clusterFreqCapMin else capMax) =
      clamp lg.clusterFreqCapMin (upperLimit tun lg) freq := by
  rw [caps_eq capped,upperLimit]
  by_cases limit : 0 ≤ tun.softFreqMax
  · have soft : (if 0 ≤ tun.softFreqMax ∧ tun.softFreqMax.toNat < freq then tun.softFreqMax.toNat else freq) =
        min freq tun.softFreqMax.toNat := by
      split_ifs <;> omega
    rw [soft,clamp_min,if_pos limit]
  · rw [if_neg (fun both => limit both.1),if_neg limit]

/-- The four bounds are one clamp. -/
theorem softFreqClamp_eq (capped : Capped y lg) (tun : LseGovTunables) (target : ℕ) :
    (softFreqClamp y tun lg target).1 = clamp (lowerLimit tun lg) (upperLimit tun lg) target := by
  rw [lowerLimit,← clamp_max,← softMin_eq,← upper_eq capped]
  simp only [softFreqClamp,capped.on,ne_eq,not_false_eq_true,if_true]

/-- A clamp records what it came to and leaves the caps alone. -/
theorem softFreqClamp_caps (y : GovSysctl) (tun : LseGovTunables) (lg : LseGovPolicy) (target : ℕ) :
    (softFreqClamp y tun lg target).2 = { lg with lastFreqCapApplied := (softFreqClamp y tun lg target).1 } := rfl

theorem softFreqClamp_mono (capped : Capped y lg) (tun : LseGovTunables) :
    Monotone (fun target => (softFreqClamp y tun lg target).1) := by
  intro low high le
  simp only [softFreqClamp_eq capped]
  exact clamp_mono _ _ le

theorem softFreqClamp_again (capped : Capped y lg) (tun : LseGovTunables) (target : ℕ) :
    (softFreqClamp y tun (softFreqClamp y tun lg target).2 (softFreqClamp y tun lg target).1).1 =
      (softFreqClamp y tun lg target).1 := by
  have same : Capped y (softFreqClamp y tun lg target).2 := ⟨capped.on,capped.positive,capped.ordered⟩
  rw [softFreqClamp_eq same,softFreqClamp_caps,softFreqClamp_eq capped]
  exact clamp_idem _ _ _

end

/-- On every policy whose caps are set and in order, soft limits and caps compose. -/
theorem limits_compose (y : GovSysctl) (tun : LseGovTunables) (lg : LseGovPolicy) (target : ℕ)
    (on : y.clusterFreqCapEnable ≠ 0) (positive : 0 < lg.clusterFreqCapMin)
    (ordered : lg.clusterFreqCapMin ≤ lg.clusterFreqCapMax) : LimitsCompose y tun lg target := by
  have capped : Capped y lg := ⟨on,positive.trans_le ordered,ordered⟩
  refine ⟨?_,softFreqClamp_again capped tun target,fun higher le => softFreqClamp_mono capped tun le,?_,?_,?_⟩
  · rw [softFreqClamp_eq capped]
    unfold clamp lowerLimit upperLimit
    split_ifs <;> omega
  · intro soft least
    rw [softFreqClamp_eq capped]
    simp only [clamp,lowerLimit,upperLimit,soft,if_true]
    omega
  · intro soft most compatible
    rw [softFreqClamp_eq capped]
    unfold clamp lowerLimit upperLimit
    split_ifs <;> omega
  · intro softMin softMax low high
    rw [softFreqClamp_eq capped]
    refine clamp_of_within ?_ ?_
    · unfold lowerLimit upperLimit
      split_ifs <;> omega
    · unfold upperLimit
      split_ifs <;> omega

/-- The soft minimum is above the soft maximum and the caps: the cap wins. -/
theorem limits_compose_crossed :
    LimitsCompose govSysctlDefaults ⟨90,800000,3000000,true⟩
      { lseGovPolicyAlloc with clusterFreqCapMin := 500000, clusterFreqCapMax := 2000000 } 1000000 :=
  limits_compose _ _ _ _ (by decide) (by decide) (by decide)

end LunarSched.FreqClamp
