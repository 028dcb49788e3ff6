import LunarSched.UtilTrack

/-!
The window update at full range. `update_window_start` counts the windows since the
CPU's window started as a 64-bit quotient and keeps the count in an `int`. A count that
does not fit comes back smaller or, widened with its sign, as a step back, and neither
ends in the window of the wallclock; so the update lands on the right boundary exactly
when the count fits (`lands_right_iff`).
-/
namespace LunarSched.WindowAdvance
open LunarSched.Machine LunarSched.Kernel LunarSched.UtilTrack

/-- The CPU's record after the update. -/
def advanced (g : Track) (lrq : LseRq) (wallclock : ℕ) : LseRq := (updateWindowStart g lrq wallclock).2.1

/-- The number of whole windows since the CPU's window started. -/
def windowsPassed (g : Track) (lrq : LseRq) (wallclock : ℕ) : ℕ := (wallclock - lrq.windowStart) / g.ravgWindow

/-- The new window is a number of windows after the old one and contains the wallclock,
    and the CPU's clock is the wallclock. -/
structure LandsRight (g : Track) (lrq : LseRq) (wallclock : ℕ) : Prop where
  multiple : ∃ count, (advanced g lrq wallclock).windowStart = lrq.windowStart + count * g.ravgWindow
  latest : (advanced g lrq wallclock).latestClock = wallclock
  started : (advanced g lrq wallclock).windowStart ≤ wallclock
  inside : wallclock < (advanced g lrq wallclock).windowStart + g.ravgWindow

section
variable {g : Track} {lrq : LseRq} {wallclock : ℕ}

/-- The CPU's clock is not behind its window and the wallclock is not behind the clock,
    and the wallclock is not negative as a signed word. -/
structure InOrder (g : Track) (lrq : LseRq) (wallclock : ℕ) : Prop where
  positive : 0 < g.ravgWindow
  word : g.ravgWindow < 4294967296
  behind : lrq.windowStart ≤ lrq.latestClock
  later : lrq.latestClock ≤ wallclock
  small : wallclock < 9223372036854775808

theorem forward_of_few (order : InOrder g lrq wallclock) (few : windowsPassed g lrq wallclock < 2147483648) :
    Forward g.ravgWindow lrq wallclock := by
  obtain ⟨positive,word,behind,later,small⟩ := order
  have gap : wallclock - lrq.windowStart < 2147483648 * g.ravgWindow := (Nat.div_lt_iff_lt_mul positive).mp few
  exact ⟨positive,word,later,behind.trans later,by omega,by omega⟩

theorem lands_right_of_few (order : InOrder g lrq wallclock) (few : windowsPassed g lrq wallclock < 2147483648) :
    LandsRight g lrq wallclock := by
  have forward := forward_of_few order few
  have same : advanced g lrq wallclock = advance g.ravgWindow lrq wallclock := by
    rw [advanced,updateWindowStart_forward forward]
  obtain ⟨started,inside⟩ := advance_contains forward
  refine ⟨?_,?_,?_,?_⟩
  · exact ⟨_,same ▸ advance_windowStart⟩
  · rw [same,advance_latestClock]
  · rwa [same]
  · rwa [same]

/-- The new window start, with the count as the `int` holds it. -/
theorem advanced_windowStart (order : InOrder g lrq wallclock) (passed : windowsPassed g lrq wallclock ≠ 0) :
    (advanced g lrq wallclock).windowStart =
      u64 (lrq.windowStart + u64OfInt (s32 (windowsPassed g lrq wallclock)) * g.ravgWindow) := by
  obtain ⟨positive,word,behind,later,small⟩ := order
  have notBack : ¬ wallclock < lrq.latestClock := by omega
  have delta : s64 (u64Sub wallclock lrq.windowStart) = ((wallclock - lrq.windowStart : ℕ) : ℤ) := by
    rw [u64Sub_of_le (by omega) (by omega),s64_of_lt (by omega)]
  have notEarly : ¬ ((wallclock - lrq.windowStart : ℕ) : ℤ) < 0 := by omega
  have crossed : ¬ wallclock - lrq.windowStart < g.ravgWindow := by
    intro within
    exact passed (Nat.div_eq_of_lt within)
  simp only [advanced,updateWindowStart,notBack,if_false,delta,notEarly,Int.toNat_natCast,Nat.cast_lt,crossed,
    rolloverCpuWindow,windowsPassed]

/-- A count that comes back smaller leaves the wallclock behind the new window. -/
theorem short_misses (order : InOrder g lrq wallclock) {count : ℕ} (short : count < windowsPassed g lrq wallclock) :
    lrq.windowStart + count * g.ravgWindow + g.ravgWindow ≤ wallclock := by
  have next : (count + 1) * g.ravgWindow ≤ wallclock - lrq.windowStart :=
    (Nat.le_div_iff_mul_le order.positive).mp short
  have started := order.behind.trans order.later
  rw [Nat.succ_mul] at next
  omega

/-- A step back ends before the old window, or wraps round to more than any wallclock. -/
theorem back_misses (order : InOrder g lrq wallclock) (back : ℕ) (positive : 0 < back) (few : back ≤ 2147483648) :
    u64 (lrq.windowStart + (18446744073709551616 - back) * g.ravgWindow) + g.ravgWindow ≤ wallclock ∨
      wallclock < u64 (lrq.windowStart + (18446744073709551616 - back) * g.ravgWindow) := by
  obtain ⟨_,word,behind,later,small⟩ := order
  have least : 1 * g.ravgWindow ≤ back * g.ravgWindow := Nat.mul_le_mul_right _ positive
  have most : back * g.ravgWindow ≤ 2147483648 * 4294967295 := Nat.mul_le_mul few (by omega)
  have product : (18446744073709551616 - back) * g.ravgWindow =
      18446744073709551616 * g.ravgWindow - back * g.ravgWindow := Nat.sub_mul ..
  rw [product]
  generalize back * g.ravgWindow = step at least most
  unfold u64
  by_cases before : step ≤ lrq.windowStart
  · left
    omega
  · right
    omega

theorem few_of_lands_right (order : InOrder g lrq wallclock) (lands : LandsRight g lrq wallclock) :
    windowsPassed g lrq wallclock < 2147483648 := by
  by_contra many
  have start := advanced_windowStart order (show windowsPassed g lrq wallclock ≠ 0 by omega)
  obtain ⟨_,_,started,inside⟩ := lands
  rw [start] at started inside
  by_cases low : u32 (windowsPassed g lrq wallclock) < 2147483648
  · -- the low word of the count is smaller than the count
    have widened : u64OfInt (s32 (windowsPassed g lrq wallclock)) = u32 (windowsPassed g lrq wallclock) := by
      rw [s32,if_pos low]
      exact u64OfInt_natCast (by omega)
    have misses := short_misses order (show u32 (windowsPassed g lrq wallclock) < windowsPassed g lrq wallclock by omega)
    have later := order.small
    rw [widened,u64_of_lt (by omega)] at inside
    omega
  · -- the count is negative as an `int`
    have widened : u64OfInt (s32 (windowsPassed g lrq wallclock)) =
        18446744073709551616 - (4294967296 - u32 (windowsPassed g lrq wallclock)) := by
      rw [s32,if_neg low]
      unfold u64OfInt u32 at *
      omega
    rw [widened] at started inside
    rcases back_misses order (4294967296 - u32 (windowsPassed g lrq wallclock))
      (by unfold u32; omega) (by omega) with misses | misses
    · omega
    · omega

end

/-- The window update lands on the right boundary exactly when fewer than 2³¹ windows have
    passed since the CPU's window started. -/
theorem lands_right_iff (g : Track) (lrq : LseRq) (wallclock : ℕ) (positive : 0 < g.ravgWindow)
    (word : g.ravgWindow < 4294967296) (behind : lrq.windowStart ≤ lrq.latestClock) (later : lrq.latestClock ≤ wallclock)
    (small : wallclock < 9223372036854775808) :
    LandsRight g lrq wallclock ↔ windowsPassed g lrq wallclock < 2147483648 :=
  ⟨few_of_lands_right ⟨positive,word,behind,later,small⟩,lands_right_of_few ⟨positive,word,behind,later,small⟩⟩

/-- The windows of 900 frames per second. -/
def fastTrack : Track := { (World.boot 1 (fun _ => plainTask)).track with ravgWindow := 1111111 }

/-- A CPU whose window started one millisecond after the clock did. -/
def startedRq : LseRq := ⟨1000000,1000000,1111111,1024,0,0⟩

/-- After 2³¹ of these windows, which is less than a month, the window start wraps round. -/
theorem lands_wrong :
    0 < fastTrack.ravgWindow ∧ fastTrack.ravgWindow < 4294967296 ∧ startedRq.windowStart ≤ startedRq.latestClock ∧
      startedRq.latestClock ≤ 2386092704612928 ∧ (2386092704612928 : ℕ) < 9223372036854775808 ∧
      ¬ LandsRight fastTrack startedRq 2386092704612928 :=
  ⟨by decide,by decide,by decide,by decide,by decide,fun lands => absurd lands.started (by decide +kernel)⟩

/-- A few seconds later it lands right. -/
theorem lands_right_soon :
    LandsRight fastTrack startedRq 5000000000 ↔ windowsPassed fastTrack startedRq 5000000000 < 2147483648 :=
  lands_right_iff fastTrack startedRq 5000000000 (by decide) (by decide) (by decide) (by decide) (by decide)

end LunarSched.WindowAdvance
