import BoringOS.Memory.Pmm

namespace BoringOS.Net

open Memory (uint64Max)

/-!
# The clock of the network stack

A transcription of `kernel/arch/x86_64/timer.c` and of the clock functions of
`kernel/core/net.c`.  The timer counts interrupts; a clock remembers a count
together with the frequency that the timer has recorded, in thousandths of a
hertz.  At this frequency a number of ticks amounts to a million times as many
milliseconds, divided by the frequency.
-/

def x86_64PitInputFrequencyHz : Nat := 1193182

def uint32Max : Nat := 2 ^ 32 - 1

/-- `struct timer_stats` -/
structure TimerStats where
  inputFrequencyHz : Nat
  requestedFrequencyHz : Nat
  divisor : Nat
  effectiveFrequencyMillihz : Nat
deriving DecidableEq, Repr

/-- The static variables of the timer -/
structure Timer where
  tickCount : UInt64
  state : TimerStats
  initialized : Bool
deriving DecidableEq, Repr

/-- The divisor that `timer_init` programs, rounded to the nearest -/
def timerDivisor (frequencyHz : UInt32) : Nat :=
  (x86_64PitInputFrequencyHz + frequencyHz.toNat / 2) / frequencyHz.toNat

/-- The frequency that a divisor yields, in thousandths of a hertz -/
def timerEffectiveMillihz (divisor : Nat) : Nat :=
  (x86_64PitInputFrequencyHz * 1000 + divisor / 2) / divisor

/-- `timer_init`.  Whether the interrupt can be unmasked is up to the
interrupt controller. -/
def timerInit (frequencyHz : UInt32) (irqUnmaskTimer : Bool) : Bool × Timer :=
  let cleared : Timer := ⟨0, ⟨x86_64PitInputFrequencyHz, 0, 0, 0⟩, false⟩
  if frequencyHz = 0 ∨ x86_64PitInputFrequencyHz < frequencyHz.toNat then (false, cleared)
  else
    let divisor := timerDivisor frequencyHz
    if divisor = 0 ∨ 65535 < divisor then (false, cleared)
    else
      let effectiveMillihz := timerEffectiveMillihz divisor
      if uint32Max < effectiveMillihz then (false, cleared)
      else
        let recorded : Timer :=
          { cleared with
            state := ⟨x86_64PitInputFrequencyHz, frequencyHz.toNat, divisor, effectiveMillihz⟩ }
        if irqUnmaskTimer = false then (false, recorded)
        else (true, { recorded with initialized := true })

variable (timer : Timer)

/-- `timer_get_stats` -/
def timerGetStats : Option TimerStats :=
  if timer.initialized = false then none else some timer.state

/-- `timer_ticks` -/
def timerTicks : UInt64 := timer.tickCount

/-- `timer_handle_irq` -/
def timerHandleIrq : Bool × Timer :=
  if timer.initialized = false then (false, timer)
  else (true, { timer with tickCount := timer.tickCount + 1 })

/-- `struct net_clock` -/
structure NetClock where
  startTicks : UInt64
  frequencyMillihz : Nat
deriving DecidableEq, Repr

/-- `net_clock_start` -/
def netClockStart : Option NetClock :=
  match timerGetStats timer with
  | none => none
  | some stats =>
    if stats.effectiveFrequencyMillihz = 0 then none
    else some ⟨timerTicks timer, stats.effectiveFrequencyMillihz⟩

variable (clock : NetClock)

/-- `net_clock_elapsed_us` -/
def netClockElapsedUs : Nat :=
  if clock.frequencyMillihz = 0 then uint64Max
  else
    let elapsedTicks := (timerTicks timer - clock.startTicks).toNat
    if uint64Max / 1000000 < elapsedTicks then uint64Max
    else elapsedTicks * 1000000 / clock.frequencyMillihz

/-- `net_clock_expired` -/
def netClockExpired (milliseconds : UInt32) : Bool :=
  decide (milliseconds.toNat * 1000 ≤ netClockElapsedUs timer clock)

/-- `net_clock_elapsed_ms` -/
def netClockElapsedMs : Nat :=
  let elapsedMs := netClockElapsedUs timer clock / 1000
  if uint32Max < elapsedMs then uint32Max else elapsedMs

/-- The timer after a number of interrupts -/
def afterIrqs (count : Nat) : Timer := (fun timer => (timerHandleIrq timer).2)^[count] timer

/-- The ticks last at least as long as the milliseconds. -/
def AmountTo (frequencyMillihz ticks milliseconds : Nat) : Prop :=
  milliseconds * frequencyMillihz ≤ ticks * 1000000

/-- What a clock tells after some ticks is right: it has expired if the ticks
amount to the timeout, give or take one, and it reports the milliseconds that
have passed, as far as they fit into 32 bits. -/
structure ClockRight (frequencyMillihz ticks milliseconds : Nat) (expired : Bool)
    (reported : Nat) : Prop where
  notEarly : expired = true → AmountTo frequencyMillihz (ticks + 1) milliseconds
  notLate : ∀ before, ticks = before + 1 → AmountTo frequencyMillihz before milliseconds →
    expired = true
  reports : reported = min uint32Max (ticks * 1000000 / frequencyMillihz)

/-- Less than a millisecond has passed, or as many seconds as 32 bits can
count, or more ticks than the multiplication allows. -/
def NothingToTell (frequencyMillihz ticks : Nat) : Prop :=
  ticks * 1000000 < frequencyMillihz ∨
    uint32Max * 1000 * frequencyMillihz ≤ ticks * 1000000 ∨ uint64Max / 1000000 < ticks

/-- A timer that counts, with a frequency that a clock can work with -/
structure Counting (timer : Timer) : Prop where
  initialized : timer.initialized = true
  positive : 0 < timer.state.effectiveFrequencyMillihz
  fits : timer.state.effectiveFrequencyMillihz ≤ uint32Max

theorem timerInit_counting {frequencyHz : UInt32} {irqUnmaskTimer : Bool} {timer : Timer}
    (accepted : timerInit frequencyHz irqUnmaskTimer = (true, timer)) : Counting timer := by
  simp only [timerInit] at accepted
  split at accepted
  · cases accepted
  split at accepted
  · cases accepted
  rename_i divides
  rw [not_or, Nat.not_lt] at divides
  split at accepted
  · cases accepted
  rename_i small
  split at accepted
  · cases accepted
  cases accepted
  refine ⟨rfl, ?_, Nat.not_lt.mp small⟩
  apply Nat.div_pos
  · apply Nat.le_trans divides.2
    apply Nat.le_add_right_of_le
    decide
  · exact Nat.pos_of_ne_zero divides.1

/-- Interrupts are counted, and change nothing else. -/
theorem afterIrqs_eq {timer : Timer} (counting : timer.initialized = true) (count : Nat) :
    afterIrqs timer count =
      { timer with tickCount := timer.tickCount + UInt64.ofNat count } := by
  induction count with
  | zero =>
    show timer = { timer with tickCount := timer.tickCount + 0 }
    rw [UInt64.add_zero]
  | succ count ih =>
    rw [afterIrqs] at ih ⊢
    rw [Function.iterate_succ_apply', ih, timerHandleIrq]
    simp only [counting, Bool.true_eq_false, if_false, UInt64.ofNat_add, UInt64.add_assoc]
    rfl

/-- The counter tells how many ticks there were between two of its values. -/
theorem ticks_between (start elapsed : UInt64) : (start + elapsed - start).toNat = elapsed.toNat := by
  rw [UInt64.add_comm, UInt64.add_sub_cancel]

theorem netClockElapsedMs_eq :
    netClockElapsedMs timer clock = min uint32Max (netClockElapsedUs timer clock / 1000) := by
  simp only [netClockElapsedMs]
  grind

/-- With the quotient that the code forms, a clock is right only where nothing
is to be told. -/
theorem clockRight_quotient {frequency ticks milliseconds : Nat} (positive : 0 < frequency)
    (fits : milliseconds ≤ uint32Max) :
    ClockRight frequency ticks milliseconds
        (decide (milliseconds * 1000 ≤ ticks * 1000000 / frequency))
        (min uint32Max (ticks * 1000000 / frequency / 1000)) ↔
      ticks * 1000000 < frequency ∨ uint32Max * 1000 * frequency ≤ ticks * 1000000 := by
  have quotientZero : ticks * 1000000 / frequency = 0 ↔ ticks * 1000000 < frequency := by
    rw [Nat.div_eq_zero_iff]
    omega
  have quotientLarge : uint32Max * 1000 ≤ ticks * 1000000 / frequency ↔
      uint32Max * 1000 * frequency ≤ ticks * 1000000 := Nat.le_div_iff_mul_le positive
  rw [← quotientZero, ← quotientLarge]
  constructor
  · intro right
    have reports := right.reports
    grind
  · intro nothing
    refine ⟨fun expired => ?_, fun before isTicks amount => ?_, ?_⟩
    · rw [decide_eq_true_eq, Nat.le_div_iff_mul_le positive] at expired
      grind [AmountTo]
    · rw [decide_eq_true_eq]
      rcases nothing with zero | large
      · have none' : milliseconds = 0 := by
          rw [quotientZero] at zero
          rw [AmountTo] at amount
          by_contra some'
          have atLeast : 1 * frequency ≤ milliseconds * frequency :=
            Nat.mul_le_mul_right frequency (Nat.pos_of_ne_zero some')
          omega
        omega
      grind
    omega

/-- Where the multiplication would overflow, the largest numbers are right. -/
theorem clockRight_overflow {frequency ticks milliseconds : Nat} (positive : 0 < frequency)
    (small : frequency ≤ uint32Max) (fits : milliseconds ≤ uint32Max) (large : uint64Max / 1000000 < ticks) :
    ClockRight frequency ticks milliseconds true uint32Max := by
  have product : milliseconds * frequency ≤ uint32Max * uint32Max := Nat.mul_le_mul fits small
  have long : uint32Max * uint32Max ≤ ticks * 1000000 := by
    simp only [uint32Max, uint64Max] at large ⊢
    omega
  refine ⟨fun _ => ?_, fun _ _ _ => rfl, ?_⟩
  · rw [AmountTo]
    omega
  · have reached : uint32Max ≤ ticks * 1000000 / frequency := by
      rw [Nat.le_div_iff_mul_le positive]
      exact Nat.le_trans (Nat.mul_le_mul_left uint32Max small) long
    exact (Nat.min_eq_left reached).symm

/-- A clock that was started on an initialized timer is right exactly where
there is nothing to tell. -/
theorem netClock_right_iff (frequencyHz : UInt32) (irqUnmaskTimer : Bool) (timer : Timer)
    (accepted : timerInit frequencyHz irqUnmaskTimer = (true, timer)) (before : Nat)
    (elapsed : UInt64) (milliseconds : UInt32) :
    ∃ clock, netClockStart (afterIrqs timer before) = some clock ∧
      clock.frequencyMillihz = timer.state.effectiveFrequencyMillihz ∧
      (ClockRight clock.frequencyMillihz elapsed.toNat milliseconds.toNat
          (netClockExpired (afterIrqs (afterIrqs timer before) elapsed.toNat) clock milliseconds)
          (netClockElapsedMs (afterIrqs (afterIrqs timer before) elapsed.toNat) clock) ↔
        NothingToTell clock.frequencyMillihz elapsed.toNat) := by
  have counting := timerInit_counting accepted
  have positive := counting.positive
  have fits : milliseconds.toNat ≤ uint32Max := Nat.le_pred_of_lt milliseconds.toNat_lt
  have nonzero : timer.state.effectiveFrequencyMillihz ≠ 0 := Nat.pos_iff_ne_zero.mp positive
  refine ⟨⟨(afterIrqs timer before).tickCount, timer.state.effectiveFrequencyMillihz⟩, ?_, rfl, ?_⟩
  · rw [afterIrqs_eq counting.initialized]
    simp only [netClockStart, timerGetStats, counting.initialized, Bool.true_eq_false, if_false,
      if_neg nonzero, timerTicks]
  · rw [afterIrqs_eq counting.initialized before, afterIrqs_eq (by exact counting.initialized),
      UInt64.ofNat_toNat]
    generalize timer.tickCount + UInt64.ofNat before = start
    rw [NothingToTell]
    by_cases large : uint64Max / 1000000 < elapsed.toNat
    · have expired : milliseconds.toNat * 1000 ≤ uint64Max := by
        simp only [uint32Max, uint64Max] at fits ⊢
        omega
      have saturated : min uint32Max (uint64Max / 1000) = uint32Max := by decide
      simp only [netClockExpired, netClockElapsedMs_eq, netClockElapsedUs, if_neg nonzero,
        timerTicks, ticks_between, large, if_true, saturated, decide_eq_true expired, or_true, iff_true]
      exact clockRight_overflow positive counting.fits fits large
    · simp only [netClockExpired, netClockElapsedMs_eq, netClockElapsedUs, if_neg nonzero,
        timerTicks, ticks_between, large, if_false, or_false]
      exact clockRight_quotient positive fits

/-- The timer as the kernel sets it up, at a hundred interrupts a second -/
def hundredHertz : Timer := (timerInit 100 true).2

theorem netClock_right_iff_hundredHertz :
    ∃ clock, netClockStart (afterIrqs hundredHertz 7) = some clock ∧
      clock.frequencyMillihz = hundredHertz.state.effectiveFrequencyMillihz ∧
      (ClockRight clock.frequencyMillihz (100 : UInt64).toNat (500 : UInt32).toNat
          (netClockExpired (afterIrqs (afterIrqs hundredHertz 7) (100 : UInt64).toNat) clock 500)
          (netClockElapsedMs (afterIrqs (afterIrqs hundredHertz 7) (100 : UInt64).toNat) clock) ↔
        NothingToTell clock.frequencyMillihz (100 : UInt64).toNat) :=
  netClock_right_iff 100 true hundredHertz (by decide) 7 100 500

/-- After a second, a timeout of half a second has not expired, and the
clock reports a single millisecond. -/
theorem second_reported_as_millisecond :
    ∃ clock, netClockStart (afterIrqs hundredHertz 7) = some clock ∧
      AmountTo clock.frequencyMillihz 99 500 ∧
      netClockExpired (afterIrqs (afterIrqs hundredHertz 7) 100) clock 500 = false ∧
      netClockElapsedMs (afterIrqs (afterIrqs hundredHertz 7) 100) clock = 1 ∧
      ¬ ClockRight clock.frequencyMillihz 100 500
        (netClockExpired (afterIrqs (afterIrqs hundredHertz 7) 100) clock 500)
        (netClockElapsedMs (afterIrqs (afterIrqs hundredHertz 7) 100) clock) := by
  have late : netClockExpired (afterIrqs (afterIrqs hundredHertz 7) 100) ⟨7, 99998⟩ 500 =
      false := by decide +kernel
  have amounts : AmountTo 99998 99 500 := by
    rw [AmountTo]
    decide
  refine ⟨⟨7, 99998⟩, by decide, amounts, late, by decide +kernel, fun right => ?_⟩
  rw [right.notLate 99 rfl amounts] at late
  cases late

end BoringOS.Net
