import OpenHcan.Canix.Rtc

/-!
# TimeSync — the clock and the time frames

`canix_SFP_RTS_handler` of `canix/hcan_rts.c`. An `int` of the AVR has 16 bits:
the seconds of a day do not fit, so the handler compares times modulo 2^16. It
takes over the bytes of a frame as they are.
-/

namespace OpenHcan.Rtc

open Lib Timeservice

def hcanRtsTimeRequest : UInt8 := 3
def hcanRtsDateRequest : UInt8 := 4

/-- The value of an `int` expression: 16 bits, modulo 2^16. -/
def int16 (x : Int) : Int := x.bmod 65536

/-- `abs`, whose argument and result are an `int`. -/
def abs16 (x : Int) : Int := if int16 x < 0 then int16 (-int16 x) else int16 x

/-- The seconds of the day, added up as `int`. -/
def seconds16 (hour minute second : UInt8) : Int :=
  int16 (int16 (second.toNat + int16 (minute.toNat * 60)) + int16 (hour.toNat * 3600))

/-- The answer of the handler with the payload bytes `bytes` behind the service
byte. -/
def rtsAnswer (selfaddr : UInt16) (frame : CanixFrame) (bytes : List UInt8) : CanixFrame where
  src := selfaddr
  dst := frame.src
  proto := hcanProtoSfp
  size := UInt8.ofNat (bytes.length + 1)
  data := payload (hcanSrvRts :: bytes)

/-- `canix_SFP_RTS_handler`: the clock after the frame and the answer sent. -/
def canixSfpRtsHandler (selfaddr : UInt16) (c : CanixRtcClock) (frame : CanixFrame) :
    CanixRtcClock × Option CanixFrame :=
  if frame.byte 1 = hcanRtsTimeInfo then
    let c := { c with lastDateUpdate := 0 }
    let ourTime := seconds16 c.hour c.minute c.second
    let theirTime := seconds16 (frame.byte 4) (frame.byte 5) (frame.byte 6)
    if abs16 (theirTime - ourTime) > 3 then
      ({ c with
          second := frame.byte 6
          minute := frame.byte 5
          hour := frame.byte 4
          dayOfWeek := frame.byte 3 }, none)
    else (c, none)
  else if frame.byte 1 = hcanRtsDateInfo then
    -- the date is taken over in any case
    ({ c with dayOfMonth := frame.byte 3, monthOfYear := frame.byte 4, year := frame.byte 5 }, none)
  else if frame.byte 1 = hcanRtsTimeRequest then
    (c, if frame.dst = selfaddr then
        some (rtsAnswer selfaddr frame
          [hcanRtsTimeInfo, 255, c.dayOfWeek, c.hour, c.minute, c.second])
      else none)
  else if frame.byte 1 = hcanRtsDateRequest then
    (c, if frame.dst = selfaddr then
        some (rtsAnswer selfaddr frame
          [hcanRtsDateInfo, 255, c.dayOfMonth, c.monthOfYear, c.year])
      else none)
  else (c, none)

variable {c : CanixRtcClock} {frame : CanixFrame} {selfaddr : UInt16}

/-! ## The comparison -/

/-- By how many seconds the time of the frame is ahead of the board's. -/
def ahead (c : CanixRtcClock) (frame : CanixFrame) : Int :=
  ((frame.byte 6).toNat + (frame.byte 5).toNat * 60 + (frame.byte 4).toNat * 3600 : Nat)
    - (c.secondsOfDay : Int)

/-- Times that are `d` seconds apart differ enough to be set anew, as the handler
sees it: what is left of `d` in 16 bits is more than 3, and has an absolute value
in 16 bits. -/
def Differs (d : Int) : Prop := 3 < |int16 d| ∧ int16 d ≠ -32768

theorem int16_bounds (x : Int) : -32768 ≤ int16 x ∧ int16 x < 32768 := by
  unfold int16
  rw [Int.bmod_def]
  split <;> omega

theorem abs16_gt_iff (x : Int) : abs16 x > 3 ↔ 3 < |int16 x| ∧ int16 x ≠ -32768 := by
  obtain ⟨hlo, hhi⟩ := int16_bounds x
  rw [abs16]
  by_cases hneg : int16 x < 0
  · rw [if_pos hneg, abs_of_neg hneg]
    by_cases hmin : int16 x = -32768
    · rw [hmin]
      exact iff_of_false (by decide) fun h => h.2 rfl
    · have hfits : int16 (-int16 x) = -int16 x := by
        generalize int16 x = y at *
        rw [int16, Int.bmod_def]
        split <;> omega
      rw [hfits]
      exact ⟨fun h => ⟨h, hmin⟩, fun h => h.1⟩
  · rw [if_neg hneg, abs_of_nonneg (Int.not_lt.mp hneg)]
    exact ⟨fun h => ⟨h, by omega⟩, fun h => h.1⟩

theorem seconds16_eq (hour minute second : UInt8) :
    seconds16 hour minute second
      = int16 ((second.toNat + minute.toNat * 60 + hour.toNat * 3600 : Nat) : Int) := by
  unfold seconds16 int16
  rw [Int.add_bmod_bmod, Int.add_bmod_bmod, Int.bmod_add_bmod]
  norm_num

/-- Only the difference modulo 2^16 counts. -/
theorem compares_iff (c : CanixRtcClock) (frame : CanixFrame) :
    abs16 (seconds16 (frame.byte 4) (frame.byte 5) (frame.byte 6)
        - seconds16 c.hour c.minute c.second) > 3 ↔ Differs (ahead c frame) := by
  rw [abs16_gt_iff, seconds16_eq, seconds16_eq]
  have hsub : int16 (int16 ((frame.byte 6).toNat + (frame.byte 5).toNat * 60
        + (frame.byte 4).toNat * 3600 : Nat)
      - int16 (c.second.toNat + c.minute.toNat * 60 + c.hour.toNat * 3600 : Nat))
        = int16 (ahead c frame) := by
    unfold int16
    rw [Int.sub_bmod_bmod, Int.bmod_sub_bmod]
    rfl
  rw [hsub]
  rfl

/-- Two times of a day that are more than 3 seconds apart are not seen as such if
they are about 2^16 seconds apart, or 2^15 exactly. -/
theorem differs_iff {d : Int} (hlo : -86400 < d) (hhi : d < 86400) :
    Differs d ↔ 3 < |d| ∧ |d| ≠ 32768 ∧ ¬ (65533 ≤ |d| ∧ |d| ≤ 65539) := by
  have hwrap : int16 d = d ∨ int16 d = d - 65536 ∨ int16 d = d + 65536 := by
    unfold int16
    rw [Int.bmod_def]
    split <;> omega
  have hbounds := int16_bounds d
  have habs := abs_cases d
  have habs16 := abs_cases (int16 d)
  unfold Differs
  generalize int16 d = x at *
  generalize |d| = y at *
  generalize |x| = z at *
  omega

/-! ## One frame -/

/-- The bytes of a `TIME_INFO` frame are a time. -/
structure ValidTime (frame : CanixFrame) : Prop where
  dayOfWeek_pos : 1 ≤ frame.byte 3
  dayOfWeek_le : frame.byte 3 ≤ 7
  hour : frame.byte 4 < 24
  minute : frame.byte 5 < 60
  second : frame.byte 6 < 60

instance (frame : CanixFrame) : Decidable (ValidTime frame) :=
  decidable_of_iff (1 ≤ frame.byte 3 ∧ frame.byte 3 ≤ 7 ∧ frame.byte 4 < 24 ∧ frame.byte 5 < 60 ∧
    frame.byte 6 < 60)
    ⟨fun ⟨h1, h2, h3, h4, h5⟩ => ⟨h1, h2, h3, h4, h5⟩,
      fun ⟨h1, h2, h3, h4, h5⟩ => ⟨h1, h2, h3, h4, h5⟩⟩

/-- The fields the clock is read by are in range. -/
structure Ranges (c : CanixRtcClock) : Prop extends c.TimeInRange where
  dayOfWeek_pos : 1 ≤ c.dayOfWeek
  dayOfWeek_le : c.dayOfWeek ≤ 7
  month_pos : 1 ≤ c.monthOfYear
  month_le : c.monthOfYear ≤ 12

/-- The clock shows the time of the frame, to 3 seconds, and its day of the week. -/
structure Synchronised (c : CanixRtcClock) (frame : CanixFrame) : Prop where
  time : |ahead c frame| ≤ 3
  dayOfWeek : c.dayOfWeek = frame.byte 3

/-- The clock with the time and the day of the week of the frame. -/
def takeTime (c : CanixRtcClock) (frame : CanixFrame) : CanixRtcClock where
  dayOfWeek := frame.byte 3
  hour := frame.byte 4
  minute := frame.byte 5
  second := frame.byte 6
  dayOfMonth := c.dayOfMonth
  monthOfYear := c.monthOfYear
  year := c.year
  lastDateUpdate := 0

/-- The clock with the date of the frame. -/
def takeDate (c : CanixRtcClock) (frame : CanixFrame) : CanixRtcClock where
  dayOfWeek := c.dayOfWeek
  hour := c.hour
  minute := c.minute
  second := c.second
  dayOfMonth := frame.byte 3
  monthOfYear := frame.byte 4
  year := frame.byte 5
  lastDateUpdate := c.lastDateUpdate

/-- The clock of which a time frame has been received. -/
def refreshed (c : CanixRtcClock) : CanixRtcClock := ⟨c.toRtcClock, 0⟩

theorem canixSfpRtsHandler_timeInfo (selfaddr : UInt16) (c : CanixRtcClock)
    (h : frame.byte 1 = hcanRtsTimeInfo) :
    (Differs (ahead c frame) ∧ (canixSfpRtsHandler selfaddr c frame).1 = takeTime c frame) ∨
      (¬ Differs (ahead c frame) ∧ (canixSfpRtsHandler selfaddr c frame).1 = refreshed c) := by
  unfold canixSfpRtsHandler
  dsimp only
  rw [if_pos h]
  by_cases hd : abs16 (seconds16 (frame.byte 4) (frame.byte 5) (frame.byte 6)
      - seconds16 c.hour c.minute c.second) > 3
  · rw [if_pos hd]
    exact .inl ⟨(compares_iff c frame).mp hd, rfl⟩
  · rw [if_neg hd]
    exact .inr ⟨mt (compares_iff c frame).mpr hd, rfl⟩

theorem canixSfpRtsHandler_dateInfo (selfaddr : UInt16) (c : CanixRtcClock)
    (h : frame.byte 1 = hcanRtsDateInfo) :
    (canixSfpRtsHandler selfaddr c frame).1 = takeDate c frame := by
  have hne : ¬ frame.byte 1 = hcanRtsTimeInfo := by
    rw [h]
    decide
  unfold canixSfpRtsHandler
  rw [if_neg hne, if_pos h]
  rfl

/-- A request does not change the clock. -/
theorem canixSfpRtsHandler_other (selfaddr : UInt16) (c : CanixRtcClock)
    (h1 : frame.byte 1 ≠ hcanRtsTimeInfo) (h2 : frame.byte 1 ≠ hcanRtsDateInfo) :
    (canixSfpRtsHandler selfaddr c frame).1 = c := by
  unfold canixSfpRtsHandler
  rw [if_neg h1, if_neg h2]
  split
  · rfl
  · split <;> rfl

theorem ahead_takeTime (c : CanixRtcClock) (frame : CanixFrame) :
    ahead (takeTime c frame) frame = 0 := Int.sub_self _

/-- A time frame synchronises the clock if the times differ, or there is nothing to
be done. -/
theorem synchronised_iff (selfaddr : UInt16) (c : CanixRtcClock)
    (h : frame.byte 1 = hcanRtsTimeInfo) :
    Synchronised (canixSfpRtsHandler selfaddr c frame).1 frame ↔
      Synchronised c frame ∨ Differs (ahead c frame) := by
  rcases canixSfpRtsHandler_timeInfo selfaddr c h with ⟨hd, hc⟩ | ⟨hd, hc⟩
  · rw [hc]
    refine iff_of_true ⟨?_, rfl⟩ (.inr hd)
    rw [ahead_takeTime]
    decide
  · rw [hc, or_iff_left hd]
    exact ⟨fun ⟨h1, h2⟩ => ⟨h1, h2⟩, fun ⟨h1, h2⟩ => ⟨h1, h2⟩⟩

/-! ## Runs of seconds and frames -/

inductive RtcEvent where
  | second
  | frame (f : CanixFrame)

/-- A second of the timer interrupt, or a frame that is delivered to the handler. -/
def rtcStep (selfaddr : UInt16) (c : CanixRtcClock) : RtcEvent → CanixRtcClock
  | .second => canixUpdateDatetime c
  | .frame f => (canixSfpRtsHandler selfaddr c f).1

/-- What is taken over from the frame is in range. -/
def TakesInRange (c : CanixRtcClock) : RtcEvent → Prop
  | .second => True
  | .frame f =>
      (f.byte 1 = hcanRtsTimeInfo → Differs (ahead c f) → ValidTime f) ∧
      (f.byte 1 = hcanRtsDateInfo → 1 ≤ f.byte 4 ∧ f.byte 4 ≤ 12)

theorem ranges_takeTime (hc : Ranges c) : Ranges (takeTime c frame) ↔ ValidTime frame :=
  ⟨fun h => ⟨h.dayOfWeek_pos, h.dayOfWeek_le, h.hour, h.minute, h.second⟩,
    fun h => ⟨⟨h.second, h.minute, h.hour⟩, h.dayOfWeek_pos, h.dayOfWeek_le, hc.month_pos,
      hc.month_le⟩⟩

theorem ranges_takeDate (hc : Ranges c) :
    Ranges (takeDate c frame) ↔ 1 ≤ frame.byte 4 ∧ frame.byte 4 ≤ 12 :=
  ⟨fun h => ⟨h.month_pos, h.month_le⟩,
    fun h => ⟨⟨hc.second, hc.minute, hc.hour⟩, hc.dayOfWeek_pos, hc.dayOfWeek_le, h.1, h.2⟩⟩

theorem ranges_refreshed (hc : Ranges c) : Ranges (refreshed c) :=
  ⟨⟨hc.second, hc.minute, hc.hour⟩, hc.dayOfWeek_pos, hc.dayOfWeek_le, hc.month_pos, hc.month_le⟩

/-- A new day keeps the month a month, whatever day the clock shows. -/
theorem newDay_month (hpos : 1 ≤ c.monthOfYear) (hle : c.monthOfYear ≤ 12) :
    1 ≤ (newDay c).monthOfYear ∧ (newDay c).monthOfYear ≤ 12 := by
  have hle' : c.monthOfYear.toNat ≤ 12 := hle
  unfold newDay
  dsimp only
  split
  · split
    · exact ⟨(by decide : (1 : UInt8) ≤ 1), (by decide : (1 : UInt8) ≤ 12)⟩
    · next hlast =>
        refine ⟨?_, UInt8.not_lt.mp hlast⟩
        show 1 ≤ (c.monthOfYear + 1).toNat
        rw [toNat_add_one (by omega)]
        exact Nat.le_add_left 1 _
  · exact ⟨hpos, hle⟩

theorem ranges_newDay (hc : Ranges c) : Ranges (newDay c) := by
  obtain ⟨hsecond, hminute, hhour⟩ := newDay_time c
  have hmonth := newDay_month hc.month_pos hc.month_le
  have hweek := newDay_dayOfWeek hc.dayOfWeek_le
  refine ⟨⟨?_, ?_, ?_⟩, ?_, ?_, hmonth.1, hmonth.2⟩
  · rw [hsecond]
    exact hc.second
  · rw [hminute]
    exact hc.minute
  · rw [hhour]
    exact hc.hour
  · show 1 ≤ (newDay c).dayOfWeek.toNat
    omega
  · show (newDay c).dayOfWeek.toNat ≤ 7
    omega

/-- **A second keeps the fields in range**: the equality tests of the carries see
every overflow of a field that was in range. -/
theorem ranges_tick (hc : Ranges c) : Ranges (canixUpdateDatetime c) := by
  have hs : c.second.toNat < 60 := hc.second
  have hm : c.minute.toNat < 60 := hc.minute
  have hh : c.hour.toNat < 24 := hc.hour
  have hcarry : ∀ {x k : UInt8}, x.toNat < 60 → x.toNat < k.toNat → x + 1 ≠ k → x + 1 < k := by
    intro x k h60 hlt hne
    rw [Ne, add_one_eq_iff (by omega)] at hne
    rw [UInt8.lt_iff_toNat_lt, toNat_add_one (by omega)]
    omega
  have h0 : (0 : UInt8) < 60 := by decide
  unfold canixUpdateDatetime
  dsimp only
  by_cases h1 : c.second + 1 = 60
  · rw [if_pos h1]
    by_cases h2 : c.minute + 1 = 60
    · rw [if_pos h2]
      by_cases h3 : c.hour + 1 = 24
      · rw [if_pos h3]
        exact ranges_newDay ⟨⟨h0, h0, (by decide : (0 : UInt8) < 24)⟩, hc.dayOfWeek_pos,
          hc.dayOfWeek_le, hc.month_pos, hc.month_le⟩
      · rw [if_neg h3]
        exact ⟨⟨h0, h0, hcarry (by omega) hc.hour h3⟩, hc.dayOfWeek_pos, hc.dayOfWeek_le,
          hc.month_pos, hc.month_le⟩
    · rw [if_neg h2]
      exact ⟨⟨h0, hcarry hm hc.minute h2, hc.hour⟩, hc.dayOfWeek_pos, hc.dayOfWeek_le,
        hc.month_pos, hc.month_le⟩
  · rw [if_neg h1]
    exact ⟨⟨hcarry hs hc.second h1, hc.minute, hc.hour⟩, hc.dayOfWeek_pos, hc.dayOfWeek_le,
      hc.month_pos, hc.month_le⟩

/-- **One step** keeps the fields in range exactly if what it takes over is. -/
theorem ranges_step_iff (selfaddr : UInt16) (c : CanixRtcClock) (e : RtcEvent) (hc : Ranges c) :
    Ranges (rtcStep selfaddr c e) ↔ TakesInRange c e := by
  cases e with
  | second => exact iff_of_true (ranges_tick hc) trivial
  | frame f =>
      show Ranges (canixSfpRtsHandler selfaddr c f).1 ↔ _
      by_cases htime : f.byte 1 = hcanRtsTimeInfo
      · have hdate : f.byte 1 ≠ hcanRtsDateInfo := by
          rw [htime]
          decide
        rcases canixSfpRtsHandler_timeInfo selfaddr c htime with ⟨hd, hnew⟩ | ⟨hd, hnew⟩
        · rw [hnew, ranges_takeTime hc]
          exact ⟨fun h => ⟨fun _ _ => h, fun h' => absurd h' hdate⟩, fun h => h.1 htime hd⟩
        · rw [hnew]
          exact iff_of_true (ranges_refreshed hc)
            ⟨fun _ hd' => absurd hd' hd, fun h' => absurd h' hdate⟩
      · by_cases hdate : f.byte 1 = hcanRtsDateInfo
        · rw [canixSfpRtsHandler_dateInfo selfaddr c hdate, ranges_takeDate hc]
          exact ⟨fun h => ⟨fun h' => absurd h' htime, fun _ => h⟩, fun h => h.2 hdate⟩
        · rw [canixSfpRtsHandler_other selfaddr c htime hdate]
          exact iff_of_true hc ⟨fun h' => absurd h' htime, fun h' => absurd h' hdate⟩

/-- **When the clock follows the time frames.** A valid time is taken over unless
the two times are 32768 or 65533 to 65539 seconds apart, and unless they differ
by at most 3 seconds: then the day of the week is not looked at. In a run of
seconds and frames the fields stay in range as long as what is taken over is. -/
theorem timeSync_iff (selfaddr : UInt16) :
    (∀ c frame, Ranges c → frame.byte 1 = hcanRtsTimeInfo → ValidTime frame →
      (Synchronised (canixSfpRtsHandler selfaddr c frame).1 frame ↔
        (|ahead c frame| ≤ 3 ∧ c.dayOfWeek = frame.byte 3) ∨
        (3 < |ahead c frame| ∧ |ahead c frame| ≠ 32768 ∧
          ¬ (65533 ≤ |ahead c frame| ∧ |ahead c frame| ≤ 65539)))) ∧
    ∀ c es, Ranges c →
      ((∀ pre, pre <+: es → Ranges (run (rtcStep selfaddr) c pre)) ↔
        Guarded (rtcStep selfaddr) TakesInRange c es) := by
  refine ⟨fun c frame hc hframe hvalid => ?_, fun c es hc => ?_⟩
  · have hs : c.second.toNat < 60 := hc.second
    have hm : c.minute.toNat < 60 := hc.minute
    have hh : c.hour.toNat < 24 := hc.hour
    have hs' : (frame.byte 6).toNat < 60 := hvalid.second
    have hm' : (frame.byte 5).toNat < 60 := hvalid.minute
    have hh' : (frame.byte 4).toNat < 24 := hvalid.hour
    have hdiff := @differs_iff (ahead c frame)
      (by unfold ahead CanixRtcClock.secondsOfDay; omega)
      (by unfold ahead CanixRtcClock.secondsOfDay; omega)
    rw [synchronised_iff selfaddr c hframe, hdiff]
    exact or_congr_left ⟨fun h => ⟨h.time, h.dayOfWeek⟩, fun h => ⟨h.1, h.2⟩⟩
  · have hstep := ranges_step_iff selfaddr
    exact always_iff_guarded (fun _ h => h) (fun c e hc => (hstep c e hc).mpr)
      (fun c e hc => (hstep c e hc).mp) es c hc

/-- A `TIME_INFO` frame with the day of the week, hour, minute and second. -/
def timeFrame (dayOfWeek hour minute second : UInt8) : CanixFrame :=
  timeInfo 2 0 ⟨dayOfWeek, hour, minute, second, 1, 1, 20⟩

theorem newYear_ranges : Ranges newYear :=
  ⟨⟨by decide, by decide, by decide⟩, by decide, by decide, by decide, by decide⟩

theorem timeSync_newYear :
    Synchronised (canixSfpRtsHandler 1 newYear (timeFrame 3 13 0 0)).1 (timeFrame 3 13 0 0) ∧
      Ranges (run (rtcStep 1) newYear [.frame (timeFrame 3 13 0 0), .second]) := by
  constructor
  · refine ((timeSync_iff 1).1 newYear _ newYear_ranges rfl (by decide)).mpr (.inr ?_)
    decide
  · refine ((timeSync_iff 1).2 newYear _ newYear_ranges).mpr ?_ _ (List.prefix_refl _)
    exact ⟨⟨fun _ _ => by decide, fun h => absurd h (by decide)⟩, trivial, trivial⟩

/-- Midnight of the same day. -/
def newYearMidnight : CanixRtcClock := ⟨⟨3, 0, 0, 0, 1, 1, 20⟩, 0⟩

theorem newYearMidnight_ranges : Ranges newYearMidnight :=
  ⟨⟨by decide, by decide, by decide⟩, by decide, by decide, by decide, by decide⟩

/-- The time of the frame is 2^16 seconds ahead, 18:12:16: it is not taken over. A
frame with a second of 200 is. -/
theorem timeSync_fails :
    (Ranges newYearMidnight ∧ ValidTime (timeFrame 3 18 12 16) ∧
      ¬ Synchronised (canixSfpRtsHandler 1 newYearMidnight (timeFrame 3 18 12 16)).1
        (timeFrame 3 18 12 16)) ∧
    ¬ Ranges (run (rtcStep 1) newYearMidnight [.frame (timeFrame 3 0 0 200)]) := by
  refine ⟨⟨newYearMidnight_ranges, by decide, fun h => ?_⟩, fun h => ?_⟩
  · rcases (synchronised_iff 1 newYearMidnight rfl).mp h with h | h
    · exact absurd h.time (by decide)
    · exact absurd h.1 (by decide)
  · exact absurd h.second (by decide)

end OpenHcan.Rtc
