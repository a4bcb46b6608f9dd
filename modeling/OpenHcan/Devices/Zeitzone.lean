import OpenHcan.Devices.Timeservice

/-!
# Zeitzone — time zones of a board (`devices/zeitzone.c`, `canix/tools.c`)

A time zone is a part of the day on some days of the week. Devices that depend
on one name it by its group; the first zone of the board with that group counts.

What `zeitzone_matches` reads is an `Uhrzeit`: the clock and the zones of the
board. Both may be different at every call.
-/

namespace OpenHcan.Zeitzone

open Timeservice

/-- `eds_zeitzone_block_t` -/
structure EdsZeitzoneBlock where
  gruppe : UInt8
  dayPattern : UInt8
  fromHour : UInt8
  fromMinute : UInt8
  toHour : UInt8
  toMinute : UInt8
deriving DecidableEq, Repr

/-- `pdevice_data`, as far as it holds zones (`none`: no device, or another one),
and `canix_rtc_clock`. -/
structure Uhrzeit where
  pdeviceData : List (Option EdsZeitzoneBlock)
  clock : RtcClock
deriving DecidableEq, Repr

/-- `time_matches`. The sums fit into 16 bits. Of a shift by eight bits or more no bit
is left in the pattern. -/
def timeMatches (clock : RtcClock) (fromHour fromMinute toHour toMinute dayPattern : UInt8) : Bool :=
  let t1 := fromHour.toNat * 60 + fromMinute.toNat
  let t2 := toHour.toNat * 60 + toMinute.toNat
  let tnow := clock.hour.toNat * 60 + clock.minute.toNat
  let tnow := if t2 < t1 ∧ tnow < t1 then tnow + 1440 else tnow
  let t2 := if t2 < t1 then t2 + 1440 else t2
  dayPattern.toNat.testBit clock.dayOfWeek.toNat && t1 ≤ tnow && tnow ≤ t2

/-- `zeitzone_matches` -/
def zeitzoneMatches (u : Uhrzeit) (zeitzoneId : UInt8) : Bool :=
  match u.pdeviceData.findSome? fun d => d.filter fun c => c.gruppe = zeitzoneId with
  | some c =>
      timeMatches u.clock c.fromHour c.fromMinute c.toHour c.toMinute c.dayPattern
  | none => false

/-- One of the configured zones matches. -/
def zeitzoneMatch (u : Uhrzeit) (zeitzonenIds : List UInt8) : Bool :=
  zeitzonenIds.any (zeitzoneMatches u)

end OpenHcan.Zeitzone
