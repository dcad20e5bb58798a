import ScalarWire.Zone.Data.Americas
import ScalarWire.Zone.Data.Europe
import ScalarWire.Zone.Data.Pacific
import ScalarWire.Zone.Regions

/-!
# An excerpt of a region database

Twenty-seven of the several hundred regions that a full database holds, enough to run on: with and
without daylight saving, of both hemispheres, and some whose clocks have crossed the date line.
-/

namespace ScalarWire

open Region in
def RegionDatabase.excerpt : RegionDatabase where
  regions :=
    [monrovia, caracas, est5edt, newYork, saoPaulo, stJohns, kathmandu, kolkata, manila, pyongyang,
      tokyo, lordHowe, sydney, cet, est, gmtPlus3, gmtMinus14, berlin, dublin, london, paris, japan,
      apia, kwajalein, usEastern, usPacific, fixed "UTC" .utc]
  isZoneName := by decide +kernel

end ScalarWire
