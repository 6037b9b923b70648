import Mathlib.Algebra.Order.Ring.Int

/-!
# Settings

The settings that the modelled functions read, with the defaults of the repository.
-/

namespace FleetTracking

structure Settings where
  accessTokenExpireMinutes : Int := 30
  refreshTokenExpireDays : Int := 7
  mqttTopicPrefix : String := "fleet"
  /-- Documented as the staleness window.  No function reads it. -/
  gpsStalenessSeconds : Int := 60
  /-- The demo password of seeded accounts. -/
  seedPassword : String := "password123"

end FleetTracking
