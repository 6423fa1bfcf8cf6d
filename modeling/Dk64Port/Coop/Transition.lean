import Dk64Port.Coop.ItemIds

/-!
# Reviewed map transitions (`mod/transition_policy.h`, `mod/transition_routes.inc`)

A ticket names a route of the table: a source map, a destination map and an exit.

* `transitionValid`: what a packet may carry.
-/

namespace Dk64Port.Coop

/-- `CoopTransitionRoute`. -/
structure TransitionRoute where
  source : Nat
  destination : Nat
  exit : Int
deriving DecidableEq

/-- `COOP_MAP_COUNT`. -/
def coopMapCount : Nat := 216

/-- `coop_transition_routes`. -/
def transitionRoutes : List TransitionRoute :=
  [⟨4, 7, 2⟩, ⟨7, 4, 0⟩, ⟨7, 12, 0⟩, ⟨7, 13, 0⟩, ⟨7, 33, 0⟩, ⟨7, 169, 1⟩, ⟨12, 7, 1⟩, ⟨13, 7, 5⟩,
    ⟨16, 38, 1⟩, ⟨19, 38, 5⟩, ⟨20, 38, 2⟩, ⟨21, 38, 6⟩, ⟨22, 38, 3⟩, ⟨23, 38, 7⟩, ⟨24, 38, 4⟩,
    ⟨26, 29, 0⟩, ⟨26, 36, 0⟩, ⟨26, 175, 1⟩, ⟨29, 26, 3⟩, ⟨30, 31, 0⟩, ⟨30, 43, 0⟩, ⟨30, 43, 1⟩,
    ⟨30, 43, 2⟩, ⟨30, 44, 0⟩, ⟨30, 45, 0⟩, ⟨30, 46, 0⟩, ⟨30, 46, 1⟩, ⟨30, 47, 0⟩, ⟨30, 47, 1⟩,
    ⟨30, 49, 0⟩, ⟨30, 174, 1⟩, ⟨30, 179, 0⟩, ⟨31, 30, 11⟩, ⟨33, 7, 8⟩, ⟨34, 169, 0⟩, ⟨34, 173, 0⟩,
    ⟨34, 174, 0⟩, ⟨34, 175, 0⟩, ⟨34, 178, 0⟩, ⟨34, 194, 0⟩, ⟨36, 26, 8⟩, ⟨38, 16, 0⟩, ⟨38, 19, 0⟩,
    ⟨38, 20, 0⟩, ⟨38, 21, 0⟩, ⟨38, 22, 0⟩, ⟨38, 23, 0⟩, ⟨38, 24, 0⟩, ⟨38, 173, 1⟩, ⟨43, 30, 1⟩,
    ⟨43, 30, 2⟩, ⟨43, 30, 3⟩, ⟨44, 30, 4⟩, ⟨45, 30, 5⟩, ⟨46, 30, 6⟩, ⟨46, 30, 7⟩, ⟨47, 30, 8⟩,
    ⟨47, 30, 9⟩, ⟨48, 52, 0⟩, ⟨48, 56, 0⟩, ⟨48, 57, 0⟩, ⟨48, 58, 0⟩, ⟨48, 59, 0⟩, ⟨48, 61, 0⟩,
    ⟨48, 62, 0⟩, ⟨48, 62, 3⟩, ⟨48, 63, 0⟩, ⟨48, 64, 0⟩, ⟨48, 64, 1⟩, ⟨48, 64, 2⟩, ⟨48, 64, 3⟩,
    ⟨48, 64, 4⟩, ⟨48, 70, 0⟩, ⟨48, 71, 0⟩, ⟨48, 178, 1⟩, ⟨49, 30, 10⟩, ⟨52, 48, 23⟩, ⟨56, 48, 3⟩,
    ⟨57, 48, 2⟩, ⟨58, 48, 1⟩, ⟨59, 48, 4⟩, ⟨61, 48, 6⟩, ⟨61, 62, 2⟩, ⟨62, 48, 5⟩, ⟨62, 48, 7⟩,
    ⟨62, 61, 1⟩, ⟨63, 48, 14⟩, ⟨64, 48, 8⟩, ⟨64, 48, 9⟩, ⟨64, 48, 10⟩, ⟨64, 48, 11⟩, ⟨64, 48, 12⟩,
    ⟨70, 48, 15⟩, ⟨71, 48, 13⟩, ⟨72, 84, 0⟩, ⟨72, 85, 0⟩, ⟨72, 86, 0⟩, ⟨72, 89, 0⟩, ⟨72, 90, 0⟩,
    ⟨72, 91, 0⟩, ⟨72, 92, 0⟩, ⟨72, 93, 0⟩, ⟨72, 94, 0⟩, ⟨72, 95, 0⟩, ⟨72, 98, 0⟩, ⟨72, 100, 0⟩,
    ⟨72, 194, 1⟩, ⟨72, 200, 0⟩, ⟨84, 72, 5⟩, ⟨85, 72, 3⟩, ⟨86, 72, 2⟩, ⟨87, 88, 0⟩, ⟨87, 105, 0⟩,
    ⟨87, 113, 0⟩, ⟨87, 114, 0⟩, ⟨87, 114, 1⟩, ⟨87, 151, 0⟩, ⟨87, 151, 2⟩, ⟨87, 164, 0⟩,
    ⟨87, 166, 0⟩, ⟨87, 167, 0⟩, ⟨87, 168, 0⟩, ⟨87, 183, 0⟩, ⟨87, 193, 1⟩, ⟨88, 87, 11⟩,
    ⟨89, 72, 19⟩, ⟨90, 72, 15⟩, ⟨91, 72, 14⟩, ⟨92, 72, 17⟩, ⟨93, 72, 16⟩, ⟨94, 72, 20⟩,
    ⟨95, 72, 4⟩, ⟨98, 72, 30⟩, ⟨100, 72, 1⟩, ⟨105, 87, 14⟩, ⟨108, 183, 4⟩, ⟨112, 183, 3⟩,
    ⟨113, 87, 7⟩, ⟨114, 87, 12⟩, ⟨114, 87, 13⟩, ⟨151, 87, 2⟩, ⟨151, 87, 5⟩, ⟨151, 163, 0⟩,
    ⟨163, 151, 4⟩, ⟨164, 87, 1⟩, ⟨164, 87, 15⟩, ⟨166, 87, 9⟩, ⟨167, 87, 16⟩, ⟨168, 87, 8⟩,
    ⟨168, 87, 20⟩, ⟨169, 7, 0⟩, ⟨169, 34, 2⟩, ⟨173, 34, 3⟩, ⟨173, 38, 0⟩, ⟨174, 30, 0⟩,
    ⟨174, 34, 5⟩, ⟨175, 26, 0⟩, ⟨175, 34, 4⟩, ⟨178, 34, 6⟩, ⟨178, 48, 0⟩, ⟨179, 30, 21⟩,
    ⟨183, 87, 4⟩, ⟨183, 108, 0⟩, ⟨183, 112, 0⟩, ⟨193, 34, 11⟩, ⟨193, 87, 0⟩, ⟨194, 34, 10⟩,
    ⟨194, 72, 0⟩, ⟨200, 72, 18⟩]

/-- `coop_bblast_completion_routes`. -/
def bblastCompletionRoutes : List TransitionRoute :=
  [⟨37, 7, 7⟩, ⟨41, 38, 11⟩, ⟨54, 30, 16⟩, ⟨110, 26, 15⟩, ⟨187, 87, 17⟩]

/-- `coop_transition_route_allowed`. -/
def transitionRouteAllowed (r : TransitionRoute) : Bool :=
  transitionRoutes.contains r || bblastCompletionRoutes.contains r

/-- `coop_transition_source`, `coop_transition_destination` and `coop_transition_exit`. -/
def unpackRoute (route : Word) : TransitionRoute where
  source := (route &&& 0xFF).toNat
  destination := ((route >>> 8) &&& 0xFF).toNat
  exit :=
    let exit : Int := ((route >>> 16) &&& 0xFF).toNat
    if 128 ≤ exit then exit - 256 else exit

/-- `coop_transition_valid`. -/
def transitionValid (ticket route : Word) : Bool :=
  if ticket = 0 ∨ route = 0 ∨ route &&& 0xFF000000 ≠ 0 then decide (ticket = 0 ∧ route = 0)
  else
    decide ((unpackRoute route).source < coopMapCount
      ∧ (unpackRoute route).destination < coopMapCount)
    && transitionRouteAllowed (unpackRoute route)

end Dk64Port.Coop
