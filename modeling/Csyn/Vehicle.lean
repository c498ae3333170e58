import Csyn.Bridge
import Csyn.NativeUdp
import Csyn.ZenohSession

set_option autoImplicit false

/- A vehicle: the bridge behind both transports. Samples arrive through the subscriptions of
the current Zenoh session and through `rx_drain`. -/
namespace Csyn

/-- What the firmware is built with. -/
structure VehicleImage where
  bridge : BridgeImage
  queryables : List CsynQueryable
  zenoh : Bool
  nativeUdp : Bool

/-- `bridge` holds the registry. -/
structure Vehicle where
  bridge : Bridge
  session : ZenohSession
  suppressFallback : Int
  loggedOdometryRx : Bool
  loggedUnknownRx : Bool

def Vehicle.boot (image : VehicleImage) (registry : List CsynTopic) : Vehicle where
  bridge := .boot image.bridge registry
  session := .drop
  suppressFallback := 0
  loggedOdometryRx := false
  loggedUnknownRx := false

/-- The application updates zros topics, `bridge_init` runs, and `bridge_thread` makes calls. -/
inductive VehicleAction where
  | zrosUpdate (map : TxMap) (message : List UInt8)
  | bridgeInit
  | bridgeCall (uptime : Int) (readOk : Bool)
  | declare (ok : Bool)
  | closeSession
  | sample (subscription : Nat) (sample : ZSample) (now : Int)
  | rxDrain (datagrams : List (List UInt8))

section

variable (image : VehicleImage)

/-- A step of the bridge between two arrivals. -/
def Vehicle.stepBridge (s : Vehicle) (action : BridgeAction) : Option Vehicle :=
  (s.bridge.step image.bridge action).map fun bridge => { s with bridge := bridge }

/-- A sample on a subscription of the session. -/
def Vehicle.deliver (s : Vehicle) (subscription : Nat) (sample : ZSample) (now : Int) :
    Option Vehicle :=
  match s.session.subscriptions[subscription]? with
  | none => none
  | some subscription =>
      match s.bridge.registry[subscription.topic]? with
      | none => none
      | some topic =>
          (subscription.handler.handle image.bridge.config topic s.suppressFallback sample
            now).map fun after =>
              { s with
                bridge := { s.bridge with
                  registry := s.bridge.registry.set subscription.topic after.2.1 }
                suppressFallback := after.2.2 }

def Vehicle.step (s : Vehicle) : VehicleAction → Option Vehicle
  | .zrosUpdate map message => s.stepBridge image (.zrosUpdate map message)
  | .bridgeInit => s.stepBridge image .init
  | .bridgeCall uptime readOk => s.stepBridge image (.call uptime readOk)
  | .declare ok =>
      if image.zenoh then
        some { s with
          session := s.session.declare image.bridge.config s.bridge.registry image.queryables ok }
      else none
  | .closeSession => if image.zenoh then some { s with session := s.session.close } else none
  | .sample subscription sample now => s.deliver image subscription sample now
  | .rxDrain datagrams =>
      if image.nativeUdp then
        let after := Csyn.rxDrain image.bridge.config
          ⟨s.bridge.registry, s.loggedOdometryRx, s.loggedUnknownRx⟩ datagrams
        some { s with
          bridge := { s.bridge with registry := after.registry }
          loggedOdometryRx := after.loggedOdometryRx
          loggedUnknownRx := after.loggedUnknownRx }
      else none

end

end Csyn
