import Csyn.Topic

set_option autoImplicit false

/- rust/src/contract_warning.rs. An `Instant` is a number of nanoseconds. -/
namespace Csyn

/-- `WARNING_INTERVAL` -/
def warningInterval : Nat := 10 * 10 ^ 9

/-- `ContractWarningThrottle`; the map of instants is a partial function. -/
structure ContractWarningThrottle where
  lastWarning : Str → Option Nat

/-- `ContractWarningThrottle::default` -/
def ContractWarningThrottle.default : ContractWarningThrottle := ⟨fun _ => none⟩

/-- `ContractWarningThrottle::warn` at an instant: the line printed, if any. -/
def ContractWarningThrottle.warn (throttle : ContractWarningThrottle) (key error : Str)
    (now : Nat) : Option Str × ContractWarningThrottle :=
  let retained := fun key => (throttle.lastWarning key).filter fun last =>
    now - last < warningInterval
  let shouldWarn := (retained key).all fun last => warningInterval ≤ now - last
  if shouldWarn then
    (some (str "warning: rejecting " ++ key ++ str ": " ++ error),
      ⟨fun other => if other = key then some now else retained other⟩)
  else (none, ⟨retained⟩)

end Csyn
